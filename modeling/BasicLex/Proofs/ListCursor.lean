import BasicLex.Proofs.Reachable
import BasicLex.Session

namespace BasicLex
open Text

-- A slot as its user may think of it: a place in the list of all tokens of its source,
-- which is fixed. The place counts the tokens that have been asked for, and a request
-- beyond the list has met the end.
structure ListCursor where
  streaming : Bool
  asked : Nat
deriving DecidableEq

namespace ListCursor

def start : ListCursor := ⟨false,0⟩

def listed (source : String) : List (Token × Nat) := (Cursor.ofSource source).stops

def ahead (source : String) (asked : Nat) : List Token := ((listed source).drop asked).map Prod.fst

def offset (source : String) (asked : Nat) : Nat :=
  if (listed source).length < asked then source.utf8ByteSize
  else (((listed source).take asked).getLast?.map Prod.snd).getD 0

-- How many tokens an operation asks for. The tokens of a statement are asked for along
-- with its end, and whatever takes all tokens asks for one more.
def demand (ahead : List Token) : Operation → Nat
  | .next => 1
  | .nth skipped => skipped + 1
  | .take count => count
  | .collect => ahead.length + 1
  | .count => ahead.length + 1
  | .last => ahead.length + 1
  | .untilStatementEnd => (ahead.takeWhile (·.kind ≠ .endOfStatement)).length + 1
  | .peek => 0
  | .atEnd => 0
  | .offset => 0
  | .toStream => 0

section
variable (source : String) (state : ListCursor)

def answer : Operation → Answer
  | .next => .token (if state.streaming then (ahead source state.asked).head?
      else some ((ahead source state.asked).head?.getD Token.eof))
  | .nth skipped => .token ((ahead source state.asked).drop skipped).head?
  | .take count => .tokens ((ahead source state.asked).take count)
  | .collect => .tokens (ahead source state.asked)
  | .count => .number (ahead source state.asked).length
  | .last => .token (ahead source state.asked).getLast?
  | .untilStatementEnd => .tokens ((ahead source state.asked).takeWhile (·.kind ≠ .endOfStatement))
  | .peek => .character ((Sliced.remainder? source.toList (offset source state.asked)).bind (·[1]?))
  | .atEnd => .flag (decide (source.utf8ByteSize ≤ offset source state.asked))
  | .offset => .number (offset source state.asked)
  | .toStream => .nothing

def after (operation : Operation) : ListCursor :=
  ⟨state.streaming || operation == .toStream,state.asked + demand (ahead source state.asked) operation⟩

def reply (operation : Operation) : Reply :=
  ⟨state.answer source operation,offset source (state.after source operation).asked⟩

end

def run (source : String) : ListCursor → List Operation → List Reply × ListCursor
  | state,[] => ([],state)
  | state,operation :: rest =>
    let later := run source (state.after source operation) rest
    (state.reply source operation :: later.1,later.2)

def Drained (source : String) (state : ListCursor) : Prop :=
  ahead source state.asked = [] ∧ offset source state.asked = source.utf8ByteSize

theorem ahead_nil {source : String} {asked : Nat} :
    ahead source asked = [] ↔ (listed source).length ≤ asked := by
  simp [ahead]

theorem ahead_add (source : String) (asked more : Nat) :
    ahead source (asked + more) = (ahead source asked).drop more := by
  rw [ahead,ahead,← List.map_drop,List.drop_drop]

theorem Drained.after {source : String} {state : ListCursor} (drained : Drained source state)
    (operation : Operation) : Drained source (state.after source operation) := by
  obtain ⟨none,ended⟩ := drained
  have beyond := ahead_nil.mp none
  refine ⟨ahead_nil.mpr (Nat.le_trans beyond (Nat.le_add_right _ _)),?_⟩
  by_cases more : (listed source).length < (state.after source operation).asked
  · exact if_pos more
  · -- Nothing was asked for.
    have same : (state.after source operation).asked = state.asked := by
      simp only [ListCursor.after] at more ⊢
      omega
    rw [offset,same]
    exact ended

theorem Drained.run {source : String} {state : ListCursor} (drained : Drained source state)
    (operations : List Operation) : Drained source (state.run source operations).2 := by
  induction operations generalizing state with
  | nil => exact drained
  | cons operation rest ih => exact ih (drained.after operation)

theorem run_append (source : String) (state : ListCursor) (before after : List Operation) :
    (state.run source (before ++ after)).2 = ((state.run source before).2.run source after).2 := by
  induction before generalizing state with
  | nil => rfl
  | cons operation before ih => exact ih (state.after source operation)

end ListCursor

namespace Cursor

theorem next_head (cursor : Cursor) : cursor.next.1 = cursor.tokens.head?.getD Token.eof := by
  unfold next
  split
  · rename_i found
    rw [tokens_step found]
    rfl
  · rename_i ended
    rw [tokens_end ended]
    rfl

theorem pull_head (cursor : Cursor) : cursor.pull.1 = cursor.tokens.head? := by
  cases found : cursor.next? with
  | none =>
    rw [pull_end found,tokens_end found]
    rfl
  | some step =>
    obtain ⟨piece,after⟩ := step
    rw [pull_step found,tokens_step found]
    rfl

theorem take_listed (count : Nat) (cursor : Cursor) : (cursor.take count).1 = cursor.tokens.take count := by
  induction count generalizing cursor with
  | zero => rfl
  | succ count ih =>
    cases found : cursor.next? with
    | none =>
      rw [take,pull_end found,tokens_end found]
      rfl
    | some step =>
      obtain ⟨piece,after⟩ := step
      rw [take,pull_step found,tokens_step found,List.take_succ_cons,← ih]

theorem untilStatementEnd_listed (cursor : Cursor) :
    cursor.untilStatementEnd.1 = cursor.tokens.takeWhile (·.kind ≠ .endOfStatement) := by
  induction cursor using run_induction with
  | ended cursor ended => rw [untilStatementEnd_end (pull_end ended),tokens_end ended]; rfl
  | step cursor piece after found ih =>
    rw [untilStatementEnd_step (pull_step found),tokens_step found]
    split
    · rename_i ends
      simp [ends]
    · rename_i inside
      rw [List.takeWhile_cons_of_pos (by simpa using inside),← ih]

end Cursor

structure Follows (source : String) (asked : Nat) (cursor : Cursor) : Prop where
  place : ∃ passed, Stands source.toList passed cursor
  stops : cursor.stops = (ListCursor.listed source).drop asked
  offset : cursor.offset = ListCursor.offset source asked

namespace Follows
open ListCursor
variable {source : String} {asked : Nat} {cursor : Cursor}

theorem start (source : String) : Follows source 0 (.ofSource source) :=
  ⟨⟨[],.ofSource source⟩,rfl,by simp [ListCursor.offset,Cursor.ofSource]⟩

theorem tokens (follows : Follows source asked cursor) : ahead source asked = cursor.tokens := by
  rw [ahead,← follows.stops,Cursor.stops_tokens]

theorem count (follows : Follows source asked cursor) : cursor.tokens.length = (listed source).length - asked := by
  rw [← Cursor.stops_tokens,List.length_map,follows.stops,List.length_drop]

theorem finish (follows : Follows source asked cursor) {later : Nat} (beyond : (listed source).length < later) :
    Follows source later cursor.finish := by
  obtain ⟨passed,stands⟩ := follows.place
  refine ⟨⟨_,stands.finish⟩,?_,?_⟩
  · rw [Cursor.stops_end cursor.finish_next?,List.drop_eq_nil_of_le (Nat.le_of_lt beyond)]
  · rw [ListCursor.offset,if_pos beyond,stands.finished]

theorem step (follows : Follows source asked cursor) {piece : Piece} {after : Cursor}
    (found : cursor.next? = some (piece,after)) : Follows source (asked + 1) after := by
  obtain ⟨passed,stands⟩ := follows.place
  have list := follows.stops
  rw [Cursor.stops_step found] at list
  have entry : (listed source)[asked]? = some (piece.token,after.offset) := by
    rw [← List.head?_drop,← list]
    rfl
  obtain ⟨inside,_⟩ := List.getElem?_eq_some_iff.mp entry
  refine ⟨⟨_,stands.step (Cursor.next?_sound found)⟩,?_,?_⟩
  · rw [← List.tail_drop,← list]
    rfl
  · have reached : ¬(listed source).length < asked + 1 := by omega
    rw [ListCursor.offset,if_neg reached,List.take_add_one,entry]
    simp

theorem ended (follows : Follows source asked cursor) (ended : cursor.next? = none) :
    (listed source).length < asked + 1 := by
  have none := follows.count
  rw [Cursor.tokens_end ended] at none
  simp only [List.length_nil] at none
  omega

theorem next (follows : Follows source asked cursor) : Follows source (asked + 1) cursor.next.2 := by
  unfold Cursor.next
  split
  · rename_i found
    exact follows.step found
  · rename_i ended
    exact follows.finish (follows.ended ended)

theorem pull (follows : Follows source asked cursor) : Follows source (asked + 1) cursor.pull.2 := by
  rw [cursor.pull_after]
  exact follows.next

theorem take (follows : Follows source asked cursor) (count : Nat) :
    Follows source (asked + count) (cursor.take count).2 := by
  induction count generalizing asked cursor with
  | zero => exact follows
  | succ count ih =>
    cases found : cursor.next? with
    | none =>
      have beyond := follows.ended found
      rw [Cursor.take,Cursor.pull_end found]
      exact follows.finish (by omega)
    | some step =>
      obtain ⟨piece,after⟩ := step
      rw [show asked + (count + 1) = asked + 1 + count by omega,Cursor.take,Cursor.pull_step found]
      exact ih (follows.step found)

theorem drain (follows : Follows source asked cursor) :
    Follows source (asked + ((ahead source asked).length + 1)) cursor.drain.2 := by
  have left := follows.count
  rw [follows.tokens,Cursor.drain_exact]
  exact follows.finish (by omega)

theorem untilStatementEnd (follows : Follows source asked cursor) :
    Follows source (asked + ((cursor.tokens.takeWhile (·.kind ≠ .endOfStatement)).length + 1))
      cursor.untilStatementEnd.2 := by
  induction cursor using Cursor.run_induction generalizing asked with
  | ended cursor ended =>
    rw [Cursor.untilStatementEnd_end (Cursor.pull_end ended),Cursor.tokens_end ended]
    exact follows.finish (follows.ended ended)
  | step cursor piece after found ih =>
    have later := follows.step found
    rw [Cursor.untilStatementEnd_step (Cursor.pull_step found),Cursor.tokens_step found]
    split
    · rename_i ends
      simpa [ends] using later
    · rename_i inside
      rw [List.takeWhile_cons_of_pos (by simpa using inside),List.length_cons,Nat.add_right_comm,
        Nat.add_comm _ 1,← Nat.add_assoc]
      exact ih later

theorem peek (follows : Follows source asked cursor) :
    (Sliced.remainder? source.toList (ListCursor.offset source asked)).bind (·[1]?) = cursor.peek := by
  obtain ⟨passed,stands⟩ := follows.place
  rw [← follows.offset,Sliced.remainder?,stands.whole,stands.offset,splitAt?_complete]
  rfl

theorem atEnd (follows : Follows source asked cursor) :
    decide (source.utf8ByteSize ≤ ListCursor.offset source asked) = cursor.atEnd := by
  obtain ⟨passed,stands⟩ := follows.place
  rw [← follows.offset,Bool.eq_iff_iff,decide_eq_true_eq]
  exact stands.atEnd.symm

end Follows

namespace Slot

def applies (streaming : Bool) : Operation → Bool
  | .next => true
  | .offset => true
  | .peek => !streaming
  | .atEnd => !streaming
  | .toStream => !streaming
  | .nth _ => streaming
  | .take _ => streaming
  | .collect => streaming
  | .count => streaming
  | .last => streaming
  | .untilStatementEnd => streaming

def fits (streaming : Bool) : List Operation → Bool
  | [] => true
  | operation :: rest => applies streaming operation && fits (streaming || operation == .toStream) rest

def run : Slot → List Operation → Option (List Reply × Slot)
  | slot,[] => some ([],slot)
  | slot,operation :: rest => do
    let (answer,after) ← slot.perform operation
    let (replies,final) ← after.run rest
    return (⟨answer,after.cursor.offset⟩ :: replies,final)

end Slot

inductive Shows (source : String) : ListCursor → Slot → Prop where
  | reader {asked : Nat} {cursor : Cursor} (follows : Follows source asked cursor) :
      Shows source ⟨false,asked⟩ (.reader cursor)
  | stream {asked : Nat} {cursor : Cursor} (follows : Follows source asked cursor) :
      Shows source ⟨true,asked⟩ (.stream cursor)

namespace Shows
open ListCursor
variable {source : String} {state : ListCursor} {slot : Slot}

theorem offset (shows : Shows source state slot) : slot.cursor.offset = ListCursor.offset source state.asked := by
  cases shows with
  | reader follows => exact follows.offset
  | stream follows => exact follows.offset

theorem perform (shows : Shows source state slot) {operation : Operation}
    (applies : Slot.applies state.streaming operation = true) :
    ∃ next, slot.perform operation = some (state.answer source operation,next) ∧
      Shows source (state.after source operation) next := by
  cases shows with
  | @reader asked cursor follows =>
    cases operation with
    | next =>
      refine ⟨.reader cursor.next.2,?_,.reader follows.next⟩
      simp only [Slot.perform,answer,follows.tokens,cursor.next_head]
      rfl
    | peek => exact ⟨.reader cursor,by rw [answer,follows.peek]; rfl,.reader follows⟩
    | atEnd => exact ⟨.reader cursor,by rw [answer,follows.atEnd]; rfl,.reader follows⟩
    | offset => exact ⟨.reader cursor,by rw [answer,← follows.offset]; rfl,.reader follows⟩
    | toStream => exact ⟨.stream cursor,rfl,.stream follows⟩
    | _ => cases applies
  | @stream asked cursor follows =>
    cases operation with
    | next =>
      refine ⟨.stream cursor.pull.2,?_,.stream follows.pull⟩
      simp only [Slot.perform,answer,follows.tokens,cursor.pull_head]
      rfl
    | nth skipped =>
      have behind := (follows.take skipped).tokens
      refine ⟨.stream (cursor.nth skipped).2,?_,.stream (follows.take skipped).pull⟩
      simp only [Slot.perform,answer,Cursor.nth,Cursor.pull_head,← behind,ahead_add]
    | take count =>
      refine ⟨.stream (cursor.take count).2,?_,.stream (follows.take count)⟩
      simp only [Slot.perform,answer,follows.tokens,cursor.take_listed]
    | collect | count | last =>
      refine ⟨.stream cursor.drain.2,?_,.stream follows.drain⟩
      simp only [Slot.perform,answer,follows.tokens,Cursor.drain_exact]
    | untilStatementEnd =>
      have ended := follows.untilStatementEnd
      rw [← follows.tokens] at ended
      refine ⟨.stream cursor.untilStatementEnd.2,?_,.stream ended⟩
      simp only [Slot.perform,answer,follows.tokens,cursor.untilStatementEnd_listed]
    | offset => exact ⟨.stream cursor,by rw [answer,← follows.offset]; rfl,.stream follows⟩
    | _ => cases applies

theorem run (shows : Shows source state slot) {operations : List Operation}
    (fits : Slot.fits state.streaming operations = true) :
    ∃ final, slot.run operations = some ((state.run source operations).1,final) ∧
      Shows source (state.run source operations).2 final := by
  induction operations generalizing state slot with
  | nil => exact ⟨slot,rfl,shows⟩
  | cons operation rest ih =>
    obtain ⟨applies,later⟩ := Bool.and_eq_true_iff.mp fits
    obtain ⟨next,performed,follows⟩ := shows.perform applies
    obtain ⟨final,ran,ends⟩ := ih follows later
    refine ⟨final,?_,ends⟩
    simp only [Slot.run,performed,Option.bind_eq_bind,Option.bind_some,ran,follows.offset]
    rfl

end Shows

end BasicLex
