import BasicLex.Proofs.Scan

namespace BasicLex
open Text

-- Where a cursor is in a text: what it has passed, counted in bytes by its offset,
-- and what is left.
structure Stands (text passed : List Char) (cursor : Cursor) : Prop where
  whole : text = passed ++ cursor.rest
  offset : cursor.offset = byteLength passed

theorem Reads.nonempty {cursor after : Cursor} {gap : List Char} {piece : Piece}
    (read : Reads cursor gap piece after) : piece.spelling ≠ [] := spelled_nonempty read.spelled

theorem Reads.not_eof {cursor after : Cursor} {gap : List Char} {piece : Piece}
    (read : Reads cursor gap piece after) : piece.token.kind ≠ .endOfFile :=
  spelled_not_eof read.spelled

theorem Reads.forward {cursor after : Cursor} {gap : List Char} {piece : Piece}
    (read : Reads cursor gap piece after) : cursor.offset < after.offset := by
  have written : byteLength piece.spelling ≠ 0 := fun none => read.nonempty (byteLength_zero.mp none)
  rw [read.stop]
  omega

theorem Reads.some_visible {cursor after : Cursor} {gap : List Char} {piece : Piece}
    (read : Reads cursor gap piece after) : ∃ c ∈ cursor.rest, isBlank c = false := by
  obtain ⟨c,more,spelt,visible,_⟩ := read.visible
  refine ⟨c,?_,visible⟩
  rw [read.text,spelt]
  simp

theorem Reads.piece_stop {cursor after : Cursor} {gap : List Char} {piece : Piece}
    (read : Reads cursor gap piece after) : piece.stop = after.offset := by
  rw [Piece.stop,read.start,read.stop]

theorem Cursor.pieces_cons {cursor : Cursor} {first : Piece} {rest : List Piece}
    (run : cursor.pieces = first :: rest) :
    ∃ gap after, Reads cursor gap first after ∧ after.pieces = rest := by
  cases found : cursor.next? with
  | none =>
    rw [pieces_end found] at run
    cases run
  | some step =>
    obtain ⟨piece,after⟩ := step
    rw [pieces_step found] at run
    obtain ⟨rfl,later⟩ := List.cons.inj run
    exact ⟨_,after,next?_sound found,later⟩

namespace Stands

theorem ofSource (source : String) : Stands source.toList [] (.ofSource source) := ⟨rfl,rfl⟩

theorem piece {text passed gap : List Char} {cursor after : Cursor} {piece : Piece}
    (stands : Stands text passed cursor) (read : Reads cursor gap piece after) :
    text = passed ++ gap ++ (piece.spelling ++ after.rest) ∧ piece.start = byteLength (passed ++ gap) := by
  constructor
  · rw [stands.whole,read.text,List.append_assoc]
  · rw [read.start,stands.offset,byteLength_append]

theorem step {text passed gap : List Char} {cursor after : Cursor} {piece : Piece}
    (stands : Stands text passed cursor) (read : Reads cursor gap piece after) :
    Stands text (passed ++ gap ++ piece.spelling) after := by
  obtain ⟨whole,_⟩ := stands.piece read
  refine ⟨?_,?_⟩
  · rw [whole,← List.append_assoc]
  · rw [read.stop,stands.offset,byteLength_append,byteLength_append]

theorem finish {text passed : List Char} {cursor : Cursor} (stands : Stands text passed cursor) :
    Stands text text cursor.finish := by
  refine ⟨(List.append_nil _).symm,?_⟩
  rw [stands.whole,byteLength_append,Cursor.finish,stands.offset]

end Stands

namespace Cursor

theorem steps_not_eof (cursor : Cursor) : ∀ step ∈ cursor.steps, step.1.token.kind ≠ .endOfFile := by
  induction cursor using run_induction with
  | ended cursor ended => simp [steps_end ended]
  | step cursor piece after found ih =>
    rw [steps_step found]
    exact List.forall_mem_cons.mpr ⟨(next?_sound found).not_eof,ih⟩

theorem tokens_not_eof (cursor : Cursor) : ∀ token ∈ cursor.tokens, token.kind ≠ .endOfFile := by
  rw [tokens,pieces,List.map_map]
  exact List.forall_mem_map.mpr cursor.steps_not_eof

def stops (cursor : Cursor) : List (Token × Nat) :=
  cursor.steps.map fun step => (step.1.token,step.2.offset)

theorem stops_end {cursor : Cursor} (ended : cursor.next? = none) : cursor.stops = [] := by
  rw [stops,steps_end ended]
  rfl

theorem stops_step {cursor after : Cursor} {piece : Piece} (found : cursor.next? = some (piece,after)) :
    cursor.stops = (piece.token,after.offset) :: after.stops := by
  rw [stops,steps_step found]
  rfl

theorem stops_tokens (cursor : Cursor) : cursor.stops.map Prod.fst = cursor.tokens := by
  rw [stops,tokens,pieces,List.map_map,List.map_map]
  rfl

theorem calls_stops (cursor : Cursor) :
    (calls (cursor.stops.length + 1) cursor).map (fun call => (call.1,call.2.offset)) =
      cursor.stops ++ [(Token.eof,cursor.finish.offset)] := by
  rw [stops,List.length_map,cursor.calls_exact 1,List.map_append,List.map_map]
  rfl

theorem calls_tokens (cursor : Cursor) :
    (calls (cursor.tokens.length + 1) cursor).map Prod.fst = cursor.tokens ++ [Token.eof] := by
  have called := congrArg (List.map Prod.fst) cursor.calls_stops
  rw [List.map_map,List.map_append,stops_tokens] at called
  rwa [← cursor.stops_tokens,List.length_map,cursor.stops_tokens]

theorem stops_forward (cursor : Cursor) : ∀ stop ∈ cursor.stops, cursor.offset < stop.2 := by
  induction cursor using run_induction with
  | ended cursor ended => simp [stops_end ended]
  | step cursor piece after found ih =>
    have forward := (next?_sound found).forward
    rw [stops_step found]
    refine List.forall_mem_cons.mpr ⟨forward,?_⟩
    intro stop later
    exact Nat.lt_trans forward (ih stop later)

theorem stops_rising (cursor : Cursor) : (cursor.stops.map Prod.snd).Pairwise (· < ·) := by
  induction cursor using run_induction with
  | ended cursor ended => simp [stops_end ended]
  | step cursor piece after found ih =>
    rw [stops_step found,List.map_cons]
    refine List.pairwise_cons.mpr ⟨?_,ih⟩
    exact List.forall_mem_map.mpr after.stops_forward

theorem stops_pieces (cursor : Cursor) :
    cursor.stops = cursor.pieces.map fun piece => (piece.token,piece.stop) := by
  induction cursor using run_induction with
  | ended cursor ended => simp [stops_end ended,pieces_end ended]
  | step cursor piece after found ih =>
    rw [stops_step found,pieces_step found,List.map_cons,(next?_sound found).piece_stop,ih]

theorem next_cases (cursor : Cursor) :
    (∃ gap piece after, Reads cursor gap piece after ∧ cursor.next = (piece.token,after) ∧
      cursor.pull = (some piece.token,after)) ∨
    (IsGap cursor.rest ∧ cursor.next = (Token.eof,cursor.finish) ∧ cursor.pull = (none,cursor.finish)) := by
  cases found : cursor.next? with
  | none =>
    right
    refine ⟨List.dropWhile_eq_nil_iff.mp (next?_none.mp found),?_,pull_end found⟩
    rw [next,found]
  | some step =>
    left
    obtain ⟨piece,after⟩ := step
    refine ⟨_,piece,after,next?_sound found,?_,pull_step found⟩
    rw [next,found]

theorem steps_length_le (cursor : Cursor) : cursor.steps.length ≤ cursor.rest.length := by
  induction cursor using run_induction with
  | ended cursor ended => simp [steps_end ended]
  | step cursor piece after found ih =>
    have shorter := next?_shorter found
    rw [steps_step found,List.length_cons]
    omega

theorem next?_blank {c : Char} (blank : isBlank c = true) (offset : Nat) (rest : List Char) :
    next? ⟨offset,c :: rest⟩ = next? ⟨offset + c.utf8Size,rest⟩ := by
  have same : skipBlanks ⟨offset,c :: rest⟩ = skipBlanks ⟨offset + c.utf8Size,rest⟩ := by
    simp [skipBlanks,blank,Nat.add_assoc]
  simp only [next?,same]

theorem next_blank {c : Char} (blank : isBlank c = true) (offset : Nat) (rest : List Char) :
    next ⟨offset,c :: rest⟩ = next ⟨offset + c.utf8Size,rest⟩ := by
  rw [next,next,next?_blank blank]
  cases next? ⟨offset + c.utf8Size,rest⟩ with
  | none => simp [finish,Nat.add_assoc]
  | some step => rfl

theorem next?_visible {c : Char} (visible : isBlank c = false) (offset : Nat) (rest : List Char) :
    next? ⟨offset,c :: rest⟩ =
      some ((Piece.cut offset c rest).1,⟨(Piece.cut offset c rest).1.stop,(Piece.cut offset c rest).2⟩) := by
  have here : skipBlanks ⟨offset,c :: rest⟩ = ⟨offset,c :: rest⟩ := by
    simp [skipBlanks,visible]
  simp only [next?,here]

theorem next?_gap {gap : List Char} (blank : IsGap gap) (offset : Nat) (rest : List Char) :
    next? ⟨offset,gap ++ rest⟩ = next? ⟨offset + byteLength gap,rest⟩ := by
  induction gap generalizing offset with
  | nil => rfl
  | cons c gap ih =>
    obtain ⟨first,blank⟩ := List.forall_mem_cons.mp blank
    rw [List.cons_append,next?_blank first,ih blank,byteLength_cons,Nat.add_assoc]

theorem steps_gap {gap : List Char} (blank : IsGap gap) (offset : Nat) (rest : List Char) :
    steps ⟨offset,gap ++ rest⟩ = steps ⟨offset + byteLength gap,rest⟩ := by
  have same := next?_gap blank offset rest
  cases found : next? ⟨offset + byteLength gap,rest⟩ with
  | none => rw [steps_end found,steps_end (same.trans found)]
  | some step => rw [steps_step found,steps_step (same.trans found)]

theorem stops_gap {gap : List Char} (blank : IsGap gap) (offset : Nat) (rest : List Char) :
    stops ⟨offset,gap ++ rest⟩ = stops ⟨offset + byteLength gap,rest⟩ := by
  rw [stops,steps_gap blank]
  rfl

def shift (bytes : Nat) (cursor : Cursor) : Cursor := ⟨bytes + cursor.offset,cursor.rest⟩

end Cursor

def Piece.shift (bytes : Nat) (piece : Piece) : Piece :=
  ⟨bytes + piece.start,piece.spelling,piece.token⟩

theorem Reads.shift {cursor after : Cursor} {gap : List Char} {piece : Piece}
    (read : Reads cursor gap piece after) (bytes : Nat) :
    Reads (cursor.shift bytes) gap (piece.shift bytes) (after.shift bytes) := by
  refine ⟨read.blank,read.text,?_,?_,read.spelled,read.bounded⟩
  · simp [Piece.shift,Cursor.shift,read.start,Nat.add_assoc]
  · simp [Piece.shift,Cursor.shift,read.stop,Nat.add_assoc]

namespace Cursor

theorem next?_shift (bytes : Nat) (cursor : Cursor) :
    (cursor.shift bytes).next? = cursor.next?.map fun step => (step.1.shift bytes,step.2.shift bytes) := by
  cases found : cursor.next? with
  | none =>
    have ended : cursor.skipBlanks.rest = [] := next?_none.mp found
    exact next?_none.mpr (show (cursor.shift bytes).skipBlanks.rest = [] from ended)
  | some step => exact ((next?_sound found).shift bytes).next?

theorem next_shift (bytes : Nat) (cursor : Cursor) :
    (cursor.shift bytes).next = (cursor.next.1,cursor.next.2.shift bytes) := by
  rw [next,next?_shift,next]
  cases cursor.next? with
  | none => simp [finish,shift,Nat.add_assoc]
  | some step => rfl

theorem calls_shift (bytes count : Nat) (cursor : Cursor) :
    calls count (cursor.shift bytes) =
      (calls count cursor).map fun call => (call.1,call.2.shift bytes) := by
  induction count generalizing cursor with
  | zero => rfl
  | succ count ih => simp [calls,next_shift,ih]

theorem steps_shift (bytes : Nat) (cursor : Cursor) :
    (cursor.shift bytes).steps = cursor.steps.map fun step => (step.1.shift bytes,step.2.shift bytes) := by
  induction cursor using run_induction with
  | ended cursor ended =>
    have still : (cursor.shift bytes).next? = none := by simp [next?_shift,ended]
    simp [steps_end still,steps_end ended]
  | step cursor piece after found ih =>
    have shifted : (cursor.shift bytes).next? = some (piece.shift bytes,after.shift bytes) := by
      simp [next?_shift,found]
    simp [steps_step shifted,steps_step found,ih]

theorem stops_shift (bytes : Nat) (cursor : Cursor) :
    (cursor.shift bytes).stops = cursor.stops.map fun stop => (stop.1,bytes + stop.2) := by
  rw [stops,steps_shift,stops,List.map_map,List.map_map]
  rfl

theorem tokens_offset (offset other : Nat) (rest : List Char) : tokens ⟨offset,rest⟩ = tokens ⟨other,rest⟩ := by
  have base (bytes : Nat) : tokens ⟨bytes,rest⟩ = tokens ⟨0,rest⟩ := by
    have shifted := steps_shift bytes ⟨0,rest⟩
    simp only [shift,Nat.add_zero] at shifted
    simp [tokens,pieces,shifted,Piece.shift]
  rw [base offset,base other]

theorem tokens_gap {gap : List Char} (blank : IsGap gap) (offset : Nat) (rest : List Char) :
    tokens ⟨offset,gap ++ rest⟩ = tokens ⟨offset,rest⟩ := by
  rw [tokens,pieces,steps_gap blank]
  exact tokens_offset _ _ _

end Cursor

end BasicLex
