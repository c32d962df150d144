import BasicLex.Proofs.Progress

namespace BasicLex
open Text

namespace Cursor

def early (bound : Nat) (cursor : Cursor) : List (Token × Nat) :=
  cursor.stops.filter fun stop => stop.2 < bound

theorem early_nil {bound : Nat} {cursor : Cursor}
    (late : ∀ piece after, cursor.next? = some (piece,after) → bound ≤ after.offset) :
    cursor.early bound = [] := by
  cases found : cursor.next? with
  | none => rw [early,stops_end found,List.filter_nil]
  | some step =>
    obtain ⟨piece,after⟩ := step
    have first := late piece after found
    rw [early,stops_step found]
    apply List.filter_eq_nil_iff.mpr
    intro stop member
    have behind : bound ≤ stop.2 := by
      rcases List.mem_cons.mp member with rfl | later
      · exact first
      · exact Nat.le_of_lt (Nat.lt_of_le_of_lt first (after.stops_forward stop later))
    simpa using behind

end Cursor

-- A token that ends before the common part does leaves some of it unread. What comes next
-- is then known, so neither the token nor its end depends on the text behind that part.
theorem Reads.early {start : Nat} {shared rest gap : List Char} {piece : Piece} {after : Cursor}
    (read : Reads ⟨start,shared ++ rest⟩ gap piece after) (early : after.offset < start + byteLength shared) :
    ∃ unread, unread.length < shared.length ∧
      after = ⟨after.offset,unread ++ rest⟩ ∧ after.offset + byteLength unread = start + byteLength shared ∧
      ∀ other, Reads ⟨start,shared ++ other⟩ gap piece ⟨after.offset,unread ++ other⟩ := by
  have whole : shared ++ rest = (gap ++ piece.spelling) ++ after.rest := by
    rw [List.append_assoc]
    exact read.text
  have stop : after.offset = start + byteLength (gap ++ piece.spelling) := by
    rw [read.stop,byteLength_append,Nat.add_assoc]
  rcases List.append_eq_append_iff.mp whole with ⟨more,longer,_⟩ | ⟨unread,cut,left⟩
  · rw [longer,byteLength_append] at stop
    omega
  have some_left : unread ≠ [] := by
    rintro rfl
    rw [cut,List.append_nil] at early
    omega
  have written : 0 < (gap ++ piece.spelling).length := by
    have := List.length_pos_iff.mpr read.nonempty
    simp only [List.length_append]
    omega
  have bytes : after.offset + byteLength unread = start + byteLength shared := by
    rw [stop,cut,byteLength_append (gap ++ piece.spelling),Nat.add_assoc]
  refine ⟨unread,?_,?_,bytes,?_⟩
  · rw [cut,List.length_append]
    omega
  · rw [← left]
  · intro other
    refine ⟨read.blank,?_,read.start,read.stop,?_,?_⟩
    · show shared ++ other = _
      rw [cut,List.append_assoc,List.append_assoc]
    · left
      refine read.spelled.resolve_right fun opened => ?_
      rw [left] at opened
      exact some_left (List.append_eq_nil_iff.mp opened.2).1
    · have bounded := read.bounded
      rw [left,List.head?_append_of_ne_nil _ some_left] at bounded
      rwa [List.head?_append_of_ne_nil _ some_left]

namespace Cursor

theorem next?_early {start : Nat} {shared rest : List Char} {piece : Piece} {after : Cursor}
    (found : next? ⟨start,shared ++ rest⟩ = some (piece,after))
    (early : after.offset < start + byteLength shared) (other : List Char) :
    ∃ unread, unread.length < shared.length ∧
      after = ⟨after.offset,unread ++ rest⟩ ∧ after.offset + byteLength unread = start + byteLength shared ∧
      next? ⟨start,shared ++ other⟩ = some (piece,⟨after.offset,unread ++ other⟩) := by
  obtain ⟨unread,shorter,left,bytes,reads⟩ := (next?_sound found).early early
  exact ⟨unread,shorter,left,bytes,(reads other).next?⟩

theorem early_shared (start : Nat) (shared rest other : List Char) :
    early (start + byteLength shared) ⟨start,shared ++ rest⟩ =
      early (start + byteLength shared) ⟨start,shared ++ other⟩ := by
  by_cases some_early : ∃ piece after, next? ⟨start,shared ++ rest⟩ = some (piece,after) ∧
      after.offset < start + byteLength shared
  · obtain ⟨piece,after,found,early_end⟩ := some_early
    obtain ⟨unread,shorter,left,bytes,follows⟩ := next?_early found early_end other
    have later := early_shared after.offset unread rest other
    rw [bytes,← left] at later
    rw [early,early,stops_step found,stops_step follows,List.filter_cons_of_pos (by simpa using early_end),
      List.filter_cons_of_pos (by simpa using early_end)]
    exact congrArg ((piece.token,after.offset) :: ·) later
  · -- An early token of the other run would be read here as well.
    have none_here : early (start + byteLength shared) ⟨start,shared ++ rest⟩ = [] := by
      apply early_nil
      intro piece after found
      exact Nat.le_of_not_lt fun ends => some_early ⟨piece,after,found,ends⟩
    have none_there : early (start + byteLength shared) ⟨start,shared ++ other⟩ = [] := by
      apply early_nil
      intro piece after found
      refine Nat.le_of_not_lt fun ends => ?_
      obtain ⟨_,_,_,_,follows⟩ := next?_early found ends rest
      exact some_early ⟨piece,_,follows,ends⟩
    rw [none_here,none_there]
termination_by shared.length

end Cursor

-- Two texts that begin alike have the same tokens with the same ends as long as these ends
-- lie inside the common part. A token that reaches its end may go on beyond it, and even an
-- end marker of a statement may: the second half of a pair could follow.
theorem early_tokens_agree (shared rest other : String) :
    (Cursor.ofSource (shared ++ rest)).stops.filter (fun stop => stop.2 < shared.utf8ByteSize) =
      (Cursor.ofSource (shared ++ other)).stops.filter fun stop => stop.2 < shared.utf8ByteSize := by
  have agree := Cursor.early_shared 0 shared.toList rest.toList other.toList
  rw [Nat.zero_add,byteLength_toList] at agree
  rw [Cursor.ofSource,Cursor.ofSource,String.toList_append,String.toList_append]
  exact agree

end BasicLex
