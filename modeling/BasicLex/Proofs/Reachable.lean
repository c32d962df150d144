import BasicLex.Proofs.Slices
import BasicLex.Proofs.Strictness

namespace BasicLex
open Text

inductive Reached (source : String) : Cursor → Prop where
  | start : Reached source (.ofSource source)
  | next {cursor : Cursor} (prior : Reached source cursor) : Reached source cursor.next.2
  | pull {cursor : Cursor} (prior : Reached source cursor) : Reached source cursor.pull.2

-- What holds in each of them. Offsets are bytes of the source, and a place in it is
-- valid when it does not split a character.
structure Cursor.Invariant (source : String) (cursor : Cursor) : Prop where
  place : ∃ passed, source.toList = passed ++ cursor.rest ∧ byteLength passed = cursor.offset
  within : cursor.offset ≤ source.utf8ByteSize
  boundary : String.Pos.Raw.IsValid source ⟨cursor.offset⟩
  atEnd : cursor.atEnd = true ↔ source.utf8ByteSize ≤ cursor.offset
  -- Reading again by the offset alone, no slice and no move fails on the way.
  sliced : Sliced.read? source.toList cursor.offset = some (cursor.next.1,cursor.next.2.offset)
  behind : cursor.next.1.kind = .unknown → cursor.next.1.lexeme.utf8ByteSize ≤ cursor.next.2.offset
  stream : cursor.pull =
    (if cursor.next.1.kind = .endOfFile then none else some cursor.next.1,cursor.next.2)
  token : cursor.next.1.kind ≠ .endOfFile ↔ ∃ c ∈ cursor.rest, isBlank c = false
  forward : cursor.next.1.kind ≠ .endOfFile → cursor.offset < cursor.next.2.offset
  final : cursor.next.1.kind = .endOfFile → cursor.next = (Token.eof,⟨source.utf8ByteSize,[]⟩) ∧
    cursor.next.2.atEnd = true ∧
    ∀ count, calls count cursor.next.2 = List.replicate count (Token.eof,cursor.next.2)
  bounded : ∃ count, count ≤ cursor.rest.length ∧
    (∀ call ∈ calls count cursor, call.1.kind ≠ .endOfFile) ∧
    ∀ extra, calls (count + extra) cursor =
      calls count cursor ++ List.replicate extra (Token.eof,⟨source.utf8ByteSize,[]⟩)
  fresh : ∀ count, calls count cursor =
    (calls count (.ofSource (String.ofList cursor.rest))).map fun call => (call.1,call.2.shift cursor.offset)

theorem Stands.next {text passed : List Char} {cursor : Cursor} (stands : Stands text passed cursor) :
    ∃ further, Stands text further cursor.next.2 := by
  rcases cursor.next_cases with ⟨gap,piece,after,read,called,_⟩ | ⟨_,called,_⟩
  · rw [called]
    exact ⟨_,stands.step read⟩
  · rw [called]
    exact ⟨_,stands.finish⟩

theorem Cursor.pull_after (cursor : Cursor) : cursor.pull.2 = cursor.next.2 := by
  rcases cursor.next_cases with ⟨_,_,_,_,called,pulled⟩ | ⟨_,called,pulled⟩
  · rw [called,pulled]
  · rw [called,pulled]

theorem Reached.stands {source : String} {cursor : Cursor} (reached : Reached source cursor) :
    ∃ passed, Stands source.toList passed cursor := by
  induction reached with
  | start => exact ⟨[],.ofSource source⟩
  | next prior ih =>
    obtain ⟨_,stands⟩ := ih
    exact stands.next
  | @pull cursor prior ih =>
    obtain ⟨_,stands⟩ := ih
    rw [cursor.pull_after]
    exact stands.next

namespace Stands
variable {source : String} {passed : List Char} {cursor : Cursor}

theorem size (stands : Stands source.toList passed cursor) :
    source.utf8ByteSize = cursor.offset + byteLength cursor.rest := by
  rw [← byteLength_toList,stands.whole,byteLength_append,stands.offset]

theorem finished (stands : Stands source.toList passed cursor) :
    cursor.finish = ⟨source.utf8ByteSize,[]⟩ := by
  rw [stands.size,Cursor.finish]

theorem boundary (stands : Stands source.toList passed cursor) :
    String.Pos.Raw.IsValid source ⟨cursor.offset⟩ := by
  apply String.Pos.Raw.isValid_iff_exists_append.mpr
  refine ⟨String.ofList passed,String.ofList cursor.rest,?_,?_⟩
  · rw [← String.ofList_append,← stands.whole,String.ofList_toList]
  · rw [String.rawEndPos,byteLength_ofList,stands.offset]

theorem atEnd (stands : Stands source.toList passed cursor) :
    cursor.atEnd = true ↔ source.utf8ByteSize ≤ cursor.offset := by
  have none : byteLength cursor.rest = 0 ↔ cursor.rest = [] := byteLength_zero
  rw [stands.size,Cursor.atEnd,List.isEmpty_iff,← none]
  omega

theorem bounded (stands : Stands source.toList passed cursor) :
    ∃ count, count ≤ cursor.rest.length ∧
      (∀ call ∈ Cursor.calls count cursor, call.1.kind ≠ .endOfFile) ∧
      ∀ extra, Cursor.calls (count + extra) cursor =
        Cursor.calls count cursor ++ List.replicate extra (Token.eof,⟨source.utf8ByteSize,[]⟩) := by
  have calls := cursor.calls_exact
  have listed : Cursor.calls cursor.steps.length cursor =
      cursor.steps.map fun step => (step.1.token,step.2) := by simpa using calls 0
  refine ⟨cursor.steps.length,cursor.steps_length_le,?_,?_⟩
  · rw [listed]
    exact List.forall_mem_map.mpr cursor.steps_not_eof
  · intro extra
    rw [listed,calls,stands.finished]

end Stands

theorem Cursor.calls_fresh (cursor : Cursor) (count : Nat) : calls count cursor =
    (calls count (.ofSource (String.ofList cursor.rest))).map
      fun call => (call.1,call.2.shift cursor.offset) := by
  rw [← calls_shift,ofSource,String.toList_ofList]
  rfl

theorem Reads.behind {cursor after : Cursor} {gap : List Char} {piece : Piece}
    (read : Reads cursor gap piece after) (strange : piece.token.kind = .unknown) :
    piece.token.lexeme.utf8ByteSize ≤ after.offset := by
  obtain ⟨c,spelling,token,_⟩ := spelled_unknown read.spelled strange
  simp only [read.stop,spelling,token,byteLength_ofList]
  omega

theorem reached_invariant {source : String} {cursor : Cursor} (reached : Reached source cursor) :
    cursor.Invariant source := by
  obtain ⟨passed,stands⟩ := reached.stands
  have size := stands.size
  have place := And.intro stands.whole stands.offset.symm
  have within : cursor.offset ≤ source.utf8ByteSize := by omega
  have sliced := Sliced.read?_exact stands
  have bounded := stands.bounded
  have fresh := cursor.calls_fresh
  rcases cursor.next_cases with ⟨gap,piece,after,read,called,pulled⟩ | ⟨blank,called,pulled⟩
  · refine ⟨⟨passed,place⟩,within,stands.boundary,stands.atEnd,sliced,?_,?_,?_,?_,?_,bounded,fresh⟩
    all_goals rw [called]
    · exact read.behind
    · rw [pulled,if_neg read.not_eof]
    · exact iff_of_true read.not_eof read.some_visible
    · exact fun _ => read.forward
    · exact fun ended => absurd ended read.not_eof
  · refine ⟨⟨passed,place⟩,within,stands.boundary,stands.atEnd,sliced,?_,?_,?_,?_,?_,bounded,fresh⟩
    all_goals rw [called]
    · exact fun strange => by cases strange
    · rw [pulled]
      rfl
    · refine iff_of_false (fun other => other rfl) ?_
      rintro ⟨c,member,visible⟩
      rw [blank c member] at visible
      cases visible
    · exact fun other => absurd rfl other
    · exact fun _ => ⟨by rw [stands.finished],rfl,fun count => Cursor.calls_finish count cursor⟩

theorem reached_invariant_within :
    let source := "é\r\n\"ß"
    let cursor : Cursor := (Cursor.ofSource source).next.2.pull.2
    cursor = ⟨4,['"','ß']⟩ ∧ Reached source cursor ∧ cursor.Invariant source := by
  intro source cursor
  have reached : Reached source cursor := .pull (.next .start)
  exact ⟨by decide +kernel,reached,reached_invariant reached⟩

end BasicLex
