import BasicLex.Proofs.Progress
import BasicLex.Proofs.Strictness

namespace BasicLex
open Text

namespace Text

def blankAt (starts : List Nat) : Nat → List Char → List Char
  | _,[] => []
  | offset,c :: rest => (if offset ∈ starts then ' ' else c) :: blankAt starts (offset + c.utf8Size) rest

theorem blankAt_append (starts : List Nat) (offset : Nat) (left right : List Char) :
    blankAt starts offset (left ++ right) =
      blankAt starts offset left ++ blankAt starts (offset + byteLength left) right := by
  induction left generalizing offset with
  | nil => rfl
  | cons c left ih => simp [blankAt,ih,Nat.add_assoc]

theorem blankAt_single {starts : List Nat} {offset : Nat} (c : Char) (member : offset ∈ starts) :
    blankAt starts offset [c] = [' '] := by simp [blankAt,member]

theorem blankAt_gap {gap : List Char} (blank : IsGap gap) (starts : List Nat) (offset : Nat) :
    IsGap (blankAt starts offset gap) := by
  induction gap generalizing offset with
  | nil => exact blank
  | cons c gap ih =>
    obtain ⟨first,blank⟩ := List.forall_mem_cons.mp blank
    refine List.forall_mem_cons.mpr ⟨?_,ih blank _⟩
    split
    · rfl
    · exact first

theorem blankAt_before {starts : List Nat} {offset : Nat} {text : List Char}
    (later : ∀ start ∈ starts, offset + byteLength text ≤ start) : blankAt starts offset text = text := by
  induction text generalizing offset with
  | nil => rfl
  | cons c text ih =>
    have size := c.utf8Size_pos
    have here : offset ∉ starts := by
      intro member
      have bound := later offset member
      rw [byteLength_cons] at bound
      omega
    have rest : blankAt starts (offset + c.utf8Size) text = text := by
      apply ih
      intro start member
      rw [Nat.add_assoc]
      exact later start member
    rw [blankAt,if_neg here,rest]

theorem blankAt_passed {start offset : Nat} (passed : start < offset) (starts : List Nat) (text : List Char) :
    blankAt (start :: starts) offset text = blankAt starts offset text := by
  induction text generalizing offset with
  | nil => rfl
  | cons c text ih =>
    have other : offset ≠ start := Nat.ne_of_gt passed
    rw [blankAt,blankAt,ih (Nat.lt_add_right _ passed)]
    simp only [List.mem_cons,other,false_or]

theorem blankAt_head {starts : List Nat} {offset : Nat} {text : List Char} {d : Char}
    (first : d ∈ (blankAt starts offset text).head?) : d = ' ' ∨ d ∈ text.head? := by
  cases text with
  | nil => cases first
  | cons c text =>
    obtain rfl := Option.some.inj first
    split
    · exact .inl rfl
    · exact .inr rfl

end Text

namespace Cursor

def unknownStarts (cursor : Cursor) : List Nat :=
  (cursor.pieces.filter fun piece => piece.token.is .unknown).map Piece.start

def knownTokens (cursor : Cursor) : List Token := cursor.tokens.filter fun token => !token.is .unknown

end Cursor

def withoutUnknown (source : String) : String :=
  String.ofList (blankAt (Cursor.ofSource source).unknownStarts 0 source.toList)

namespace Cursor
variable {cursor after : Cursor} {piece : Piece}

theorem unknownStarts_step (found : cursor.next? = some (piece,after)) : cursor.unknownStarts =
    if piece.token.kind = .unknown then piece.start :: after.unknownStarts else after.unknownStarts := by
  rw [unknownStarts,pieces_step found,List.filter_cons]
  simp only [Token.is_exact]
  split <;> rfl

theorem knownTokens_step (found : cursor.next? = some (piece,after)) : cursor.knownTokens =
    if piece.token.kind = .unknown then after.knownTokens else piece.token :: after.knownTokens := by
  rw [knownTokens,tokens_step found,List.filter_cons]
  simp only [Bool.not_eq_true',Bool.eq_false_iff,ne_eq,Token.is_exact,ite_not]
  rfl

theorem unknownStarts_later (cursor : Cursor) : ∀ start ∈ cursor.unknownStarts, cursor.offset ≤ start := by
  induction cursor using run_induction with
  | ended cursor ended => simp [unknownStarts,pieces_end ended]
  | step cursor piece after found ih =>
    have read := next?_sound found
    have behind : ∀ start ∈ after.unknownStarts, cursor.offset ≤ start := by
      intro start member
      exact Nat.le_trans (Nat.le_of_lt read.forward) (ih start member)
    rw [unknownStarts_step found]
    split
    · refine List.forall_mem_cons.mpr ⟨?_,behind⟩
      rw [read.start]
      exact Nat.le_add_right _ _
    · exact behind

end Cursor

-- A token that is not blanked itself is read from the blanked text as before, since a blank
-- behind it prolongs it as little as the unknown character that stood there.
theorem Reads.known_tokens {cursor after : Cursor} {gap : List Char} {piece : Piece}
    (read : Reads cursor gap piece after) (starts : List Nat) (offset : Nat) :
    Cursor.tokens ⟨offset,piece.spelling ++ blankAt starts after.offset after.rest⟩ =
      piece.token :: Cursor.tokens ⟨offset,blankAt starts after.offset after.rest⟩ := by
  have again : Reads ⟨offset,piece.spelling ++ blankAt starts after.offset after.rest⟩ []
      ⟨offset,piece.spelling,piece.token⟩
      ⟨offset + byteLength piece.spelling,blankAt starts after.offset after.rest⟩ := by
    refine ⟨by simp [IsGap],rfl,rfl,rfl,?_,?_⟩
    · rcases read.spelled with closed | ⟨opened,ended⟩
      · exact .inl closed
      · refine .inr ⟨opened,?_⟩
        rw [ended]
        rfl
    · intro d first
      rcases blankAt_head first with rfl | original
      · exact absorbs_blank _ _ rfl
      · exact read.bounded d original
  rw [Cursor.tokens_step again.next?]
  exact congrArg (piece.token :: ·) (Cursor.tokens_offset _ _ _)

theorem Cursor.tokens_blanked (cursor : Cursor) (offset : Nat) :
    tokens ⟨offset,blankAt cursor.unknownStarts cursor.offset cursor.rest⟩ = cursor.knownTokens := by
  induction cursor using run_induction generalizing offset with
  | ended cursor ended =>
    have blank : IsGap cursor.rest := List.dropWhile_eq_nil_iff.mp (next?_none.mp ended)
    have none : tokens ⟨offset,[]⟩ = [] := tokens_end rfl
    have skipped := tokens_gap (blankAt_gap blank cursor.unknownStarts cursor.offset) offset []
    rw [List.append_nil,none] at skipped
    rw [skipped,knownTokens,tokens_end ended]
    rfl
  | step cursor piece after found ih =>
    have read := next?_sound found
    have place : cursor.offset + byteLength (cursor.rest.takeWhile isBlank) = piece.start := read.start.symm
    have behind : piece.start + byteLength piece.spelling = after.offset := by
      rw [read.stop,read.start]
    rw [read.text,blankAt_append,tokens_gap (blankAt_gap read.blank _ _),blankAt_append,place,behind,
      unknownStarts_step found,knownTokens_step found]
    by_cases strange : piece.token.kind = .unknown
    · -- The blank in its place belongs to the gap that follows.
      obtain ⟨c,spelling,_,_⟩ := spelled_unknown read.spelled strange
      have blank : IsGap [' '] := by simp [IsGap,isBlank]
      have passed : piece.start < after.offset := by
        rw [← behind,spelling,byteLength_cons]
        exact Nat.lt_add_of_pos_right (Nat.add_pos_left c.utf8Size_pos _)
      rw [if_pos strange,if_pos strange,spelling,blankAt_single c List.mem_cons_self,tokens_gap blank,
        blankAt_passed passed]
      exact ih offset
    · have kept : blankAt after.unknownStarts piece.start piece.spelling = piece.spelling := by
        apply blankAt_before
        rw [behind]
        exact after.unknownStarts_later
      rw [if_neg strange,if_neg strange,kept,read.known_tokens]
      exact congrArg (piece.token :: ·) (ih offset)

theorem Stands.unknown_alone {text passed : List Char} {cursor : Cursor} (stands : Stands text passed cursor) :
    ∀ step ∈ cursor.steps, step.1.token.kind = .unknown →
      ∃ before c, text = before ++ c :: step.2.rest ∧ isRecognised c = false ∧
        step.1 = ⟨byteLength before,[c],⟨.unknown,String.ofList [c]⟩⟩ ∧
        step.2.offset = byteLength (before ++ [c]) := by
  induction cursor using Cursor.run_induction generalizing passed with
  | ended cursor ended => simp [Cursor.steps_end ended]
  | step cursor piece after found ih =>
    have read := Cursor.next?_sound found
    rw [Cursor.steps_step found]
    refine List.forall_mem_cons.mpr ⟨?_,ih (stands.step read)⟩
    intro strange
    obtain ⟨c,spelling,token,unrecognised⟩ := spelled_unknown read.spelled strange
    obtain ⟨whole,start⟩ := stands.piece read
    have offset := (stands.step read).offset
    rw [spelling] at whole offset
    refine ⟨_,c,whole,unrecognised,?_,offset⟩
    obtain ⟨_,_,_⟩ := piece
    subst spelling token start
    rfl

theorem Cursor.tokens_withoutUnknown (source : String) :
    (ofSource (withoutUnknown source)).tokens = (ofSource source).knownTokens := by
  rw [ofSource,withoutUnknown,String.toList_ofList]
  exact (ofSource source).tokens_blanked 0

theorem unknown_isolated (source : String) (file : Option String) :
    tokenize (withoutUnknown source) file = .ok ((Cursor.ofSource source).knownTokens ++ [Token.eof]) ∧
    ∀ step ∈ (Cursor.ofSource source).steps, step.1.token.kind = .unknown →
      ∃ before c, source.toList = before ++ c :: step.2.rest ∧ isRecognised c = false ∧
        step.1 = ⟨byteLength before,[c],⟨.unknown,String.ofList [c]⟩⟩ ∧
        step.2.offset = byteLength (before ++ [c]) := by
  refine ⟨?_,(Stands.ofSource source).unknown_alone⟩
  have known : ∀ token ∈ (Cursor.ofSource source).knownTokens, token.kind ≠ .unknown := by
    intro token member
    simpa [Cursor.knownTokens,Token.is] using (List.mem_filter.mp member).2
  rw [← Cursor.tokens_withoutUnknown] at known ⊢
  exact tokenize_known file known

theorem unknown_isolated_crowded :
    let source := "1éa\r#\n\"é#\"ñ7"
    let blanked := "1 a\r \n\"é#\" 7"
    let piece : Piece := ⟨1,['é'],⟨.unknown,"é"⟩⟩
    let after : Cursor := ⟨3,"a\r#\n\"é#\"ñ7".toList⟩
    (piece,after) ∈ (Cursor.ofSource source).steps ∧
      tokenize blanked none = .ok [⟨.number,"1"⟩,⟨.identifier,"a"⟩,⟨.endOfStatement,""⟩,
        ⟨.endOfStatement,""⟩,⟨.string,"é#"⟩,⟨.number,"7"⟩,⟨.endOfFile,""⟩] ∧
      ∃ before c, source.toList = before ++ c :: after.rest ∧ isRecognised c = false ∧
        piece = ⟨byteLength before,[c],⟨.unknown,String.ofList [c]⟩⟩ ∧
        after.offset = byteLength (before ++ [c]) := by
  intro source blanked piece after
  have member : (piece,after) ∈ (Cursor.ofSource source).steps := by decide +kernel
  have text : withoutUnknown source = blanked := by decide +kernel
  have known : (Cursor.ofSource source).knownTokens = [⟨.number,"1"⟩,⟨.identifier,"a"⟩,
      ⟨.endOfStatement,""⟩,⟨.endOfStatement,""⟩,⟨.string,"é#"⟩,⟨.number,"7"⟩] := by decide +kernel
  obtain ⟨read,alone⟩ := unknown_isolated source none
  rw [text,known] at read
  exact ⟨member,read,alone _ member rfl⟩

end BasicLex
