import BasicLex.Proofs.Scan
import BasicLex.Strict

namespace BasicLex
open Text

theorem StrictRun.ofCursor_known {cursor : Cursor}
    (known : ∀ token ∈ cursor.tokens, token.kind ≠ .unknown) :
    StrictRun.ofCursor cursor = ⟨cursor.drainEvents,.ok (cursor.tokens ++ [Token.eof])⟩ := by
  induction cursor using Cursor.run_induction with
  | ended cursor ended =>
    rw [ofCursor_end ended]
    simp [Cursor.drainEvents_end ended,Cursor.tokens_end ended]
  | step cursor piece after found ih =>
    rw [Cursor.tokens_step found] at known
    obtain ⟨familiar,known⟩ := List.forall_mem_cons.mp known
    rw [ofCursor_step found,if_neg familiar,ih known,Cursor.drainEvents_step found,Cursor.tokens_step found]
    rfl

namespace Layout

theorem WellFormed.unknown_exact {layout : Layout} (formed : layout.WellFormed) {item : Item}
    (member : item ∈ layout.items) (strange : item.token.kind = .unknown) :
    ∃ c, item.spelling = [c] ∧ item.token = ⟨.unknown,String.ofList [c]⟩ ∧ isRecognised c = false := by
  obtain ⟨before,after,split⟩ := List.append_of_mem member
  exact spelled_unknown (formed.spelled before item after split) strange

theorem first_unknown (layout : Layout) :
    (∀ item ∈ layout.items, item.token.kind ≠ .unknown) ∨
    ∃ before item after, layout.items = before ++ item :: after ∧
      (∀ earlier ∈ before, earlier.token.kind ≠ .unknown) ∧ item.token.kind = .unknown := by
  let known : Item → Bool := fun item => item.token.kind ≠ .unknown
  have whole := List.takeWhile_append_dropWhile (p := known) (l := layout.items)
  cases left : layout.items.dropWhile known with
  | nil =>
    left
    intro item member
    simpa [known] using List.dropWhile_eq_nil_iff.mp left item member
  | cons item after =>
    right
    refine ⟨layout.items.takeWhile known,item,after,by rw [← left,whole],?_,?_⟩
    · intro earlier member
      simpa [known] using List.mem_takeWhile_imp member
    · have stopped := dropWhile_head known layout.items item (by rw [left]; rfl)
      simpa [known] using stopped

theorem WellFormed.strict_unknown {before after : List Item} {item : Item} {trailing : List Char}
    (formed : WellFormed ⟨before ++ item :: after,trailing⟩)
    (known : ∀ earlier ∈ before, earlier.token.kind ≠ .unknown) (strange : item.token.kind = .unknown)
    (start : Nat) :
    StrictRun.ofCursor ⟨start,text ⟨before ++ item :: after,trailing⟩⟩ =
      ⟨((stepsFrom trailing start (before ++ [item])).map fun step => Event.ofPiece step.1),
        .error ⟨start + byteLength (before.flatMap Item.chars ++ item.gap),item.spelling,item.token⟩⟩ := by
  -- Along the known items, each of which moves the start on.
  induction before generalizing start with
  | nil =>
    rw [List.nil_append] at formed ⊢
    rw [StrictRun.ofCursor_step (formed.read start).next?,if_pos strange]
    simp [stepsFrom]
  | cons first before ih =>
    obtain ⟨familiar,known⟩ := List.forall_mem_cons.mp known
    rw [List.cons_append] at formed ⊢
    rw [StrictRun.ofCursor_step (formed.read start).next?,if_neg familiar,
      ih (wellFormed_cons.mp formed).2.2.2 known]
    simp [StrictRun.prepend,stepsFrom,Except.map,Nat.add_assoc]

end Layout

-- Stepping back over the lexeme leads to the character, however many bytes it has,
-- because an unknown token is written exactly as its lexeme.
theorem rejection_unknown (file : String) (start : Nat) (c : Char) :
    rejection file ⟨start,[c],⟨.unknown,String.ofList [c]⟩⟩ =
      ⟨.unrecognisedToken (String.ofList [c]),.saturate start file⟩ := by
  rw [rejection,Piece.stop,byteLength_ofList,Nat.add_sub_cancel]

theorem tokenize_known {source : String} (file : Option String)
    (known : ∀ token ∈ (Cursor.ofSource source).tokens, token.kind ≠ .unknown) :
    tokenize source file = .ok ((Cursor.ofSource source).tokens ++ [Token.eof]) := by
  rw [tokenize,StrictRun.ofSource,StrictRun.ofCursor_known known]
  rfl

theorem Layout.WellFormed.tokenize_unknown {before after : List Item} {gap trailing : List Char} {c : Char}
    {source : String}
    (formed : WellFormed ⟨before ++ ⟨gap,[c],⟨.unknown,String.ofList [c]⟩⟩ :: after,trailing⟩)
    (whole : text ⟨before ++ ⟨gap,[c],⟨.unknown,String.ofList [c]⟩⟩ :: after,trailing⟩ = source.toList)
    (known : ∀ earlier ∈ before, earlier.token.kind ≠ .unknown) (file : Option String) :
    tokenize source file = .error ⟨.unrecognisedToken (String.ofList [c]),
      .saturate (byteLength (before.flatMap Item.chars ++ gap)) (file.getD unnamedSource)⟩ := by
  have read := formed.strict_unknown known rfl 0
  rw [whole,Nat.zero_add] at read
  rw [tokenize,StrictRun.ofSource,Cursor.ofSource,read,Except.mapError,rejection_unknown]

theorem tokenize_cases (source : String) (file : Option String) :
    ((∀ token ∈ (Cursor.ofSource source).tokens, token.kind ≠ .unknown) ∧
      tokenize source file = .ok ((Cursor.ofSource source).tokens ++ [Token.eof])) ∨
    ∃ before gap c after trailing,
      Layout.WellFormed ⟨before ++ ⟨gap,[c],⟨.unknown,String.ofList [c]⟩⟩ :: after,trailing⟩ ∧
      Layout.text ⟨before ++ ⟨gap,[c],⟨.unknown,String.ofList [c]⟩⟩ :: after,trailing⟩ = source.toList ∧
      (∀ earlier ∈ before, earlier.token.kind ≠ .unknown) ∧ isRecognised c = false ∧
      tokenize source file = .error ⟨.unrecognisedToken (String.ofList [c]),
        .saturate (byteLength (before.flatMap Item.chars ++ gap)) (file.getD unnamedSource)⟩ := by
  obtain ⟨layout,formed,whole⟩ := Layout.exists_layout source
  rcases layout.first_unknown with known | ⟨before,item,after,split,known,strange⟩
  · left
    have familiar : ∀ token ∈ (Cursor.ofSource source).tokens, token.kind ≠ .unknown := by
      rw [formed.source_tokens whole]
      exact List.forall_mem_map.mpr known
    exact ⟨familiar,tokenize_known file familiar⟩
  · right
    obtain ⟨items,trailing⟩ := layout
    obtain rfl : items = before ++ item :: after := split
    obtain ⟨c,spelling,token,unrecognised⟩ := formed.unknown_exact (by simp) strange
    cases item
    subst spelling token
    exact ⟨before,_,c,after,trailing,formed,whole,known,unrecognised,formed.tokenize_unknown whole known file⟩

theorem tokenize_error {source : String} {file : Option String} {diagnostic : Diagnostic}
    (failed : tokenize source file = .error diagnostic) :
    ∃ before c after, source.toList = before ++ c :: after ∧ isRecognised c = false ∧
      diagnostic = ⟨.unrecognisedToken (String.ofList [c]),
        .saturate (byteLength before) (file.getD unnamedSource)⟩ := by
  rcases tokenize_cases source file with ⟨_,read⟩ |
    ⟨before,gap,c,after,trailing,_,whole,_,unrecognised,rejected⟩
  · rw [read] at failed
    cases failed
  · rw [rejected] at failed
    refine ⟨_,c,Layout.text ⟨after,trailing⟩,?_,unrecognised,(Except.error.inj failed).symm⟩
    rw [← whole,Layout.text_split]
    rfl

theorem tokenize_first_unknown (source : String) (file : Option String) :
    ((∀ token ∈ (Cursor.ofSource source).tokens, token.kind ≠ .unknown) ∧
      tokenize source file = .ok ((Cursor.ofSource source).tokens ++ [Token.eof])) ∨
    ∃ known c others before after diagnostic,
      (Cursor.ofSource source).tokens = known ++ ⟨.unknown,String.ofList [c]⟩ :: others ∧
      (∀ token ∈ known, token.kind ≠ .unknown) ∧
      source.toList = before ++ c :: after ∧
      (Cursor.calls (known.length + 1) (.ofSource source))[known.length]? =
        some (⟨.unknown,String.ofList [c]⟩,⟨byteLength (before ++ [c]),after⟩) ∧
      tokenize source file = .error diagnostic ∧
      diagnostic.cause = .unrecognisedToken (String.ofList [c]) ∧
      diagnostic.position.offset.toNat = min (byteLength before) (UInt32.size - 1) ∧
      diagnostic.position.file = file.getD "shell" := by
  rcases tokenize_cases source file with known |
    ⟨before,gap,c,after,trailing,formed,whole,known,_,rejected⟩
  · exact .inl known
  · right
    refine ⟨before.map Item.token,c,after.map Item.token,before.flatMap Item.chars ++ gap,
      Layout.text ⟨after,trailing⟩,_,?_,?_,?_,?_,rejected,rfl,Position.saturate_offset _ _,rfl⟩
    · rw [Cursor.ofSource,← whole,formed.tokens 0]
      simp [Layout.tokens]
    · exact List.forall_mem_map.mpr known
    · rw [← whole,Layout.text_split]
      rfl
    · rw [Cursor.ofSource,← whole,List.length_map,formed.call_item 0 0]
      simp [Item.chars]

end BasicLex
