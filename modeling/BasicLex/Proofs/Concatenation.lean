import BasicLex.Proofs.Progress

namespace BasicLex
open Text

inductive RunsOn (first second : String) : Prop where
  | word {last : Piece} {c : Char} (final : (Cursor.ofSource first).pieces.getLast? = some last)
      (reaches : last.stop = first.utf8ByteSize) (next : second.toList.head? = some c)
      (kind : last.token.kind = .identifier ∨ ∃ word, last.token.kind = .keyword word)
      (part : Unicode.isAlphabetic c = true ∨ Unicode.isNumeric c = true ∨ c = '_') : RunsOn first second
  | number {last : Piece} {c : Char} (final : (Cursor.ofSource first).pieces.getLast? = some last)
      (reaches : last.stop = first.utf8ByteSize) (next : second.toList.head? = some c)
      (kind : last.token.kind = .number) (digit : c.isDigit = true) : RunsOn first second
  | pair {last : Piece} (final : (Cursor.ofSource first).pieces.getLast? = some last)
      (reaches : last.stop = first.utf8ByteSize) (next : second.toList.head? = some '\n')
      (kind : last.token.kind = .endOfStatement) (spelled : last.spelling = ['\r']) : RunsOn first second

theorem absorbs_exact {token : Token} {spelling : List Char} {c : Char} :
    absorbs token spelling c = true ↔
      ((token.kind = .identifier ∨ ∃ word, token.kind = .keyword word) ∧ isWordPart c = true) ∨
      (token.kind = .number ∧ c.isDigit = true) ∨
      (token.kind = .endOfStatement ∧ spelling = ['\r'] ∧ c = '\n') := by
  obtain ⟨kind,lexeme⟩ := token
  cases kind <;> simp [absorbs]

theorem isWordPart_exact {c : Char} : isWordPart c = true ↔
    Unicode.isAlphabetic c = true ∨ Unicode.isNumeric c = true ∨ c = '_' := by
  simp [isWordPart,or_assoc]

theorem runsOn_exact {first second : String} : RunsOn first second ↔
    ∃ last c, (Cursor.ofSource first).pieces.getLast? = some last ∧ last.stop = first.utf8ByteSize ∧
      second.toList.head? = some c ∧ absorbs last.token last.spelling c = true := by
  constructor
  · intro runs
    cases runs with
    | word final reaches next kind part =>
      exact ⟨_,_,final,reaches,next,absorbs_exact.mpr (.inl ⟨kind,isWordPart_exact.mpr part⟩)⟩
    | number final reaches next kind digit =>
      exact ⟨_,_,final,reaches,next,absorbs_exact.mpr (.inr (.inl ⟨kind,digit⟩))⟩
    | pair final reaches next kind spelled =>
      exact ⟨_,_,final,reaches,next,absorbs_exact.mpr (.inr (.inr ⟨kind,spelled,rfl⟩))⟩
  · rintro ⟨last,c,final,reaches,next,absorbed⟩
    rcases absorbs_exact.mp absorbed with ⟨kind,part⟩ | ⟨kind,digit⟩ | ⟨kind,spelled,rfl⟩
    · exact .word final reaches next kind (isWordPart_exact.mp part)
    · exact .number final reaches next kind digit
    · exact .pair final reaches next kind spelled

namespace Layout

theorem WellFormed.tokens_before {items : List Item} {rest : List Char} (formed : WellFormed ⟨items,[]⟩)
    (meets : ∀ last ∈ items.getLast?, (Spells last.token last.spelling ∨ rest = []) ∧
      ∀ c ∈ rest.head?, absorbs last.token last.spelling c = false) (start : Nat) :
    Cursor.tokens ⟨start,items.flatMap Item.chars ++ rest⟩ =
      items.map Item.token ++ Cursor.tokens ⟨start,rest⟩ := by
  let later := Layout.ofCursor ⟨start,rest⟩
  have later_text : later.text = rest := ofCursor_text _
  have later_formed : later.WellFormed := ofCursor_wellFormed _
  rw [← later_text] at meets
  have joined := (wellFormed_append.mpr ⟨formed,later_formed,meets⟩).tokens start
  rw [text_append,later_text] at joined
  have read := later_formed.tokens start
  have split : Layout.tokens ⟨items ++ later.items,later.trailing⟩ = items.map Item.token ++ later.tokens := by
    simp [Layout.tokens]
  rw [later_text] at read
  rw [split,← read] at joined
  simpa [text] using joined

theorem pieces_last (trailing : List Char) (start : Nat) (before : List Item) (item : Item) :
    ((stepsFrom trailing start (before ++ [item])).map Prod.fst).getLast? =
      some ⟨start + byteLength (before.flatMap Item.chars ++ item.gap),item.spelling,item.token⟩ := by
  induction before generalizing start with
  | nil => simp [stepsFrom]
  | cons first before ih =>
    have later := ih (start + byteLength first.chars)
    simp [stepsFrom,List.getLast?_cons,later,Nat.add_assoc]

end Layout

namespace Cursor

theorem tokens_visible {c : Char} (visible : isBlank c = false) (offset : Nat) (rest : List Char) :
    tokens ⟨offset,c :: rest⟩ =
      (Piece.cut offset c rest).1.token :: tokens ⟨offset,(Piece.cut offset c rest).2⟩ := by
  rw [tokens_step (next?_visible visible offset rest)]
  exact congrArg (_ :: ·) (tokens_offset _ _ _)

end Cursor

theorem takeWhile_grows {p : Char → Bool} {run : List Char} {c : Char} (rest : List Char)
    (all : ∀ d ∈ run, p d = true) (member : p c = true) :
    (run ++ c :: rest).takeWhile p = run ++ c :: rest.takeWhile p := by
  rw [List.takeWhile_append_of_pos all]
  simp [member]

theorem Cursor.tokens_longer {start : Nat} {d c : Char} {run rest more after : List Char} {kind : Kind}
    (visible : isBlank d = false) (cut : Piece.cut start d (run ++ c :: rest) =
      (Piece.verbatim start kind (d :: (run ++ c :: more)),after)) (other : Kind) (others : List Token) :
    tokens ⟨start,d :: run ++ c :: rest⟩ ≠ ⟨other,String.ofList (d :: run)⟩ :: others := by
  intro same
  rw [List.cons_append,tokens_visible visible,cut] at same
  have lexemes := congrArg (fun token : Token => token.lexeme.toList.length) (List.cons.inj same).1
  simp [Piece.verbatim] at lexemes

-- A token that takes one more character is another token, or there is one token less.
theorem Spells.absorbed {token : Token} {spelling : List Char} {c : Char} (spelled : Spells token spelling)
    (absorbed : absorbs token spelling c = true) (start : Nat) (rest : List Char) :
    Cursor.tokens ⟨start,spelling ++ c :: rest⟩ ≠ token :: Cursor.tokens ⟨start,c :: rest⟩ := by
  cases spelled with
  | @number digits written all =>
    obtain ⟨d,digits,rfl⟩ := List.exists_cons_of_ne_nil written
    obtain ⟨digit,all⟩ := List.forall_mem_cons.mp all
    apply Cursor.tokens_longer (visible_of rfl rfl digit)
    rw [Piece.cut_number digit,takeWhile_grows rest all absorbed]
  | @identifier d more starts parts free =>
    apply Cursor.tokens_longer (visible_of rfl rfl starts)
    rw [Piece.cut_word starts,takeWhile_grows rest parts absorbed]
  | @keyword d more word starts parts reserved =>
    apply Cursor.tokens_longer (visible_of rfl rfl starts)
    rw [Piece.cut_word starts,takeWhile_grows rest parts absorbed]
  | carriageReturn =>
    obtain rfl : c = '\n' := by simpa [absorbs] using absorbed
    intro same
    have paired : Cursor.tokens ⟨start,'\r' :: '\n' :: rest⟩ =
        ⟨.endOfStatement,""⟩ :: Cursor.tokens ⟨start,rest⟩ := Cursor.tokens_visible rfl _ _
    have single : Cursor.tokens ⟨start,'\n' :: rest⟩ =
        ⟨.endOfStatement,""⟩ :: Cursor.tokens ⟨start,rest⟩ := Cursor.tokens_visible rfl _ _
    have lengths := congrArg List.length same
    simp [paired,single] at lengths
  | _ => cases absorbed

namespace Layout
variable {before : List Item} {item : Item} {trailing : List Char} {first : String}

theorem WellFormed.last_piece (formed : WellFormed ⟨before ++ [item],trailing⟩)
    (whole : text ⟨before ++ [item],trailing⟩ = first.toList) :
    (Cursor.ofSource first).pieces.getLast? =
      some ⟨byteLength (before.flatMap Item.chars ++ item.gap),item.spelling,item.token⟩ := by
  rw [Cursor.ofSource,← whole,Cursor.pieces,formed.steps,Layout.steps,pieces_last,Nat.zero_add]

theorem WellFormed.last_closed (formed : WellFormed ⟨before ++ [item],trailing⟩)
    (whole : text ⟨before ++ [item],trailing⟩ = first.toList)
    (closed : ∀ piece ∈ (Cursor.ofSource first).pieces, ¬SpellsOpen piece.token piece.spelling) :
    Spells item.token item.spelling := by
  have open_not := closed _ (List.mem_of_getLast? (formed.last_piece whole))
  exact (formed.spelled before item [] rfl).resolve_right fun opened => open_not opened.1

theorem WellFormed.bounded_iff (formed : WellFormed ⟨before ++ [item],trailing⟩)
    (whole : text ⟨before ++ [item],trailing⟩ = first.toList) (second : String) :
    (∀ c ∈ (trailing ++ second.toList).head?, absorbs item.token item.spelling c = false) ↔
      ¬RunsOn first second := by
  have final := formed.last_piece whole
  have size : first.utf8ByteSize = byteLength (before.flatMap Item.chars ++ item.gap) +
      byteLength item.spelling + byteLength trailing := by
    rw [← byteLength_toList,← whole]
    simp [text,Item.chars,Nat.add_assoc]
  have reaches : Piece.stop ⟨byteLength (before.flatMap Item.chars ++ item.gap),item.spelling,item.token⟩ =
      first.utf8ByteSize ↔ trailing = [] := by
    rw [size,← byteLength_zero]
    simp only [Piece.stop]
    omega
  rw [runsOn_exact]
  constructor
  · rintro bounded ⟨last,c,found,stop,next,absorbed⟩
    obtain rfl := Option.some.inj (final.symm.trans found)
    rw [reaches.mp stop,List.nil_append] at bounded
    rw [bounded c next] at absorbed
    cases absorbed
  · intro apart c next
    cases trailing with
    | nil =>
      apply Bool.eq_false_iff.mpr
      intro absorbed
      exact apart ⟨_,c,final,reaches.mpr rfl,next,absorbed⟩
    | cons blank more =>
      obtain rfl : blank = c := by simpa using next
      exact absorbs_blank _ _ (formed.trailing blank List.mem_cons_self)

theorem WellFormed.items_formed {items : List Item} (formed : WellFormed ⟨items,trailing⟩) :
    WellFormed ⟨items,[]⟩ :=
  ((@wellFormed_append items ⟨[],trailing⟩).mp (by simpa using formed)).1

theorem WellFormed.tokens_until (formed : WellFormed ⟨before ++ [item],trailing⟩) (start : Nat)
    (rest : List Char) :
    Cursor.tokens ⟨start,(before ++ [item]).flatMap Item.chars ++ rest⟩ =
      before.map Item.token ++ Cursor.tokens ⟨start,item.spelling ++ rest⟩ := by
  have written : item.gap ++ item.spelling ≠ [] := by
    simp [formed.nonempty (List.mem_append_right before List.mem_cons_self)]
  obtain ⟨before_formed,last_formed,meets⟩ := (@wellFormed_append before ⟨[item],[]⟩).mp formed.items_formed
  have alone : text ⟨[item],[]⟩ = item.gap ++ item.spelling := by simp [text,Item.chars]
  have first : (item.gap ++ (item.spelling ++ rest)).head? = (item.gap ++ item.spelling).head? := by
    rw [← List.append_assoc,List.head?_append_of_ne_nil _ written]
  have meets : ∀ last ∈ before.getLast?, (Spells last.token last.spelling ∨
      item.gap ++ (item.spelling ++ rest) = []) ∧
      ∀ c ∈ (item.gap ++ (item.spelling ++ rest)).head?, absorbs last.token last.spelling c = false := by
    intro last final
    obtain ⟨spelled,bounded⟩ := meets last final
    rw [alone] at spelled bounded
    rw [first]
    exact ⟨.inl (spelled.resolve_right written),bounded⟩
  have blank : IsGap item.gap := last_formed.gaps item List.mem_cons_self
  have along := before_formed.tokens_before meets start
  rw [Cursor.tokens_gap blank] at along
  rw [← along]
  simp [Item.chars]

theorem WellFormed.tokens_behind {items : List Item} (formed : WellFormed ⟨items,trailing⟩)
    (closed : ∀ last ∈ items.getLast?, Spells last.token last.spelling) {rest : List Char}
    (bounded : ∀ last ∈ items.getLast?,
      ∀ c ∈ (trailing ++ rest).head?, absorbs last.token last.spelling c = false) (start : Nat) :
    Cursor.tokens ⟨start,items.flatMap Item.chars ++ (trailing ++ rest)⟩ =
      items.map Item.token ++ Cursor.tokens ⟨start,rest⟩ := by
  have meets : ∀ last ∈ items.getLast?, (Spells last.token last.spelling ∨ trailing ++ rest = []) ∧
      ∀ c ∈ (trailing ++ rest).head?, absorbs last.token last.spelling c = false :=
    fun last final => ⟨.inl (closed last final),bounded last final⟩
  rw [formed.items_formed.tokens_before meets,Cursor.tokens_gap formed.trailing]

theorem WellFormed.tokens_changed (formed : WellFormed ⟨before ++ [item],trailing⟩)
    (spelled : Spells item.token item.spelling) {rest : List Char} {c : Char}
    (next : (trailing ++ rest).head? = some c) (absorbed : absorbs item.token item.spelling c = true)
    (start : Nat) :
    Cursor.tokens ⟨start,(before ++ [item]).flatMap Item.chars ++ (trailing ++ rest)⟩ ≠
      (before ++ [item]).map Item.token ++ Cursor.tokens ⟨start,rest⟩ := by
  obtain ⟨later,text⟩ := List.head?_eq_some_iff.mp next
  have behind : Cursor.tokens ⟨start,rest⟩ = Cursor.tokens ⟨start,c :: later⟩ := by
    rw [← text,Cursor.tokens_gap formed.trailing]
  rw [text,behind,formed.tokens_until,List.map_append,List.append_assoc]
  exact fun same => spelled.absorbed absorbed start later (List.append_cancel_left same)

end Layout

-- Tokens are lost or changed at a seam in the three listed ways and in no other. A string
-- that is still open at the end of the first text would go on in the second.
theorem tokens_append_iff {first second : String}
    (closed : ∀ piece ∈ (Cursor.ofSource first).pieces, ¬SpellsOpen piece.token piece.spelling) :
    (Cursor.ofSource (first ++ second)).tokens =
      (Cursor.ofSource first).tokens ++ (Cursor.ofSource second).tokens ↔ ¬RunsOn first second := by
  obtain ⟨⟨items,trailing⟩,formed,whole⟩ := Layout.exists_layout first
  have joined : Cursor.ofSource (first ++ second) =
      ⟨0,items.flatMap Item.chars ++ (trailing ++ second.toList)⟩ := by
    rw [Cursor.ofSource,String.toList_append,← whole,Layout.text,List.append_assoc]
  have first_tokens : (Cursor.ofSource first).tokens = items.map Item.token :=
    formed.source_tokens whole
  rw [joined,first_tokens]
  rcases List.eq_nil_or_concat' items with rfl | ⟨before,item,rfl⟩
  · have none : (Cursor.ofSource first).pieces = [] := by simpa [Cursor.tokens] using first_tokens
    refine iff_of_true (formed.tokens_behind (by simp) (by simp) 0) ?_
    intro runs
    obtain ⟨last,_,final,_⟩ := runsOn_exact.mp runs
    simp [none] at final
  · rw [← formed.bounded_iff whole]
    have spelled := formed.last_closed whole closed
    constructor
    · intro same c next
      apply Bool.eq_false_iff.mpr
      exact fun absorbed => formed.tokens_changed spelled next absorbed 0 same
    · intro bounded
      exact formed.tokens_behind (by simpa using spelled) (by simpa using bounded) 0

theorem tokens_append_iff_pair :
    let first := "Dim a\r"
    let second := "\n= 1"
    (∀ piece ∈ (Cursor.ofSource first).pieces, ¬SpellsOpen piece.token piece.spelling) ∧
      RunsOn first second ∧ ((Cursor.ofSource (first ++ second)).tokens =
        (Cursor.ofSource first).tokens ++ (Cursor.ofSource second).tokens ↔ ¬RunsOn first second) := by
  intro first second
  have run : (Cursor.ofSource first).pieces = [
      ⟨0,['D','i','m'],⟨.keyword .dimKw,"Dim"⟩⟩,⟨4,['a'],⟨.identifier,"a"⟩⟩,
      ⟨5,['\r'],⟨.endOfStatement,""⟩⟩] := by decide +kernel
  have closed : ∀ piece ∈ (Cursor.ofSource first).pieces, ¬SpellsOpen piece.token piece.spelling := by
    simp [run,SpellsOpen]
  have runs : RunsOn first second :=
    .pair (by rw [run]; rfl) (by decide +kernel) (by decide +kernel) rfl rfl
  exact ⟨closed,runs,tokens_append_iff closed⟩

end BasicLex
