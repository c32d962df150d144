import BasicLex.Proofs.Layout

namespace BasicLex

theorem takeWhile_bounded {p : Char → Bool} {run rest : List Char} (all : ∀ c ∈ run, p c = true)
    (bounded : ∀ c ∈ rest.head?, p c = false) : (run ++ rest).takeWhile p = run := by
  rw [List.takeWhile_append_of_pos all]
  cases rest with
  | nil => simp
  | cons c rest => simp [bounded c rfl]

theorem dropWhile_bounded {p : Char → Bool} {run rest : List Char} (all : ∀ c ∈ run, p c = true)
    (bounded : ∀ c ∈ rest.head?, p c = false) : (run ++ rest).dropWhile p = rest := by
  rw [List.dropWhile_append_of_pos all]
  cases rest with
  | nil => simp
  | cons c rest => simp [bounded c rfl]

theorem until_bounded {p : Char → Bool} {run rest : List Char} (free : ∀ c ∈ run, p c = false)
    (closed : ∀ c ∈ rest.head?, p c = true) :
    (run ++ rest).takeWhile (!p ·) = run ∧ (run ++ rest).dropWhile (!p ·) = rest := by
  have all : ∀ c ∈ run, (!p c) = true := by
    intro c member
    simp [free c member]
  have bounded : ∀ c ∈ rest.head?, (!p c) = false := by
    intro c first
    simp [closed c first]
  exact ⟨takeWhile_bounded all bounded,dropWhile_bounded all bounded⟩

theorem until_all {p : Char → Bool} {run : List Char} (free : ∀ c ∈ run, p c = false) :
    run.takeWhile (!p ·) = run ∧ run.dropWhile (!p ·) = [] := by
  have ended : ∀ c ∈ ([] : List Char).head?, p c = true := by simp
  simpa using until_bounded free ended

theorem dropWhile_head {α : Type} (p : α → Bool) (values : List α) :
    ∀ value ∈ (values.dropWhile p).head?, p value = false := by
  intro value first
  have stopped := List.head?_dropWhile_not p values
  rw [Option.mem_def.mp first] at stopped
  simpa using stopped

theorem until_free {p : Char → Bool} (text : List Char) : ∀ c ∈ text.takeWhile (!p ·), p c = false := by
  intro c member
  simpa using List.mem_takeWhile_imp member

theorem until_stop {p : Char → Bool} (text : List Char) :
    ∀ c ∈ (text.dropWhile (!p ·)).head?, p c = true := by
  intro c first
  simpa using dropWhile_head _ text c first

theorem prefix_takeWhile {p : Char → Bool} {run text : List Char} (all : ∀ c ∈ run, p c = true)
    (begins : run <+: text) : run.length ≤ (text.takeWhile p).length := by
  obtain ⟨rest,rfl⟩ := begins
  rw [List.takeWhile_append_of_pos all,List.length_append]
  exact Nat.le_add_right _ _

theorem ne_of_class {p : Char → Bool} {c d : Char} (member : p c = true) (outside : p d = false) :
    c ≠ d := by
  intro same
  rw [same,outside] at member
  cases member

theorem digit_not_start {c : Char} (digit : c.isDigit = true) : isWordStart c = false := by
  have underscore : c ≠ '_' := ne_of_class digit rfl
  delta Char.isDigit at digit
  simp only [Bool.and_eq_true,decide_eq_true_eq,ge_iff_le,UInt32.le_iff_toNat_le] at digit
  have nine : '9'.val.toNat = 57 := rfl
  have capital : 'A'.val.toNat = 65 := rfl
  have small : 'a'.val.toNat = 97 := rfl
  have letter : c.isAlpha = false := by
    delta Char.isAlpha Char.isUpper Char.isLower
    simp only [Bool.or_eq_false_iff,Bool.and_eq_false_iff,decide_eq_false_iff_not,ge_iff_le,
      UInt32.le_iff_toNat_le]
    omega
  simp [isWordStart,letter,underscore]

theorem unrecognised_exact {c : Char} : isRecognised c = false ↔
    isBlank c = false ∧ Text.isLineEnd c = false ∧ isWordStart c = false ∧ c.isDigit = false ∧
      isQuote c = false ∧ Symbol.ofChar? c = none := by
  simp only [isRecognised,Bool.or_eq_false_iff,and_assoc,Symbol.ofChar?,List.any_eq_false,
    List.find?_eq_none,decide_eq_true_eq,beq_iff_eq]

theorem lineEnd_exact {c : Char} : Text.isLineEnd c = false ↔ c ≠ '\n' ∧ c ≠ '\r' := by
  simp [Text.isLineEnd]

theorem visible_of {p : Char → Bool} {c : Char} (space : p ' ' = false) (tab : p '\t' = false)
    (member : p c = true) : isBlank c = false := by
  simp [isBlank,ne_of_class member space,ne_of_class member tab]

namespace Piece
variable {c : Char} {start : Nat} {rest : List Char}

theorem cut_word (starts : isWordStart c = true) :
    cut start c rest =
      (verbatim start (wordKind (c :: rest.takeWhile isWordPart)) (c :: rest.takeWhile isWordPart),
        rest.dropWhile isWordPart) := by
  have feed : c ≠ '\n' := ne_of_class starts rfl
  have carriage : c ≠ '\r' := ne_of_class starts rfl
  simp only [cut,if_neg feed,if_neg carriage,if_pos starts]

theorem cut_number (digit : c.isDigit = true) :
    cut start c rest =
      (verbatim start .number (c :: rest.takeWhile Char.isDigit),rest.dropWhile Char.isDigit) := by
  have feed : c ≠ '\n' := ne_of_class digit rfl
  have carriage : c ≠ '\r' := ne_of_class digit rfl
  have letter : ¬isWordStart c = true := by simp [digit_not_start digit]
  simp only [cut,if_neg feed,if_neg carriage,if_neg letter,if_pos digit]

theorem cut_quote : cut start '"' rest =
    (⟨start,'"' :: rest.takeWhile (!isQuote ·) ++ (rest.dropWhile (!isQuote ·)).take 1,
      ⟨.string,String.ofList (rest.takeWhile (!isQuote ·))⟩⟩,
      (rest.dropWhile (!isQuote ·)).drop 1) := rfl

theorem cut_carriageReturn (lone : rest.head? ≠ some '\n') :
    cut start '\r' rest = (statementEnd start ['\r'],rest) := by
  have feed : '\r' ≠ '\n' := by decide
  unfold cut
  rw [if_neg feed,if_pos rfl]
  split
  · exact absurd rfl lone
  · rfl

theorem cut_mark (ends : Text.isLineEnd c = false) (letter : isWordStart c = false)
    (digit : c.isDigit = false) (quote : isQuote c = false) :
    cut start c rest = (verbatim start (markKind c) [c],rest) := by
  obtain ⟨feed,carriage⟩ := lineEnd_exact.mp ends
  simp only [cut,if_neg feed,if_neg carriage,letter,digit,quote,Bool.false_eq_true,if_false]

theorem cut_sound {piece : Piece} {after : List Char} (visible : isBlank c = false)
    (found : cut start c rest = (piece,after)) :
    (Spells piece.token piece.spelling ∨ (SpellsOpen piece.token piece.spelling ∧ after = [])) ∧
      ∀ d ∈ after.head?, absorbs piece.token piece.spelling d = false := by
  by_cases feed : c = '\n'
  · subst c
    cases found
    exact ⟨.inl .lineFeed,fun _ _ => rfl⟩
  by_cases carriage : c = '\r'
  · subst c
    by_cases lone : rest.head? = some '\n'
    · obtain ⟨after,rfl⟩ := List.head?_eq_some_iff.mp lone
      cases found
      exact ⟨.inl .pair,fun _ _ => rfl⟩
    · rw [cut_carriageReturn lone] at found
      cases found
      refine ⟨.inl .carriageReturn,fun d first => ?_⟩
      have other : d ≠ '\n' := by rintro rfl; exact lone first
      simp [absorbs,statementEnd,other]
  by_cases letter : isWordStart c = true
  · rw [cut_word letter] at found
    cases found
    have parts : ∀ d ∈ rest.takeWhile isWordPart, isWordPart d = true :=
      fun d member => List.mem_takeWhile_imp member
    unfold wordKind
    cases reserved : Keyword.ofWord? (c :: rest.takeWhile isWordPart) with
    | none => exact ⟨.inl (.identifier letter parts reserved),dropWhile_head _ _⟩
    | some word => exact ⟨.inl (.keyword letter parts reserved),dropWhile_head _ _⟩
  by_cases digit : c.isDigit = true
  · rw [cut_number digit] at found
    cases found
    refine ⟨.inl (.number (List.cons_ne_nil _ _) ?_),dropWhile_head _ _⟩
    intro d member
    rcases List.mem_cons.mp member with rfl | later
    · exact digit
    · exact List.mem_takeWhile_imp later
  by_cases quote : isQuote c = true
  · obtain rfl : c = '"' := by simpa [isQuote] using quote
    rw [cut_quote] at found
    cases found
    refine ⟨?_,fun _ _ => rfl⟩
    have inside : ∀ d ∈ rest.takeWhile (!isQuote ·), isQuote d = false := until_free rest
    cases closing : rest.dropWhile (!isQuote ·) with
    | nil => exact .inr ⟨⟨_,inside,rfl,by simp⟩,by simp⟩
    | cons d after =>
      have closed : isQuote d = true := until_stop rest d (by rw [closing]; rfl)
      obtain rfl : d = '"' := by simpa [isQuote] using closed
      left
      simpa [closing] using Spells.string inside
  · have ends : Text.isLineEnd c = false := lineEnd_exact.mpr ⟨feed,carriage⟩
    rw [cut_mark ends (by simpa using letter) (by simpa using digit) (by simpa using quote)] at found
    cases found
    unfold markKind
    cases mark : Symbol.ofChar? c with
    | some mark =>
      obtain rfl := Symbol.ofChar?_exact.mp mark
      exact ⟨.inl (.symbol _),fun _ _ => rfl⟩
    | none =>
      have strange : isRecognised c = false := unrecognised_exact.mpr
        ⟨visible,ends,by simpa using letter,by simpa using digit,by simpa using quote,mark⟩
      exact ⟨.inl (.unknown strange),fun _ _ => rfl⟩

theorem cut_complete (start : Nat) {token : Token} {spelling : List Char} (spelled : Spells token spelling)
    (bounded : ∀ d ∈ rest.head?, absorbs token spelling d = false) :
    ∃ c more, spelling = c :: more ∧ isBlank c = false ∧
      cut start c (more ++ rest) = (⟨start,spelling,token⟩,rest) := by
  cases spelled with
  | @number digits written all =>
    obtain ⟨c,more,rfl⟩ := List.exists_cons_of_ne_nil written
    obtain ⟨digit,all⟩ := List.forall_mem_cons.mp all
    refine ⟨c,more,rfl,?_,?_⟩
    · exact visible_of rfl rfl digit
    · rw [cut_number digit,takeWhile_bounded all bounded,dropWhile_bounded all bounded]
      rfl
  | @identifier c more starts parts free =>
    refine ⟨c,more,rfl,visible_of rfl rfl starts,?_⟩
    rw [cut_word starts,takeWhile_bounded parts bounded,dropWhile_bounded parts bounded]
    simp only [wordKind,free,verbatim]
  | @keyword c more word starts parts reserved =>
    refine ⟨c,more,rfl,visible_of rfl rfl starts,?_⟩
    rw [cut_word starts,takeWhile_bounded parts bounded,dropWhile_bounded parts bounded]
    simp only [wordKind,reserved,verbatim]
  | @string body inside =>
    refine ⟨'"',body ++ ['"'],rfl,rfl,?_⟩
    have closed : ∀ c ∈ (['"'] ++ rest).head?, isQuote c = true := by simp [isQuote]
    obtain ⟨taken,left⟩ := until_bounded inside closed
    rw [cut_quote,List.append_assoc,taken,left]
    rfl
  | symbol mark =>
    have plain : isBlank mark.char = false ∧ Text.isLineEnd mark.char = false ∧
        isWordStart mark.char = false ∧ mark.char.isDigit = false ∧ isQuote mark.char = false := by
      cases mark <;> decide
    obtain ⟨visible,ends,letter,digit,quote⟩ := plain
    refine ⟨mark.char,[],rfl,visible,?_⟩
    rw [cut_mark ends letter digit quote]
    simp only [markKind,Symbol.ofChar?_exact.mpr rfl,verbatim,List.nil_append]
  | @unknown c strange =>
    obtain ⟨visible,ends,letter,digit,quote,mark⟩ := unrecognised_exact.mp strange
    refine ⟨c,[],rfl,visible,?_⟩
    rw [cut_mark ends letter digit quote]
    simp only [markKind,mark,verbatim,List.nil_append]
  | lineFeed => exact ⟨'\n',[],rfl,rfl,rfl⟩
  | carriageReturn =>
    refine ⟨'\r',[],rfl,rfl,cut_carriageReturn ?_⟩
    intro feed
    exact absurd (bounded '\n' feed) (by decide)
  | pair => exact ⟨'\r',['\n'],rfl,rfl,rfl⟩

theorem cut_open (start : Nat) {token : Token} {spelling : List Char} (opened : SpellsOpen token spelling) :
    ∃ c more, spelling = c :: more ∧ isBlank c = false ∧
      cut start c more = (⟨start,spelling,token⟩,[]) := by
  obtain ⟨body,inside,rfl,rfl⟩ := opened
  refine ⟨'"',body,rfl,rfl,?_⟩
  obtain ⟨taken,left⟩ := until_all inside
  rw [cut_quote,taken,left]
  simp

theorem cut_longest (start : Nat) {token : Token} {spelling : List Char}
    (spelled : Spells token spelling ∨ SpellsOpen token spelling) (begins : spelling <+: c :: rest) :
    spelling.length ≤ (cut start c rest).1.spelling.length := by
  obtain ⟨others,written⟩ := cut_spelling start c rest
  have single : 1 ≤ (cut start c rest).1.spelling.length := by
    rw [written,List.length_cons]
    exact Nat.succ_pos _
  rcases spelled with spelled | ⟨body,inside,rfl,rfl⟩
  · cases spelled with
    | @number digits written all =>
      obtain ⟨d,more,rfl⟩ := List.exists_cons_of_ne_nil written
      obtain ⟨rfl,follows⟩ := List.cons_prefix_cons.mp begins
      obtain ⟨digit,all⟩ := List.forall_mem_cons.mp all
      rw [cut_number digit]
      exact Nat.succ_le_succ (prefix_takeWhile all follows)
    | @identifier d more starts parts free =>
      obtain ⟨rfl,follows⟩ := List.cons_prefix_cons.mp begins
      rw [cut_word starts]
      exact Nat.succ_le_succ (prefix_takeWhile parts follows)
    | @keyword d more word starts parts reserved =>
      obtain ⟨rfl,follows⟩ := List.cons_prefix_cons.mp begins
      rw [cut_word starts]
      exact Nat.succ_le_succ (prefix_takeWhile parts follows)
    | @string body inside =>
      obtain ⟨tail,whole⟩ := begins
      obtain ⟨d,more,same,_,found⟩ := cut_complete start (Spells.string inside)
        (fun d (_ : d ∈ tail.head?) => rfl)
      obtain ⟨rfl,rfl⟩ : c = d ∧ rest = more ++ tail :=
        List.cons.inj (whole.symm.trans (congrArg (· ++ tail) same))
      rw [found]
    | symbol mark => exact single
    | unknown strange => exact single
    | lineFeed => exact single
    | carriageReturn => exact single
    | pair =>
      obtain ⟨rfl,tail,rfl⟩ := List.cons_prefix_cons.mp begins
      rfl
  · obtain ⟨rfl,follows⟩ := List.cons_prefix_cons.mp begins
    have all : ∀ d ∈ body, (!isQuote d) = true := fun d member => by simp [inside d member]
    rw [cut_quote,List.length_append,List.length_cons,List.length_cons]
    have taken := prefix_takeWhile all follows
    omega

end Piece
end BasicLex
