import BasicLex.Proofs.LetterCase

namespace BasicLex
open Unicode

namespace Unicode

def CaseRun.beyondAscii (run : CaseRun) : Bool :=
  0x80 ≤ run.lower &&
    (run.lower + (run.last - run.first) < 0xD800 ||
      (0xE000 ≤ run.lower && run.lower + (run.last - run.first) < 0x110000))

theorem caseRuns_beyondAscii :
    caseRuns.all (fun run => run.first == 0x212A && run.last == 0x212A || run.beyondAscii) = true := by
  decide

theorem CaseRun.lower?_within {run : CaseRun} {code lower : Nat} (found : run.lower? code = some lower) :
    run.first ≤ code ∧ code ≤ run.last ∧ lower = run.lower + (code - run.first) := by
  unfold lower? at found
  split at found
  · rename_i member
    exact ⟨member.1,member.2.1,(Option.some.inj found).symm⟩
  · cases found

theorem CaseRun.lower?_foreign {run : CaseRun} {code lower : Nat} (beyond : run.beyondAscii = true)
    (found : run.lower? code = some lower) : isAscii (Char.ofNat lower) = false := by
  obtain ⟨reached,inside,rfl⟩ := lower?_within found
  simp only [beyondAscii,Bool.and_eq_true,Bool.or_eq_true,decide_eq_true_eq] at beyond
  obtain ⟨high,scalar⟩ := beyond
  have valid : (run.lower + (code - run.first)).isValidChar := by
    unfold Nat.isValidChar
    omega
  have code_kept : (Char.ofNat (run.lower + (code - run.first))).toNat = run.lower + (code - run.first) := by
    rw [Char.ofNat,dif_pos valid]
    rfl
  simp only [isAscii,code_kept,decide_eq_false_iff_not]
  omega

-- The one foreign character whose lower case is all ASCII is the Kelvin sign. The dotted
-- capital keeps its dot behind the ASCII letter.
theorem lowerChar_foreign {c : Char} (foreign : isAscii c = false) :
    c = '\u212A' ∨ ∃ d ∈ lowerChar c, isAscii d = false := by
  by_cases dotted : c = '\u0130'
  · subst c
    exact .inr ⟨'\u0307',by decide,by decide⟩
  cases found : caseRuns.findSome? (·.lower? c.toNat) with
  | none =>
    have itself : lowerChar c = [c] := by simp [lowerChar,foreign,dotted,found]
    exact .inr ⟨c,by simp [itself],foreign⟩
  | some code =>
    have mapped : lowerChar c = [Char.ofNat code] := by simp [lowerChar,foreign,dotted,found]
    obtain ⟨run,member,lower⟩ := List.exists_of_findSome?_eq_some found
    have listed := List.all_eq_true.mp caseRuns_beyondAscii run member
    cases Bool.or_eq_true _ _ ▸ listed with
    | inl kelvin =>
      left
      obtain ⟨reached,inside,_⟩ := CaseRun.lower?_within lower
      simp only [Bool.and_eq_true,beq_iff_eq] at kelvin
      apply Char.toNat_inj.mp
      show c.toNat = 0x212A
      omega
    | inr beyond => exact .inr ⟨Char.ofNat code,by simp [mapped],CaseRun.lower?_foreign beyond lower⟩

theorem lowerCase_ascii {word : List Char} (ascii : ∀ c ∈ word, isAscii c = true) :
    lowerCase word = word.map Char.toLower := by
  induction word with
  | nil => rfl
  | cons c word ih =>
    obtain ⟨first,later⟩ := List.forall_mem_cons.mp ascii
    have rest := ih later
    unfold lowerCase at rest ⊢
    rw [List.flatMap_cons,rest,lowerChar,if_pos first]
    rfl

end Unicode

namespace Keyword

def Respelled (keyword : Keyword) (word : List Char) : Prop :=
  (∀ c ∈ word, isAscii c = true) ∧ word.map Char.toLower = (Kind.keyword keyword).name.toList

theorem spelling_letters (keyword : Keyword) :
    keyword.spelling.toList.all (fun c => isAscii c && c != 'k') = true := by
  cases keyword <;> decide

theorem spelled_ascii {word : List Char} {keyword : Keyword}
    (spelled : keyword.spelling.toList = lowerCase word) : ∀ c ∈ word, isAscii c = true := by
  have letters : ∀ d ∈ lowerCase word, isAscii d = true ∧ d ≠ 'k' := by
    intro d member
    have listed := List.all_eq_true.mp keyword.spelling_letters d (spelled ▸ member)
    simpa using listed
  intro c member
  cases ascii : isAscii c with
  | true => rfl
  | false =>
    cases lowerChar_foreign ascii with
    | inl kelvin =>
      have small : 'k' ∈ lowerCase word := List.mem_flatMap.mpr ⟨c,member,by subst c; decide⟩
      exact absurd rfl (letters 'k' small).2
    | inr beyond =>
      obtain ⟨d,inside,foreign⟩ := beyond
      have known := (letters d (List.mem_flatMap.mpr ⟨c,member,inside⟩)).1
      rw [foreign] at known
      cases known

theorem ofWord?_respelled {word : List Char} {keyword : Keyword} :
    ofWord? word = some keyword ↔ keyword.Respelled word := by
  rw [ofWord?_exact]
  constructor
  · intro spelled
    have ascii := spelled_ascii spelled
    exact ⟨ascii,(lowerCase_ascii ascii).symm.trans spelled.symm⟩
  · intro same
    exact same.2.symm.trans (lowerCase_ascii same.1).symm

theorem ofWord?_foreign {word : List Char} (foreign : ∃ c ∈ word, isAscii c = false) : ofWord? word = none := by
  cases found : ofWord? word with
  | none => rfl
  | some keyword =>
    obtain ⟨c,member,beyond⟩ := foreign
    have ascii := (ofWord?_respelled.mp found).1 c member
    rw [beyond] at ascii
    cases ascii

end Keyword

-- Words are looked up by their lower case in all of Unicode, which can be longer, depends on
-- what follows, and leads from foreign letters to ASCII ones. Still the reserved words are the
-- ASCII spellings of their names in any case and nothing else, whatever form a sigma takes.
theorem reserved_caseless (word : String) :
    (∀ keyword, Keyword.ofWord? word.toList = some keyword ↔ keyword.Respelled word.toList) ∧
    ((∀ keyword : Keyword, ¬keyword.Respelled word.toList) → Keyword.ofWord? word.toList = none) ∧
    ((∃ c ∈ word.toList, isAscii c = false) → Keyword.ofWord? word.toList = none) ∧
    ∀ lowered, SigmaForms (lowerCase word.toList) lowered →
      Keyword.all.find? (fun keyword => keyword.spelling.toList = lowered) = Keyword.ofWord? word.toList := by
  refine ⟨fun keyword => Keyword.ofWord?_respelled,?_,Keyword.ofWord?_foreign,?_⟩
  · intro other
    apply Option.eq_none_iff_forall_ne_some.mpr
    intro keyword found
    exact other keyword (Keyword.ofWord?_respelled.mp found)
  · intro lowered forms
    have spelled (keyword : Keyword) :
        Keyword.all.find? (fun keyword => keyword.spelling.toList = lowered) = some keyword ↔
          keyword.spelling.toList = lowered :=
      find?_key_exact (fun keyword : Keyword => keyword.spelling.toList) Keyword.mem_all
        fun _ _ same => Keyword.spelling_injective (String.toList_inj.mp same)
    apply Option.ext
    intro keyword
    exact (spelled keyword).trans (Keyword.ofWord?_sigma forms).symm

theorem reserved_caseless_foreign :
    Keyword.functionKw.Respelled "FunCTion".toList ∧
      Keyword.ofWord? "FunCTion".toList = some .functionKw ∧
      (∃ c ∈ "dİm".toList, isAscii c = false) ∧ Keyword.ofWord? "dİm".toList = none ∧
      (∀ keyword : Keyword, ¬keyword.Respelled "dims".toList) ∧ Keyword.ofWord? "dims".toList = none ∧
      SigmaForms (lowerCase "AΣ".toList) "aς".toList ∧
      Keyword.all.find? (fun keyword => keyword.spelling.toList = "aς".toList) = Keyword.ofWord? "AΣ".toList := by
  have respelled : Keyword.functionKw.Respelled "FunCTion".toList := by
    refine ⟨?_,by decide⟩
    have all : "FunCTion".toList.all isAscii = true := by decide
    exact List.all_eq_true.mp all
  have foreign : ∃ c ∈ "dİm".toList, isAscii c = false := ⟨'İ',by decide,by decide⟩
  have other : ∀ keyword : Keyword, ¬keyword.Respelled "dims".toList := by
    intro keyword same
    cases keyword <;> exact absurd same.2 (by decide)
  have forms : SigmaForms (lowerCase "AΣ".toList) "aς".toList := by
    have lower : lowerCase "AΣ".toList = ['a','σ'] := by decide +kernel
    rw [lower]
    exact .cons (.inl rfl) (.cons (.inr ⟨rfl,rfl⟩) .nil)
  obtain ⟨listed,_,_,_⟩ := reserved_caseless "FunCTion"
  obtain ⟨_,_,unlisted,_⟩ := reserved_caseless "dİm"
  obtain ⟨_,longer,_,_⟩ := reserved_caseless "dims"
  obtain ⟨_,_,_,final⟩ := reserved_caseless "AΣ"
  exact ⟨respelled,(listed .functionKw).mpr respelled,foreign,unlisted foreign,other,longer other,
    forms,final "aς".toList forms⟩

end BasicLex
