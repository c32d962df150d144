import BasicLex.Proofs.Progress
import BasicLex.Strict
import Mathlib.Data.List.Forall2

namespace BasicLex
open Text

theorem toLower_toNat (c : Char) :
    c.toLower.toNat = if 65 ≤ c.toNat ∧ c.toNat ≤ 90 then c.toNat + 32 else c.toNat := by
  have first : 'A'.val.toNat = 65 := rfl
  have last : 'Z'.val.toNat = 90 := rfl
  have distance : ('a'.val - 'A'.val).toNat = 32 := rfl
  delta Char.toLower Char.toNat
  split
  · rename_i capital
    simp only [ge_iff_le,UInt32.le_iff_toNat_le,first,last] at capital
    rw [if_pos capital,UInt32.toNat_add,distance]
    omega
  · rename_i other
    simp only [ge_iff_le,UInt32.le_iff_toNat_le,first,last] at other
    rw [if_neg other]

theorem isAlpha_toNat (c : Char) : c.isAlpha = true ↔
    (65 ≤ c.toNat ∧ c.toNat ≤ 90) ∨ (97 ≤ c.toNat ∧ c.toNat ≤ 122) := by
  have capital : 'A'.val.toNat = 65 := rfl
  have capital_last : 'Z'.val.toNat = 90 := rfl
  have small : 'a'.val.toNat = 97 := rfl
  have small_last : 'z'.val.toNat = 122 := rfl
  delta Char.isAlpha Char.isUpper Char.isLower Char.toNat
  simp only [Bool.or_eq_true,Bool.and_eq_true,decide_eq_true_eq,ge_iff_le,UInt32.le_iff_toNat_le,
    capital,capital_last,small,small_last]

theorem toLower_same {c d : Char} (same : c.toLower = d.toLower) :
    c = d ∨ (c.isAlpha = true ∧ d.isAlpha = true) := by
  have codes := congrArg Char.toNat same
  rw [toLower_toNat,toLower_toNat] at codes
  rw [isAlpha_toNat,isAlpha_toNat]
  by_cases equal : c.toNat = d.toNat
  · exact .inl (Char.toNat_inj.mp equal)
  · right
    split at codes <;> split at codes <;> omega

theorem toLower_other {c d : Char} (same : c.toLower = d.toLower) (other : c.isAlpha = false) : c = d := by
  rcases toLower_same same with equal | ⟨letter,_⟩
  · exact equal
  · rw [other] at letter
    cases letter

theorem class_toLower {p : Char → Bool} (value : Bool)
    (letters : ∀ c : Char, c.isAlpha = true → p c = value) {c d : Char} (same : c.toLower = d.toLower) :
    p c = p d := by
  rcases toLower_same same with rfl | ⟨letter,other⟩
  · rfl
  · rw [letters c letter,letters d other]

section
variable {c d : Char}

theorem letter_start (letter : c.isAlpha = true) : isWordStart c = true := by simp [isWordStart,letter]

theorem isWordStart_toLower (same : c.toLower = d.toLower) : isWordStart c = isWordStart d :=
  class_toLower true (fun _ letter => letter_start letter) same

theorem isWordPart_toLower (same : c.toLower = d.toLower) : isWordPart c = isWordPart d :=
  class_toLower true (fun _ letter => isWordStart_part (letter_start letter)) same

theorem letter_size (letter : c.isAlpha = true) : c.utf8Size = 1 := by
  apply Char.utf8Size_eq_one_iff.mpr
  have codes := (isAlpha_toNat c).mp letter
  rw [Char.toNat] at codes
  rw [UInt32.le_iff_toNat_le]
  show c.val.toNat ≤ 127
  omega

theorem digit_not_letter (digit : c.isDigit = true) : c.isAlpha = false := by
  have start := digit_not_start digit
  simp only [isWordStart,Bool.or_eq_false_iff] at start
  exact start.1

theorem unrecognised_not_letter (strange : isRecognised c = false) : c.isAlpha = false := by
  have start := (unrecognised_exact.mp strange).2.2.1
  simp only [isWordStart,Bool.or_eq_false_iff] at start
  exact start.1

theorem isDigit_toLower (same : c.toLower = d.toLower) : c.isDigit = d.isDigit := by
  apply class_toLower false _ same
  intro e letter
  apply Bool.eq_false_iff.mpr
  intro digit
  rw [digit_not_letter digit] at letter
  cases letter

theorem isQuote_toLower (same : c.toLower = d.toLower) : isQuote c = isQuote d := by
  apply class_toLower false _ same
  intro e letter
  exact beq_false_of_ne (ne_of_class letter rfl)

end

namespace Text

def Recased (left right : List Char) : Prop := left.map Char.toLower = right.map Char.toLower

instance (left right : List Char) : Decidable (Recased left right) :=
  inferInstanceAs (Decidable (_ = _))

namespace Recased
variable {left right : List Char}

theorem refl (text : List Char) : Recased text text := rfl

theorem symm (same : Recased left right) : Recased right left := Eq.symm same

theorem cons {c : Char} (same : Recased (c :: left) right) :
    ∃ d rest, right = d :: rest ∧ c.toLower = d.toLower ∧ Recased left rest := by
  cases right with
  | nil => cases same
  | cons d rest =>
    obtain ⟨first,later⟩ := List.cons.inj same
    exact ⟨d,rest,rfl,first,later⟩

theorem append {front back : List Char} (same : Recased (front ++ back) right) :
    ∃ other later, right = other ++ later ∧ Recased front other ∧ Recased back later := by
  have split : right.map Char.toLower = front.map Char.toLower ++ back.map Char.toLower := by
    rw [← List.map_append]
    exact same.symm
  obtain ⟨other,later,whole,first,rest⟩ := List.map_eq_append_iff.mp split
  exact ⟨other,later,whole,first.symm,rest.symm⟩

theorem other {text : List Char} (plain : ∀ c ∈ text, c.isAlpha = false) (same : Recased text right) :
    text = right := by
  induction text generalizing right with
  | nil => exact (List.map_eq_nil_iff.mp (Eq.symm same)).symm
  | cons c text ih =>
    obtain ⟨plain_first,plain⟩ := List.forall_mem_cons.mp plain
    obtain ⟨d,rest,rfl,first,later⟩ := same.cons
    rw [toLower_other first plain_first,ih plain later]

theorem all {p : Char → Bool} {value : Bool} (blind : ∀ c d : Char, c.toLower = d.toLower → p c = p d)
    (same : Recased left right) (all : ∀ c ∈ left, p c = value) : ∀ d ∈ right, p d = value := by
  induction left generalizing right with
  | nil =>
    rw [← other (by simp) same]
    simp
  | cons c left ih =>
    obtain ⟨first_all,all⟩ := List.forall_mem_cons.mp all
    obtain ⟨d,rest,rfl,first,later⟩ := same.cons
    exact List.forall_mem_cons.mpr ⟨(blind c d first).symm.trans first_all,ih later all⟩

theorem word {c : Char} (same : Recased (c :: left) right) (starts : isWordStart c = true)
    (parts : ∀ d ∈ left, isWordPart d = true) :
    ∃ d rest, right = d :: rest ∧ isWordStart d = true ∧ ∀ e ∈ rest, isWordPart e = true := by
  obtain ⟨d,rest,rfl,first,later⟩ := same.cons
  exact ⟨d,rest,rfl,(isWordStart_toLower first).symm.trans starts,
    later.all (fun _ _ => isWordPart_toLower) parts⟩

theorem head (same : Recased left right) : ∀ d ∈ right.head?, ∃ c ∈ left.head?, c.toLower = d.toLower := by
  intro d first
  obtain ⟨rest,rfl⟩ := List.head?_eq_some_iff.mp first
  obtain ⟨c,_,rfl,lower,_⟩ := same.symm.cons
  exact ⟨c,rfl,lower.symm⟩

theorem byteLength (same : Recased left right) : byteLength left = Text.byteLength right := by
  induction left generalizing right with
  | nil => rw [← other (by simp) same]
  | cons c left ih =>
    obtain ⟨d,rest,rfl,first,later⟩ := same.cons
    have size : c.utf8Size = d.utf8Size := by
      rcases toLower_same first with rfl | ⟨letter,other⟩
      · rfl
      · rw [letter_size letter,letter_size other]
    rw [byteLength_cons,byteLength_cons,size,ih later]

end Recased
end Text

namespace Unicode

theorem lowerChar_recased {c d : Char} (same : c.toLower = d.toLower) : lowerChar c = lowerChar d := by
  rcases toLower_same same with rfl | ⟨letter,other⟩
  · rfl
  · have ascii {e : Char} (letter : e.isAlpha = true) : isAscii e = true :=
      ascii_of_alphanum (Bool.or_eq_true _ _ ▸ Or.inl letter)
    rw [lowerChar,lowerChar,if_pos (ascii letter),if_pos (ascii other),same]

theorem lowerCase_recased {left right : List Char} (same : Recased left right) :
    lowerCase left = lowerCase right := by
  induction left generalizing right with
  | nil => rw [← Recased.other (by simp) same]
  | cons c left ih =>
    obtain ⟨d,rest,rfl,first,later⟩ := same.cons
    have rest_same := ih later
    simp only [lowerCase,List.flatMap_cons] at rest_same ⊢
    rw [lowerChar_recased first,rest_same]

end Unicode

theorem Keyword.ofWord?_recased {left right : List Char} (same : Recased left right) :
    ofWord? left = ofWord? right := by
  rw [ofWord?,ofWord?,Unicode.lowerCase_recased same]

-- At the end of a word the lower case of a capital sigma has a form of its own. The second
-- text may have this form wherever the first has the other one.
def Unicode.SigmaForms (lower lowered : List Char) : Prop :=
  List.Forall₂ (fun c d => d = c ∨ (c = 'σ' ∧ d = 'ς')) lower lowered

theorem Unicode.SigmaForms.same {lower lowered : List Char} (forms : SigmaForms lower lowered)
    (absent : 'σ' ∉ lower ∨ 'ς' ∉ lowered) : lower = lowered := by
  induction forms with
  | nil => rfl
  | @cons c d lower lowered form _ ih =>
    have equal : d = c := by
      rcases form with equal | ⟨rfl,rfl⟩
      · exact equal
      · simp at absent
    have later : 'σ' ∉ lower ∨ 'ς' ∉ lowered := by
      rcases absent with absent | absent
      · exact .inl fun member => absent (List.mem_cons_of_mem _ member)
      · exact .inr fun member => absent (List.mem_cons_of_mem _ member)
    rw [equal,ih later]

theorem Keyword.ofWord?_sigma {word lowered : List Char} {keyword : Keyword}
    (forms : Unicode.SigmaForms (Unicode.lowerCase word) lowered) :
    ofWord? word = some keyword ↔ keyword.spelling.toList = lowered := by
  have letters : 'σ' ∉ keyword.spelling.toList ∧ 'ς' ∉ keyword.spelling.toList := by
    cases keyword <;> decide
  rw [ofWord?_exact]
  constructor
  · intro spelled
    rw [spelled]
    exact forms.same (.inl (spelled ▸ letters.1))
  · intro spelled
    rw [spelled]
    exact (forms.same (.inr (spelled ▸ letters.2))).symm

structure Token.Recased (left right : Token) : Prop where
  kind : left.kind = right.kind
  lexeme : Text.Recased left.lexeme.toList right.lexeme.toList

theorem Token.Recased.refl (token : Token) : Recased token token := ⟨rfl,.refl _⟩

theorem Token.Recased.of_lexeme (kind : Kind) {left right : List Char} (same : Text.Recased left right) :
    Recased ⟨kind,String.ofList left⟩ ⟨kind,String.ofList right⟩ :=
  ⟨rfl,by simpa using same⟩

theorem Spells.recased {token : Token} {spelling other : List Char} (spelled : Spells token spelling)
    (same : Recased spelling other) : ∃ counterpart, Spells counterpart other ∧ token.Recased counterpart := by
  -- A spelling without letters has no other case; words and strings may have one.
  have fixed (plain : ∀ c ∈ spelling, c.isAlpha = false) :
      ∃ counterpart, Spells counterpart other ∧ token.Recased counterpart :=
    ⟨token,same.other plain ▸ spelled,.refl token⟩
  cases spelled with
  | number written all => exact fixed fun c member => digit_not_letter (all c member)
  | identifier starts parts free =>
    obtain ⟨d,rest,rfl,starts_other,parts_other⟩ := same.word starts parts
    have free_other : Keyword.ofWord? (d :: rest) = none := (Keyword.ofWord?_recased same).symm.trans free
    exact ⟨_,.identifier starts_other parts_other free_other,.of_lexeme _ same⟩
  | @keyword _ _ word starts parts reserved =>
    obtain ⟨d,rest,rfl,starts_other,parts_other⟩ := same.word starts parts
    have reserved_other : Keyword.ofWord? (d :: rest) = some word :=
      (Keyword.ofWord?_recased same).symm.trans reserved
    exact ⟨_,.keyword starts_other parts_other reserved_other,.of_lexeme _ same⟩
  | @string body inside =>
    obtain ⟨d,rest,rfl,first,later⟩ := same.cons
    obtain rfl := toLower_other first rfl
    obtain ⟨middle,closing,rfl,inner,last⟩ := later.append
    obtain rfl := last.other (by simp)
    have inside_other := inner.all (fun _ _ => isQuote_toLower) inside
    exact ⟨_,.string inside_other,.of_lexeme _ inner⟩
  | symbol mark => exact fixed (by cases mark <;> simp [Symbol.char])
  | unknown strange => exact fixed (by simpa using unrecognised_not_letter strange)
  | lineFeed => exact fixed (by simp)
  | carriageReturn => exact fixed (by simp)
  | pair => exact fixed (by simp)

theorem SpellsOpen.recased {token : Token} {spelling other : List Char} (opened : SpellsOpen token spelling)
    (same : Recased spelling other) :
    ∃ counterpart, SpellsOpen counterpart other ∧ token.Recased counterpart := by
  obtain ⟨body,inside,rfl,rfl⟩ := opened
  obtain ⟨d,rest,rfl,first,later⟩ := same.cons
  obtain rfl := toLower_other first rfl
  exact ⟨_,⟨rest,later.all (fun _ _ => isQuote_toLower) inside,rfl,rfl⟩,.of_lexeme _ later⟩

theorem absorbs_recased {token counterpart : Token} {spelling other : List Char} {c d : Char}
    (kind : token.kind = counterpart.kind) (same : Recased spelling other) (next : c.toLower = d.toLower) :
    absorbs token spelling c = absorbs counterpart other d := by
  have lone : (spelling == ['\r']) = (other == ['\r']) := by
    apply Bool.eq_iff_iff.mpr
    rw [beq_iff_eq,beq_iff_eq]
    constructor
    · rintro rfl
      exact (same.other (by simp)).symm
    · rintro rfl
      exact (same.symm.other (by simp)).symm
  have feed : (c == '\n') = (d == '\n') :=
    class_toLower (p := (· == '\n')) false
      (fun _ letter => beq_false_of_ne (ne_of_class letter rfl)) next
  unfold absorbs
  rw [kind,lone,feed,isWordPart_toLower next,isDigit_toLower next]

structure Piece.Recased (left right : Piece) : Prop where
  start : left.start = right.start
  spelling : Text.Recased left.spelling right.spelling
  token : left.token.Recased right.token

structure Cursor.Recased (left right : Cursor) : Prop where
  offset : left.offset = right.offset
  rest : Text.Recased left.rest right.rest

theorem Cursor.Recased.symm {left right : Cursor} (same : left.Recased right) : right.Recased left :=
  ⟨same.offset.symm,same.rest.symm⟩

-- Cut at the same places, the other text has a token of the same kind there. It is no shorter
-- than it could be, since the character behind it is of the same classes.
theorem Reads.recased {left right after : Cursor} {gap : List Char} {piece : Piece}
    (read : Reads left gap piece after) (same : left.Recased right) :
    ∃ other later, Reads right gap other later ∧ piece.Recased other ∧ after.Recased later := by
  obtain ⟨offset,rest⟩ := same
  rw [read.text] at rest
  obtain ⟨blanks,others,whole,gap_same,others_same⟩ := rest.append
  obtain ⟨spelling,remainder,rfl,spelling_same,remainder_same⟩ := others_same.append
  have plain_gap : ∀ c ∈ gap, c.isAlpha = false := by
    intro c member
    rcases blank_cases (read.blank c member) with rfl | rfl <;> rfl
  obtain rfl := gap_same.other plain_gap
  have counterpart : ∃ token, (Spells token spelling ∨ (SpellsOpen token spelling ∧ remainder = [])) ∧
      piece.token.Recased token := by
    rcases read.spelled with spelled | ⟨opened,ended⟩
    · obtain ⟨token,spells,alike⟩ := spelled.recased spelling_same
      exact ⟨token,.inl spells,alike⟩
    · obtain ⟨token,opens,alike⟩ := opened.recased spelling_same
      rw [ended] at remainder_same
      exact ⟨token,.inr ⟨opens,(remainder_same.other (by simp)).symm⟩,alike⟩
  obtain ⟨token,spells,alike⟩ := counterpart
  refine ⟨⟨piece.start,spelling,token⟩,⟨after.offset,remainder⟩,?_,⟨rfl,spelling_same,alike⟩,
    ⟨rfl,remainder_same⟩⟩
  refine ⟨read.blank,whole,?_,?_,spells,?_⟩
  · rw [← offset]
    exact read.start
  · rw [← offset,← spelling_same.byteLength]
    exact read.stop
  · intro d first
    obtain ⟨c,found,lower⟩ := remainder_same.head d first
    rw [← absorbs_recased alike.kind spelling_same lower]
    exact read.bounded c found

namespace Cursor.Recased
variable {left right : Cursor}

theorem next?_found {piece : Piece} {after : Cursor} (same : left.Recased right)
    (found : left.next? = some (piece,after)) :
    ∃ other later, right.next? = some (other,later) ∧ piece.Recased other ∧ after.Recased later := by
  obtain ⟨other,later,read,alike,behind⟩ := (next?_sound found).recased same
  exact ⟨other,later,read.next?,alike,behind⟩

theorem next?_ended (same : left.Recased right) (ended : left.next? = none) : right.next? = none := by
  cases found : right.next? with
  | none => rfl
  | some step =>
    obtain ⟨_,_,again,_⟩ := same.symm.next?_found found
    rw [ended] at again
    cases again

theorem finish (same : left.Recased right) : left.finish.Recased right.finish := by
  refine ⟨?_,.refl _⟩
  rw [Cursor.finish,Cursor.finish,same.offset,same.rest.byteLength]

theorem next (same : left.Recased right) :
    left.next.1.Recased right.next.1 ∧ left.next.2.Recased right.next.2 := by
  cases found : left.next? with
  | none =>
    rw [Cursor.next,Cursor.next,found,same.next?_ended found]
    exact ⟨.refl _,same.finish⟩
  | some step =>
    obtain ⟨piece,after⟩ := step
    obtain ⟨other,later,again,alike,behind⟩ := same.next?_found found
    rw [Cursor.next,Cursor.next,found,again]
    exact ⟨alike.token,behind⟩

theorem calls (same : left.Recased right) (count : Nat) :
    List.Forall₂ (fun call other => call.1.Recased other.1 ∧ call.2.offset = other.2.offset)
      (Cursor.calls count left) (Cursor.calls count right) := by
  induction count generalizing left right with
  | zero => exact .nil
  | succ count ih =>
    obtain ⟨token,behind⟩ := same.next
    exact .cons ⟨token,behind.offset⟩ (ih behind)

theorem tokens (same : left.Recased right) : List.Forall₂ Token.Recased left.tokens right.tokens := by
  induction left using run_induction generalizing right with
  | ended left ended =>
    rw [tokens_end ended,tokens_end (same.next?_ended ended)]
    exact .nil
  | step left piece after found ih =>
    obtain ⟨other,later,again,alike,behind⟩ := same.next?_found found
    rw [tokens_step found,tokens_step again]
    exact .cons alike.token (ih behind)

end Cursor.Recased

-- A rejected character is no letter, so it is rejected as it stands.
theorem Reads.recased_unknown {left right after later : Cursor} {gap : List Char} {piece other : Piece}
    (read : Reads left gap piece after) (again : Reads right gap other later) (alike : piece.Recased other)
    (strange : piece.token.kind = .unknown) : other = piece := by
  obtain ⟨c,spelling,token,unrecognised⟩ := spelled_unknown read.spelled strange
  obtain ⟨d,other_spelling,other_token,_⟩ :=
    spelled_unknown again.spelled (alike.token.kind.symm.trans strange)
  have same := alike.spelling
  rw [spelling] at same
  have single := same.other (by simpa using unrecognised_not_letter unrecognised)
  rw [other_spelling] at single
  obtain rfl : c = d := by simpa using single
  obtain ⟨start,_,_⟩ := piece
  obtain ⟨other_start,_,_⟩ := other
  obtain rfl : start = other_start := alike.start
  subst spelling token other_spelling other_token
  rfl

theorem StrictRun.ofCursor_recased {left right : Cursor} (same : left.Recased right) :
    (∃ tokens others, (ofCursor left).outcome = .ok tokens ∧ (ofCursor right).outcome = .ok others ∧
      List.Forall₂ Token.Recased tokens others) ∨
    ∃ piece, (ofCursor left).outcome = .error piece ∧ (ofCursor right).outcome = .error piece := by
  induction left using Cursor.run_induction generalizing right with
  | ended left ended =>
    left
    rw [ofCursor_end ended,ofCursor_end (same.next?_ended ended)]
    exact ⟨_,_,rfl,rfl,.cons (.refl _) .nil⟩
  | step left piece after found ih =>
    have read := Cursor.next?_sound found
    obtain ⟨other,later,again,alike,behind⟩ := read.recased same
    rw [ofCursor_step found,ofCursor_step again.next?,← alike.token.kind]
    by_cases strange : piece.token.kind = .unknown
    · right
      rw [if_pos strange,if_pos strange,read.recased_unknown again alike strange]
      exact ⟨piece,rfl,rfl⟩
    · rw [if_neg strange,if_neg strange]
      rcases ih behind with ⟨tokens,others,first,second,pairs⟩ | ⟨rejected,first,second⟩
      · left
        refine ⟨piece.token :: tokens,other.token :: others,?_,?_,.cons alike.token pairs⟩
        · rw [prepend,first]
          rfl
        · rw [prepend,second]
          rfl
      · right
        refine ⟨rejected,?_,?_⟩
        · rw [prepend,first]
          rfl
        · rw [prepend,second]
          rfl

-- Two texts that differ in the case of letters alone are read in step, call by call and
-- beyond the end. Lexemes differ where the texts do, and a strict reading rejects neither or
-- both, for the same character at the same byte.
theorem scan_recased {left right : String} (same : Recased left.toList right.toList)
    (file : Option String) :
    (Cursor.ofSource left).tokens.length = (Cursor.ofSource right).tokens.length ∧
    (∀ count, List.Forall₂ (fun call other => call.1.kind = other.1.kind ∧
        Recased call.1.lexeme.toList other.1.lexeme.toList ∧ call.2.offset = other.2.offset)
      (Cursor.calls count (.ofSource left)) (Cursor.calls count (.ofSource right))) ∧
    ((∃ tokens others, tokenize left file = .ok tokens ∧ tokenize right file = .ok others ∧
        List.Forall₂ Token.Recased tokens others) ∨
      ∃ diagnostic, tokenize left file = .error diagnostic ∧ tokenize right file = .error diagnostic) := by
  have start : (Cursor.ofSource left).Recased (.ofSource right) := ⟨rfl,same⟩
  refine ⟨start.tokens.length_eq,?_,?_⟩
  · intro count
    exact (start.calls count).imp fun _ _ alike => ⟨alike.1.kind,alike.1.lexeme,alike.2⟩
  · rcases StrictRun.ofCursor_recased start with ⟨tokens,others,first,second,pairs⟩ | ⟨piece,first,second⟩
    · left
      refine ⟨tokens,others,?_,?_,pairs⟩
      · rw [tokenize,StrictRun.ofSource,first]
        rfl
      · rw [tokenize,StrictRun.ofSource,second]
        rfl
    · right
      refine ⟨rejection (file.getD unnamedSource) piece,?_,?_⟩
      · rw [tokenize,StrictRun.ofSource,first]
        rfl
      · rw [tokenize,StrictRun.ofSource,second]
        rfl

theorem scan_recased_mixed :
    let left := "DIM éS \"Ab\"\r\nexternÉ K#x"
    let right := "dim éS \"aB\"\r\nEXTERNÉ k#X"
    let diagnostic : Diagnostic := ⟨.unrecognisedToken "é",⟨4,"shell"⟩⟩
    Recased left.toList right.toList ∧ (Cursor.ofSource right).tokens.length = 9 ∧
      List.Forall₂ (fun call other => call.1.kind = other.1.kind ∧
          Recased call.1.lexeme.toList other.1.lexeme.toList ∧ call.2.offset = other.2.offset)
        (Cursor.calls 12 (.ofSource left)) (Cursor.calls 12 (.ofSource right)) ∧
      tokenize left none = .error diagnostic ∧ tokenize right none = .error diagnostic := by
  intro left right diagnostic
  have same : Recased left.toList right.toList := by decide +kernel
  have count : (Cursor.ofSource left).tokens.length = 9 := by decide +kernel
  have rejected : tokenize left none = .error diagnostic := by decide +kernel
  obtain ⟨length,calls,outcome⟩ := scan_recased same none
  refine ⟨same,length.symm.trans count,calls 12,rejected,?_⟩
  rcases outcome with ⟨tokens,_,read,_⟩ | ⟨other,failed,again⟩
  · rw [rejected] at read
    cases read
  · obtain rfl := Except.error.inj (rejected.symm.trans failed)
    exact again

end BasicLex
