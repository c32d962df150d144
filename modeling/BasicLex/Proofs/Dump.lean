import BasicLex.CommandLine
import BasicLex.Proofs.LineTable

namespace BasicLex
open Text

namespace Text

theorem hexDigits_class {p : Char → Bool} (digits : ∀ digit < 16, p (Nat.digitChar digit) = true) (code : Nat) :
    ∀ c ∈ Nat.toDigits 16 code, p c = true := by
  induction code using Nat.strongRecOn with
  | ind code ih =>
    by_cases small : code < 16
    · rw [Nat.toDigits_of_lt_base small]
      simpa using digits code small
    · have bound : 16 ≤ code := Nat.le_of_not_lt small
      rw [Nat.toDigits_of_base_le (by decide) bound]
      simp only [List.forall_mem_append,List.forall_mem_singleton]
      exact ⟨ih (code / 16) (by omega),digits (code % 16) (Nat.mod_lt _ (by decide))⟩

def isShown (c : Char) : Bool := Unicode.isPrintable c && !isMark c

theorem shown_exact {c : Char} : isShown c = true ↔ Unicode.isPrintable c = true ∧ isMark c = false := by
  simp [isShown]

theorem printable_lineEnd {c : Char} (printable : Unicode.isPrintable c = true) : isLineEnd c = false := by
  apply lineEnd_exact.mpr
  constructor
  · rintro rfl
    cases printable
  · rintro rfl
    cases printable

theorem shown_lineEnd {c : Char} (shown : isShown c = true) : isLineEnd c = false :=
  printable_lineEnd (shown_exact.mp shown).1

namespace EscapeStyle

def signs : List Char := ['\\','u','{','}','0','t','n','r','"','\'']

theorem letter?_sign {style : EscapeStyle} {c letter : Char} (found : style.letter? c = some letter) :
    letter ∈ signs := by
  unfold letter? at found
  split at found
  case h_7 =>
    split at found
    · cases found
      simp [signs]
    · cases found
  all_goals cases found
  all_goals simp [signs]

-- A class that holds all escapes holds whatever is written for a character, provided that
-- it holds the character itself where that is left as it is.
theorem char_class {p : Char → Bool} {style : EscapeStyle} {leading : Bool} {c : Char}
    (fixed : ∀ sign ∈ signs, p sign = true) (digits : ∀ digit < 16, p (Nat.digitChar digit) = true)
    (plain : style.needsCode leading c = false → p c = true) : ∀ d ∈ style.char leading c, p d = true := by
  have backslash : p '\\' = true := fixed '\\' (by simp [signs])
  unfold char
  split
  · rename_i letter found
    have written := fixed letter (letter?_sign found)
    simpa using ⟨backslash,written⟩
  · split
    · have letter : p 'u' = true := fixed 'u' (by simp [signs])
      have opened : p '{' = true := fixed '{' (by simp [signs])
      have closed : p '}' = true := fixed '}' (by simp [signs])
      have number := hexDigits_class digits c.toNat
      simp only [code,List.forall_mem_append,List.forall_mem_cons]
      exact ⟨⟨⟨backslash,letter,opened,by simp⟩,number⟩,closed,by simp⟩
    · rename_i passed
      simpa using plain (by simpa using passed)

theorem char_shown {style : EscapeStyle} (every : style.everyMark = true) (leading : Bool) (c : Char) :
    ∀ d ∈ style.char leading c, isShown d = true := by
  have fixed : signs.all isShown = true := by decide
  apply char_class
  · exact List.all_eq_true.mp fixed
  · decide
  · intro passed
    simpa [needsCode,every,isShown] using passed

end EscapeStyle

theorem quote_shown (text : String) : ∀ c ∈ (quote text).toList, isShown c = true := by
  have written : ∀ c ∈ EscapeStyle.quoted.write text.toList, isShown c = true := by
    rw [EscapeStyle.write_quoted]
    intro c member
    obtain ⟨d,_,part⟩ := List.mem_flatMap.mp member
    exact EscapeStyle.char_shown rfl false d c part
  simp only [quote,String.toList_ofList,List.cons_append,List.forall_mem_cons,List.forall_mem_append]
  exact ⟨rfl,written,rfl,by simp⟩

end Text

namespace Kind

theorem name_class (kind : Kind) : ∀ c ∈ kind.name.toList, isShown c = true ∧ c ≠ '(' := by
  have plain : kind.name.toList.all (fun c => isShown c && c != '(') = true := by
    cases kind with
    | keyword word => cases word <;> rfl
    | symbol mark => cases mark <;> rfl
    | _ => rfl
  simpa using plain

theorem name_nonempty (kind : Kind) : kind.name.toList ≠ [] := by
  cases kind with
  | keyword word => cases word <;> exact List.cons_ne_nil _ _
  | symbol mark => cases mark <;> exact List.cons_ne_nil _ _
  | _ => exact List.cons_ne_nil _ _

theorem name_unknown {kind : Kind} : kind.name.toList.head? = some 'u' ↔ kind = .unknown := by
  constructor
  · intro first
    cases kind with
    | keyword word => cases word <;> cases first
    | symbol mark => cases mark <;> cases first
    | unknown => rfl
    | _ => cases first
  · rintro rfl
    rfl

end Kind

namespace Token

theorem display_toList (token : Token) :
    token.display.toList = token.kind.name.toList ++ '(' :: ((quote token.lexeme).toList ++ [')']) := by
  simp [display]

theorem display_shown (token : Token) : ∀ c ∈ token.display.toList, isShown c = true := by
  rw [display_toList]
  simp only [List.forall_mem_append,List.forall_mem_cons]
  exact ⟨fun c member => (Kind.name_class _ c member).1,rfl,quote_shown _,rfl,by simp⟩

theorem display_lineEnd (token : Token) : ∀ c ∈ token.display.toList, isLineEnd c = false :=
  fun c member => shown_lineEnd (token.display_shown c member)

theorem display_unknown (token : Token) :
    "unknown(".toList <+: token.display.toList ↔ token.kind = .unknown := by
  rw [display_toList]
  constructor
  · rintro ⟨rest,same⟩
    apply Kind.name_unknown.mp
    rw [← List.head?_append_of_ne_nil _ (Kind.name_nonempty _),← same]
    rfl
  · intro strange
    rw [strange]
    exact ⟨_,rfl⟩

end Token

namespace CommandLine

def shownLine (token : Token) : Line := ⟨token.display.toList,['\n']⟩

theorem lines_dump (tokens : List Token) : lines (dump tokens).toList = tokens.map shownLine := by
  rw [dump,String.toList_ofList]
  induction tokens with
  | nil => exact lines_nil
  | cons token rest ih =>
    have feed (after : List Char) : Breaks ['\n'] after := by simp [Breaks,isLineEnd]
    rw [List.flatMap_cons,List.append_assoc,lines_ended token.display_lineEnd (.inl rfl) (feed _),ih]
    rfl

end CommandLine

end BasicLex
