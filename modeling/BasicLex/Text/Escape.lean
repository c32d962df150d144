import BasicLex.Unicode.GraphemeExtend
import BasicLex.Unicode.Printable

namespace BasicLex.Text
open Unicode

-- The halfwidth sound marks of Japanese extend a grapheme and yet take a place of their own.
def isSoundMark (c : Char) : Bool := c == '\uFF9E' || c == '\uFF9F'

def isMark (c : Char) : Bool := isGraphemeExtend c && !isSoundMark c

theorem isMark_exact {c : Char} : isMark c = false ↔
    (isGraphemeExtend c = true → c = '\uFF9E' ∨ c = '\uFF9F') := by
  have sound : isSoundMark c = true ↔ c = '\uFF9E' ∨ c = '\uFF9F' := by simp [isSoundMark]
  rw [← sound]
  simp [isMark]

-- Styles differ in the apostrophe and in marks that join the character before
-- them: a mark at the very start has nothing to join and is a code in any style.
structure EscapeStyle where
  apostrophe : Bool
  everyMark : Bool

namespace EscapeStyle

def quoted : EscapeStyle := ⟨false,true⟩

def bare : EscapeStyle := ⟨true,false⟩

def letter? (style : EscapeStyle) : Char → Option Char
  | '\x00' => some '0'
  | '\t' => some 't'
  | '\n' => some 'n'
  | '\r' => some 'r'
  | '\\' => some '\\'
  | '"' => some '"'
  | '\'' => if style.apostrophe then some '\'' else none
  | _ => none

def code (c : Char) : List Char := ['\\','u','{'] ++ Nat.toDigits 16 c.toNat ++ ['}']

def needsCode (style : EscapeStyle) (leading : Bool) (c : Char) : Bool :=
  !isPrintable c || ((leading || style.everyMark) && isMark c)

def char (style : EscapeStyle) (leading : Bool) (c : Char) : List Char :=
  match style.letter? c with
  | some letter => ['\\',letter]
  | none => if style.needsCode leading c then code c else [c]

def write (style : EscapeStyle) : List Char → List Char
  | [] => []
  | c :: rest => style.char true c ++ rest.flatMap (style.char false)

end EscapeStyle

def quote (text : String) : String :=
  String.ofList ('"' :: EscapeStyle.quoted.write text.toList ++ ['"'])

def escapeBare (text : String) : String := String.ofList (EscapeStyle.bare.write text.toList)

theorem EscapeStyle.write_everyMark {style : EscapeStyle} (every : style.everyMark = true)
    (text : List Char) : style.write text = text.flatMap (style.char false) := by
  cases text with
  | nil => rfl
  | cons c rest => simp [write,char,needsCode,every]

theorem EscapeStyle.write_quoted (text : List Char) :
    quoted.write text = text.flatMap (quoted.char false) := write_everyMark rfl text

end BasicLex.Text
