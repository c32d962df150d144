import BasicLex.Text.ByteLength
import BasicLex.Token
import BasicLex.Unicode.Alphabetic
import BasicLex.Unicode.Numeric

namespace BasicLex

def isBlank (c : Char) : Bool := c == ' ' || c == '\t'

-- A word begins with an ASCII letter or an underscore, and only its later
-- characters may come from the whole of Unicode.
def isWordStart (c : Char) : Bool := c.isAlpha || c == '_'

def isWordPart (c : Char) : Bool := Unicode.isAlphabetic c || Unicode.isNumeric c || c == '_'

theorem ascii_of_alphanum {c : Char} (alphanum : c.isAlphanum = true) : Unicode.isAscii c = true := by
  delta Char.isAlphanum Char.isAlpha Char.isUpper Char.isLower Char.isDigit at alphanum
  simp only [Bool.or_eq_true,Bool.and_eq_true,decide_eq_true_eq,ge_iff_le,UInt32.le_iff_toNat_le] at alphanum
  simp only [Unicode.isAscii,decide_eq_true_eq,Char.toNat]
  have capital : 'Z'.val.toNat = 90 := rfl
  have small : 'z'.val.toNat = 122 := rfl
  have nine : '9'.val.toNat = 57 := rfl
  omega

theorem isWordStart_part {c : Char} (starts : isWordStart c = true) : isWordPart c = true := by
  rcases Bool.or_eq_true _ _ ▸ starts with letter | underscore
  · have ascii := ascii_of_alphanum (c := c) (Bool.or_eq_true _ _ ▸ Or.inl letter)
    simp [isWordPart,Unicode.isAlphabetic_ascii ascii,letter]
  · simp [isWordPart,underscore]

def isQuote (c : Char) : Bool := c == '"'

-- A token together with the characters it was written with and the byte offset
-- where they begin. The lexeme alone does not tell the spelling: a string may
-- lack its closing quote, and three spellings end a statement.
structure Piece where
  start : Nat
  spelling : List Char
  token : Token
deriving DecidableEq

namespace Piece

def stop (piece : Piece) : Nat := piece.start + Text.byteLength piece.spelling

def verbatim (start : Nat) (kind : Kind) (spelling : List Char) : Piece :=
  ⟨start,spelling,⟨kind,String.ofList spelling⟩⟩

def statementEnd (start : Nat) (spelling : List Char) : Piece := ⟨start,spelling,⟨.endOfStatement,""⟩⟩

def wordKind (word : List Char) : Kind :=
  match Keyword.ofWord? word with
  | some keyword => .keyword keyword
  | none => .identifier

def markKind (c : Char) : Kind :=
  match Symbol.ofChar? c with
  | some mark => .symbol mark
  | none => .unknown

def cut (start : Nat) (c : Char) (rest : List Char) : Piece × List Char :=
  if c = '\n' then (statementEnd start ['\n'],rest)
  else if c = '\r' then
    match rest with
    | '\n' :: after => (statementEnd start ['\r','\n'],after)
    | _ => (statementEnd start ['\r'],rest)
  else if isWordStart c then
    let word := c :: rest.takeWhile isWordPart
    (verbatim start (wordKind word) word,rest.dropWhile isWordPart)
  else if c.isDigit then
    (verbatim start .number (c :: rest.takeWhile Char.isDigit),rest.dropWhile Char.isDigit)
  else if isQuote c then
    let body := rest.takeWhile (!isQuote ·)
    let closing := rest.dropWhile (!isQuote ·)
    (⟨start,c :: body ++ closing.take 1,⟨.string,String.ofList body⟩⟩,closing.drop 1)
  else (verbatim start (markKind c) [c],rest)

theorem cut_lossless (start : Nat) (c : Char) (rest : List Char) :
    (cut start c rest).1.spelling ++ (cut start c rest).2 = c :: rest := by
  unfold cut
  split
  · subst c; rfl
  split
  · subst c; split <;> rfl
  split
  · simp [verbatim]
  split
  · simp [verbatim]
  split
  · simp only [List.cons_append,List.append_assoc,List.take_append_drop,List.takeWhile_append_dropWhile]
  · rfl

theorem cut_start (start : Nat) (c : Char) (rest : List Char) : (cut start c rest).1.start = start := by
  unfold cut
  repeat' split
  all_goals rfl

theorem cut_spelling (start : Nat) (c : Char) (rest : List Char) :
    ∃ more, (cut start c rest).1.spelling = c :: more := by
  unfold cut
  split
  · subst c; exact ⟨[],rfl⟩
  split
  · subst c; split <;> exact ⟨_,rfl⟩
  repeat' split
  all_goals exact ⟨_,rfl⟩

theorem cut_shorter (start : Nat) (c : Char) (rest : List Char) :
    (cut start c rest).2.length ≤ rest.length := by
  have whole := congrArg List.length (cut_lossless start c rest)
  obtain ⟨more,spelled⟩ := cut_spelling start c rest
  simp only [spelled,List.length_append,List.length_cons] at whole
  omega

end Piece

end BasicLex
