import BasicLex.Text.ByteLength

namespace BasicLex.Text

def isLineEnd (c : Char) : Bool := c == '\n' || c == '\r'

-- One line of a text with the characters that end it: a line feed, a carriage
-- return, or both as one pair. Only the last line may have no terminator.
structure Line where
  body : List Char
  terminator : List Char
deriving DecidableEq

namespace Line

def chars (line : Line) : List Char := line.body ++ line.terminator

def byteLength (line : Line) : Nat := Text.byteLength line.chars

def cut (text : List Char) : Line × List Char :=
  let body := text.takeWhile (!isLineEnd ·)
  match text.dropWhile (!isLineEnd ·) with
  | '\r' :: '\n' :: after => (⟨body,['\r','\n']⟩,after)
  | mark :: after => (⟨body,[mark]⟩,after)
  | [] => (⟨body,[]⟩,[])

theorem cut_lossless (text : List Char) : (cut text).1.chars ++ (cut text).2 = text := by
  have whole := List.takeWhile_append_dropWhile (p := (!isLineEnd ·)) (l := text)
  unfold cut
  split
  · rename_i left; rw [left] at whole; simpa [chars] using whole
  · rename_i left; rw [left] at whole; simpa [chars] using whole
  · rename_i left; rw [left] at whole; simpa [chars] using whole

theorem cut_nonempty {text : List Char} (some_left : text ≠ []) : (cut text).1.chars ≠ [] := by
  intro empty
  have whole := cut_lossless text
  unfold cut at empty whole
  split at empty <;> simp_all [chars]

theorem cut_shorter {text : List Char} (some_left : text ≠ []) : (cut text).2.length < text.length := by
  have whole := congrArg List.length (cut_lossless text)
  have taken := List.length_pos_iff.mpr (cut_nonempty some_left)
  rw [List.length_append] at whole
  omega

end Line

def lines (text : List Char) : List Line :=
  if _some_left : text = [] then [] else (Line.cut text).1 :: lines (Line.cut text).2
termination_by text.length
decreasing_by exact Line.cut_shorter _some_left

theorem lines_nil : lines [] = [] := by rw [lines]; rfl

theorem lines_step {text : List Char} (some_left : text ≠ []) :
    lines text = (Line.cut text).1 :: lines (Line.cut text).2 := by
  rw [lines,dif_neg some_left]

theorem lines_lossless (text : List Char) : (lines text).flatMap Line.chars = text := by
  by_cases empty : text = []
  · subst text; rw [lines_nil]; rfl
  · rw [lines_step empty,List.flatMap_cons,lines_lossless (Line.cut text).2]
    exact Line.cut_lossless text
termination_by text.length
decreasing_by exact Line.cut_shorter empty

structure Location where
  number : Nat
  text : List Char
  column : Nat
deriving DecidableEq

def charCount? (seen : Nat) : List Char → Nat → Option Nat
  | _,0 => some seen
  | [],_ + 1 => none
  | c :: rest,bytes + 1 =>
    if c.utf8Size ≤ bytes + 1 then charCount? (seen + 1) rest (bytes + 1 - c.utf8Size) else none

-- Columns count characters. Inside a character there is no such count, and the
-- bytes before it stand in; so a column there may exceed the next one.
def columnAt (text : List Char) (offset : Nat) : Nat := (charCount? 0 text offset).getD offset

def locateIn (number : Nat) : List Line → Nat → Option Location
  | [],_ => none
  | line :: rest,offset =>
    if offset < line.byteLength then some ⟨number,line.body,columnAt line.chars offset⟩
    else locateIn (number + 1) rest (offset - line.byteLength)

def locate (text : List Char) (offset : Nat) : Option Location := locateIn 1 (lines text) offset

end BasicLex.Text
