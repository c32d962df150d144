import BasicLex.Diagnostic
import BasicLex.Piece
import BasicLex.Text.Line
import BasicLex.Unicode.WhiteSpace

namespace BasicLex

inductive LayoutFailure where
  | caretTooWide
deriving DecidableEq

def LayoutFailure.message : LayoutFailure → String
  | .caretTooWide => "Formatting argument out of range"

namespace Diagnostic

def largestCaretWidth : Nat := 65535

def headline (diagnostic : Diagnostic) : String :=
  let cause := diagnostic.cause
  let detail := if cause.hasSourcePosition then cause.tip else some cause.message
  match detail with
  | some detail => "Error: " ++ cause.name ++ " (" ++ detail ++ ")\n"
  | none => "Error: " ++ cause.name ++ "\n"

def trimEnd (text : List Char) : List Char := (text.reverse.dropWhile Unicode.isWhiteSpace).reverse

def indent (line : List Char) : Nat := (line.takeWhile isBlank).length

def shownText (line : List Char) : List Char := trimEnd (line.dropWhile isBlank)

-- Counted from one within the shown text. A place inside the indentation is
-- moved to the first shown character.
def caretWidth (location : Text.Location) : Nat := location.column - indent location.text + 1

def margin (number : Nat) : String :=
  String.ofList (List.replicate ((Nat.toDigits 10 number).length + 1) ' ') ++ "|"

def excerpt (location : Text.Location) : Except LayoutFailure String :=
  if largestCaretWidth < caretWidth location then .error .caretTooWide
  else .ok (margin location.number ++ "\n" ++
    Nat.repr location.number ++ " | " ++ String.ofList (shownText location.text) ++ "\n" ++
    margin location.number ++ " " ++
      String.ofList (List.replicate (caretWidth location - 1) '-' ++ ['^']) ++ "\n")

def render (diagnostic : Diagnostic) (content : String) : Except LayoutFailure String :=
  if diagnostic.cause.hasSourcePosition then
    let opening := diagnostic.headline ++ "-> " ++ diagnostic.position.file ++ "\n"
    match Text.locate content.toList diagnostic.position.offset.toNat with
    | none => .ok opening
    | some location => (excerpt location).map (opening ++ ·)
  else .ok diagnostic.headline

end Diagnostic

end BasicLex
