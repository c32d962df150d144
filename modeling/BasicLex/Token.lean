import BasicLex.Text.Escape
import BasicLex.Token.Kind

namespace BasicLex

-- One classified part of a source. A string carries the text between its
-- quotes, the two end markers carry nothing, every other kind the exact
-- characters it was read from. The type itself does not tie lexeme to kind.
structure Token where
  kind : Kind
  lexeme : String
deriving DecidableEq

namespace Token

def eof : Token := ⟨.endOfFile,""⟩

def is (token : Token) (kind : Kind) : Bool := token.kind == kind

def display (token : Token) : String := token.kind.name ++ "(" ++ Text.quote token.lexeme ++ ")"

theorem is_exact {token : Token} {kind : Kind} : token.is kind = true ↔ token.kind = kind := by
  simp [is]

end Token

end BasicLex
