import BasicLex.Unicode.LowerCase

namespace BasicLex

theorem find?_key_exact {α β : Type} [DecidableEq β] {values : List α} (key : α → β)
    (complete : ∀ value, value ∈ values) (injective : ∀ left right, key left = key right → left = right)
    {target : β} {value : α} :
    values.find? (fun other => key other = target) = some value ↔ key value = target := by
  constructor
  · intro found; simpa using List.find?_some found
  · intro keyed
    cases found : values.find? (fun other => key other = target) with
    | none => exact absurd keyed (by simpa using List.find?_eq_none.mp found value (complete value))
    | some other =>
      have keyedOther : key other = target := by simpa using List.find?_some found
      exact congrArg some (injective other value (keyedOther.trans keyed.symm))

inductive Keyword where
  | externKw | dimKw | asKw | declareKw | functionKw
deriving DecidableEq

inductive Symbol where
  | assign | parenOpen | parenClose | comma
deriving DecidableEq

inductive Kind where
  | unknown
  | endOfFile
  | endOfStatement
  | number
  | identifier
  | string
  | keyword (word : Keyword)
  | symbol (mark : Symbol)
deriving DecidableEq

namespace Keyword

def all : List Keyword := [.externKw,.dimKw,.asKw,.declareKw,.functionKw]

def spelling : Keyword → String
  | .externKw => "extern"
  | .dimKw => "dim"
  | .asKw => "as"
  | .declareKw => "declare"
  | .functionKw => "function"

-- Capitals do not matter: a word is reserved when its lower case is a spelling.
def ofWord? (word : List Char) : Option Keyword :=
  all.find? fun keyword => keyword.spelling.toList = Unicode.lowerCase word

theorem mem_all (keyword : Keyword) : keyword ∈ all := by cases keyword <;> decide

theorem spelling_injective {left right : Keyword} (same : left.spelling = right.spelling) :
    left = right := by
  cases left <;> cases right <;> first | rfl | exact absurd same (by decide)

theorem ofWord?_exact {word : List Char} {keyword : Keyword} :
    ofWord? word = some keyword ↔ keyword.spelling.toList = Unicode.lowerCase word :=
  find?_key_exact (fun keyword : Keyword => keyword.spelling.toList) mem_all
    fun _ _ same => spelling_injective (String.toList_inj.mp same)

end Keyword

namespace Symbol

def all : List Symbol := [.assign,.parenOpen,.parenClose,.comma]

def name : Symbol → String
  | .assign => "assign"
  | .parenOpen => "parenOpen"
  | .parenClose => "parenClose"
  | .comma => "comma"

def char : Symbol → Char
  | .assign => '='
  | .parenOpen => '('
  | .parenClose => ')'
  | .comma => ','

def ofChar? (c : Char) : Option Symbol := all.find? fun mark => mark.char = c

theorem mem_all (mark : Symbol) : mark ∈ all := by cases mark <;> decide

theorem char_injective {left right : Symbol} (same : left.char = right.char) : left = right := by
  cases left <;> cases right <;> first | rfl | exact absurd same (by decide)

theorem ofChar?_exact {c : Char} {mark : Symbol} : ofChar? c = some mark ↔ mark.char = c :=
  find?_key_exact char mem_all fun _ _ => char_injective

end Symbol

namespace Kind

def all : List Kind :=
  [.unknown,.endOfFile,.endOfStatement,.number,.identifier,.string] ++
    Keyword.all.map .keyword ++ Symbol.all.map .symbol

def name : Kind → String
  | .unknown => "unknown"
  | .endOfFile => "eof"
  | .endOfStatement => "eos"
  | .number => "number"
  | .identifier => "identifier"
  | .string => "string"
  | .keyword word => word.spelling
  | .symbol mark => mark.name

def display : Kind → String
  | .symbol mark => mark.char.toString
  | kind => kind.name

def isKeyword : Kind → Bool
  | .keyword _ => true
  | _ => false

def ofName? (name : String) : Option Kind := all.find? fun kind => kind.name = name

theorem mem_all (kind : Kind) : kind ∈ all := by
  cases kind with
  | keyword word => cases word <;> decide
  | symbol mark => cases mark <;> decide
  | _ => decide

theorem name_injective {left right : Kind} (same : left.name = right.name) : left = right := by
  have distinct : ∀ left ∈ all, ∀ right ∈ all, left.name = right.name → left = right := by decide
  exact distinct left (mem_all left) right (mem_all right) same

theorem ofName?_exact {name : String} {kind : Kind} : ofName? name = some kind ↔ kind.name = name :=
  find?_key_exact Kind.name mem_all fun _ _ => name_injective

end Kind

end BasicLex
