namespace BasicLex

-- Paths are texts whose parts are separated by slashes. Parts that are empty or
-- a single dot name nothing; two dots name the directory above.
namespace Path

def separator : Char := '/'

def parts : List Char → List (List Char)
  | [] => [[]]
  | c :: rest =>
    if c = separator then [] :: parts rest
    else match parts rest with
      | [] => [[c]]
      | part :: others => (c :: part) :: others

def isAbsolute (path : String) : Bool := path.toList.head? = some separator

def names (path : String) : List String :=
  ((parts path.toList).map String.ofList).filter fun part => part ≠ "" && part ≠ "."

-- The parts that are walked. A separator at the end asks for a directory, which
-- is what a final dot asks for too.
def steps (path : String) : List String :=
  let all := (parts path.toList).map String.ofList
  all.filter (· ≠ "") ++ if all.getLast? = some "" then ["."] else []

def fileName (path : String) : String :=
  match (names path).getLast? with
  | some name => if name = ".." then path else name
  | none => path

end Path

end BasicLex
