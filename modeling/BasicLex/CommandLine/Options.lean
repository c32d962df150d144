namespace BasicLex

inductive UsageFault where
  | unknownFlag (flag : String)
  | secondFile
deriving DecidableEq

def UsageFault.message : UsageFault → String
  | .unknownFlag flag => "unknown flag `" ++ flag ++ "`"
  | .secondFile => "expected at most one file"

structure Options where
  strict : Bool
  file : Option String
deriving DecidableEq

namespace Options

def plain : Options := ⟨false,none⟩

def strictFlag : String := "--strict"

-- Two dashes make a flag. A single dash begins a file name like any other.
def isFlag (argument : String) : Bool := ['-','-'].isPrefixOf argument.toList

def accept (options : Options) (argument : String) : Except UsageFault Options :=
  if argument = strictFlag then .ok ⟨true,options.file⟩
  else if isFlag argument then .error (.unknownFlag argument)
  else match options.file with
    | none => .ok ⟨options.strict,some argument⟩
    | some _ => .error .secondFile

def parse (arguments : List String) : Except UsageFault Options := arguments.foldlM accept plain

end Options

end BasicLex
