import BasicLex.CommandLine.Options
import BasicLex.Diagnostic.Rendering
import BasicLex.Disk
import BasicLex.Strict

namespace BasicLex

structure Source where
  file : String
  text : String
deriving DecidableEq

def Source.demo : Source := ⟨"demo","print \"hello world\""⟩

def UsageFault.diagnostic (fault : UsageFault) : Diagnostic := ⟨.usage fault.message,.null⟩

def ReadFailure.diagnostic (path : String) (failure : ReadFailure) : Diagnostic :=
  ⟨.fileRead path failure.message,.null⟩

-- How files are reached is a parameter: a disk of the model, or bytes that have
-- been fetched already.
abbrev Reader := String → Except ReadFailure ByteArray

def Reader.readText (reader : Reader) (path : String) : Except ReadFailure String := do
  let bytes ← reader path
  match String.fromUTF8? bytes with
  | some text => .ok text
  | none => .error .notUtf8

def Reader.readSource (reader : Reader) (path : String) : Except Diagnostic Source :=
  match reader.readText path with
  | .ok text => .ok ⟨Path.fileName path,text⟩
  | .error failure => .error (failure.diagnostic path)

def Options.source (options : Options) (reader : Reader) : Except Diagnostic Source :=
  match options.file with
  | some path => reader.readSource path
  | none => .ok .demo

structure Outcome where
  code : UInt32
  stdout : String
  stderr : String
deriving DecidableEq

namespace Outcome

def failure (message : String) : Outcome := ⟨1,"",message⟩

def success (output : String) : Outcome := ⟨0,output,""⟩

end Outcome

namespace CommandLine

def usage : String := "usage: lbc [--strict] [FILE]\n"

def dump (tokens : List Token) : String :=
  String.ofList (tokens.flatMap fun token => token.display.toList ++ ['\n'])

def scan (strict : Bool) (source : Source) : Except LayoutFailure Outcome :=
  if strict then
    match tokenize source.text (some source.file) with
    | .ok tokens => .ok (.success (dump (tokens.filter fun token => !token.is .endOfFile)))
    | .error diagnostic => (diagnostic.render source.text).map .failure
  else .ok (.success (dump (Cursor.ofSource source.text).drain.1))

theorem scan_plain (source : Source) :
    scan false source = .ok (.success (dump (Cursor.ofSource source.text).tokens)) := by
  simp [scan,Cursor.drain_exact]

def run (reader : Reader) (arguments : List String) : Except LayoutFailure Outcome :=
  match Options.parse arguments with
  | .error fault => (fault.diagnostic.render "").map fun message => .failure (message ++ usage)
  | .ok options =>
    match options.source reader with
    | .error diagnostic => (diagnostic.render "").map .failure
    | .ok source => scan options.strict source

end CommandLine

end BasicLex
