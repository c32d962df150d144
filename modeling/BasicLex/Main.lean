import BasicLex.CommandLine

namespace BasicLex.CommandLine

def describeFault : IO.Error → ReadFailure
  | .noFileOrDirectory _ code details
  | .permissionDenied _ code details
  | .inappropriateType _ code details
  | .invalidArgument _ code details
  | .resourceExhausted _ code details
  | .noSuchThing _ code details
  | .interrupted _ code details
  | .otherError code details
  | .resourceBusy code details
  | .illegalOperation code details
  | .unsupportedOperation code details
  | .hardwareFault code details => .other s!"{details} (os error {code})"
  | fault => .other (toString fault)

def fetch (path : String) : IO (Except ReadFailure ByteArray) := do
  try
    let handle ← IO.FS.Handle.mk path .read
    return .ok (← handle.readBinToEnd)
  catch fault => return .error (describeFault fault)

end BasicLex.CommandLine

open BasicLex

-- Reads the one file the arguments name, runs, and prints what the run left. An
-- error that cannot be laid out ends the program with a status of its own.
def main (arguments : List String) : IO UInt32 := do
  let fetched ← match Options.parse arguments with
    | .ok ⟨_,some path⟩ => CommandLine.fetch path
    | _ => pure (.error .notFound)
  match CommandLine.run (fun _ => fetched) arguments with
  | .ok outcome =>
    IO.print outcome.stdout
    IO.eprint outcome.stderr
    return outcome.code
  | .error failure =>
    IO.eprintln failure.message
    return 101
