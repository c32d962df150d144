import BasicLex.Text.Escape

namespace BasicLex

-- A byte offset into a named source. Offsets are words of 32 bits, and a larger
-- one is kept as the largest word instead of being reduced.
structure Position where
  offset : UInt32
  file : String
deriving DecidableEq

namespace Position

def largest : Nat := 0xFFFFFFFF

def saturate (offset : Nat) (file : String) : Position := ⟨(min offset largest).toUInt32,file⟩

def null : Position := ⟨0,"<null>"⟩

theorem saturate_offset (offset : Nat) (file : String) :
    (saturate offset file).offset.toNat = min offset largest := by
  have bound : min offset largest ≤ 0xFFFFFFFF := Nat.min_le_right _ _
  simp only [saturate,Nat.toUInt32,UInt32.toNat_ofNat']
  exact Nat.mod_eq_of_lt (Nat.lt_of_le_of_lt bound (by decide))

end Position

inductive Cause where
  | unrecognisedToken (token : String)
  | fileRead (path reason : String)
  | usage (message : String)
deriving DecidableEq

abbrev Tip := Option String

def Tip.display (tip : Tip) : String := tip.getD ""

namespace Cause

def name : Cause → String
  | .unrecognisedToken _ => "UnrecognisedToken"
  | .fileRead _ _ => "FileRead"
  | .usage _ => "Usage"

def message : Cause → String
  | .unrecognisedToken token => "unrecognised token: " ++ Text.quote token
  | .fileRead path reason => "failed to read " ++ Text.quote path ++ ": " ++ reason
  | .usage message => message

def tip : Cause → Tip
  | .unrecognisedToken token =>
    some ("Unrecognised character `" ++ Text.escapeBare token ++ "`, it is not part of the language")
  | .fileRead _ _ => none
  | .usage _ => none

def hasSourcePosition : Cause → Bool
  | .unrecognisedToken _ => true
  | _ => false

end Cause

structure Diagnostic where
  cause : Cause
  position : Position
deriving DecidableEq

end BasicLex
