namespace BasicLex.Unicode

abbrev CodeRanges := List (Nat × Nat)

def CodeRanges.covers (ranges : CodeRanges) (code : Nat) : Bool :=
  ranges.any fun (first,last) => first ≤ code && code ≤ last

-- Below U+0080 a property is decided by core's own test; tables begin there.
def isAscii (c : Char) : Bool := c.toNat < 0x80

end BasicLex.Unicode
