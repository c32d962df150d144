import BasicLex.Unicode.Ranges

namespace BasicLex.Unicode

-- The White_Space property. The scanner does not use it: there only the space
-- and the tab are blanks.
def whiteSpaceRanges : CodeRanges := [
  (0x0009,0x000D),(0x0020,0x0020),(0x0085,0x0085),(0x00A0,0x00A0),(0x1680,0x1680),
  (0x2000,0x200A),(0x2028,0x2029),(0x202F,0x202F),(0x205F,0x205F),(0x3000,0x3000)]

def isWhiteSpace (c : Char) : Bool := whiteSpaceRanges.covers c.toNat

end BasicLex.Unicode
