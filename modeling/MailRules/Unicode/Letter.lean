import MailRules.Unicode.Property

/-!
# Letters, numerals and case of single characters

The three tests that the rule language makes on characters. Each settles the ASCII
characters first, without consulting a table.

The language follows version 17 of the standard, while patterns keep to version 16.
The tables of this module hold what the later version added, and a test combines
them with the tables for patterns.
-/

namespace MailRules.Unicode

def addedAlphabetic : Ranges := [
  (0x88F, 0x88F), (0xC5C, 0xC5C), (0xCDC, 0xCDC), (0xA7CE, 0xA7CF), (0xA7D2, 0xA7D2),
  (0xA7D4, 0xA7D4), (0xA7F1, 0xA7F1), (0x10940, 0x10959), (0x10EC5, 0x10EC7),
  (0x10EFA, 0x10EFB), (0x11B60, 0x11B67), (0x11DB0, 0x11DDB), (0x16EA0, 0x16EB8),
  (0x16EBB, 0x16ED3), (0x16FF2, 0x16FF6), (0x187F8, 0x187FF), (0x18D09, 0x18D1E),
  (0x18D80, 0x18DF2), (0x1E6C0, 0x1E6DE), (0x1E6E0, 0x1E6F5), (0x1E6FE, 0x1E6FF),
  (0x2B73A, 0x2B73F), (0x2CEA2, 0x2CEAD), (0x323B0, 0x33479)]

def addedNumber : Ranges := [(0x11DE0, 0x11DE9), (0x16FF4, 0x16FF6)]

def addedLowercase : Ranges := [(0xA7CF, 0xA7CF), (0xA7F1, 0xA7F1), (0x16EBB, 0x16ED3)]

/-- The voiced pharyngeal fricative became a letter without case when a pair of
letters with case was added beside it. -/
def lostCase : Char := '\u0295'

def isAlphabetic (c : Char) : Bool :=
  if c.toNat < 128 then c.isAlpha else alphabetic.contains c || addedAlphabetic.contains c

def isNumeric (c : Char) : Bool :=
  if c.toNat < 128 then c.isDigit else Property.number c || addedNumber.contains c

def isAlphanumeric (c : Char) : Bool := isAlphabetic c || isNumeric c

def isLowercase (c : Char) : Bool :=
  if c.toNat < 128 then c.isLower
  else Property.lowercase c && c ≠ lostCase || addedLowercase.contains c

def isWhiteSpace (c : Char) : Bool := Property.whiteSpace.contains c

end MailRules.Unicode
