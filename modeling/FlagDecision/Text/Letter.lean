import FlagDecision.Text.Property

/-!
Letters and numbers of every script, after Unicode 17. ASCII is decided without the tables.
-/

namespace FlagDecision.Text

def alphabeticSet : CharSet := Property.alphabetic.union (.ofTable
    "88F C5C CDC A7CE-A7CF A7D2 A7D4 A7F1 10940-10959 10EC5-10EC7 10EFA-10EFB 11B60-11B67
    11DB0-11DDB 16EA0-16EB8 16EBB-16ED3 16FF2-16FF6 187F8-187FF 18D09-18D1E 18D80-18DF2
    1E6C0-1E6DE 1E6E0-1E6F5 1E6FE-1E6FF 2B73A-2B73F 2CEA2-2CEAD 323B0-33479")

def numberSet : CharSet := Category.number.union (.ofTable "11DE0-11DE9 16FF4-16FF6")

def isLetter (c : Char) : Bool := c.isAlpha || (0x80 ≤ c.toNat && alphabeticSet.mem c)

def isNumber (c : Char) : Bool := c.isDigit || (0x80 ≤ c.toNat && numberSet.mem c)

end FlagDecision.Text
