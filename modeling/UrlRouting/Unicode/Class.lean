import UrlRouting.Unicode.RangeCode
import UrlRouting.Unicode.Category
import UrlRouting.Unicode.Property

/-! Character classes. Each is decided by comparison for the first 128 characters and by its table
beyond them. -/

namespace UrlRouting.Unicode

def entry (table : List (String × List String)) (key : String) : CharSet :=
  (lookupSet? table key).getD CharSet.empty

def category (key : String) : CharSet := entry categories key

def categoryUnion (keys : List String) : CharSet :=
  CharSet.ofRanges (keys.flatMap fun key => (category key).ranges)

def assigned : CharSet :=
  CharSet.ofRanges ((categories.map (·.1)).flatMap fun key => (category key).ranges)

def alphabetic : CharSet := entry properties "alphabetic"

def decimalDigits : CharSet := category "Nd"

def numeric : CharSet := categoryUnion ["Nd", "Nl", "No"]

def blanks : CharSet := entry properties "whitespace"

def extenders : CharSet := entry properties "graphemeextend"

def printable : CharSet :=
  CharSet.ofRanges ((32, 32) :: (assigned.diff
    (categoryUnion ["Cc", "Cf", "Co", "Zl", "Zp", "Zs"])).ranges)

/-- The characters of words: letters, marks, decimal digits, connecting punctuation and the two
joiners. -/
def wordSet : CharSet :=
  CharSet.ofRanges (alphabetic.ranges ++ (categoryUnion ["Mc", "Me", "Mn", "Nd", "Pc"]).ranges ++
    (entry properties "joincontrol").ranges)

def isAsciiLetter (c : Char) : Bool :=
  ('A' ≤ c && c ≤ 'Z') || ('a' ≤ c && c ≤ 'z')

def isAsciiDigit (c : Char) : Bool := '0' ≤ c && c ≤ '9'

def isAlphabetic (c : Char) : Bool :=
  if c.toNat < 128 then isAsciiLetter c else alphabetic.contains c

def isAlphanumeric (c : Char) : Bool :=
  if c.toNat < 128 then isAsciiLetter c || isAsciiDigit c
  else alphabetic.contains c || numeric.contains c

def isBlank (c : Char) : Bool :=
  if c.toNat < 128 then c == ' ' || ('\t' ≤ c && c ≤ '\r') else blanks.contains c

def isWordMember (c : Char) : Bool :=
  if c.toNat < 128 then isAsciiLetter c || isAsciiDigit c || c == '_' else wordSet.contains c

def isAsciiWordMember (c : Char) : Bool := isAsciiLetter c || isAsciiDigit c || c == '_'

def isExtender (c : Char) : Bool :=
  if c.toNat < 128 then false else extenders.contains c

def isPrintable (c : Char) : Bool :=
  if c.toNat < 128 then ' ' ≤ c && c ≤ '~' else printable.contains c

def asciiLower (c : Char) : Char :=
  if 'A' ≤ c && c ≤ 'Z' then Char.ofNat (c.toNat + 32) else c

def asciiLowerText (s : String) : String := String.ofList (s.toList.map asciiLower)

end UrlRouting.Unicode
