/-!
# Blank characters

A character is blank when it has the Unicode property `White_Space`. Trimming removes blank
characters from both ends of a text; `words` are the maximal runs of other characters.
-/

namespace SqlTemplate.Text

/-- The Unicode property `White_Space`: 25 characters. -/
def isBlank (c : Char) : Bool :=
  let n := c.toNat
  (0x09 ≤ n && n ≤ 0x0D) || n == 0x20 || n == 0x85 || n == 0xA0 || n == 0x1680 ||
    (0x2000 ≤ n && n ≤ 0x200A) || n == 0x2028 || n == 0x2029 || n == 0x202F || n == 0x205F ||
    n == 0x3000

/-- Padding: the space and every character before it. -/
def isPadding (c : Char) : Bool :=
  c.toNat ≤ 0x20

/-- Removes the longest ending whose characters all satisfy `p`. -/
def trimEnd (p : Char → Bool) (s : List Char) : List Char :=
  (s.reverse.dropWhile p).reverse

/-- Removes the longest beginning and then the longest ending whose characters all satisfy `p`. -/
def trimBoth (p : Char → Bool) (s : List Char) : List Char :=
  trimEnd p (s.dropWhile p)

def trim (s : String) : String :=
  String.ofList (trimBoth isBlank s.toList)

def allBlank (s : String) : Bool :=
  s.toList.all isBlank

/-- The pieces of a text between the characters that satisfy `p`; there is always a first one. -/
def splitWhere (p : Char → Bool) : List Char → List Char × List (List Char)
  | [] => ([], [])
  | c :: s =>
    let (piece, pieces) := splitWhere p s
    if p c then ([], piece :: pieces) else (c :: piece, pieces)

def pieces (p : Char → Bool) (s : List Char) : List (List Char) :=
  let (piece, rest) := splitWhere p s
  piece :: rest

/-- The maximal runs of characters that are not blank. -/
def words (s : List Char) : List (List Char) :=
  (pieces isBlank s).filter (!·.isEmpty)

/-- Every run of blank characters becomes one space, and none is left at the ends. -/
def collapseBlanks (s : String) : String :=
  " ".intercalate ((words s.toList).map String.ofList)

end SqlTemplate.Text
