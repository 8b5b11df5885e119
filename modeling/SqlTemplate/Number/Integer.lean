/-!
# Reading integers

An integer is written with decimal digits after an optional sign. A natural number takes the sign
`+` only. There is no room for blanks or separators.
-/

namespace SqlTemplate.Number

def digitValue (c : Char) : Nat :=
  c.toNat - '0'.toNat

/-- The number that a list of decimal digits writes, most significant digit first. -/
def ofDigits (digits : List Char) : Nat :=
  digits.foldl (fun n c => 10 * n + digitValue c) 0

def readDigits? (s : List Char) : Option Nat :=
  if !s.isEmpty && s.all Char.isDigit then some (ofDigits s) else none

def readNat? : List Char → Option Nat
  | '+' :: s => readDigits? s
  | s => readDigits? s

def readInt? : List Char → Option Int
  | '-' :: s => (readDigits? s).map fun n => -(n : Int)
  | s => (readNat? s).map fun n => (n : Int)

/-- The least natural number that is no integer of 64 bits in two's complement: `2 ^ 63`. -/
def signBit : Nat := 9223372036854775808

/-- Whether an integer fits a word of 64 bits in two's complement. -/
def fitsInt64 (n : Int) : Bool :=
  -(signBit : Int) ≤ n && n < (signBit : Int)

def twoTo (n : Nat) : Nat := Nat.pow 2 n

def tenTo (n : Nat) : Nat := Nat.pow 10 n

end SqlTemplate.Number
