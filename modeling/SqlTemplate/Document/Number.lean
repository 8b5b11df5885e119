import SqlTemplate.Document.Basic
import SqlTemplate.Number.Reader

/-!
# Numbers in documents

A number without point and exponent is an integer if it is not minus zero and its digits fit 64
bits. Any other number is a double, found in two roundings: as many leading digits as fit 64 bits
are rounded to a double, and that is multiplied or divided by the double nearest to the power of
ten that is left.
-/

namespace SqlTemplate.Document

open Number (Double)

def maxWord : Nat := 2 * Number.signBit - 1

/-- Appends decimal digits to `n` as long as the result fits 64 bits; the digits that are left. -/
def gather (n : Nat) : List Char → Nat × List Char
  | [] => (n, [])
  | c :: s =>
    let next := 10 * n + Number.digitValue c
    if next ≤ maxWord then gather next s else (n, c :: s)

/-- The double nearest to the product or quotient of a double and the nearest double of
`10 ^ places`. -/
def shift (up : Bool) (x : Double) (places : Nat) : Double :=
  match x.ratio?, (Double.ofRatio false (Number.tenTo places) 1).ratio? with
  | some (a, b), some (c, d) =>
    if up then .ofRatio false (a * c) (b * d) else .ofRatio false (a * d) (b * c)
  | _, _ => x

/-- Divides by `10 ^ 308` a number of times and then by a lesser power. -/
def shiftDown : Nat → Double → Nat → Double
  | 0, x, places => shift false x places
  | n + 1, x, places => if x.isZero then x else shiftDown n (shift false x 308) places

/-- `digits · 10 ^ exponent`, if it is finite. -/
def scale? (digits : Nat) (exponent : Int) : Option Double :=
  let x := Double.ofRatio false digits 1
  if exponent < 0 then
    let places := exponent.natAbs
    let rounds := (places - 1) / 308
    some (shiftDown rounds x (places - 308 * rounds))
  else if x.isZero then some x
  else if 308 < exponent then none
  else match shift true x exponent.toNat with
    | .infinite _ => none
    | y => some y

/-- The number written by a sign, the digits before and after the point, and an exponent. -/
def decimal? (negative : Bool) (whole fraction : List Char) (exponent : Int) : Option Document := do
  let (n, dropped) := gather 0 whole
  let (digits, unread) := gather n fraction
  let places : Int := dropped.length - (fraction.length - unread.length : Nat)
  let x ← scale? digits (places + exponent)
  some (decimal (if negative then x.neg else x))

def whole? (negative : Bool) (digits : List Char) : Option Document :=
  let (n, dropped) := gather 0 digits
  if dropped.isEmpty && !(negative && (n == 0 || Number.signBit < n)) then
    some (integer (if negative then -(n : Int) else n))
  else decimal? negative digits [] 0

/-- The digits before the point: a zero stands alone. -/
def readWhole? (s : List Char) : Option (List Char × List Char) :=
  match s.takeWhile Char.isDigit, s.dropWhile Char.isDigit with
  | [], _ => none
  | '0' :: _ :: _, _ => none
  | digits, rest => some (digits, rest)

/-- The digits after a point; there must be one. -/
def readFraction? : List Char → Option (List Char × List Char)
  | '.' :: s =>
    match s.takeWhile Char.isDigit, s.dropWhile Char.isDigit with
    | [], _ => none
    | digits, rest => some (digits, rest)
  | s => some ([], s)

/-- The exponent after a mark; without mark there is none. -/
def readPower? : List Char → Option (Option Int × List Char)
  | [] => some (none, [])
  | c :: s =>
    if c == 'e' || c == 'E' then
      let (negative, s) := Number.splitSign s
      match s.takeWhile Char.isDigit, s.dropWhile Char.isDigit with
      | [], _ => none
      | digits, rest =>
        let n : Int := Number.ofDigits digits
        some (some (if negative then -n else n), rest)
    else some (none, c :: s)

def readNumber? (s : List Char) : Option (Document × List Char) := do
  let (negative, s) := match s with
    | '-' :: s => (true, s)
    | s => (false, s)
  let (whole, s) ← readWhole? s
  let (fraction, s) ← readFraction? s
  let (power, s) ← readPower? s
  let number ← match fraction, power with
    | [], none => whole? negative whole
    | fraction, power => decimal? negative whole fraction (power.getD 0)
  some (number, s)

end SqlTemplate.Document
