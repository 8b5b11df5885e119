import SqlTemplate.Number.Double

/-!
# The shortest decimal text of a double

A finite double is written with the fewest decimal digits that read back to it; of two texts with
that many digits the nearer one is taken, and of two equally near ones the greater. The text never
has an exponent: zeros fill the places up to the decimal point.
-/

namespace SqlTemplate.Number

/-- A positive quotient of integers and the ends of the interval around it that rounds to one
double: `low / den` and `high / den`, themselves included if `closed`. -/
structure Neighbourhood where
  low : Nat
  value : Nat
  high : Nat
  den : Nat
  closed : Bool

namespace Neighbourhood

/-- The numbers that round to `mantissa · 2 ^ exponent`. Below a power of two the doubles lie
twice as dense. -/
def ofDouble (mantissa : Nat) (exponent : Int) : Neighbourhood :=
  let e := exponent - 2
  let below := if mantissa = Double.leadingBit ∧ Double.minExponent < exponent then 1 else 2
  let unit := twoTo e.toNat
  { low := (4 * mantissa - below) * unit
    value := 4 * mantissa * unit
    high := (4 * mantissa + 2) * unit
    den := twoTo (-e).toNat
    closed := mantissa % 2 == 0 }

def holds (v : Neighbourhood) (digits : Nat) (place : Int) : Bool :=
  let x := digits * tenTo place.toNat * v.den
  let unit := tenTo (-place).toNat
  if v.closed then v.low * unit ≤ x && x ≤ v.high * unit
  else v.low * unit < x && x < v.high * unit

def steps (v : Neighbourhood) (place : Int) : Nat :=
  v.value * tenTo (-place).toNat / (v.den * tenTo place.toNat)

/-- The neighbour of the value on the grid of step `10 ^ place` that lies in the interval; the
nearer of two. -/
def onGrid? (v : Neighbourhood) (place : Int) : Option Nat :=
  let n := v.steps place
  match v.holds n place, v.holds (n + 1) place with
  | false, false => none
  | true, false => some n
  | false, true => some (n + 1)
  | true, true =>
    if 2 * v.value * tenTo (-place).toNat < (2 * n + 1) * v.den * tenTo place.toNat then some n
    else some (n + 1)

def leadingPlace (v : Neighbourhood) : Int :=
  let guess := ((v.value.log2 : Int) - (v.den.log2 : Int)) * 30103 / 100000
  if v.steps (guess + 1) ≠ 0 then guess + 1
  else if v.steps guess ≠ 0 then guess
  else guess - 1

/-- The digits on the coarsest grid that has a point in the interval, from `place` downwards, and
the place of their last digit. -/
def coarsest (v : Neighbourhood) : Nat → Int → Nat × Int
  | 0, place => (v.steps place, place)
  | n + 1, place =>
    match v.onGrid? place with
    | some digits => (digits, place)
    | none => v.coarsest n (place - 1)

/-- The fewest digits that read back and the place of the last of them. Seventeen always do. -/
def shortest (v : Neighbourhood) : Nat × Int :=
  match v.coarsest 17 v.leadingPlace with
  | (10, place) => (1, place + 1)
  | answer => answer

end Neighbourhood

def positional (digits : Nat) (place : Int) : String :=
  let text := (toString digits).toList
  let behind := (-place).toNat
  String.ofList <|
    if behind = 0 then text ++ List.replicate place.toNat '0'
    else if behind < text.length then
      text.take (text.length - behind) ++ '.' :: text.drop (text.length - behind)
    else '0' :: '.' :: (List.replicate (behind - text.length) '0' ++ text)

namespace Double

def toText : Double → String
  | nan => "NaN"
  | infinite negative => sign negative ++ "inf"
  | finite negative mantissa exponent =>
    sign negative ++
      if mantissa = 0 then "0"
      else
        let (digits, place) := (Neighbourhood.ofDouble mantissa exponent).shortest
        positional digits place
where
  sign (negative : Bool) : String := if negative then "-" else ""

end Double

end SqlTemplate.Number
