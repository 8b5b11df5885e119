import SqlTemplate.Number.Integer

/-!
# Points in time

A date, a time of day, or both, perhaps with the offset of a time zone. Each has one canonical
text: two digits for a part of a date or of a time of day, four for a year, a `T` between the two,
and no zeros at the end of a fraction. A time may be written with other marks between its parts and
with more digits than are kept.
-/

namespace SqlTemplate.Toml

def fixedDigits : Nat → Nat → List Char
  | 0, _ => []
  | width + 1, n => fixedDigits width (n / 10) ++ [Nat.digitChar (n % 10)]

/-- A number of exactly `width` digits at the start of a text. -/
def readFixed? (width : Nat) (s : List Char) : Option (Nat × List Char) := do
  let n ← Number.readDigits? (s.take width)
  if s.length < width then none else some (n, s.drop width)

def daysIn (year month : Nat) : Nat :=
  if month = 2 then
    if year % 4 = 0 ∧ (year % 100 ≠ 0 ∨ year % 400 = 0) then 29 else 28
  else if month ∈ [4, 6, 9, 11] then 30
  else 31

structure Date where
  year : Nat
  month : Nat
  day : Nat
  month_mem : 1 ≤ month ∧ month ≤ 12
  day_mem : 1 ≤ day ∧ day ≤ daysIn year month
deriving DecidableEq, Repr

def Date.toChars (d : Date) : List Char :=
  fixedDigits 4 d.year ++ '-' :: fixedDigits 2 d.month ++ '-' :: fixedDigits 2 d.day

def Date.read? (s : List Char) : Option (Date × List Char) := do
  let (year, s) ← readFixed? 4 s
  let '-' :: s := s | none
  let (month, s) ← readFixed? 2 s
  let '-' :: s := s | none
  let (day, s) ← readFixed? 2 s
  if h : (1 ≤ month ∧ month ≤ 12) ∧ 1 ≤ day ∧ day ≤ daysIn year month then
    some (⟨year, month, day, h.1, h.2⟩, s)
  else none

/-- A time of day. A minute may have a second of its own at its end. -/
structure Clock where
  hour : Nat
  minute : Nat
  second : Nat
  nanosecond : Nat
  hour_le : hour ≤ 23
  minute_le : minute ≤ 59
  second_le : second ≤ 60
deriving DecidableEq, Repr

/-- The nanoseconds of the digits of a fraction; digits after the ninth do not count. -/
def nanoseconds (digits : List Char) : Nat :=
  let kept := digits.take 9
  Number.ofDigits kept * Number.tenTo (9 - kept.length)

def trimZeros (digits : List Char) : List Char :=
  (digits.reverse.dropWhile (· == '0')).reverse

def Clock.toChars (c : Clock) : List Char :=
  fixedDigits 2 c.hour ++ ':' :: fixedDigits 2 c.minute ++ ':' :: fixedDigits 2 c.second ++
    if c.nanosecond = 0 then [] else '.' :: trimZeros (fixedDigits 9 c.nanosecond)

def readFraction? : List Char → Option (Nat × List Char)
  | '.' :: s =>
    let digits := s.takeWhile Char.isDigit
    if digits.isEmpty then none else some (nanoseconds digits, s.dropWhile Char.isDigit)
  | s => some (0, s)

def Clock.read? (s : List Char) : Option (Clock × List Char) := do
  let (hour, s) ← readFixed? 2 s
  let ':' :: s := s | none
  let (minute, s) ← readFixed? 2 s
  let ':' :: s := s | none
  let (second, s) ← readFixed? 2 s
  if h : hour ≤ 23 ∧ minute ≤ 59 ∧ second ≤ 60 then
    let (nanosecond, s) ← readFraction? s
    some (⟨hour, minute, second, nanosecond, h.1, h.2.1, h.2.2⟩, s)
  else none

/-- How far a local time is from universal time: the letter that says not at all, or minutes. -/
inductive Offset where
  | universal
  | minutes (count : Int)
deriving DecidableEq, Repr

def Offset.toChars : Offset → List Char
  | universal => ['Z']
  | minutes count =>
    (if count < 0 then '-' else '+') ::
      fixedDigits 2 (count.natAbs / 60) ++ ':' :: fixedDigits 2 (count.natAbs % 60)

def Offset.read? : List Char → Option Offset
  | [] => none
  | c :: s =>
    if c == 'Z' || c == 'z' then if s.isEmpty then some universal else none
    else if c == '+' || c == '-' then do
      let (hour, s) ← readFixed? 2 s
      let ':' :: s := s | none
      let (minute, s) ← readFixed? 2 s
      let count : Int := 60 * hour + minute
      if s.isEmpty && hour ≤ 23 && minute ≤ 59 then
        some (minutes (if c == '-' then -count else count))
      else none
    else none

inductive Time where
  | date (d : Date)
  | clock (c : Clock)
  | moment (d : Date) (c : Clock) (offset : Option Offset)
deriving DecidableEq, Repr

namespace Time

def toChars : Time → List Char
  | date d => d.toChars
  | clock c => c.toChars
  | moment d c offset => d.toChars ++ 'T' :: c.toChars ++ (offset.map Offset.toChars).getD []

def text (t : Time) : String := String.ofList t.toChars

/-- The point in time that a whole text writes. -/
def read? (s : List Char) : Option Time :=
  match Date.read? s with
  | some (d, []) => some (date d)
  | some (d, mark :: s) =>
    if mark == 'T' || mark == 't' || mark == ' ' then do
      let (c, s) ← Clock.read? s
      if s.isEmpty then some (moment d c none)
      else do some (moment d c (some (← Offset.read? s)))
    else none
  | none => do
    let (c, s) ← Clock.read? s
    if s.isEmpty then some (clock c) else none

end Time

end SqlTemplate.Toml
