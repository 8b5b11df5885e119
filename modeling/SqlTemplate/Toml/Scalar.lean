import SqlTemplate.Document.Reader
import SqlTemplate.Number.Reader
import SqlTemplate.Toml.Basic

/-!
# TOML scalars

Numbers and points in time, as one run of characters, and the four sorts of strings.
-/

namespace SqlTemplate.Toml

/-- Digits with single underscores between them; the digits alone. -/
def readGrouped? (isDigit : Char → Bool) (s : List Char) : Option (List Char) :=
  let groups := Text.pieces (· == '_') s
  if groups.all fun g => !g.isEmpty && g.all isDigit then some groups.flatten else none

/-- Whether digits do not start with a zero unless it stands alone. -/
def isCanonical : List Char → Bool
  | '0' :: _ :: _ => false
  | _ => true

/-- The digits of a decimal integer without sign. -/
def readWhole? (s : List Char) : Option (List Char) := do
  let digits ← readGrouped? Char.isDigit s
  if isCanonical digits then some digits else none

/-- Whether a run is a decimal integer of 64 bits. -/
def isDecimal (s : List Char) : Bool :=
  let (negative, body) := Number.splitSign s
  match readWhole? body with
  | none => false
  | some digits =>
    let n : Int := Number.ofDigits digits
    Number.fitsInt64 (if negative then -n else n)

/-- Whether a run is an integer of another base, after a zero and the letter of the base. -/
def isBased : List Char → Bool
  | '0' :: letter :: s =>
    let base? := match letter with
      | 'x' => some 16
      | 'o' => some 8
      | 'b' => some 2
      | _ => none
    match base? with
    | none => false
    | some base =>
      match readGrouped? (fun c => (Document.hexValue? c).any (· < base)) s with
      | none => false
      | some digits =>
        digits.foldl (fun n c => base * n + (Document.hexValue? c).getD 0) 0 < Number.signBit
  | _ => false

def readPower? (s : List Char) : Option (List Char) := do
  let (negative, digits) := Number.splitSign s
  let digits ← readGrouped? Char.isDigit digits
  some (if negative then '-' :: digits else digits)

/-- A decimal number with a fraction, an exponent or both, without its underscores. -/
def readFloat? (s : List Char) : Option (List Char) := do
  let isMark (c : Char) : Bool := c == 'e' || c == 'E'
  let whole ← readWhole? (s.takeWhile fun c => !(c == '.' || isMark c))
  match s.dropWhile fun c => !(c == '.' || isMark c) with
  | '.' :: rest => do
    let fraction ← readGrouped? Char.isDigit (rest.takeWhile (!isMark ·))
    match rest.dropWhile (!isMark ·) with
    | [] => some (whole ++ '.' :: fraction)
    | _ :: power => do some (whole ++ '.' :: fraction ++ 'e' :: (← readPower? power))
  | _ :: power => do some (whole ++ 'e' :: (← readPower? power))
  | [] => none

/-- Whether a run is a floating-point number; one too great for a double is none. -/
def isFloat (s : List Char) : Bool :=
  let (negative, body) := Number.splitSign s
  if body = ['i', 'n', 'f'] ∨ body = ['n', 'a', 'n'] then true
  else match (readFloat? body).bind Number.Double.read? with
    | none => false
    | some (.infinite _) => negative
    | some _ => true

def isRunChar (c : Char) : Bool :=
  c.isAlphanum || c == '+' || c == '-' || c == '_' || c == '.' || c == ':'

/-- The run of characters at the start of a text. A date may go on after one space. -/
def readRun (s : List Char) : List Char × List Char :=
  let run := s.takeWhile isRunChar
  match Date.read? run, s.dropWhile isRunChar with
  | some (_, []), ' ' :: c :: rest =>
    if c.isDigit then
      (run ++ ' ' :: (c :: rest).takeWhile isRunChar, (c :: rest).dropWhile isRunChar)
    else (run, ' ' :: c :: rest)
  | _, rest => (run, rest)

def readScalar? (s : List Char) : Option (Toml × List Char) :=
  let (run, rest) := readRun s
  if run = ['t', 'r', 'u', 'e'] then some (boolean true, rest)
  else if run = ['f', 'a', 'l', 's', 'e'] then some (boolean false, rest)
  else match Time.read? run with
    | some t => some (time t, rest)
    | none => if isDecimal run || isBased run || isFloat run then some (number, rest) else none

def isText (c : Char) : Bool :=
  c == '\t' || (0x20 ≤ c.toNat && c != '\x7f')

def readCodePoint? (width : Nat) (s : List Char) : Option (Char × List Char) := do
  if s.length < width then none
  let n ← (s.take width).foldlM (fun n c => do some (16 * n + (← Document.hexValue? c))) 0
  if n.isValidChar then some (Char.ofNat n, s.drop width) else none

def readEscape? : List Char → Option (Char × List Char)
  | [] => none
  | c :: s =>
    match c with
    | 'b' => some ('\x08', s)
    | 't' => some ('\t', s)
    | 'n' => some ('\n', s)
    | 'f' => some ('\x0c', s)
    | 'r' => some ('\r', s)
    | '"' => some ('"', s)
    | '\\' => some ('\\', s)
    | 'u' => readCodePoint? 4 s
    | 'U' => readCodePoint? 8 s
    | _ => none

/-- The rest of a string on one line after its opening quote. -/
def readLine? (quote : Char) : Nat → List Char → Option (List Char × List Char)
  | 0, _ => none
  | _, [] => none
  | fuel + 1, c :: s =>
    if c == quote then some ([], s)
    else if c == '\\' && quote == '"' then do
      let (c, s) ← readEscape? s
      let (t, s) ← readLine? quote fuel s
      some (c :: t, s)
    else if isText c then do
      let (t, s) ← readLine? quote fuel s
      some (c :: t, s)
    else none

def readNewline? : List Char → Option (List Char)
  | '\n' :: s => some s
  | '\r' :: '\n' :: s => some s
  | _ => none

def isSpace (c : Char) : Bool :=
  c == ' ' || c == '\t'

def skipLines : Nat → List Char → List Char
  | 0, s => s
  | fuel + 1, s =>
    let s := s.dropWhile isSpace
    match readNewline? s with
    | some s => skipLines fuel s
    | none => s

/-- The rest of a string over several lines after its opening quotes. Up to two quotes may stand
before the three that close it. A backslash at the end of a line takes away the line end and all
blanks after it. -/
def readLines? (quote : Char) : Nat → List Char → Option (List Char × List Char)
  | 0, _ => none
  | _, [] => none
  | fuel + 1, c :: s =>
    if c == quote then
      let count := ((c :: s).takeWhile (· == quote)).length
      if count < 3 then do
        let (t, s) ← readLines? quote fuel s
        some (c :: t, s)
      else if count ≤ 5 then some (List.replicate (count - 3) quote, (c :: s).drop count)
      else none
    else match readNewline? (c :: s) with
    | some s => do
      let (t, s) ← readLines? quote fuel s
      some ('\n' :: t, s)
    | none =>
      if c == '\\' && quote == '"' then
        match readNewline? (s.dropWhile isSpace) with
        | some s => readLines? quote fuel (skipLines (s.length + 1) s)
        | none => do
          let (c, s) ← readEscape? s
          let (t, s) ← readLines? quote fuel s
          some (c :: t, s)
      else if isText c then do
        let (t, s) ← readLines? quote fuel s
        some (c :: t, s)
      else none

/-- A string at the start of a text; a line end right after three quotes does not count. -/
def readString? (quote : Char) (s : List Char) : Option (String × List Char) := do
  let fuel := s.length + 1
  let (t, s) ←
    if [quote, quote, quote].isPrefixOf s then
      let s := s.drop 3
      readLines? quote fuel ((readNewline? s).getD s)
    else readLine? quote fuel (s.drop 1)
  some (String.ofList t, s)

end SqlTemplate.Toml
