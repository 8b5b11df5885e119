import SqlTemplate.Document.Number

/-!
# Reading documents

A reader of JSON texts: one value with blanks around it.
-/

namespace SqlTemplate.Document

def isSpace (c : Char) : Bool :=
  c == ' ' || c == '\t' || c == '\n' || c == '\r'

def hexValue? (c : Char) : Option Nat :=
  if c.isDigit then some (c.toNat - '0'.toNat)
  else if 'a' ≤ c && c ≤ 'f' then some (c.toNat - 'a'.toNat + 10)
  else if 'A' ≤ c && c ≤ 'F' then some (c.toNat - 'A'.toNat + 10)
  else none

def readUnit? : List Char → Option (Nat × List Char)
  | a :: b :: c :: d :: s => do
    let high := 16 * (← hexValue? a) + (← hexValue? b)
    let low := 16 * (← hexValue? c) + (← hexValue? d)
    some (256 * high + low, s)
  | _ => none

/-- The character of a `\u` escape: one unit, or a high and a low surrogate. -/
def readCodePoint? (s : List Char) : Option (Char × List Char) := do
  let (high, s) ← readUnit? s
  if high < 0xD800 || 0xE000 ≤ high then some (Char.ofNat high, s)
  else if 0xDC00 ≤ high then none
  else match s with
    | '\\' :: 'u' :: s => do
      let (low, s) ← readUnit? s
      if 0xDC00 ≤ low && low < 0xE000 then
        some (Char.ofNat (0x10000 + (high - 0xD800) * 0x400 + (low - 0xDC00)), s)
      else none
    | _ => none

def escaped? : Char → Option Char
  | '"' => some '"'
  | '\\' => some '\\'
  | '/' => some '/'
  | 'b' => some '\x08'
  | 'f' => some '\x0c'
  | 'n' => some '\n'
  | 'r' => some '\r'
  | 't' => some '\t'
  | _ => none

def readString? : Nat → List Char → Option (List Char × List Char)
  | 0, _ => none
  | fuel + 1, s =>
    match s with
    | '"' :: s => some ([], s)
    | '\\' :: 'u' :: s => do
      let (c, s) ← readCodePoint? s
      let (t, s) ← readString? fuel s
      some (c :: t, s)
    | '\\' :: c :: s => do
      let c ← escaped? c
      let (t, s) ← readString? fuel s
      some (c :: t, s)
    | c :: s =>
      if c.toNat < 0x20 then none
      else do
        let (t, s) ← readString? fuel s
        some (c :: t, s)
    | [] => none

mutual

def readValue? : Nat → List Char → Option (Document × List Char)
  | 0, _ => none
  | fuel + 1, s =>
    match s.dropWhile isSpace with
    | 'n' :: 'u' :: 'l' :: 'l' :: s => some (null, s)
    | 't' :: 'r' :: 'u' :: 'e' :: s => some (bool true, s)
    | 'f' :: 'a' :: 'l' :: 's' :: 'e' :: s => some (bool false, s)
    | '"' :: s => do
      let (t, s) ← readString? (s.length + 1) s
      some (string (String.ofList t), s)
    | '[' :: s =>
      match s.dropWhile isSpace with
      | ']' :: s => some (array [], s)
      | s => do
        let (items, s) ← readItems? fuel s
        some (array items, s)
    | '{' :: s =>
      match s.dropWhile isSpace with
      | '}' :: s => some (object [], s)
      | s => do
        let (members, s) ← readMembers? fuel s
        some (object members, s)
    | s => readNumber? s

/-- The items of an array up to its closing bracket; there is one. -/
def readItems? : Nat → List Char → Option (List Document × List Char)
  | 0, _ => none
  | fuel + 1, s => do
    let (item, s) ← readValue? fuel s
    match s.dropWhile isSpace with
    | ']' :: s => some ([item], s)
    | ',' :: s => do
      let (items, s) ← readItems? fuel s
      some (item :: items, s)
    | _ => none

/-- The members of an object up to its closing brace; there is one. -/
def readMembers? : Nat → List Char → Option (List (String × Document) × List Char)
  | 0, _ => none
  | fuel + 1, s =>
    match s.dropWhile isSpace with
    | '"' :: s => do
      let (name, s) ← readString? (s.length + 1) s
      match s.dropWhile isSpace with
      | ':' :: s => do
        let (value, s) ← readValue? fuel s
        match s.dropWhile isSpace with
        | '}' :: s => some ([(String.ofList name, value)], s)
        | ',' :: s => do
          let (members, s) ← readMembers? fuel s
          some ((String.ofList name, value) :: members, s)
        | _ => none
      | _ => none
    | _ => none

end

/-- Reads a document: a value and nothing after it. No value nests deeper than the text is long. -/
def read? (text : String) : Option Document := do
  let s := text.toList
  let (document, rest) ← readValue? (s.length + 1) s
  if rest.all isSpace then some document else none

end SqlTemplate.Document
