import SqlTemplate.Character.Class
import SqlTemplate.Character.Query
import SqlTemplate.Document.Reader
import SqlTemplate.Pattern.Basic

/-!
# Escapes in patterns

What a backslash and the characters after it stand for.
-/

namespace SqlTemplate.Pattern

/-- How the characters of a pattern are read. With `verbose`, blanks and comments are skipped;
without `unicode`, classes hold ASCII characters only. -/
structure Flags where
  ignoreCase : Bool := false
  multiLine : Bool := false
  dotAll : Bool := false
  crlf : Bool := false
  unicode : Bool := true
  verbose : Bool := false
  swapGreed : Bool := false
deriving DecidableEq, Repr

/-- A character, a set of characters or an assertion: what can stand alone in a pattern. -/
inductive Primitive where
  | literal (c : Char)
  | set (s : CharSet)
  | assertion (a : Assertion)
deriving DecidableEq, Repr

namespace Flags

/-- The longest beginning whose characters satisfy `p`, and the rest. Blanks and comments between
the characters are left out where they do not count; `inComment` tells that the text starts in a
comment, which goes on to the end of the line. -/
def spanFrom (flags : Flags) (p : Char → Bool) :
    (inComment : Bool) → List Char → List Char × List Char
  | _, [] => ([], [])
  | true, c :: s => spanFrom flags p (c != '\n') s
  | false, c :: s =>
    if flags.verbose && Text.isBlank c then spanFrom flags p false s
    else if flags.verbose && c == '#' then spanFrom flags p true s
    else if p c then
      let (taken, rest) := spanFrom flags p false s
      (c :: taken, rest)
    else ([], c :: s)

def span (flags : Flags) (p : Char → Bool) (s : List Char) : List Char × List Char :=
  flags.spanFrom p false s

def skip (flags : Flags) (s : List Char) : List Char :=
  (flags.span (fun _ => false) s).2

/-- A set with the letters of both cases, where case is ignored; without `unicode` only ASCII
letters have two. -/
def foldCase (flags : Flags) (s : CharSet) : CharSet :=
  if !flags.ignoreCase then s else if flags.unicode then s.caseless else s.asciiCaseless

/-- A complement; it holds characters beyond ASCII. -/
def negate? (flags : Flags) (negated : Bool) (s : CharSet) : Option CharSet :=
  if !negated then some s else if flags.unicode then some s.complement else none

/-- The set of a class letter: digits, blanks, or the characters of words. -/
def classSet? (flags : Flags) (c : Char) : Option CharSet :=
  match c, flags.unicode with
  | 'd', true => some .digit
  | 's', true => some .blank
  | 'w', true => some .word
  | 'd', false => some .asciiDigit
  | 's', false => some .asciiBlank
  | 'w', false => some .asciiWord
  | _, _ => none

def word (flags : Flags) : CharSet :=
  if flags.unicode then .word else .asciiWord

end Flags

def isMeta (c : Char) : Bool :=
  "\\.+*?()|[]\x7b\x7d^$#&-~".toList.contains c

/-- Whether a backslash before the character may make it stand for itself. -/
def isEscapable (c : Char) : Bool :=
  isMeta c || (c.toNat < 0x80 && !c.isAlphanum && c != '<' && c != '>')

/-- The contents of braces after the opening one, and what follows the closing one. -/
def readBraced? (flags : Flags) (s : List Char) : Option (List Char × List Char) :=
  match flags.span (· ≠ '}') s with
  | (contents, _ :: rest) => some (contents, rest)
  | _ => none

def readHex? (digits : List Char) : Option Char := do
  let n ← digits.foldlM (fun n c => do some (16 * n + (← Document.hexValue? c))) 0
  if digits.isEmpty || !n.isValidChar then none else some (Char.ofNat n)

/-- This many characters, one after the other. -/
def readCharacters? (flags : Flags) : Nat → List Char → Option (List Char × List Char)
  | 0, s => some ([], s)
  | n + 1, s =>
    match flags.skip s with
    | [] => none
    | c :: s => do
      let (cs, s) ← readCharacters? flags n s
      some (c :: cs, s)

/-- A code point of `width` hexadecimal digits, or of any number of them between braces. -/
def readCodePoint? (flags : Flags) (width : Nat) (s : List Char) :
    Option (Char × List Char) := do
  let (digits, s) ← match flags.skip s with
    | '{' :: s => readBraced? flags s
    | s => readCharacters? flags width s
  some (← readHex? digits, s)

/-- The property after the letter of a property class: one letter, or a query between braces. -/
def readProperty? (flags : Flags) (s : List Char) : Option ((Bool × CharSet) × List Char) :=
  match flags.skip s with
  | [] => none
  | '{' :: s => do
    let (query, s) ← readBraced? flags s
    some (← CharSet.query? query, s)
  | c :: s => if c == '\\' then none else do some (← CharSet.query? [c], s)

def namedEdge? (name : List Char) : Option WordEdge :=
  match String.ofList name with
  | "start" => some .start
  | "end" => some .stop
  | "start-half" => some .startHalf
  | "end-half" => some .stopHalf
  | _ => none

/-- The word edge after `\b`. A brace that does not hold a name is no part of it. -/
def readEdge? (flags : Flags) : List Char → Option (WordEdge × List Char)
  | '{' :: s =>
    if ((flags.skip s).head?.map fun c => c.isAlpha || c == '-').getD false then do
      let (name, rest) ← readBraced? flags s
      some (← namedEdge? name, rest)
    else some (.either, '{' :: s)
  | s => some (.either, s)

def control? : Char → Option Char
  | 'a' => some '\x07'
  | 'f' => some '\x0c'
  | 't' => some '\t'
  | 'n' => some '\n'
  | 'r' => some '\r'
  | 'v' => some '\x0b'
  | _ => none

/-- What follows a backslash. -/
def readEscape? (flags : Flags) : List Char → Option (Primitive × List Char)
  | [] => none
  | c :: s =>
    match c with
    | 'x' => do
      let isByte := (flags.skip s).head? != some '{'
      let (c, s) ← readCodePoint? flags 2 s
      if isByte && !flags.unicode && 0x80 ≤ c.toNat then none else some (.literal c, s)
    | 'u' => do
      let (c, s) ← readCodePoint? flags 4 s
      some (.literal c, s)
    | 'U' => do
      let (c, s) ← readCodePoint? flags 8 s
      some (.literal c, s)
    | 'p' | 'P' => do
      let ((others, set), s) ← readProperty? flags s
      if flags.unicode then
        let set ← flags.negate? ((c == 'P') != others) (flags.foldCase set)
        some (.set set, s)
      else none
    | 'd' | 's' | 'w' => do some (.set (← flags.classSet? c), s)
    | 'D' | 'S' | 'W' => do some (.set (← flags.negate? true (← flags.classSet? c.toLower)), s)
    | 'A' => some (.assertion .textStart, s)
    | 'z' => some (.assertion .textEnd, s)
    | 'b' => do
      let (edge, s) ← readEdge? flags s
      some (.assertion (.wordEdge edge flags.word), s)
    | 'B' => some (.assertion (.wordEdge .neither flags.word), s)
    | '<' => some (.assertion (.wordEdge .start flags.word), s)
    | '>' => some (.assertion (.wordEdge .stop flags.word), s)
    | c =>
      if isEscapable c then some (.literal c, s)
      else (control? c).map fun c => (.literal c, s)

end SqlTemplate.Pattern
