import SqlTemplate.Number.Integer
import SqlTemplate.Pattern.Automaton
import SqlTemplate.Pattern.Class
import SqlTemplate.Pattern.Piece

/-!
# Reading patterns

The text of a pattern: alternatives separated by `|`, each a sequence of primitives with
repetition operators after them; groups in parentheses, with a name or with flags. Flags set in a
group hold up to its end. There is no look-around and there are no back-references. A pattern may
neither nest too deep nor make too large an automaton.
-/

namespace SqlTemplate.Pattern

/-- What reading carries along: the flags in force, the number of groups that are numbered so far,
and the group names that are taken. -/
structure Scope where
  flags : Flags := {}
  groups : Nat := 0
  names : List String := []
deriving DecidableEq, Repr

def Flags.set? (flags : Flags) (letter : Char) (on : Bool) : Option Flags :=
  match letter with
  | 'i' => some { flags with ignoreCase := on }
  | 'm' => some { flags with multiLine := on }
  | 's' => some { flags with dotAll := on }
  | 'R' => some { flags with crlf := on }
  | 'u' => some { flags with unicode := on }
  | 'x' => some { flags with verbose := on }
  | 'U' => some { flags with swapGreed := on }
  | _ => none

/-- Sets flags by their letters; those after a hyphen are taken away. -/
def Flags.setLetters? : Flags → Bool → List Char → Option Flags
  | flags, _, [] => some flags
  | flags, on, c :: s =>
    if c == '-' then setLetters? flags false s
    else do setLetters? (← flags.set? c on) on s

/-- Sets the flags of a group. No letter may be repeated, nor may the hyphen, and letters follow
the hyphen. -/
def Flags.setAll? (flags : Flags) (letters : List Char) : Option Flags :=
  if letters.getLast? == some '-' || !letters.Nodup then none
  else flags.setLetters? true letters

/-- What a group begins with: flags for the rest of the surrounding group, or its own scope and
perhaps its number. -/
inductive Opening where
  | setFlags (flags : Flags)
  | group (scope : Scope) (number : Option Nat)

def isNameChar (first : Bool) (c : Char) : Bool :=
  c == '_' || CharSet.alphabetic.contains c ||
    (!first && (c == '.' || c == '[' || c == ']' || (Category.union Category.numbers).contains c))

/-- The name of a group up to the closing angle bracket. -/
def readName? (scope : Scope) (s : List Char) : Option (Scope × List Char) :=
  match s.takeWhile (· ≠ '>'), s.dropWhile (· ≠ '>') with
  | c :: name, _ :: rest =>
    let text := String.ofList (c :: name)
    if isNameChar true c && name.all (isNameChar false) && !scope.names.contains text then
      some ({ scope with names := text :: scope.names }, rest)
    else none
  | _, _ => none

def Opening.numbered (scope : Scope) : Opening :=
  .group { scope with groups := scope.groups + 1 } (some (scope.groups + 1))

/-- What follows an opening parenthesis before the contents of the group. -/
def readOpeningParenthesis? (scope : Scope) (s : List Char) : Option (Opening × List Char) :=
  match scope.flags.skip s with
  | '?' :: '=' :: _ | '?' :: '!' :: _ | '?' :: '<' :: '=' :: _ | '?' :: '<' :: '!' :: _ => none
  | '?' :: 'P' :: '<' :: s | '?' :: '<' :: s => do
    let (scope, s) ← readName? scope s
    some (.numbered scope, s)
  | '?' :: s =>
    let letters := s.takeWhile fun c => !(c == ':' || c == ')')
    match s.dropWhile fun c => !(c == ':' || c == ')') with
    | ':' :: rest => do
      some (.group { scope with flags := ← scope.flags.setAll? letters } none, rest)
    | _ :: rest =>
      if letters.isEmpty then none
      else do some (.setFlags (← scope.flags.setAll? letters), rest)
    | [] => none
  | s => some (.numbered scope, s)

def maxCount : Nat := 4294967295

def readCount? (flags : Flags) (s : List Char) : Option (Nat × List Char) := do
  let (digits, s) := flags.span Char.isDigit (s.dropWhile Text.isBlank)
  let n ← Number.readDigits? digits
  if n ≤ maxCount then some (n, s.dropWhile Text.isBlank) else none

/-- The bounds of a repetition after the opening brace: one count, or a least and perhaps a
greatest. -/
def readBounds? (flags : Flags) (s : List Char) : Option ((Nat × Option Nat) × List Char) := do
  let (least, s) ← readCount? flags (flags.skip s)
  match s with
  | '}' :: s => some ((least, some least), s)
  | ',' :: s =>
    match flags.skip s with
    | '}' :: s => some ((least, none), s)
    | s => do
      let (most, s) ← readCount? flags s
      match s with
      | '}' :: s => if least ≤ most then some ((least, some most), s) else none
      | _ => none
  | _ => none

/-- Skips the mark that makes a repetition prefer few; it does not change what matches. -/
def skipLazy : List Char → List Char
  | '?' :: s => s
  | s => s

def readRepetitions? : Nat → Flags → Piece → List Char → Option (Piece × List Char)
  | 0, _, _, _ => none
  | fuel + 1, flags, p, s =>
    match flags.skip s with
    | '*' :: s => readRepetitions? fuel flags (p.times 0 none) (skipLazy s)
    | '+' :: s => readRepetitions? fuel flags (p.times 1 none) (skipLazy s)
    | '?' :: s => readRepetitions? fuel flags (p.times 0 (some 1)) (skipLazy s)
    | '{' :: s => do
      let ((least, most), s) ← readBounds? flags s
      readRepetitions? fuel flags (p.times least most) (skipLazy (flags.skip s))
    | s => some (p, s)

def Flags.primitive (flags : Flags) : Primitive → Pattern
  | .literal c => .char (flags.foldCase (.single c))
  | .set s => .char s
  | .assertion a => .assertion a

def Flags.dot? (flags : Flags) : Option CharSet :=
  if !flags.unicode then none
  else if flags.dotAll then some .all
  else if flags.crlf then some (.complement (.ofRanges [('\r', '\r'), ('\n', '\n')]))
  else some (.complement (.single '\n'))

def Flags.lineStart (flags : Flags) : Assertion :=
  if flags.multiLine then .lineStart flags.crlf else .textStart

def Flags.lineEnd (flags : Flags) : Assertion :=
  if flags.multiLine then .lineEnd flags.crlf else .textEnd

/-- One primitive other than a group. A repetition operator has nothing to repeat here. -/
def readPrimitive? (flags : Flags) : List Char → Option (Piece × List Char)
  | [] => none
  | c :: s =>
    match c with
    | '*' | '+' | '?' | '{' => none
    | '.' => do some (⟨.char (← flags.dot?), 0⟩, s)
    | '^' => some (⟨.assertion flags.lineStart, 0⟩, s)
    | '$' => some (⟨.assertion flags.lineEnd, 0⟩, s)
    | '\\' => do
      let (primitive, s) ← readEscape? flags s
      some (⟨flags.primitive primitive, 0⟩, s)
    | '[' => do
      let (members, s) ← readClass? (2 * s.length + 2) flags s
      some (⟨.char members.set, members.depth⟩, s)
    | c => some (⟨flags.primitive (.literal c), 0⟩, s)

def Piece.group (number : Option Nat) (p : Piece) : Piece :=
  p.nest fun p =>
    match number with
    | some n => .captured n p
    | none => p

mutual

/-- The branches up to the end of a group or of the text. -/
def readBranches? : Nat → Scope → List Char → Option (List Piece × Scope × List Char)
  | 0, _, _ => none
  | fuel + 1, scope, s => do
    let (ps, scope, s) ← readSequence? fuel scope s
    match s with
    | '|' :: s => do
      let (branches, scope, s) ← readBranches? fuel scope s
      some (.sequence ps :: branches, scope, s)
    | s => some ([.sequence ps], scope, s)

/-- The pieces up to the end of a branch. -/
def readSequence? : Nat → Scope → List Char → Option (List Piece × Scope × List Char)
  | 0, _, _ => none
  | fuel + 1, scope, s =>
    match scope.flags.skip s with
    | [] => some ([], scope, [])
    | ')' :: s => some ([], scope, ')' :: s)
    | '|' :: s => some ([], scope, '|' :: s)
    | '(' :: s => do
      let (opening, s) ← readOpeningParenthesis? scope s
      match opening with
      | .setFlags flags => do
        let (ps, scope, s) ← readSequence? fuel { scope with flags } s
        some (.empty :: ps, scope, s)
      | .group inner number => do
        let (branches, inner, s) ← readBranches? fuel inner s
        match s with
        | ')' :: s => do
          let p := Piece.group number (.choice branches)
          let (p, s) ← readRepetitions? (s.length + 1) scope.flags p s
          let (ps, scope, s) ← readSequence? fuel { inner with flags := scope.flags } s
          some (p :: ps, scope, s)
        | _ => none
    | s => do
      let (p, s) ← readPrimitive? scope.flags s
      let (p, s) ← readRepetitions? (s.length + 1) scope.flags p s
      let (ps, scope, s) ← readSequence? fuel scope s
      some (p :: ps, scope, s)

end

/-- The most levels that the text of a pattern may have. -/
def maxDepth : Nat := 250

/-- Reads a pattern: branches, and no closing parenthesis left over. -/
def read? (text : List Char) : Option Pattern := do
  let (branches, _, rest) ← readBranches? (2 * text.length + 2) {} text
  let p := Piece.choice branches
  if rest.isEmpty && p.depth ≤ maxDepth && p.pattern.fits then some p.pattern else none

end SqlTemplate.Pattern
