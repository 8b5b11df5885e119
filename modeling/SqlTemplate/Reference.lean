import SqlTemplate.Entries
import SqlTemplate.Fault
import SqlTemplate.Text.Blank
import SqlTemplate.Text.Bytes

/-!
# References

The content of a `#{…}` token refers to a value: a property path or a parenthesised expression,
then an optional column type after a colon, then options after commas:

    (path | '(' expression ')') [':' column type] (',' name '=' value)*

Every part is read without the padding around it. A content that breaks the grammar is reported
with the byte offset of the place.
-/

namespace SqlTemplate

inductive Target where
  | property (path : String)
  | expression (text : String)
deriving DecidableEq, Repr

namespace Target

def property? : Target → Option String
  | property path => some path
  | expression _ => none

def expression? : Target → Option String
  | property _ => none
  | expression text => some text

end Target

/-- The parts of a reference. An option `jdbcType` is also the column type. -/
structure Reference where
  target : Target
  columnType : Option String
  options : Entries String
deriving DecidableEq, Repr

namespace Reference

/-- A text without its outer padding. -/
def unpad (s : List Char) : String :=
  String.ofList (Text.trimBoth Text.isPadding s)

/-- A parser of the rest of a content. It fails with the part of the content from the offending
place on. -/
abbrev Parsed := Except (List Char)

/-- The text before the parenthesis that closes `depth` nested ones and one more, and what follows
it. -/
def closeParenthesis? : Nat → List Char → Option (List Char × List Char)
  | _, [] => none
  | depth, c :: s =>
    match c, depth with
    | ')', 0 => some ([], s)
    | ')', depth + 1 => (closeParenthesis? depth s).map fun (a, b) => (c :: a, b)
    | '(', depth => (closeParenthesis? (depth + 1) s).map fun (a, b) => (c :: a, b)
    | _, depth => (closeParenthesis? depth s).map fun (a, b) => (c :: a, b)

/-- One option that is known to start with the given text, and what follows its comma. -/
def readOption (s : List Char) : Parsed ((String × String) × List Char) :=
  -- the name goes on to the first equals sign, past any comma in front of it
  match s.dropWhile (· ≠ '=') with
  | [] => .error s
  | _ :: valuePart =>
    .ok ((unpad (s.takeWhile (· ≠ '=')), unpad (valuePart.takeWhile (· ≠ ','))),
      (valuePart.dropWhile (· ≠ ',')).drop 1)

theorem length_of_readOption {s rest : List Char} {o : String × String}
    (h : readOption s = .ok (o, rest)) : rest.length < s.length := by
  simp only [readOption] at h
  split at h
  · simp at h
  · rename_i c valuePart hv
    simp only [Except.ok.injEq, Prod.mk.injEq] at h
    obtain ⟨_, rfl⟩ := h
    have h₁ := (List.dropWhile_sublist (l := s) (· ≠ '=')).length_le
    have h₂ := (List.dropWhile_sublist (l := valuePart) (· ≠ ',')).length_le
    rw [hv] at h₁
    simp only [List.length_cons, List.length_drop] at *
    omega

set_option linter.unusedVariables false in
/-- The options of the rest of a content, in order. -/
def readOptions (s : List Char) : Parsed (List (String × String)) :=
  match hp : s.dropWhile Text.isPadding with
  | [] => .ok []
  | c :: t =>
    match h : readOption (c :: t) with
    | .error place => .error place
    | .ok (o, rest) =>
      match readOptions rest with
      | .error place => .error place
      | .ok more => .ok (o :: more)
termination_by s.length
decreasing_by
  have h₁ := length_of_readOption h
  have h₂ := (List.dropWhile_sublist (l := s) Text.isPadding).length_le
  rw [hp] at h₂
  omega

/-- The column type after a colon and the options after it. The type must not be missing. -/
def readType (s : List Char) : Parsed (String × List (String × String)) :=
  let t := s.dropWhile Text.isPadding
  match t with
  | [] => .error s
  | ',' :: _ => .error s
  | t => do
    let options ← readOptions ((t.dropWhile (· ≠ ',')).drop 1)
    .ok (unpad (t.takeWhile (· ≠ ',')), options)

/-- What may follow the target: a column type, options, or nothing. -/
def readTail (s : List Char) : Parsed (Option String × List (String × String)) :=
  match s.dropWhile Text.isPadding with
  | [] => .ok (none, [])
  | ':' :: s => do
    let (type, options) ← readType s
    .ok (some type, options)
  | ',' :: s => do
    let options ← readOptions s
    .ok (none, options)
  | stray => .error stray

def endsPath (c : Char) : Bool :=
  c == ',' || c == ':'

/-- The target at the start of a content, and what follows it. -/
def readTarget (s : List Char) : Parsed (Target × List Char) :=
  match s.dropWhile Text.isPadding with
  | [] => .error []
  | '(' :: s =>
    match closeParenthesis? 0 s with
    | none => .error []
    | some (text, rest) => .ok (.expression (String.ofList text), rest)
  | s => .ok (.property (unpad (s.takeWhile (!endsPath ·))), s.dropWhile (!endsPath ·))

/-- The value of the last `jdbcType` option. -/
def typeOption (options : List (String × String)) : Option String :=
  (options.reverse.find? (·.1 == "jdbcType")).map (·.2)

def readParts (s : List Char) : Parsed Reference := do
  let (target, rest) ← readTarget s
  let (type, options) ← readTail rest
  -- an option outranks the type behind the colon
  .ok ⟨target, typeOption options <|> type, Entries.ofList options⟩

/-- Reads the content of a `#{…}` token. -/
def parse (content : String) : Except Fault Reference :=
  match readParts content.toList with
  | .ok reference => .ok reference
  | .error place =>
    .error (.reference content (Text.byteSize content.toList - Text.byteSize place))

end Reference

end SqlTemplate
