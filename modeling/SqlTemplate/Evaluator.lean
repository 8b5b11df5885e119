import SqlTemplate.Bindings
import SqlTemplate.Fault
import SqlTemplate.Number.Reader
import SqlTemplate.Value.Display

/-!
# Evaluators

Templates hold expressions: tests, collections, declared values, and the contents of `${…}`
tokens. An evaluator gives their values, their truth and the elements of the collections they stand
for. One that gives only values has the truth and the elements of these; the path evaluator is of this
sort, and knows literals and property paths and nothing else.
-/

namespace SqlTemplate

/-- One element of a collection: `key` is its position in a list or its name in a map. -/
structure Item where
  key : Value
  value : Value
deriving Repr

namespace Evaluator

def byPosition (values : List Value) : List Item :=
  values.zipIdx.map fun (v, i) => ⟨.int i, v⟩

/-- The elements of the value of an expression: of a list and of bytes by position, of a map by
name. Null has none if the collection may be null. -/
def items (expression : String) (nullable : Bool) : Value → Except Fault (Option (List Item))
  | .null =>
    if nullable then .ok none
    else .error (.evaluation expression (.nullCollection expression))
  | .list values => .ok (some (byPosition values))
  | .map entries => .ok (some (entries.map fun (name, v) => ⟨.text name, v⟩))
  | .bytes data => .ok (some (byPosition (data.map fun b => .int b.toNat)))
  | v => .error (.evaluation expression (.notIterable v.display))

end Evaluator

/-- Answers what templates ask about their expressions: the value under bindings, whether it counts as
true, and its elements. An evaluator may decide the last two for itself. -/
structure Evaluator where
  value (expression : String) (b : Bindings) : Except Fault Value
  test (expression : String) (b : Bindings) : Except Fault Bool :=
    (value expression b).map Value.isTrue
  collection (expression : String) (nullable : Bool) (b : Bindings) :
      Except Fault (Option (List Item)) := do
    Evaluator.items expression nullable (← value expression b)

namespace Evaluator

/-- The text between two equal quotation marks. -/
def unquote? (quote : Char) : List Char → Option (List Char)
  | [] => none
  | c :: s => if c == quote && s.getLast? == some quote then some s.dropLast else none

/-- Reads a number: a text that starts with a digit or a minus sign and is an integer of 64 bits or
a double. -/
def number? (s : List Char) : Option Value :=
  if s.head?.any fun c => c.isDigit || c == '-' then
    match Number.readInt? s with
    | some n => if Number.fitsInt64 n then some (.int n) else (Number.Double.read? s).map .float
    | none => (Number.Double.read? s).map .float
  else none

/-- Reads a literal: a word, a quoted text or a number. -/
def literal? (s : List Char) : Option Value :=
  match String.ofList s with
  | "null" => some .null
  | "true" => some (.bool true)
  | "false" => some (.bool false)
  | _ =>
    (unquote? '\'' s <|> unquote? '"' s).map (fun t => .text (String.ofList t)) <|> number? s

def isPath (s : List Char) : Bool :=
  s.head?.any (fun c => !(c.isDigit || c == '.' || c == '[')) &&
    s.all fun c => c.isAlphanum || c == '_' || c == '$' || c == '.' || c == '[' || c == ']'

/-- The value of a literal or a property path. A path that leads nowhere is null. -/
def pathValue (expression : String) (b : Bindings) : Except Fault Value :=
  let s := Text.trimBoth Text.isBlank expression.toList
  match literal? s with
  | some v => .ok v
  | none =>
    if isPath s then .ok ((b.getPath (String.ofList s)).getD .null)
    else .error (.evaluation expression .notAnExpression)

/-- The evaluator of literals and property paths. -/
def paths : Evaluator where
  value := pathValue

theorem test_paths (expression : String) (b : Bindings) :
    paths.test expression b = (paths.value expression b).map Value.isTrue :=
  rfl

theorem collection_paths (expression : String) (nullable : Bool) (b : Bindings) :
    paths.collection expression nullable b = paths.value expression b >>= items expression nullable :=
  rfl

/-- The evaluator that gives set answers to some expressions, a value or a failure, and leaves all
others to `ev`. -/
def withAnswers (answers : List (String × Except String Value)) (ev : Evaluator) : Evaluator where
  value expression b :=
    match answers.find? (·.1 == expression) with
    | some (_, .ok v) => .ok v
    | some (_, .error message) => .error (.evaluation expression (.stated message))
    | none => ev.value expression b

end Evaluator

end SqlTemplate
