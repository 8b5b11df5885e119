import SqlTemplate.Entries
import SqlTemplate.Kind
import SqlTemplate.Number.Double
import SqlTemplate.Number.Integer
import SqlTemplate.Path
import SqlTemplate.Text.Blank

/-!
# Values

Parameters, bindings and the results of expressions are values: null, scalars, lists, maps with
named entries, and records, which are maps with a type name. A path leads from a value to one
inside it.
-/

namespace SqlTemplate

/-- A dynamically typed value. The entries of maps and records are sorted by name. -/
inductive Value where
  | null
  | bool (b : Bool)
  | int (n : Int)
  | float (x : Number.Double)
  | text (s : String)
  | bytes (data : List UInt8)
  | list (items : List Value)
  | map (entries : List (String × Value))
  | record (typeName : String) (properties : List (String × Value))
deriving Repr, Inhabited

namespace Value

/-- The kind of a value. Null has no kind of its own. -/
def kind : Value → Kind
  | null => .object
  | bool _ => .bool
  | int _ => .int
  | float _ => .float
  | text _ => .text
  | bytes _ => .bytes
  | list _ => .list
  | map _ => .map
  | record name _ => .record name

def isNull : Value → Bool
  | null => true
  | _ => false

/-- Scalars: booleans, numbers, texts and bytes. -/
def isSimple (v : Value) : Bool :=
  v.kind.isSimple

/-- A boolean stands for itself; null and zero are false, all else is true. -/
def isTrue : Value → Bool
  | null => false
  | bool b => b
  | int n => n != 0
  | float x => !x.isZero
  | _ => true

def text? : Value → Option String
  | text s => some s
  | _ => none

def int? : Value → Option Int
  | int n => some n
  | _ => none

/-- The named parts of a map or a record. -/
def entries? : Value → Option (Entries Value)
  | map entries | record _ entries => some entries
  | _ => none

def property (v : Value) (name : String) : Option Value := do
  (← v.entries?).get? name

def hasProperty (v : Value) (name : String) : Bool :=
  (v.property name).isSome

/-- An index without quotation marks around it. -/
def unquote (index : String) : String :=
  String.ofList (Text.trimBoth (fun c => c == '\'' || c == '"') index.toList)

/-- Bracket access: a position of a list, or a name in a map or a record. -/
def index (v : Value) (index : String) : Option Value :=
  match v with
  -- a position may have blanks around it, but no quotation marks
  | list items => do items[← Number.readNat? (Text.trimBoth Text.isBlank index.toList)]?
  | v => v.property (unquote index)

def enter (v : Value) (step : Step) : Option Value :=
  match step.index with
  | none => some v
  | some i => v.index i

/-- Follows one step of a path. A step without a name only has its index. -/
def walk (v : Value) (step : Step) : Option Value := do
  let v ← if step.name = "" then some v else v.property step.name
  v.enter step

def walkAll (v : Value) (steps : List Step) : Option Value :=
  steps.foldlM walk v

def getPath (v : Value) (path : String) : Option Value :=
  v.walkAll (Path.ofText path).steps

end Value

end SqlTemplate
