import SqlTemplate.Value.Basic

/-!
# Bindings

The names an expression can use during one call: those that are bound, among them the parameter
and the database identifier, and after them the properties of the parameter.
-/

namespace SqlTemplate

/-- The bound names. With `answersAll`, the parameter also stands for every name that is neither
bound nor one of its properties. -/
structure Bindings where
  locals : Entries Value
  answersAll : Bool
deriving Repr, Inhabited

namespace Bindings

def parameterName : String := "_parameter"

def databaseName : String := "_databaseId"

def empty : Bindings := ⟨[], false⟩

/-- The bindings a call starts with. A parameter whose kind has a type handler answers to every
name, unless it is null. -/
def start (parameter : Value) (databaseId : Option String) (hasHandler : Bool) : Bindings where
  locals := Entries.ofList
    [(parameterName, parameter), (databaseName, (databaseId.map Value.text).getD .null)]
  answersAll := hasHandler && !parameter.isNull

def parameter (b : Bindings) : Value :=
  (b.locals.get? parameterName).getD .null

def databaseId (b : Bindings) : Option String := do
  (← b.locals.get? databaseName).text?

def bind (b : Bindings) (name : String) (value : Value) : Bindings :=
  { b with locals := b.locals.insert name value }

def release (b : Bindings) (name : String) : Bindings :=
  { b with locals := b.locals.erase name }

/-- Whether a name is bound; properties of the parameter do not count. -/
def isBound (b : Bindings) (name : String) : Bool :=
  b.locals.contains name

/-- The value of a name that is not bound: a property of the parameter, or the parameter. -/
def fallback (b : Bindings) (name : String) : Option Value :=
  let parameter := b.parameter
  if parameter.isNull then none
  else if b.answersAll && !parameter.hasProperty name then some parameter
  else parameter.property name

def get (b : Bindings) (name : String) : Option Value :=
  match b.locals.get? name with
  | some v => some v
  | none => b.fallback name

def getPath (b : Bindings) (path : String) : Option Value := do
  let p := Path.ofText path
  let v ← b.get p.root.name
  let v ← v.enter p.root
  v.walkAll p.rest

/-- The value at a path whose root is a bound name; null where the path leads nowhere. -/
def localPath (b : Bindings) (path : String) : Option Value :=
  if b.isBound (rootName path) then some ((b.getPath path).getD .null) else none

end Bindings

end SqlTemplate
