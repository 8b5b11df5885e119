import SqlTemplate.Statement

/-!
# Bound statements

A final statement together with the parameter of one call and the values that the evaluation of
the template bound to names.
-/

namespace SqlTemplate

structure BoundStatement where
  statement : Statement
  parameter : Value
  additional : Entries Value := []
deriving Repr

namespace BoundStatement

def setAdditional (b : BoundStatement) (name : String) (value : Value) : BoundStatement :=
  { b with additional := b.additional.insert name value }

/-- Whether the root of a path has a value of its own. -/
def hasAdditional (b : BoundStatement) (path : String) : Bool :=
  b.additional.contains (rootName path)

/-- The value at a path whose root has a value of its own. -/
def getAdditional (b : BoundStatement) (path : String) : Option Value := do
  let p := Path.ofText path
  let v ← b.additional.get? p.root.name
  let v ← v.enter p.root
  v.walkAll p.rest

/-- Whether the parameter fills every placeholder by itself. -/
def bindsWhole (b : BoundStatement) (config : Configuration) : Bool :=
  !b.parameter.isNull && config.hasHandler b.parameter.kind

/-- The value of a property: of its own root if that has one, else the whole parameter or its
part. -/
def valueAt (b : BoundStatement) (config : Configuration) (property : String) : Value :=
  if b.hasAdditional property then (b.getAdditional property).getD .null
  else if b.bindsWhole config then b.parameter
  else if b.parameter.isNull then .null
  else (b.parameter.getPath property).getD .null

/-- The value that is bound for a parameter; what only comes out is null. -/
def valueOf (b : BoundStatement) (config : Configuration) (p : Parameter) : Value :=
  if p.mode = .output then .null else b.valueAt config p.property

/-- The values in the order of the placeholders. -/
def values (b : BoundStatement) (config : Configuration) : List Value :=
  b.statement.parameters.map (b.valueOf config)

/-- The column type that a value is bound with. -/
def columnTypeOf (config : Configuration) (p : Parameter) (v : Value) : Option ColumnType :=
  p.columnType <|> if v.isNull then some config.settings.nullColumnType else none

def columnTypes (b : BoundStatement) (config : Configuration) : List (Option ColumnType) :=
  b.statement.parameters.map fun p => columnTypeOf config p (b.valueOf config p)

end BoundStatement

end SqlTemplate
