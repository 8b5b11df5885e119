import SqlTemplate.Configuration
import SqlTemplate.Reference

/-!
# Parameters of a statement

Each placeholder of a final statement has a parameter: where its value comes from, its direction,
its kind, and either the type handler that binds it or, for a cursor, the result map that reads
it. `Parameter.ofContent` finds out all this from the content of a `#{…}` token.
-/

namespace SqlTemplate

/-- The description of what is bound to a placeholder. -/
structure Parameter where
  property : String
  mode : Mode := .input
  kind : Kind
  columnType : Option ColumnType := none
  scale : Option Nat := none
  handler : Option String := none
  resultMap : Option String := none
  columnTypeName : Option String := none
deriving DecidableEq, Repr

namespace Parameter

/-- Cursors yield rows and have a result map in place of a handler. -/
def isCursor (p : Parameter) : Bool :=
  p.kind == .resultSet || p.columnType == some .cursor

/-- Finds the handler of a parameter that has none and refuses what cannot be bound. -/
def complete (config : Configuration) (fragment : String) (p : Parameter) :
    Except Fault Parameter :=
  if p.isCursor then
    if p.resultMap.isSome then .ok p else .error (.typing (.missingResultMap p.property) fragment)
  else
    match p.handler <|> config.handlers.lookup p.kind p.columnType with
    | some handler => .ok { p with handler := some handler }
    | none => .error (.typing (.missingHandler p.property p.kind p.columnType) fragment)

/-- The greatest number of digits after the point. -/
def maxScale : Nat := 4294967295

def readScale? (text : String) : Option Nat := do
  let n ← Number.readNat? text.toList
  if n ≤ maxScale then some n else none

/-- The kind of a property where no option says it: of the value that is bound, of the parameter
if it is bound as a whole, of rows for a cursor, or as declared. -/
def propertyKind (config : Configuration) (parameterKind : Kind) (bindings : Bindings)
    (columnType : Option ColumnType) (property : String) : Kind :=
  match bindings.localPath property with
  | some v => v.kind
  | none =>
    if config.hasHandler parameterKind then parameterKind
    else if columnType = some .cursor then .resultSet
    else if parameterKind = .map then .object
    else (config.propertyKind parameterKind property).getD .object

/-- A parameter while its options are read, and the handler they name. -/
structure Draft where
  parameter : Parameter
  handlerName : Option String := none

def Draft.setOption (config : Configuration) (content : String) (d : Draft) (name value : String) :
    Except Fault Draft :=
  match name with
  | "javaType" => do
    let kind ← (config.namedKind value).mapError (Fault.within content)
    pure { d with parameter.kind := kind }
  -- the column type was settled with the reference
  | "jdbcType" | "property" => pure d
  | "mode" => do
    let mode ← (Configuration.namedMode value).mapError (Fault.within content)
    pure { d with parameter.mode := mode }
  | "numericScale" =>
    match readScale? value with
    | some scale => pure { d with parameter.scale := some scale }
    | none => .error (.template (.invalidScale value) content)
  | "resultMap" => pure { d with parameter.resultMap := some value }
  | "typeHandler" => pure { d with handlerName := some value }
  | "jdbcTypeName" => pure { d with parameter.columnTypeName := some value }
  | "expression" => .error (.template .expressionParameter content)
  | other => .error (.template (.unknownOption other content) content)

/-- Applies options in the order of their names. -/
def Draft.setOptions (config : Configuration) (content : String) :
    Draft → List (String × String) → Except Fault Draft
  | d, [] => .ok d
  | d, (name, value) :: rest => do
    Draft.setOptions config content (← d.setOption config content name value) rest

def ofProperty (config : Configuration) (parameterKind : Kind) (bindings : Bindings)
    (content property : String) (columnType : Option ColumnType) (options : Entries String) :
    Except Fault Parameter := do
  let kind := propertyKind config parameterKind bindings columnType property
  let d ← Draft.setOptions config content ⟨{ property, kind }, none⟩ options
  let p := { d.parameter with columnType }
  let handler ← match d.handlerName with
    | none => pure none
    | some name => some <$> (config.namedHandler p.kind name).mapError (Fault.within content)
  complete config content { p with handler }

def columnTypeOf (content : String) (reference : Reference) : Except Fault (Option ColumnType) :=
  match reference.columnType with
  | none => .ok none
  | some name => some <$> (Configuration.namedColumnType name).mapError (Fault.within content)

/-- The parameter of the content of a `#{…}` token. -/
def ofContent (config : Configuration) (parameterKind : Kind) (bindings : Bindings)
    (content : String) : Except Fault Parameter := do
  let reference ← Reference.parse content
  match reference.target with
  | .expression _ => .error (.template .expressionParameter content)
  | .property property =>
    let columnType ← columnTypeOf content reference
    ofProperty config parameterKind bindings content property columnType reference.options

end Parameter

end SqlTemplate
