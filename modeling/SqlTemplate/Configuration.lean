import SqlTemplate.Bindings
import SqlTemplate.Filter
import SqlTemplate.Handlers
import SqlTemplate.Settings
import SqlTemplate.Token

/-!
# Configurations

The settings together with what is registered: the filter read from its pattern, type handlers,
names for kinds, and the kinds of the properties of records.
-/

namespace SqlTemplate

/-- What templates are compiled and evaluated with. -/
structure Configuration where
  settings : Settings
  filter : Option Filter
  handlers : Handlers
  aliases : Entries Kind
  records : Entries (Entries Kind)
deriving Repr

namespace Configuration

/-- The names for kinds that are known from the start, in lower case. -/
def standardAliases : Entries Kind :=
  Entries.ofList
    [("object", .object), ("boolean", .bool), ("bool", .bool), ("int", .int), ("integer", .int),
     ("long", .int), ("short", .int), ("double", .float), ("float", .float), ("decimal", .float),
     ("string", .text), ("text", .text), ("bytes", .bytes), ("byte[]", .bytes), ("list", .list),
     ("arraylist", .list), ("map", .map), ("hashmap", .map), ("resultset", .resultSet)]

def standard : Configuration :=
  ⟨{}, none, .standard, standardAliases, []⟩

def ofSettings (settings : Settings) : Except Fault Configuration := do
  let filter ← match settings.filterPattern with
    | none => pure none
    | some pattern => some <$> Filter.ofPattern pattern
  pure { standard with settings, filter }

/-- Whether values of a kind fill a placeholder by themselves. -/
def hasHandler (c : Configuration) (kind : Kind) : Bool :=
  c.handlers.has kind

/-- The handler that an option names. -/
def namedHandler (c : Configuration) (kind : Kind) (name : String) : Except Fault String :=
  match c.handlers.named? name with
  | some handler => .ok handler
  | none => .error (.typing (.unknownHandler name kind) name)

/-- Gives a kind a name; letter case does not count in it. -/
def addAlias (c : Configuration) (name : String) (kind : Kind) : Configuration :=
  { c with aliases := c.aliases.insert (Text.lower name) kind }

/-- The kind of a name: an alias, or the name of a record that is declared. -/
def namedKind (c : Configuration) (name : String) : Except Fault Kind :=
  let name := Text.trim name
  match c.aliases.get? (Text.lower name) with
  | some kind => .ok kind
  | none =>
    if c.records.contains name then .ok (.record name)
    else .error (.typing (.unknownAlias name) name)

def namedColumnType (name : String) : Except Fault ColumnType :=
  match ColumnType.read? name with
  | some type => .ok type
  | none => .error (.typing (.unknownColumnType (Text.trim name)) name)

def namedMode (name : String) : Except Fault Mode :=
  match Mode.read name with
  | .ok mode => .ok mode
  | .error shown => .error (.typing (.unknownMode shown) name)

/-- Declares the kinds of properties of a record, next to those declared earlier. -/
def addRecord (c : Configuration) (name : String) (properties : List (String × Kind)) :
    Configuration :=
  let declared := (c.records.get? name).getD []
  { c with records := c.records.insert name (declared.insertAll properties) }

def declaredKind (c : Configuration) (kind : Kind) (property : String) : Option Kind := do
  let .record name := kind | none
  (← c.records.get? name).get? property

/-- The declared kind at the end of a step and those after it. The kinds of elements are not
declared: the first step with an index ends at `object`. -/
def kindAlong (c : Configuration) : Kind → Step → List Step → Option Kind
  | kind, step, [] =>
    (c.declaredKind kind step.name).map fun declared =>
      if step.index.isSome then .object else declared
  | kind, step, next :: rest => do
    let declared ← c.declaredKind kind step.name
    if step.index.isSome then some .object else c.kindAlong declared next rest

def propertyKind (c : Configuration) (kind : Kind) (path : String) : Option Kind :=
  let p := Path.ofText path
  c.kindAlong kind p.root p.rest

/-- The name of a variable and its default, where defaults are allowed. -/
def splitDefault (settings : Settings) (content : String) : String × Option String :=
  if settings.variableDefaults && settings.defaultSeparator ≠ "" then
    match Text.cut? settings.defaultSeparator.toList content.toList with
    | some (name, default) => (String.ofList name, some (String.ofList default))
    | none => (content, none)
  else (content, none)

/-- The text that takes the place of a token before a template is compiled: of a variable, or its
default, or the token itself. -/
def variableText (settings : Settings) (content : String) : String :=
  let (name, default) := splitDefault settings content
  ((settings.variableTexts.get? name) <|> default).getD (Delimiters.dollar.wrap content)

def substituteVariables (c : Configuration) (text : String) : String :=
  Delimiters.dollar.replace (variableText c.settings) text

def startBindings (c : Configuration) (parameter : Value) : Bindings :=
  .start parameter c.settings.databaseId (c.hasHandler parameter.kind)

end Configuration

end SqlTemplate
