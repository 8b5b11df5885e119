import SqlTemplate.Settings
import SqlTemplate.Toml.Reader

/-!
# Reading settings

Settings are written as a TOML document. Keys that are missing have their defaults, keys that are
not known do not count, and a known key must have a value of its sort.
-/

namespace SqlTemplate.Settings

/-- The value of a key, read by `f`; `default` if the key is missing. -/
def field {α : Type} (entries : Entries Toml) (key : String) (default : α)
    (f : Toml → Option α) : Option α :=
  match entries.get? key with
  | none => some default
  | some value => f value

def string? : Toml → Option String
  | .string s => some s
  | _ => none

def boolean? : Toml → Option Bool
  | .boolean b => some b
  | _ => none

def timeName : String := "$__toml_private_datetime"

/-- A table of strings; a point in time is one with its text alone. -/
def strings? : Toml → Option (Entries String)
  | .time t => some [(timeName, t.text)]
  | value => do (← value.entries?).mapM fun (name, v) => do some (name, ← string? v)

/-- Whether a value is an array or a table without contents. -/
def isVoid : Toml → Bool
  | .array items => items.isEmpty
  | value => (value.entries?.map List.isEmpty).getD false

/-- A column type: its canonical name, or a table with that one key and nothing under it. -/
def columnType? (value : Toml) : Option ColumnType := do
  match value with
  | .string name => ColumnType.ofName? name
  | value =>
    match ← value.entries? with
    | [(name, content)] => if isVoid content then ColumnType.ofName? name else none
    | _ => none

/-- The settings that the entries of a document describe. -/
def ofEntries? (entries : Entries Toml) : Option Settings := do
  let standard : Settings := {}
  pure
    { databaseId := ← field entries "database_id" none fun v => some <$> string? v
      shrinkBlanks := ← field entries "shrink_whitespaces_in_sql" standard.shrinkBlanks boolean?
      nullableLoops := ← field entries "nullable_on_for_each" standard.nullableLoops boolean?
      filterPattern := ← field entries "injection_filter" none fun v => some <$> string? v
      variableTexts := ← field entries "variables" standard.variableTexts strings?
      variableDefaults :=
        ← field entries "enable_variable_defaults" standard.variableDefaults boolean?
      defaultSeparator :=
        ← field entries "variable_default_separator" standard.defaultSeparator string?
      nullColumnType := ← field entries "jdbc_type_for_null" standard.nullColumnType columnType? }

def ofToml (text : String) : Except Fault Settings :=
  match (Toml.read? text).bind ofEntries? with
  | some settings => .ok settings
  | none => .error (.settings .unreadable)

end SqlTemplate.Settings
