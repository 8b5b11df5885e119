import SqlTemplate.Column
import SqlTemplate.Kind

/-!
# Type handlers

A type handler binds values of a kind to a placeholder. Here it is a name only: handlers are
registered for a kind and a column type, or for a kind with any column type, and looked up so that
every parameter of a statement has one.
-/

namespace SqlTemplate

/-- The handlers of one kind, by column type. -/
abbrev KindHandlers := List (Option ColumnType × String)

/-- The registered handlers, by kind, and the names of all of them. -/
structure Handlers where
  byKind : List (Kind × KindHandlers)
  names : List String
deriving DecidableEq, Repr, Inhabited

/-- The pairs with the value of one key set; the key keeps its place. -/
def setKey {α β : Type} [DecidableEq α] (key : α) (value : β) : List (α × β) → List (α × β)
  | [] => [(key, value)]
  | (k, v) :: rest => if k = key then (k, value) :: rest else (k, v) :: setKey key value rest

theorem lookup_setKey {α β : Type} [DecidableEq α] [BEq α] [LawfulBEq α] (key other : α)
    (value : β) (pairs : List (α × β)) :
    (setKey key value pairs).lookup other =
      if key = other then some value else pairs.lookup other := by
  induction pairs with
  | nil =>
    by_cases h : key = other
    · subst h; simp [setKey]
    · simp [setKey, List.lookup_cons, h, beq_eq_false_iff_ne.mpr (Ne.symm h)]
  | cons p rest ih =>
    obtain ⟨k, v⟩ := p
    simp only [setKey]
    by_cases hk : k = key
    · subst hk
      by_cases h : k = other
      · subst h; simp
      · simp [List.lookup_cons, h, beq_eq_false_iff_ne.mpr (Ne.symm h)]
    · by_cases h : k = other
      · subst h; simp [hk, Ne.symm hk]
      · simp [List.lookup_cons, hk, ih, beq_eq_false_iff_ne.mpr (Ne.symm h)]

namespace Handlers

def empty : Handlers := ⟨[], []⟩

/-- Registers a handler for a kind and a column type, or for any column type. -/
def register (h : Handlers) (kind : Kind) (column : Option ColumnType) (name : String) :
    Handlers where
  byKind := setKey kind (setKey column name ((h.byKind.lookup kind).getD [])) h.byKind
  names := if h.names.contains name then h.names else h.names ++ [name]

def registerAll (h : Handlers) (entries : List (Kind × Option ColumnType × String)) : Handlers :=
  entries.foldl (fun h (kind, column, name) => h.register kind column name) h

def standard : Handlers :=
  empty.registerAll
    [(.object, none, "object"),
     (.bool, none, "boolean"), (.bool, some .bit, "boolean"),
     (.int, none, "long"),
     (.float, none, "double"),
     (.text, none, "string"), (.text, some .char, "string"), (.text, some .varchar, "string"),
     (.text, some .clob, "clob"), (.text, some .longVarchar, "clob"),
     (.text, some .nVarchar, "nstring"), (.text, some .nChar, "nstring"),
     (.text, some .nClob, "nclob"),
     (.bytes, none, "bytes"), (.bytes, some .blob, "blob"), (.bytes, some .longVarBinary, "blob")]

def has (h : Handlers) (kind : Kind) : Bool :=
  -- an entry without handlers does not count
  (h.byKind.lookup kind).any (!·.isEmpty)

/-- The name that all handlers of a kind share. -/
def sole? : KindHandlers → Option String
  | [] => none
  | (_, name) :: rest => if rest.all (·.2 == name) then some name else none

/-- The handler for a kind and a column type: the one for just this column type, else the one for
any column type, else the only one the kind has. -/
def lookup (h : Handlers) (kind : Kind) (column : Option ColumnType) : Option String := do
  let handlers ← h.byKind.lookup kind
  (column.bind fun c => handlers.lookup (some c)) <|> handlers.lookup none <|> sole? handlers

def named? (h : Handlers) (name : String) : Option String :=
  if h.names.contains name then some name else none

end Handlers

end SqlTemplate
