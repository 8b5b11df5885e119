/-!
# Kinds of values

The kind of a value decides how it is bound to a placeholder. `object` stands for a kind that is
not known any closer; `resultSet` marks an output that yields rows.
-/

namespace SqlTemplate

inductive Kind where
  | object
  | bool
  | int
  | float
  | text
  | bytes
  | list
  | map
  | record (name : String)
  | resultSet
deriving DecidableEq, Repr

namespace Kind

/-- Kinds whose values fill one placeholder by themselves. -/
def isSimple : Kind → Bool
  | bool | int | float | text | bytes => true
  | _ => false

/-- The name of a kind as messages show it: a record's kind is shown by its own name. -/
def name : Kind → String
  | object => "object"
  | bool => "bool"
  | int => "int"
  | float => "float"
  | text => "text"
  | bytes => "bytes"
  | list => "list"
  | map => "map"
  | record name => name
  | resultSet => "result_set"

end Kind

end SqlTemplate
