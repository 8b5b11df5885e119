import SqlTemplate.Column
import SqlTemplate.Entries
import SqlTemplate.Fault

/-!
# Settings

The settings of an engine as plain data.
-/

namespace SqlTemplate

/-- The settings, with the values they have when nothing is said. -/
structure Settings where
  /-- The value of the name `_databaseId`. -/
  databaseId : Option String := none
  /-- Collapses runs of blanks in the final SQL. -/
  shrinkBlanks : Bool := false
  /-- Whether collections may be null where a template does not say. -/
  nullableLoops : Bool := false
  /-- The pattern that every text in the place of a `${…}` token must match. -/
  filterPattern : Option String := none
  /-- The texts of variables, which templates refer to as `${name}`. -/
  variableTexts : Entries String := []
  /-- Allows a default after a separator, as in `${name:default}`. -/
  variableDefaults : Bool := false
  defaultSeparator : String := ":"
  /-- The column type of a null value that is bound without one. -/
  nullColumnType : ColumnType := .other
deriving DecidableEq, Repr

end SqlTemplate
