import SqlTemplate.Text.Ascii
import SqlTemplate.Text.Blank
import SqlTemplate.Text.Bytes

/-!
# Trimming

A trim rule cleans up the SQL its body produced: padding is removed at both ends, then one word or
mark that must not stand first and one that must not stand last, and what is left gets a text
before and one behind it. A body of padding alone leaves nothing.
-/

namespace SqlTemplate

/-- What a trim puts before and behind a text and which pieces it takes away there. The pieces are
tried in order, in upper case, and the first that fits is the only one removed. -/
structure TrimRule where
  lead : Option String
  leadOverrides : List String
  tail : Option String
  tailOverrides : List String
deriving DecidableEq, Repr

namespace TrimRule

/-- The pieces of a `|`-separated list, in upper case; empty ones do not count. -/
def readOverrides (list : Option String) : List String :=
  match list with
  | none => []
  | some text =>
    ((Text.pieces (· == '|') text.toList).filter (!·.isEmpty)).map fun piece =>
      Text.upper (String.ofList piece)

/-- The rule with pieces given as `|`-separated lists. -/
def ofLists (lead leadOverrides tail tailOverrides : Option String) : TrimRule :=
  ⟨lead, readOverrides leadOverrides, tail, readOverrides tailOverrides⟩

/-- The rule of a `where` clause: no connective stands first. -/
def whereClause : TrimRule where
  lead := some "WHERE"
  leadOverrides := ["AND ", "OR ", "AND\n", "OR\n", "AND\r", "OR\r", "AND\t", "OR\t"]
  tail := none
  tailOverrides := []

/-- The rule of a `set` clause: no comma stands first or last. -/
def setClause : TrimRule where
  lead := some "SET"
  leadOverrides := [","]
  tail := none
  tailOverrides := [","]

/-- How many bytes the removal of an override takes: its length without blanks around it. -/
def cutSize (override : String) : Nat :=
  Text.byteSize (Text.trim override).toList

/-- The first override that an upper-case text starts with. -/
def leadHit? (rule : TrimRule) (upper : List Char) : Option String :=
  rule.leadOverrides.find? fun o => o.toList.isPrefixOf upper

/-- The first override that an upper-case text ends with, as written or without blanks around
it. -/
def tailHit? (rule : TrimRule) (upper : List Char) : Option String :=
  rule.tailOverrides.find? fun o =>
    o.toList.isSuffixOf upper || (Text.trim o).toList.isSuffixOf upper

/-- The text without the pieces that the rule removes. Nothing is removed if a removal would cut
a character in two. -/
def core (rule : TrimRule) (s : List Char) : List Char :=
  let upper := s.map Char.toUpper
  let size := Text.byteSize s
  let start := ((rule.leadHit? upper).map cutSize).getD 0
  let stop := match rule.tailHit? upper with
    | none => size
    -- where the two pieces overlap, nothing is left between them
    | some o => max (size - cutSize o) start
  (Text.slice? start stop s).getD s

/-- The text before the core, with a space if anything follows. -/
def opening (rule : TrimRule) (core : List Char) : String :=
  match rule.lead with
  | none => ""
  | some lead => if core.isEmpty && rule.tail.isNone then lead else lead ++ " "

/-- The text behind the core, after a space. -/
def closing (rule : TrimRule) : String :=
  match rule.tail with
  | none => ""
  | some tail => " " ++ tail

def finish (rule : TrimRule) (body : String) : Option String :=
  match Text.trimBoth Text.isPadding body.toList with
  | [] => none
  | s =>
    let core := rule.core s
    some (rule.opening core ++ String.ofList core ++ rule.closing)

end TrimRule

end SqlTemplate
