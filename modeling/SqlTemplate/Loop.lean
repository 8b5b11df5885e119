import SqlTemplate.Token

/-!
# Loops

A loop repeats its body for the elements of a collection. In each round its variables have, next
to their own names, numbered names that stay bound after the loop; references to the variables in
the SQL of the round are renamed to the numbered names.
-/

namespace SqlTemplate

/-- The description of a loop without its body. -/
structure Loop where
  collection : String
  nullable : Bool := false
  index : Option String := none
  item : Option String := none
  opening : Option String := none
  closing : Option String := none
  separator : Option String := none
  /-- Writes a list of numbers or of texts as literals and not through the body. -/
  inlineLiterals : Bool := false
  /-- The column written before the list, as `column IN`. -/
  column : Option String := none
deriving DecidableEq, Repr

namespace Loop

/-- The name of a loop variable in the round with this number. -/
def numbered (name : String) (number : Nat) : String :=
  "__frch_" ++ name ++ "_" ++ toString number

/-- The variable of an item path: everything before the first dot or bracket. -/
def variableOf (item : String) : String :=
  String.ofList (item.toList.takeWhile fun c => !(c == '.' || c == '['))

/-- The loop of an `in` list over a path that starts at the loop variable. -/
def inList (collection item : String) : Loop where
  collection := collection
  item := some (variableOf item)
  opening := some "("
  closing := some ")"
  separator := some ","

def inListBody (item : String) : String :=
  Delimiters.hash.wrap item

end Loop

end SqlTemplate
