import SqlTemplate.Value.Basic

/-!
# Documents

A JSON document and the value it stands for. Whole numbers that fit a word of 64 bits become
integers, all other numbers doubles; an object becomes a map in which the last of several members
with one name counts.
-/

namespace SqlTemplate

inductive Document where
  | null
  | bool (b : Bool)
  | integer (n : Int)
  | decimal (x : Number.Double)
  | string (s : String)
  | array (items : List Document)
  | object (members : List (String × Document))
deriving Repr, Inhabited

namespace Value

def nearestDouble (n : Int) : Number.Double :=
  .ofRatio (n < 0) n.natAbs 1

mutual

/-- The value a document stands for. -/
def ofDocument : Document → Value
  | .null => null
  | .bool b => bool b
  | .integer n => if Number.fitsInt64 n then int n else float (nearestDouble n)
  | .decimal x => float x
  | .string s => text s
  | .array items => list (ofItems items)
  | .object members => map (Entries.ofList (ofMembers members))

def ofItems : List Document → List Value
  | [] => []
  | d :: rest => ofDocument d :: ofItems rest

def ofMembers : List (String × Document) → List (String × Value)
  | [] => []
  | (name, d) :: rest => (name, ofDocument d) :: ofMembers rest

end

end Value

end SqlTemplate
