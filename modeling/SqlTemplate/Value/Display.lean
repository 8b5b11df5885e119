import SqlTemplate.Number.Shortest
import SqlTemplate.Value.Basic

/-!
# The text of a value

`Value.display` writes any value; `Value.toSql` is the text that takes the place of a `${…}` token,
where null leaves nothing.
-/

namespace SqlTemplate.Value

def hexByte (b : UInt8) : String :=
  String.ofList [Nat.digitChar (b.toNat / 16), Nat.digitChar (b.toNat % 16)]

mutual

def display : Value → String
  | null => "null"
  | bool b => if b then "true" else "false"
  | int n => toString n
  | float x => x.toText
  | text s => s
  | bytes data => "0x" ++ String.join (data.map hexByte)
  | list items => "[" ++ ", ".intercalate (showItems items) ++ "]"
  | map entries => "\x7b" ++ ", ".intercalate (showEntries entries) ++ "\x7d"
  | record name entries => name ++ "\x7b" ++ ", ".intercalate (showEntries entries) ++ "\x7d"

def showItems : List Value → List String
  | [] => []
  | v :: rest => v.display :: showItems rest

def showEntries : List (String × Value) → List String
  | [] => []
  | (name, v) :: rest => (name ++ "=" ++ v.display) :: showEntries rest

end

/-- The text of a value inside an SQL statement. -/
def toSql : Value → String
  | null => ""
  | v => v.display

end SqlTemplate.Value
