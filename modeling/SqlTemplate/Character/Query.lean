import SqlTemplate.Character.Age
import SqlTemplate.Character.Fold
import SqlTemplate.Character.Property
import SqlTemplate.Character.Script
import SqlTemplate.Text.Cut

/-!
# Properties by name

The characters that a name stands for: a binary property, a general category or a script, or one
value of a property that has several. Names are compared without regard to capitals, blanks,
underscores, hyphens, characters beyond ASCII and an `is` in front.
-/

namespace SqlTemplate.CharSet

/-- Whether two characters are `is` in either case. -/
def isVerb (i s : Char) : Bool :=
  (i == 'i' || i == 'I') && (s == 's' || s == 'S')

/-- The form of a name in which names are compared. The name `isc` is not one of `c`. -/
def looseName (name : List Char) : String :=
  let letters (s : List Char) : List Char :=
    (s.filter fun c => c.toNat < 0x80 && !(c == ' ' || c == '_' || c == '-')).map Char.toLower
  String.ofList (match name with
    | i :: s :: rest =>
      if isVerb i s then if letters rest = ['c'] then ['i', 's', 'c'] else letters rest
      else letters name
    | _ => letters name)

def ascii : CharSet := range 0 0x7F

def category? (name : String) : Option CharSet :=
  match name with
  | "any" => some all
  | "ascii" => some ascii
  | "assigned" => some (complement (Category.union [.cn]))
  | name => (Category.named? name).map Category.union

def named? (name : String) : Option CharSet :=
  binary? name <|> category? name <|> script? name

def valued? (property value : String) : Option CharSet :=
  match property with
  | "generalcategory" | "gc" => category? value
  | "script" | "sc" => script? value
  | "scriptextensions" | "scx" => scriptExtension? value
  | "age" => age? value
  | "graphemeclusterbreak" | "gcb" => graphemeBreak? value
  | "wordbreak" | "wb" => wordBreak? value
  | "sentencebreak" | "sb" => sentenceBreak? value
  | _ => .none

/-- The set that a query asks for, and whether it asks for all other characters instead: a name
alone, or a property and a value with `!=`, `:` or `=` between them. -/
def query? (text : List Char) : Option (Bool × CharSet) :=
  let ask (negated : Bool) (property value : List Char) : Option (Bool × CharSet) :=
    (valued? (looseName property) (looseName value)).map fun s => (negated, s)
  match Text.cut? ['!', '='] text, Text.cut? [':'] text, Text.cut? ['='] text with
  | some (property, value), _, _ => ask true property value
  | .none, some (property, value), _ | .none, .none, some (property, value) =>
    ask false property value
  | .none, .none, .none => (named? (looseName text)).map fun s => (false, s)

end SqlTemplate.CharSet
