/-!
# ASCII letter case

Case conversion and comparison that change the letters `a` to `z` and nothing else.
-/

namespace SqlTemplate.Text

def upper (s : String) : String :=
  String.ofList (s.toList.map Char.toUpper)

def lower (s : String) : String :=
  String.ofList (s.toList.map Char.toLower)

/-- Equality up to the case of ASCII letters. -/
def sameIgnoringCase (s t : String) : Bool :=
  upper s == upper t

end SqlTemplate.Text
