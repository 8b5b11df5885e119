import SqlTemplate.Text.Blank

/-!
# Property paths

A path such as `orders[0].lines.sku` is a sequence of steps separated by dots. A step is a name
and, after an opening bracket, an index; one closing bracket at the very end of the step belongs
to the bracket and not to the index.
-/

namespace SqlTemplate

/-- One step of a path: `text` is the whole of it, `name` the part before the first bracket. -/
structure Step where
  text : String
  name : String
  index : Option String
deriving DecidableEq, Repr

namespace Step

/-- The index without the bracket that closes it. -/
def closeIndex (inner : List Char) : List Char :=
  if inner.getLast? = some ']' then inner.dropLast else inner

def ofText (s : List Char) : Step where
  text := String.ofList s
  name := String.ofList (s.takeWhile (· ≠ '['))
  index := match s.dropWhile (· ≠ '[') with
    | [] => none
    | _ :: inner => some (String.ofList (closeIndex inner))

end Step

/-- A path: a first step and those that follow it. -/
structure Path where
  root : Step
  rest : List Step
deriving DecidableEq, Repr

namespace Path

def ofText (text : String) : Path :=
  -- dots count inside brackets too
  let (first, more) := Text.splitWhere (· == '.') text.toList
  ⟨Step.ofText first, more.map Step.ofText⟩

def steps (path : Path) : List Step :=
  path.root :: path.rest

def joinSteps (steps : List Step) : String :=
  ".".intercalate (steps.map Step.text)

def text (path : Path) : String :=
  joinSteps path.steps

end Path

/-- The name at the root of a path. -/
def rootName (path : String) : String :=
  (Path.ofText path).root.name

end SqlTemplate
