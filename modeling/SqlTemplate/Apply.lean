import SqlTemplate.Context
import SqlTemplate.Node

/-!
# Evaluating a template

`Node.apply` appends the SQL of a node to a context. It answers whether the node applied its body:
a test that fails and a choice without a branch do not.
-/

namespace SqlTemplate

namespace Build

/-- The name that a scalar parameter has in `${…}` tokens. -/
def valueName : String := "value"

def bindValue : Build Unit := do
  let parameter := (← bindings).parameter
  if parameter.isNull || parameter.isSimple then bind valueName parameter

/-- The text that takes the place of a `${…}` token. -/
def substitute (ev : Evaluator) (filter : Option Filter) (content : String) : Build String := do
  bindValue
  let text := (← evaluate content (ev.value content)).toSql
  note (.substituted text)
  match filter with
  | none => pure text
  | some f =>
    ofExcept (f.check text)
    pure text

end Build

namespace Loop

def isNumber : Value → Bool
  | .int _ | .float _ => true
  | _ => false

def isText : Value → Bool
  | .text _ => true
  | _ => false

/-- A text between single quotation marks, those inside it doubled. -/
def quote (s : String) : String :=
  "'" ++ String.ofList (Text.replaceChar '\'' ['\'', '\''] s.toList) ++ "'"

def literal : Value → String
  | .text s => quote s
  | v => v.display

/-- The elements as literals between the texts of the loop, if all are numbers or all texts. -/
def inlined? (loop : Loop) (values : List Value) : Option String :=
  if values.all isNumber || values.all isText then
    some (loop.opening.getD "" ++ (loop.separator.getD "").intercalate (values.map literal) ++
      loop.closing.getD "")
  else none

/-- Binds a variable for one round, under its numbered and its own name. -/
def bindVariable (number : Nat) (name : Option String) (value : Value) : Build Unit := do
  match name with
  | none => pure ()
  | some name =>
    Build.bind (numbered name number) value
    Build.bind name value

/-- Releases a variable after the last round; its numbered names stay bound. -/
def releaseVariable (name : Option String) : Build Unit := do
  match name with
  | none => pure ()
  | some name => Build.release name

/-- One round: the variables are bound and the body runs with its references renamed. -/
def round (loop : Loop) (body : Build Bool) (item : Item) : Build Unit := do
  let number ← Build.nextNumber
  bindVariable number loop.index item.key
  bindVariable number loop.item item.value
  Build.note (.round loop number item)
  let _ ← Build.numbering ⟨loop.item, loop.index, number⟩ body

/-- The rounds for several elements. The separator stands before the SQL of a round only if an
earlier round had any; `first` says that none had. -/
def rounds (loop : Loop) (body : Build Bool) : Bool → List Item → Build Unit
  | _, [] => pure ()
  | first, item :: rest => do
    let lead := if first then "" else loop.separator.getD ""
    let (_, emitted) ← Build.prefixed lead (loop.round body item)
    loop.rounds body (first && !emitted) rest

def appendText (text : Option String) : Build Unit :=
  match text with
  | none => pure ()
  | some text => Build.append text

def runRounds (loop : Loop) (body : Build Bool) (items : List Item) : Build Unit := do
  appendText loop.opening
  loop.rounds body true items
  appendText loop.closing
  releaseVariable loop.item
  releaseVariable loop.index

/-- The loop over elements of which there is one at least. -/
def runItems (loop : Loop) (body : Build Bool) (items : List Item) : Build Unit := do
  appendText (loop.column.map (· ++ " IN"))
  -- the literals stand for the rounds and their texts; nothing is bound
  match if loop.inlineLiterals then loop.inlined? (items.map Item.value) else none with
  | some sql => Build.append sql
  | none => loop.runRounds body items

/-- The whole loop. Over nothing it appends nothing. -/
def run (loop : Loop) (ev : Evaluator) (body : Build Bool) : Build Unit := do
  match ← Build.evaluate loop.collection (ev.collection loop.collection loop.nullable) with
  | none => pure ()
  | some [] => pure ()
  | some items => loop.runItems body items

end Loop

namespace Node

variable (ev : Evaluator)

mutual

def apply : Node → Build Bool
  | .text sql => do
    Build.append sql
    pure true
  | .substitution sql filter => do
    Build.append (← Delimiters.dollar.scan (Build.substitute ev filter) sql)
    pure true
  | .conditional test body => do
    if ← Build.evaluate test (ev.test test) then
      let _ ← apply body
      pure true
    else pure false
  | .choice branches none => applyFirst branches (pure false)
  | .choice branches (some otherwise) =>
    applyFirst branches (do
      let _ ← apply otherwise
      pure true)
  | .trim rule body => do
    let (applied, sql) ← Build.buffered (apply body)
    -- a body of blanks alone appends nothing
    match rule.finish sql with
    | none => pure applied
    | some sql =>
      Build.append sql
      pure applied
  | .loop header body => do
    header.run ev (apply body)
    pure true
  | .declare name expression => do
    Build.bind name (← Build.evaluate expression (ev.value expression))
    pure true
  | .sequence children => do
    applyAll children
    pure true

/-- Appends the SQL of the first branch whose test is true, or does what is left to do. -/
def applyFirst : List (String × Node) → Build Bool → Build Bool
  | [], otherwise => otherwise
  | (test, body) :: rest, otherwise => do
    if ← Build.evaluate test (ev.test test) then
      let _ ← apply body
      pure true
    else applyFirst rest otherwise

def applyAll : List Node → Build Unit
  | [] => pure ()
  | node :: rest => do
    let _ ← apply node
    applyAll rest

end

end Node

end SqlTemplate
