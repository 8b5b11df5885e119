import SqlTemplate.Source

/-!
# Element trees

A template arrives as a tree of elements and texts; reading it from markup is the caller's
concern. `Template.compile` turns it into nodes, `Template.source` into the source of a statement:
a fixed one if no node is dynamic.
-/

namespace SqlTemplate

/-- A part of a template: a text, or an element with its attributes and contents. -/
inductive Element where
  | text (text : String)
  | element (name : String) (attributes : List (String × String)) (children : List Element)
deriving Repr, Inhabited

namespace Template

/-- The attributes of an element and its name, for the faults they give rise to. -/
structure Tag where
  name : String
  attributes : Entries String

namespace Tag

/-- An attribute that must be there. -/
def required (tag : Tag) (name : String) : Except Fault String :=
  match tag.attributes.get? name with
  | some value => .ok value
  | none => .error (.template (.missingAttribute name tag.name) tag.name)

/-- An attribute that is true or false, in any letter case. -/
def flag (tag : Tag) (name : String) (default : Bool) : Except Fault Bool :=
  match tag.attributes.get? name with
  | none => .ok default
  | some text =>
    if Text.sameIgnoringCase text "true" then .ok true
    else if Text.sameIgnoringCase text "false" then .ok false
    else .error (.template (.invalidFlag text name tag.name) text)

end Tag

/-- The node of a text: its variables are replaced, and the tokens that are left are kept for the
evaluation under the filter of the configuration. -/
def textNode (config : Configuration) (text : String) : Node :=
  let text := config.substituteVariables text
  -- this scan sees the texts of the variables, and no longer the escapes
  if Delimiters.dollar.hasToken text then .substitution text config.filter else .text text

def loopOf (config : Configuration) (tag : Tag) : Except Fault Loop := do
  let collection ← tag.required "collection"
  let nullable ← tag.flag "nullable" config.settings.nullableLoops
  pure
    { collection, nullable
      index := tag.attributes.get? "index"
      item := tag.attributes.get? "item"
      opening := tag.attributes.get? "open"
      closing := tag.attributes.get? "close"
      separator := tag.attributes.get? "separator" }

def inNode (config : Configuration) (tag : Tag) : Except Fault Node := do
  let collection ← tag.required "collection"
  let item := (tag.attributes.get? "item").getD "item"
  let nullable ← tag.flag "nullable" config.settings.nullableLoops
  let inlineLiterals ← tag.flag "inline" false
  let header :=
    { Loop.inList collection item with
      nullable, inlineLiterals, column := tag.attributes.get? "column" }
  pure (.inList header item)

def trimOf (tag : Tag) : TrimRule :=
  .ofLists (tag.attributes.get? "prefix") (tag.attributes.get? "prefixOverrides")
    (tag.attributes.get? "suffix") (tag.attributes.get? "suffixOverrides")

variable (config : Configuration)

mutual

def compileAll : List Element → Except Fault (List Node)
  | [] => .ok []
  | .text text :: rest => do
    let nodes ← compileAll rest
    pure (textNode config text :: nodes)
  | .element name attributes children :: rest => do
    let node ← compileElement ⟨name, attributes⟩ children
    let nodes ← compileAll rest
    pure (node :: nodes)

def compileElement (tag : Tag) (children : List Element) : Except Fault Node :=
  match tag.name with
  | "trim" => do pure (.trim (trimOf tag) (.sequence (← compileAll children)))
  | "where" => do pure (.trim .whereClause (.sequence (← compileAll children)))
  | "set" => do pure (.trim .setClause (.sequence (← compileAll children)))
  | "foreach" => do
    -- the contents come first: their faults hide those of the attributes
    let nodes ← compileAll children
    pure (.loop (← loopOf config tag) (.sequence nodes))
  | "in" => inNode config tag
  | "if" | "when" => do
    let test ← tag.required "test"
    pure (.conditional test (.sequence (← compileAll children)))
  | "choose" => do
    let (branches, otherwise) ← compileChoice [] none children
    pure (.choice branches otherwise)
  | "otherwise" => do pure (.sequence (← compileAll children))
  | "bind" => do
    let name ← tag.required "name"
    pure (.declare name (← tag.required "value"))
  | other => .error (.template (.unknownElement other) other)

/-- The branches of a choice and its last resort, after those found so far. Contents of other
sorts do not count. -/
def compileChoice (branches : List (String × Node)) (otherwise : Option Node) :
    List Element → Except Fault (List (String × Node) × Option Node)
  | [] => .ok (branches, otherwise)
  | .text _ :: rest => compileChoice branches otherwise rest
  | .element name attributes children :: rest =>
    match name with
    | "when" | "if" => do
      let test ← Tag.required ⟨name, attributes⟩ "test"
      let nodes ← compileAll children
      compileChoice (branches ++ [(test, .sequence nodes)]) otherwise rest
    | "otherwise" => do
      if otherwise.isSome then .error (.template .repeatedOtherwise "choose")
      let nodes ← compileAll children
      compileChoice branches (some (.sequence nodes)) rest
    | _ => compileChoice branches otherwise rest

end

def compile (contents : List Element) : Except Fault Node := do
  pure (.sequence (← compileAll config contents))

/-- The source of a node: a static one is evaluated at once. -/
def sourceOf (root : Node) (parameterKind : Kind) : Except Fault Source :=
  if root.isDynamic then .ok (.dynamic root)
  else do pure (.fixed (← Statement.ofNode config root parameterKind))

def source (contents : List Element) (parameterKind : Kind) : Except Fault Source := do
  sourceOf config (← compile config contents) parameterKind

/-- The source of a template that is plain text. -/
def textSource (text : String) (parameterKind : Kind) : Except Fault Source :=
  sourceOf config (textNode config text) parameterKind

end Template

end SqlTemplate
