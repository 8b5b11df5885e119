import SqlTemplate.Filter
import SqlTemplate.Loop
import SqlTemplate.Trim

/-!
# Statement templates

A statement template is a tree of nodes. It is compiled once and never changes; a static tree
gives the same SQL for every parameter.
-/

namespace SqlTemplate

/-- A node of a statement template. -/
inductive Node where
  | text (sql : String)
  /-- SQL with `${…}` tokens; the filter restricts what may take their place. -/
  | substitution (text : String) (filter : Option Filter)
  /-- A body that is applied if its test is true. -/
  | conditional (test : String) (body : Node)
  /-- The first branch whose test is true, or else the last resort. -/
  | choice (branches : List (String × Node)) (otherwise : Option Node)
  | trim (rule : TrimRule) (body : Node)
  | loop (header : Loop) (body : Node)
  /-- Binds a name to the value of an expression for the rest of the call. -/
  | declare (name expression : String)
  | sequence (children : List Node)
deriving Repr, Inhabited

namespace Node

def inList (header : Loop) (item : String) : Node :=
  .loop header (.text (Loop.inListBody item))

mutual

/-- Whether a node must be evaluated anew for every call. -/
def isDynamic : Node → Bool
  | text _ => false
  | substitution .. | conditional .. | choice .. | loop .. | declare .. => true
  | trim _ body => body.isDynamic
  | sequence children => anyDynamic children

def anyDynamic : List Node → Bool
  | [] => false
  | node :: rest => node.isDynamic || anyDynamic rest

end

def sort : Node → String
  | text _ => "static_text"
  | substitution .. => "dynamic_text"
  | conditional .. => "if"
  | choice .. => "choose"
  | trim .. => "trim"
  | loop .. => "foreach"
  | declare .. => "bind"
  | sequence _ => "mixed"

end Node

end SqlTemplate
