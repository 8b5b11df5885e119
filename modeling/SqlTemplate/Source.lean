import SqlTemplate.Apply
import SqlTemplate.Bound

/-!
# Sources of statements

A statement is built once and bound for every call. A fixed source has its final SQL from the
start; a dynamic one evaluates its template anew for every call.
-/

namespace SqlTemplate

/-- Where the statement of a call comes from. -/
inductive Source where
  | fixed (statement : Statement)
  | dynamic (root : Node)
deriving Repr

/-- What an evaluation leaves: its result and what happened in it. -/
structure Evaluation (α : Type) where
  result : Except Fault α
  trace : List Event

/-- The SQL and the bindings that the evaluation of a template leaves. -/
def Node.evaluate (ev : Evaluator) (root : Node) (bindings : Bindings) :
    Evaluation (String × Bindings) :=
  match (root.apply ev).run (Context.start bindings) with
  | .ok _ c => ⟨.ok (c.sql, c.bindings), c.trace⟩
  | .error fault c => ⟨.error fault, c.trace⟩

namespace Statement

/-- The final statement of SQL without an evaluation before it. -/
def ofRawSql (config : Configuration) (sql : String) (parameterKind : Kind) :
    Except Fault Statement :=
  ofSql config sql parameterKind (config.startBindings .null)

/-- The final statement of a template that is evaluated once, without a parameter. -/
def ofNode (config : Configuration) (root : Node) (parameterKind : Kind) :
    Except Fault Statement := do
  let (sql, bindings) ← (root.evaluate .paths (config.startBindings .null)).result
  ofSql config sql parameterKind bindings

def bind (statement : Statement) (parameter : Value) : BoundStatement :=
  { statement, parameter }

end Statement

namespace Source

/-- The bound statement of what an evaluation left. The parameter is the one that the bindings
have in the end; every bound name keeps its value. -/
def bindResult (config : Configuration) (sql : String) (bindings : Bindings) :
    Except Fault BoundStatement := do
  let statement ← Statement.ofSql config sql bindings.parameter.kind bindings
  pure { statement, parameter := bindings.parameter, additional := bindings.locals }

/-- Evaluates a template for one call. -/
def bindDynamic (ev : Evaluator) (config : Configuration) (root : Node) (parameter : Value) :
    Evaluation BoundStatement :=
  let e := root.evaluate ev (config.startBindings parameter)
  ⟨do let (sql, bindings) ← e.result; bindResult config sql bindings, e.trace⟩

def bind (ev : Evaluator) (config : Configuration) (parameter : Value) :
    Source → Evaluation BoundStatement
  | fixed statement => ⟨.ok (statement.bind parameter), []⟩
  | dynamic root => bindDynamic ev config root parameter

end Source

end SqlTemplate
