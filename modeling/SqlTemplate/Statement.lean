import SqlTemplate.Parameter

/-!
# Final statements

The last pass over the SQL of a template: every `#{…}` token becomes a placeholder and has a
parameter, in the order of the text.
-/

namespace SqlTemplate

/-- SQL with placeholders and their parameters in order. -/
structure Statement where
  sql : String
  parameters : List Parameter
deriving DecidableEq, Repr

namespace Statement

def placeholder : String := "?"

/-- A pass over SQL that collects parameters and stops at the first fault. -/
abbrev Collect := StateT (List Parameter) (Except Fault)

def prepare (config : Configuration) (sql : String) : String :=
  if config.settings.shrinkBlanks then Text.collapseBlanks sql else sql

def replaceToken (config : Configuration) (parameterKind : Kind) (bindings : Bindings)
    (content : String) : Collect String := do
  let parameter ← Parameter.ofContent config parameterKind bindings content
  modify (· ++ [parameter])
  pure placeholder

/-- The final statement of evaluated SQL. `parameterKind` and `bindings`, as the evaluation left
them, decide the kinds of the parameters. -/
def ofSql (config : Configuration) (sql : String) (parameterKind : Kind) (bindings : Bindings) :
    Except Fault Statement := do
  let (sql, parameters) ←
    (Delimiters.hash.scan (replaceToken config parameterKind bindings) (prepare config sql)).run []
  pure ⟨sql, parameters⟩

end Statement

end SqlTemplate
