import SqlTemplate.Fault
import SqlTemplate.Pattern.Match
import SqlTemplate.Pattern.Reader

/-!
# Injection filters

A filter is a pattern set between `^(?:` and `)$`. A text may take the place of a `${…}` token
only if the filter finds a match in it.
-/

namespace SqlTemplate

/-- A filter: the text of its pattern and the pattern it stands for. -/
structure Filter where
  pattern : String
  anchored : Pattern
deriving DecidableEq, Repr

namespace Filter

/-- The text of a pattern between anchors. -/
def splice (pattern : String) : List Char :=
  ['^', '(', '?', ':'] ++ pattern.toList ++ [')', '$']

def ofPattern (pattern : String) : Except Fault Filter :=
  match Pattern.read? (splice pattern) with
  | some anchored => .ok ⟨pattern, anchored⟩
  | none => .error (.settings (.invalidPattern pattern))

def accepts (filter : Filter) (text : String) : Bool :=
  filter.anchored.foundIn text.toList

/-- Refuses a text that the filter does not let pass. -/
def check (filter : Filter) (text : String) : Except Fault Unit :=
  if filter.accepts text then .ok () else .error (.rejected text filter.pattern)

theorem check_eq_ok {filter : Filter} {text : String} :
    filter.check text = .ok () ↔ filter.accepts text = true := by
  simp [check]

theorem check_eq_error {filter : Filter} {text : String} {fault : Fault} :
    filter.check text = .error fault ↔
      filter.accepts text = false ∧ fault = .rejected text filter.pattern := by
  cases h : filter.accepts text <;> simp [check, h, eq_comm]

end Filter

end SqlTemplate
