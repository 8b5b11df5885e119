import SqlTemplate.Bindings
import SqlTemplate.Proofs.Numbered

/-!
# Binding names

What binding and releasing a name does to the value of every name, for single names and for the
variables of a loop. The parameter is the value of a name like any other: it stays as long as that
name is neither bound nor released. A path takes the value of its root and follows the rest of the
path from there.
-/

namespace SqlTemplate

def Value.follow (v : Value) (path : Path) : Option Value :=
  (v.enter path.root).bind (·.walkAll path.rest)

theorem Value.getPath_eq_follow (v : Value) {property : String} (h : rootName property ≠ "") :
    v.getPath property =
      (v.property (rootName property)).bind (·.follow (Path.ofText property)) := by
  have hwalk : v.walk (Path.ofText property).root =
      (v.property (rootName property)).bind (·.enter (Path.ofText property).root) :=
    if_neg h
  change (v.walk (Path.ofText property).root).bind _ = _
  rw [hwalk, Option.bind_assoc]
  rfl

theorem Value.enter_null (step : Step) :
    Value.null.enter step = none ∨ Value.null.enter step = some .null := by
  unfold enter
  cases step.index with
  | none => exact Or.inr rfl
  | some i => exact Or.inl rfl

theorem Value.walkAll_null (steps : List Step) :
    Value.null.walkAll steps = none ∨ Value.null.walkAll steps = some .null := by
  induction steps with
  | nil => exact Or.inr rfl
  | cons step steps ih =>
    have hwalk : Value.null.walk step = none ∨ Value.null.walk step = some .null := by
      by_cases hname : step.name = ""
      · have : Value.null.walk step = Value.null.enter step := if_pos hname
        rw [this]
        exact enter_null step
      · exact Or.inl (if_neg hname)
    change (Value.null.walk step).bind (·.walkAll steps) = none ∨ _
    rcases hwalk with h | h
    · exact Or.inl (by rw [h]; rfl)
    · unfold walkAll at ih ⊢
      rw [List.foldlM_cons, h]
      exact ih

theorem Value.follow_null (path : Path) : (Value.null.follow path).getD .null = .null := by
  unfold follow
  rcases enter_null path.root with h | h
  · rw [h]; rfl
  · rw [h]
    rcases walkAll_null path.rest with h | h
    · simp [h]
    · simp [h]

namespace Bindings

def bindVariable (b : Bindings) (number : Nat) (name : Option String) (value : Value) : Bindings :=
  match name with
  | none => b
  | some name => (b.bind (Loop.numbered name number) value).bind name value

def releaseVariable (b : Bindings) (name : Option String) : Bindings :=
  match name with
  | none => b
  | some name => b.release name

theorem get?_bind (b : Bindings) (name other : String) (v : Value) :
    (b.bind name v).locals.get? other = if name = other then some v else b.locals.get? other :=
  Entries.get?_insert b.locals name other v

theorem get?_release (b : Bindings) (name other : String) :
    (b.release name).locals.get? other = if name = other then none else b.locals.get? other :=
  Entries.get?_erase b.locals name other

/-! ## Paths -/

theorem getPath_eq_follow (b : Bindings) (property : String) :
    b.getPath property = (b.get (rootName property)).bind (·.follow (Path.ofText property)) := rfl

theorem get_of_get? {b : Bindings} {name : String} {v : Value} (h : b.locals.get? name = some v) :
    b.get name = some v := by
  unfold get
  rw [h]

theorem localPath_eq_follow (b : Bindings) (property : String) :
    b.localPath property = (b.locals.get? (rootName property)).map fun v =>
      (v.follow (Path.ofText property)).getD .null := by
  unfold localPath isBound Entries.contains
  rw [getPath_eq_follow]
  cases h : b.locals.get? (rootName property) with
  | none => rfl
  | some v => simp [get_of_get? h]

/-! ## Numbered names -/

section
variable {other : String} (ho : Loop.isNumbered other = true)
include ho

theorem get?_bind_plain (b : Bindings) {name : String} (hname : Loop.isNumbered name = false)
    (v : Value) : (b.bind name v).locals.get? other = b.locals.get? other := by
  rw [get?_bind, if_neg]
  rintro rfl
  rw [hname] at ho
  cases ho

theorem isBound_start (parameter : Value) (databaseId : Option String) (hasHandler : Bool) :
    (start parameter databaseId hasHandler).isBound other = false := by
  have hparameter : parameterName ≠ other := by
    rintro rfl
    cases ho
  have hdatabase : databaseName ≠ other := by
    rintro rfl
    cases ho
  simp [isBound, Entries.contains, start, Entries.ofList, Entries.insertAll, Entries.get?_insert,
    Entries.get?, hparameter, hdatabase]

theorem get?_bindVariable (b : Bindings) (number : Nat) {name : Option String}
    (hname : ∀ x ∈ name, Loop.isNumbered x = false) (v : Value) :
    (b.bindVariable number name v).locals.get? other =
      if name.map (Loop.numbered · number) = some other then some v else b.locals.get? other := by
  cases name with
  | none => simp [bindVariable]
  | some x =>
    unfold bindVariable
    rw [get?_bind_plain ho _ (hname x rfl), get?_bind]
    simp

theorem get?_releaseVariable (b : Bindings) {name : Option String}
    (hname : ∀ x ∈ name, Loop.isNumbered x = false) :
    (b.releaseVariable name).locals.get? other = b.locals.get? other := by
  cases name with
  | none => rfl
  | some x =>
    unfold releaseVariable
    rw [get?_release, if_neg]
    rintro rfl
    rw [hname x rfl] at ho
    cases ho

end

/-! ## The parameter -/

@[simp] theorem parameter_start (v : Value) (databaseId : Option String) (hasHandler : Bool) :
    (start v databaseId hasHandler).parameter = v := rfl

theorem parameter_bind (b : Bindings) {name : String} (h : name ≠ parameterName) (v : Value) :
    (b.bind name v).parameter = b.parameter := by
  unfold parameter
  rw [get?_bind, if_neg h]

theorem parameter_release (b : Bindings) {name : String} (h : name ≠ parameterName) :
    (b.release name).parameter = b.parameter := by
  unfold parameter
  rw [get?_release, if_neg h]

theorem parameter_bindVariable (b : Bindings) (number : Nat) {name : Option String}
    (h : ∀ x ∈ name, x ≠ parameterName) (v : Value) :
    (b.bindVariable number name v).parameter = b.parameter := by
  cases name with
  | none => rfl
  | some x =>
    have hplain : Loop.isNumbered parameterName = false := by decide
    unfold bindVariable
    rw [parameter_bind _ (h x rfl), parameter_bind _ (Loop.ne_numbered hplain x number).symm]

theorem parameter_releaseVariable (b : Bindings) {name : Option String}
    (h : ∀ x ∈ name, x ≠ parameterName) : (b.releaseVariable name).parameter = b.parameter := by
  cases name with
  | none => rfl
  | some x => exact parameter_release b (h x rfl)

@[simp] theorem answersAll_bindVariable (b : Bindings) (number : Nat) (name : Option String)
    (v : Value) : (b.bindVariable number name v).answersAll = b.answersAll := by
  cases name <;> rfl

@[simp] theorem answersAll_releaseVariable (b : Bindings) (name : Option String) :
    (b.releaseVariable name).answersAll = b.answersAll := by
  cases name <;> rfl

end Bindings

end SqlTemplate
