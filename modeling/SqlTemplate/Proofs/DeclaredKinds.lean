import SqlTemplate.Configuration
import SqlTemplate.Proofs.Entries

/-!
# Declared kinds of properties

The kind of a property is known from the declarations of records alone: `Configuration.propertyKind`
walks a path along them, as `Value.getPath` walks it along a value. In a value whose records are what
their declarations say (`Value.Conforms`) the two walks stay in step, so what the path leads to is null
or of the declared kind (`Value.kind_of_getPath`). Only a step without a name would let them part: the
value stays where it is, and a record that declares the empty name goes on.
-/

namespace SqlTemplate

namespace Configuration

def NamesProperties (config : Configuration) : Prop :=
  ∀ (record : String) (properties : Entries Kind),
    config.records.get? record = some properties → properties.get? "" = none

variable {config : Configuration} {kind declared : Kind} {step : Step} {rest : List Step}

theorem name_ne_empty (hnames : config.NamesProperties) {name : String}
    (h : config.declaredKind kind name = some declared) : name ≠ "" := by
  rintro rfl
  cases kind with
  | record record =>
    obtain ⟨properties, hrecord, hproperty⟩ := Option.bind_eq_some_iff.mp h
    rw [hnames record properties hrecord] at hproperty
    cases hproperty
  | _ => cases h

section
variable (hobject : declared ≠ .object)
include hobject

theorem kindAlong_nil (h : config.kindAlong kind step [] = some declared) :
    config.declaredKind kind step.name = some declared ∧ step.index = none := by
  obtain ⟨reached, hreached, hend⟩ := Option.map_eq_some_iff.mp h
  cases hindex : step.index with
  | none =>
    rw [hindex] at hend
    cases hend
    exact ⟨hreached, rfl⟩
  | some i =>
    rw [hindex] at hend
    exact absurd hend.symm hobject

theorem kindAlong_cons {next : Step} (h : config.kindAlong kind step (next :: rest) = some declared) :
    ∃ reached, config.declaredKind kind step.name = some reached ∧ step.index = none ∧
      config.kindAlong reached next rest = some declared := by
  obtain ⟨reached, hreached, hend⟩ := Option.bind_eq_some_iff.mp h
  cases hindex : step.index with
  | none =>
    rw [hindex] at hend
    exact ⟨reached, hreached, rfl, hend⟩
  | some i =>
    rw [hindex] at hend
    exact absurd (Option.some.inj hend).symm hobject

theorem exists_declaredKind (h : config.kindAlong kind step rest = some declared) :
    ∃ reached, config.declaredKind kind step.name = some reached := by
  cases rest with
  | nil => exact ⟨declared, (kindAlong_nil hobject h).1⟩
  | cons next rest =>
    obtain ⟨reached, hreached, -⟩ := kindAlong_cons hobject h
    exact ⟨reached, hreached⟩

end

end Configuration

namespace Value

def IsOf (v : Value) (kind : Kind) : Prop :=
  v.isNull = true ∨ kind = .object ∨ v.kind = kind

def Holds (config : Configuration) (v : Value) (kind : Kind) (x : Value) : Prop :=
  ∃ name, config.declaredKind v.kind name = some kind ∧ v.property name = some x

/-- All properties with a declared kind hold values of that kind, and those conform in their turn. What
is not declared can be anything, and so can what is declared to be an object. -/
inductive Conforms (config : Configuration) : Value → Prop
  | intro {v : Value} (fits : ∀ kind x, Holds config v kind x → x.IsOf kind)
      (inner : ∀ kind x, Holds config v kind x → x.kind = kind → Conforms config x) :
      Conforms config v

variable {config : Configuration} {v x : Value} {declared : Kind} {step : Step} {rest : List Step}

theorem walk_of_name (hname : step.name ≠ "") (hindex : step.index = none) :
    v.walk step = v.property step.name := by
  unfold walk enter
  rw [if_neg hname, hindex]
  cases v.property step.name <;> rfl

theorem walk_null (hname : step.name ≠ "") : Value.null.walk step = none := by
  unfold walk
  rw [if_neg hname]
  rfl

theorem eq_null_of_isNull (h : v.isNull = true) : v = .null := by
  cases v with
  | null => rfl
  | _ => cases h

theorem conforms_of_undeclared (h : ∀ name, config.declaredKind v.kind name = none) :
    v.Conforms config := by
  have hholds : ∀ kind x, ¬ Holds config v kind x := by
    rintro kind x ⟨name, hkind, -⟩
    rw [h name] at hkind
    cases hkind
  exact .intro (fun _ _ hx => absurd hx (hholds _ _)) fun _ _ hx => absurd hx (hholds _ _)

theorem conforms_record {record : String} {kinds : Entries Kind} {properties : Entries Value}
    (hkinds : config.records.get? record = some kinds)
    (h : ∀ name kind x, (name, kind) ∈ kinds → properties.get? name = some x →
      x.IsOf kind ∧ (x.kind = kind → x.Conforms config)) :
    (Value.record record properties).Conforms config := by
  have hholds : ∀ kind x, Holds config (.record record properties) kind x →
      x.IsOf kind ∧ (x.kind = kind → x.Conforms config) := by
    rintro kind x ⟨name, hkind, hx⟩
    obtain ⟨declared, hdeclared, hname⟩ := Option.bind_eq_some_iff.mp hkind
    rw [hkinds] at hdeclared
    cases hdeclared
    exact h name kind x (Entries.mem_of_get? hname) hx
  exact .intro (fun kind x hx => (hholds kind x hx).1) fun kind x hx => (hholds kind x hx).2

section
variable (hnames : config.NamesProperties)
include hnames

theorem Conforms.walk (hv : v.Conforms config)
    (hdeclared : config.declaredKind v.kind step.name = some declared) (hindex : step.index = none)
    (hx : v.walk step = some x) : x.IsOf declared ∧ (x.kind = declared → x.Conforms config) := by
  rw [walk_of_name (Configuration.name_ne_empty hnames hdeclared) hindex] at hx
  cases hv with
  | intro fits inner => exact ⟨fits _ _ ⟨_, hdeclared, hx⟩, inner _ _ ⟨_, hdeclared, hx⟩⟩

theorem Conforms.walkAll (hv : v.Conforms config) (hobject : declared ≠ .object)
    (hkind : config.kindAlong v.kind step rest = some declared)
    (hx : v.walkAll (step :: rest) = some x) :
    x.IsOf declared ∧ (x.kind = declared → x.Conforms config) := by
  induction rest generalizing v step with
  | nil =>
    obtain ⟨hreached, hindex⟩ := Configuration.kindAlong_nil hobject hkind
    obtain ⟨y, hy, hend⟩ := Option.bind_eq_some_iff.mp hx
    cases hend
    exact hv.walk hnames hreached hindex hy
  | cons next rest ih =>
    obtain ⟨reached, hreached, hindex, hrest⟩ := Configuration.kindAlong_cons hobject hkind
    obtain ⟨y, hy, hend⟩ := Option.bind_eq_some_iff.mp hx
    obtain ⟨hof, hconforms⟩ := hv.walk hnames hreached hindex hy
    -- the next step has a declared name, so the walks go on from a record only
    obtain ⟨_, hnext⟩ := Configuration.exists_declaredKind hobject hrest
    rcases hof with hnull | hany | hsame
    · obtain ⟨z, hz, -⟩ := Option.bind_eq_some_iff.mp hend
      rw [eq_null_of_isNull hnull, walk_null (Configuration.name_ne_empty hnames hnext)] at hz
      cases hz
    · rw [hany] at hnext
      cases hnext
    · exact ih (hconforms hsame) (hsame ▸ hrest) hend

/-- What is found at a path with a declared kind closer than `object` is null or of that kind. -/
theorem kind_of_getPath (hv : v.Conforms config) {path : String}
    (hpath : config.propertyKind v.kind path = some declared) (hobject : declared ≠ .object)
    (hx : v.getPath path = some x) : x.isNull = true ∨ x.kind = declared := by
  obtain ⟨hof, -⟩ := hv.walkAll hnames hobject hpath hx
  rcases hof with hnull | hany | hsame
  · exact Or.inl hnull
  · exact absurd hany hobject
  · exact Or.inr hsame

end

theorem kind_of_getPath_nested :
    let config : Configuration := { Configuration.standard with
      records := [("Author", [("name", .text)]), ("Blog", [("author", .record "Author"), ("id", .int)])] }
    let blog : Value := .record "Blog"
      [("author", .record "Author" [("age", .null), ("name", .text "Ann")]), ("id", .null)]
    config.NamesProperties ∧ blog.Conforms config ∧
      config.propertyKind blog.kind "author.name" = some .text ∧
      blog.getPath "author.name" = some (.text "Ann") ∧
      ((Value.text "Ann").isNull = true ∨ (Value.text "Ann").kind = .text) := by
  intro config blog
  have hnames : config.NamesProperties := by
    intro record properties h
    simp only [config, Entries.get?] at h
    split at h
    · cases h
      rfl
    · split at h
      · cases h
        rfl
      · cases h
  have htext : Conforms config (.text "Ann") := conforms_of_undeclared fun _ => rfl
  have hauthor : Conforms config (.record "Author" [("age", .null), ("name", .text "Ann")]) := by
    refine conforms_record rfl fun name kind x hname hx => ?_
    cases List.mem_singleton.mp hname
    cases hx
    exact ⟨Or.inr (Or.inr rfl), fun _ => htext⟩
  have hblog : Conforms config blog := by
    refine conforms_record rfl fun name kind x hname hx => ?_
    rw [List.mem_cons, List.mem_singleton] at hname
    rcases hname with h | h
    · cases h
      cases hx
      exact ⟨Or.inr (Or.inr rfl), fun _ => hauthor⟩
    · cases h
      cases hx
      exact ⟨Or.inl rfl, fun h => absurd h (by decide)⟩
  have hpath : config.propertyKind blog.kind "author.name" = some .text := by decide +kernel
  have hx : blog.getPath "author.name" = some (.text "Ann") := rfl
  exact ⟨hnames, hblog, hpath, hx, kind_of_getPath hnames hblog hpath (by decide) hx⟩

end Value

end SqlTemplate
