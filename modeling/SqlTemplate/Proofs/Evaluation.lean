import Mathlib.Logic.Relation
import SqlTemplate.Proofs.Answers
import SqlTemplate.Proofs.Binding
import SqlTemplate.Proofs.Pass
import SqlTemplate.Proofs.Tree
import SqlTemplate.Source

/-!
# Steps of an evaluation

An evaluation is a sequence of steps of seven sorts, each of which says all it does to the context
(`Step`); one that fails ends in one of two ways (`Stop`): the evaluator answers with a fault, or a
filter does not let a text pass. `steps_of_apply` and `stop_of_apply` take a run of a node apart, once
for all: what every step preserves holds after every run.
-/

namespace SqlTemplate

/-! ## What one step does -/

namespace Bindings

def seeds (b : Bindings) : Bool :=
  b.parameter.isNull || b.parameter.isSimple

def seeded (b : Bindings) : Bindings :=
  if b.seeds then b.bind Build.valueName b.parameter else b

theorem get?_seeded (b : Bindings) (name : String) :
    b.seeded.locals.get? name =
      if name = Build.valueName ∧ b.seeds = true then some b.parameter else b.locals.get? name := by
  unfold seeded
  cases b.seeds with
  | false => simp
  | true =>
    rw [if_pos rfl, get?_bind]
    simp [eq_comm]

end Bindings

namespace Context

def enter (c : Context) (loop : Loop) (item : Item) : Context :=
  { c with
    bindings := (c.bindings.bindVariable c.counter loop.index item.key).bindVariable c.counter
      loop.item item.value
    counter := c.counter + 1
    trace := c.trace ++ [.round loop c.counter item] }

def leave (c : Context) (loop : Loop) : Context :=
  { c with bindings := (c.bindings.releaseVariable loop.item).releaseVariable loop.index }

def seeded (c : Context) : Context :=
  { c with bindings := c.bindings.seeded }

def noted (c : Context) (event : Event) : Context :=
  { c with trace := c.trace ++ [event] }

end Context

/-- One step of an evaluation of a tree whose nodes are `parts`. -/
inductive Context.Step (ev : Evaluator) (parts : List Node) : Context → Context → Prop
  | sink (c : Context) (s : Sink) : Step ev parts c { c with sink := s }
  | asked (c : Context) (expression : String) : Step ev parts c (c.noted (.evaluated expression))
  | seeded (c : Context) :
    Step ev parts c { c with bindings := c.bindings.bind Build.valueName c.bindings.parameter }
  | substituted (c : Context) {sql content : String} {filter : Option Filter} {v : Value}
    (hpart : .substitution sql filter ∈ parts) (hv : ev.value content c.bindings = .ok v)
    (hfilter : ∀ f ∈ filter, f.accepts v.toSql = true) :
    Step ev parts c (c.noted (.substituted v.toSql))
  | declared (c : Context) {name expression : String} {v : Value}
    (hpart : .declare name expression ∈ parts) (hv : ev.value expression c.bindings = .ok v) :
    Step ev parts c { c with bindings := c.bindings.bind name v }
  | entered (c : Context) {header : Loop} {body : Node} (hpart : .loop header body ∈ parts)
    (item : Item) : Step ev parts c (c.enter header item)
  | left (c : Context) {header : Loop} {body : Node} (hpart : .loop header body ∈ parts) :
    Step ev parts c (c.leave header)

/-- Something that an evaluator can be asked about an expression has a fault for an answer. -/
inductive Evaluator.Faults (ev : Evaluator) (expression : String) (b : Bindings) (fault : Fault) : Prop
  | value (h : ev.value expression b = .error fault)
  | test (h : ev.test expression b = .error fault)
  | collection {nullable : Bool} (h : ev.collection expression nullable b = .error fault)

inductive Context.Stop (ev : Evaluator) (parts : List Node) (c : Context) : Fault → Context → Prop
  | unanswered {expression : String} {fault : Fault} (h : ev.Faults expression c.bindings fault) :
    Stop ev parts c fault (c.noted (.evaluated expression))
  | rejected {sql content : String} {f : Filter} {v : Value}
    (hpart : .substitution sql (some f) ∈ parts) (hv : ev.value content c.bindings = .ok v)
    (hfilter : f.accepts v.toSql = false) :
    Stop ev parts c (.rejected v.toSql f.pattern) (c.noted (.substituted v.toSql))

namespace Context

variable {ev : Evaluator} {parts : List Node} {c c' : Context}

theorem Step.trace_prefix (h : Step ev parts c c') : c.trace <+: c'.trace := by
  cases h with
  | asked expression => exact List.prefix_append _ _
  | substituted hpart hv hfilter => exact List.prefix_append _ _
  | entered hpart item => exact List.prefix_append _ _
  | _ => exact List.prefix_refl _

theorem Stop.trace_prefix {fault : Fault} (h : Stop ev parts c fault c') : c.trace <+: c'.trace := by
  cases h <;> exact List.prefix_append _ _

theorem trace_prefix_of_steps (h : Relation.ReflTransGen (Step ev parts) c c') :
    c.trace <+: c'.trace := by
  induction h with
  | refl => exact List.prefix_refl _
  | tail _ hstep ih => exact ih.trans hstep.trace_prefix

end Context

/-! ## Runs -/

namespace Build

variable {α β : Type}

theorem run_ofExcept_eq_ok {x : Except Fault α} {a : α} {c c' : Context} :
    (ofExcept x).run c = .ok a c' ↔ x = .ok a ∧ c = c' := by
  cases x with
  | ok b => simp [ofExcept]
  | error e =>
    constructor
    · intro h; cases h
    · rintro ⟨h, _⟩; cases h

theorem run_ofExcept_eq_error {x : Except Fault α} {fault : Fault} {c c' : Context} :
    (ofExcept x).run c = .error fault c' ↔ x = .error fault ∧ c = c' := by
  cases x with
  | ok b =>
    constructor
    · intro h; cases h
    · rintro ⟨h, _⟩; cases h
  | error e =>
    constructor
    · intro h; cases h; exact ⟨rfl, rfl⟩
    · rintro ⟨h, rfl⟩; cases h; rfl

section
variable {expression : String} {f : Bindings → Except Fault α} {c c' : Context}

theorem run_evaluate_eq_ok {a : α} :
    (evaluate expression f).run c = .ok a c' ↔
      f c.bindings = .ok a ∧ c' = c.noted (.evaluated expression) := by
  change (ofExcept (f c.bindings)).run (c.noted (.evaluated expression)) = .ok a c' ↔ _
  rw [run_ofExcept_eq_ok, eq_comm (a := c')]

theorem run_evaluate_eq_error {fault : Fault} :
    (evaluate expression f).run c = .error fault c' ↔
      f c.bindings = .error fault ∧ c' = c.noted (.evaluated expression) := by
  change (ofExcept (f c.bindings)).run (c.noted (.evaluated expression)) = .error fault c' ↔ _
  rw [run_ofExcept_eq_error, eq_comm (a := c')]

end

theorem run_within (push : Sink → Sink) (m : Build α) (c : Context) :
    (within push m).run c = match m.run { c with sink := push c.sink } with
      | .ok a c₁ => .ok (a, c₁.sink) { c₁ with sink := c₁.sink.outer }
      | .error e c₁ => .error e c₁ := by
  change (m >>= fun a => _).run { c with sink := push c.sink } = _
  rw [EStateM.run_bind]
  cases m.run { c with sink := push c.sink } <;> rfl

theorem run_bindValue (c : Context) : bindValue.run c = .ok () c.seeded := by
  change (if c.bindings.seeds then Build.bind valueName c.bindings.parameter else Pure.pure ()).run c = _
  unfold Context.seeded Bindings.seeded
  cases c.bindings.seeds <;> rfl

/-! ## Runs as sequences of steps -/

structure Walks (ev : Evaluator) (parts : List Node) (m : Build α) : Prop where
  ok {c : Context} {a : α} {c' : Context} (h : m.run c = .ok a c') :
    Relation.ReflTransGen (Context.Step ev parts) c c'
  error {c : Context} {fault : Fault} {c' : Context} (h : m.run c = .error fault c') :
    ∃ c₁, Relation.ReflTransGen (Context.Step ev parts) c c₁ ∧ Context.Stop ev parts c₁ fault c'

section
variable {ev : Evaluator} {parts : List Node}

theorem Walks.of_ok {m : Build α} (h : ∀ c, ∃ a c', m.run c = .ok a c' ∧
    Relation.ReflTransGen (Context.Step ev parts) c c') : Walks ev parts m where
  ok {c _ _} hrun := by
    obtain ⟨a, c', hok, hsteps⟩ := h c
    rw [hok] at hrun
    cases hrun
    exact hsteps
  error {c _ _} hrun := by
    obtain ⟨a, c', hok, _⟩ := h c
    rw [hok] at hrun
    cases hrun

theorem Walks.pure (a : α) : Walks ev parts (pure a : Build α) :=
  .of_ok fun c => ⟨a, c, rfl, .refl⟩

theorem Walks.bind {m : Build α} {f : α → Build β} (hm : Walks ev parts m)
    (hf : ∀ a, Walks ev parts (f a)) : Walks ev parts (m >>= f) where
  ok h := by
    obtain ⟨a, c₁, h₁, h₂⟩ := EStateM.run_bind_eq_ok.mp h
    exact (hm.ok h₁).trans ((hf a).ok h₂)
  error h := by
    rcases EStateM.run_bind_eq_error.mp h with h | ⟨a, c₁, h₁, h₂⟩
    · exact hm.error h
    · obtain ⟨c₂, hsteps, hstop⟩ := (hf a).error h₂
      exact ⟨c₂, (hm.ok h₁).trans hsteps, hstop⟩

theorem walks_append (fragment : String) : Walks ev parts (append fragment) :=
  .of_ok fun c => ⟨(), _, rfl, .single (.sink c _)⟩

theorem walks_evaluate {expression : String} {f : Bindings → Except Fault α}
    (hf : ∀ c fault, f c.bindings = .error fault →
      Context.Stop ev parts c fault (c.noted (.evaluated expression))) :
    Walks ev parts (evaluate expression f) where
  ok h := by
    obtain ⟨_, rfl⟩ := run_evaluate_eq_ok.mp h
    exact .single (.asked _ expression)
  error h := by
    obtain ⟨hfault, rfl⟩ := run_evaluate_eq_error.mp h
    exact ⟨_, .refl, hf _ _ hfault⟩

theorem walks_test (expression : String) : Walks ev parts (evaluate expression (ev.test expression)) :=
  walks_evaluate fun _ _ h => .unanswered (.test h)

theorem walks_collect (header : Loop) :
    Walks ev parts
      (evaluate header.collection (ev.collection header.collection header.nullable)) :=
  walks_evaluate fun _ _ h => .unanswered (.collection h)

theorem Walks.within {m : Build α} (hm : Walks ev parts m) (push : Sink → Sink) :
    Walks ev parts (within push m) := by
  have hpush : ∀ c : Context, Context.Step ev parts c { c with sink := push c.sink } :=
    fun c => .sink c _
  constructor
  · intro c r c' h
    rw [run_within] at h
    cases hr : m.run { c with sink := push c.sink } with
    | error e c₁ => rw [hr] at h; cases h
    | ok a c₁ =>
      rw [hr] at h
      cases h
      exact ((hm.ok hr).head (hpush c)).tail (.sink c₁ _)
  · intro c fault c' h
    rw [run_within] at h
    cases hr : m.run { c with sink := push c.sink } with
    | ok a c₁ => rw [hr] at h; cases h
    | error e c₁ =>
      rw [hr] at h
      cases h
      obtain ⟨c₂, hsteps, hstop⟩ := hm.error hr
      exact ⟨c₂, hsteps.head (hpush c), hstop⟩

theorem Walks.buffered {m : Build α} (hm : Walks ev parts m) : Walks ev parts (buffered m) :=
  (hm.within _).bind fun r => by split <;> exact .pure _

theorem Walks.prefixed {m : Build α} (hm : Walks ev parts m) (lead : String) :
    Walks ev parts (prefixed lead m) :=
  (hm.within _).bind fun r => by split <;> exact .pure _

theorem Walks.numbering {m : Build α} (hm : Walks ev parts m) (scope : LoopScope) :
    Walks ev parts (numbering scope m) :=
  (hm.within _).bind fun _ => .pure _

end

/-! ## Traces -/

def left : EStateM.Result Fault Context α → Context
  | .ok _ c => c
  | .error _ c => c

def Grows (m : Build α) : Prop :=
  ∀ c, c.trace <+: (left (m.run c)).trace

theorem Walks.grows {ev : Evaluator} {parts : List Node} {m : Build α} (hm : Walks ev parts m) :
    Grows m := by
  intro c
  cases hrun : m.run c with
  | ok a c' => exact Context.trace_prefix_of_steps (hm.ok hrun)
  | error fault c' =>
    obtain ⟨c₁, hsteps, hstop⟩ := hm.error hrun
    exact (Context.trace_prefix_of_steps hsteps).trans hstop.trace_prefix

/-! ## Substitutions -/

section
variable {ev : Evaluator} {filter : Option Filter} {content : String} {c c' : Context}

theorem run_substitute_eq_ok {text : String}
    (h : (substitute ev filter content).run c = .ok text c') :
    ∃ v, ev.value content c.bindings.seeded = .ok v ∧ (∀ f ∈ filter, f.accepts v.toSql = true) ∧
      text = v.toSql ∧ c' = (c.seeded.noted (.evaluated content)).noted (.substituted v.toSql) := by
  unfold substitute at h
  obtain ⟨_, c₁, hseed, h⟩ := EStateM.run_bind_eq_ok.mp h
  cases (run_bindValue c).symm.trans hseed
  obtain ⟨v, c₂, h₂, h⟩ := EStateM.run_bind_eq_ok.mp h
  obtain ⟨hv, rfl⟩ := run_evaluate_eq_ok.mp h₂
  obtain ⟨_, c₃, h₃, h⟩ := EStateM.run_bind_eq_ok.mp h
  cases h₃
  cases filter with
  | none =>
    obtain ⟨rfl, rfl⟩ := EStateM.run_pure_eq_ok.mp h
    exact ⟨v, hv, by simp, rfl, rfl⟩
  | some f =>
    obtain ⟨_, c₄, h₄, h⟩ := EStateM.run_bind_eq_ok.mp h
    obtain ⟨hcheck, rfl⟩ := run_ofExcept_eq_ok.mp h₄
    obtain ⟨rfl, rfl⟩ := EStateM.run_pure_eq_ok.mp h
    have haccepts : ∀ g ∈ some f, g.accepts v.toSql = true := by
      simpa using Filter.check_eq_ok.mp hcheck
    exact ⟨v, hv, haccepts, rfl, rfl⟩

theorem run_substitute_eq_error {fault : Fault}
    (h : (substitute ev filter content).run c = .error fault c') :
    ev.value content c.bindings.seeded = .error fault ∧ c' = c.seeded.noted (.evaluated content) ∨
      ∃ f v, filter = some f ∧ ev.value content c.bindings.seeded = .ok v ∧
        f.accepts v.toSql = false ∧ fault = .rejected v.toSql f.pattern ∧
        c' = (c.seeded.noted (.evaluated content)).noted (.substituted v.toSql) := by
  unfold substitute at h
  rcases EStateM.run_bind_eq_error.mp h with h | ⟨_, c₁, hseed, h⟩
  · cases (run_bindValue c).symm.trans h
  cases (run_bindValue c).symm.trans hseed
  rcases EStateM.run_bind_eq_error.mp h with h | ⟨v, c₂, h₂, h⟩
  · exact Or.inl (run_evaluate_eq_error.mp h)
  obtain ⟨hv, rfl⟩ := run_evaluate_eq_ok.mp h₂
  rcases EStateM.run_bind_eq_error.mp h with h | ⟨_, c₃, h₃, h⟩
  · cases h
  cases h₃
  cases filter with
  | none => cases h
  | some f =>
    rcases EStateM.run_bind_eq_error.mp h with h | ⟨_, c₄, _, h⟩
    · obtain ⟨hcheck, rfl⟩ := run_ofExcept_eq_error.mp h
      obtain ⟨haccepts, rfl⟩ := Filter.check_eq_error.mp hcheck
      exact Or.inr ⟨f, v, rfl, hv, haccepts, rfl, rfl⟩
    · cases h

theorem steps_seeded (ev : Evaluator) (parts : List Node) (c : Context) :
    Relation.ReflTransGen (Context.Step ev parts) c c.seeded := by
  unfold Context.seeded Bindings.seeded
  cases c.bindings.seeds with
  | false => exact .refl
  | true => exact .single (.seeded c)

end

section
variable {ev : Evaluator} {parts : List Node}

theorem walks_substitute {sql : String} {filter : Option Filter}
    (hpart : .substitution sql filter ∈ parts) (content : String) :
    Walks ev parts (substitute ev filter content) where
  ok h := by
    obtain ⟨v, hv, hfilter, _, rfl⟩ := run_substitute_eq_ok h
    exact ((steps_seeded ev parts _).tail (.asked _ content)).tail (.substituted _ hpart hv hfilter)
  error h := by
    rcases run_substitute_eq_error h with ⟨hv, rfl⟩ | ⟨f, v, rfl, hv, hfilter, rfl, rfl⟩
    · exact ⟨_, steps_seeded ev parts _, .unanswered (.value hv)⟩
    · exact ⟨_, (steps_seeded ev parts _).tail (.asked _ content), .rejected hpart hv hfilter⟩

/-! ## Loops -/

theorem run_round (loop : Loop) (body : Build Bool) (item : Item) (c : Context) :
    (loop.round body item).run c =
      (Build.numbering ⟨loop.item, loop.index, c.counter⟩ body >>= fun _ => Pure.pure ()).run
        (c.enter loop item) := by
  unfold Loop.round Loop.bindVariable Context.enter
  cases loop.index <;> cases loop.item <;> rfl

theorem walks_round {header : Loop} {node : Node} (hpart : .loop header node ∈ parts)
    {body : Build Bool} (hbody : Walks ev parts body) (item : Item) :
    Walks ev parts (header.round body item) := by
  have hrest : ∀ c : Context, Walks ev parts
      (Build.numbering ⟨header.item, header.index, c.counter⟩ body >>= fun _ => Pure.pure ()) :=
    fun _ => (hbody.numbering _).bind fun _ => .pure _
  constructor
  · intro c a c' h
    rw [run_round] at h
    exact ((hrest c).ok h).head (.entered c hpart item)
  · intro c fault c' h
    rw [run_round] at h
    obtain ⟨c₁, hsteps, hstop⟩ := (hrest c).error h
    exact ⟨c₁, hsteps.head (.entered c hpart item), hstop⟩

theorem run_release (loop : Loop) (c : Context) :
    (Loop.releaseVariable loop.item >>= fun _ => Loop.releaseVariable loop.index).run c =
      .ok () (c.leave loop) := by
  unfold Loop.releaseVariable Context.leave Bindings.releaseVariable
  cases loop.item <;> cases loop.index <;> rfl

theorem walks_release {header : Loop} {node : Node} (hpart : .loop header node ∈ parts) :
    Walks ev parts (Loop.releaseVariable header.item >>= fun _ =>
      Loop.releaseVariable header.index) :=
  .of_ok fun c => ⟨(), _, run_release header c, .single (.left c hpart)⟩

theorem walks_declare {name expression : String} (hpart : .declare name expression ∈ parts) :
    Walks ev parts ((Node.declare name expression).apply ev) where
  ok h := by
    obtain ⟨v, c₁, h₁, h⟩ := EStateM.run_bind_eq_ok.mp h
    obtain ⟨hv, rfl⟩ := run_evaluate_eq_ok.mp h₁
    cases h
    exact (Relation.ReflTransGen.single (.asked _ expression)).tail (.declared _ hpart hv)
  error h := by
    rcases EStateM.run_bind_eq_error.mp h with h | ⟨v, c₁, h₁, h⟩
    · obtain ⟨hv, rfl⟩ := run_evaluate_eq_error.mp h
      exact ⟨_, .refl, .unanswered (.value hv)⟩
    · cases h

theorem closed_walks : Closed ev parts fun _ m => Walks ev parts m where
  pure := .pure
  bind := .bind
  append := walks_append
  test := walks_test
  collect _ := walks_collect _
  substitute := walks_substitute
  declare := walks_declare
  round := walks_round
  release := walks_release
  buffered := .buffered
  prefixed := .prefixed

end

end Build

/-! ## Trees -/

namespace Node

/-- A run of a tree that succeeds is a sequence of steps of the nodes of the tree. -/
theorem steps_of_apply {ev : Evaluator} {root : Node} {c c' : Context} {applied : Bool}
    (h : (root.apply ev).run c = .ok applied c') :
    Relation.ReflTransGen (Context.Step ev root.parts) c c' :=
  Build.closed_walks.compositional.apply_root.ok h

/-- A run of a tree that fails stops after such steps. -/
theorem stop_of_apply {ev : Evaluator} {root : Node} {c c' : Context} {fault : Fault}
    (h : (root.apply ev).run c = .error fault c') :
    ∃ c₁, Relation.ReflTransGen (Context.Step ev root.parts) c c₁ ∧
      Context.Stop ev root.parts c₁ fault c' :=
  Build.closed_walks.compositional.apply_root.error h

theorem grows_apply (ev : Evaluator) (node : Node) : Build.Grows (node.apply ev) :=
  Build.closed_walks.compositional.apply_root.grows

theorem evaluate_eq_ok {ev : Evaluator} {root : Node} {b b' : Bindings} {sql : String} :
    (root.evaluate ev b).result = .ok (sql, b') ↔
      ∃ applied c, (root.apply ev).run (Context.start b) = .ok applied c ∧ c.sql = sql ∧
        c.bindings = b' := by
  unfold evaluate
  cases (root.apply ev).run (Context.start b) with
  | ok applied c =>
    constructor
    · intro h; cases h; exact ⟨applied, c, rfl, rfl, rfl⟩
    · rintro ⟨_, _, he, rfl, rfl⟩; cases he; rfl
  | error e c =>
    constructor
    · intro h; cases h
    · rintro ⟨_, _, he, _⟩; cases he

end Node

end SqlTemplate
