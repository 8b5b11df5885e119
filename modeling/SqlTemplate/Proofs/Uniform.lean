import SqlTemplate.Proofs.Evaluation
import SqlTemplate.Proofs.Sink

/-!
# Evaluations and the sinks behind them

A sink is only fed. What a step answers, which fragments it appends and what it does to the bindings
and the counter do not depend on the sink (`Build.Uniform`), nor on what happened before. Steps are put
together so that this is kept, and so every node has one outcome for all stacks of sinks
(`Node.apply_uniform`), in which each sink does to the fragments what its kind says.
-/

namespace SqlTemplate

/-! ## Fragments one by one -/

namespace Sink

theorem foldl_append (fragments : List String) (s : Sink) :
    fragments.foldl append s = s.feed fragments := by
  induction fragments generalizing s with
  | nil => exact (feed_nil s).symm
  | cons fragment rest ih => rw [List.foldl_cons, ih, append, ← feed_append, List.singleton_append]

theorem leadIn_true (lead : String) (fragments : List String) :
    leadIn lead true fragments = (true, fragments) := by
  induction fragments with
  | nil => rfl
  | cons fragment rest ih => simp [leadIn, ih]

theorem leadIn_false (lead : String) (fragments : List String) :
    leadIn lead false fragments =
      (!fragments.all Text.allBlank, fragments.takeWhile Text.allBlank ++
        ((if fragments.all Text.allBlank then [] else [lead]) ++
          fragments.dropWhile Text.allBlank)) := by
  induction fragments with
  | nil => rfl
  | cons fragment rest ih =>
    by_cases h : Text.allBlank fragment = true
    · simp [leadIn, h, ih]
    · simp [leadIn, h, leadIn_true]

end Sink

/-! ## Outcomes -/

/-- What a step answers, the fragments it appends, what it leaves as the bindings and the counter, and
the events it adds to the trace. -/
structure Outcome (α : Type) where
  answer : α
  fragments : List String
  bindings : Bindings
  counter : Nat
  events : List Event

def Outcome.left {α : Type} (o : Outcome α) (s : Sink) (trace : List Event) : α × Context :=
  (o.answer, ⟨o.bindings, o.counter, o.fragments.foldl Sink.append s, trace ++ o.events⟩)

namespace Build

variable {α β : Type}

def result (m : Build α) (c : Context) : Except Fault (α × Context) :=
  match m.run c with
  | .ok a c' => .ok (a, c')
  | .error fault _ => .error fault

theorem result_bind (m : Build α) (f : α → Build β) (c : Context) :
    (m >>= f).result c = m.result c >>= fun r => (f r.1).result r.2 := by
  unfold result
  rw [EStateM.run_bind]
  cases m.run c <;> rfl

theorem result_within (push : Sink → Sink) (m : Build α) (c : Context) :
    (within push m).result c = (m.result { c with sink := push c.sink }).map fun r =>
      ((r.1, r.2.sink), { r.2 with sink := r.2.sink.outer }) := by
  unfold result
  rw [run_within]
  cases m.run { c with sink := push c.sink } <;> rfl

/-- From these bindings and this counter a step has one outcome, whatever the sink and the trace. -/
def Yields (m : Build α) (b : Bindings) (n : Nat) (x : Except Fault (Outcome α)) : Prop :=
  ∀ s trace, m.result ⟨b, n, s, trace⟩ = x.map fun o => o.left s trace

def Uniform (m : Build α) : Prop :=
  ∀ b n, ∃ x, Yields m b n x

theorem Uniform.of_ok {m : Build α} (o : Bindings → Nat → Outcome α)
    (h : ∀ c, m.run c = .ok (o c.bindings c.counter).answer
      ((o c.bindings c.counter).left c.sink c.trace).2) : Uniform m := by
  intro b n
  refine ⟨.ok (o b n), fun s trace => ?_⟩
  unfold result
  rw [h]
  rfl

theorem uniform_throw (fault : Fault) : Uniform (throw fault : Build α) :=
  fun _ _ => ⟨.error fault, fun _ _ => rfl⟩

theorem Uniform.pure (a : α) : Uniform (pure a : Build α) :=
  .of_ok (fun b n => ⟨a, [], b, n, []⟩) fun c => by simp [Outcome.left]

theorem Uniform.bind {m : Build α} {f : α → Build β} (hm : Uniform m) (hf : ∀ a, Uniform (f a)) :
    Uniform (m >>= f) := by
  intro b n
  obtain ⟨x, hx⟩ := hm b n
  cases x with
  | error fault =>
    refine ⟨.error fault, fun s trace => ?_⟩
    rw [result_bind, hx]
    rfl
  | ok o =>
    obtain ⟨y, hy⟩ := hf o.answer o.bindings o.counter
    refine ⟨y.map fun o' => { o' with
      fragments := o.fragments ++ o'.fragments, events := o.events ++ o'.events }, fun s trace => ?_⟩
    rw [result_bind, hx]
    change (f o.answer).result ⟨o.bindings, o.counter, _, _⟩ = _
    rw [hy]
    cases y with
    | error fault => rfl
    | ok o' => simp [Outcome.left, Except.map, List.foldl_append, List.append_assoc]

/-! ## Steps -/

theorem uniform_append (fragment : String) : Uniform (append fragment) :=
  .of_ok (fun b n => ⟨(), [fragment], b, n, []⟩) fun c => by simp [append, Outcome.left]

theorem uniform_note (event : Event) : Uniform (note event) :=
  .of_ok (fun b n => ⟨(), [], b, n, [event]⟩) fun _ => rfl

theorem uniform_bindings : Uniform bindings :=
  .of_ok (fun b n => ⟨b, [], b, n, []⟩) fun c => by simp [Outcome.left]; rfl

theorem uniform_rebind (f : Bindings → Bindings) :
    Uniform (modify fun c => { c with bindings := f c.bindings }) :=
  .of_ok (fun b n => ⟨(), [], f b, n, []⟩) fun c => by simp [Outcome.left]

theorem uniform_nextNumber : Uniform nextNumber :=
  .of_ok (fun b n => ⟨n, [], b, n + 1, []⟩) fun c => by simp [nextNumber, Outcome.left]

theorem uniform_ofExcept (x : Except Fault α) : Uniform (ofExcept x) := by
  cases x with
  | ok a => exact .pure a
  | error fault => exact uniform_throw fault

theorem uniform_evaluate (expression : String) (f : Bindings → Except Fault α) :
    Uniform (evaluate expression f) :=
  (uniform_note _).bind fun _ => uniform_bindings.bind fun _ => uniform_ofExcept _

theorem uniform_substitute (ev : Evaluator) (filter : Option Filter) (content : String) :
    Uniform (substitute ev filter content) := by
  have hseed : Uniform bindValue := uniform_bindings.bind fun b => by
    dsimp only
    split
    · exact uniform_rebind fun b' => b'.bind valueName b.parameter
    · exact .pure ()
  refine hseed.bind fun _ => (uniform_evaluate _ _).bind fun v => (uniform_note _).bind fun _ => ?_
  cases filter with
  | none => exact .pure _
  | some f => exact (uniform_ofExcept _).bind fun _ => .pure _

theorem uniform_declare (ev : Evaluator) (name expression : String) :
    Uniform ((Node.declare name expression).apply ev) :=
  (uniform_evaluate _ _).bind fun v => (uniform_rebind (·.bind name v)).bind fun _ => .pure _

theorem uniform_bindVariable (number : Nat) (name : Option String) (v : Value) :
    Uniform (Loop.bindVariable number name v) := by
  cases name with
  | none => exact .pure ()
  | some name =>
    exact (uniform_rebind (·.bind (Loop.numbered name number) v)).bind fun _ =>
      uniform_rebind (·.bind name v)

theorem uniform_releaseVariable (name : Option String) : Uniform (Loop.releaseVariable name) := by
  cases name with
  | none => exact .pure ()
  | some name => exact uniform_rebind (·.release name)

/-! ## Sinks put before another -/

section
variable {m : Build α} (hm : Uniform m)
include hm

/-- A sink put before another one passes fragments on to it, and what is read off it afterwards does
not depend on the one behind. -/
theorem Uniform.within {push : Sink → Sink} {f : α × Sink → Build β}
    (pass : List String → List String) (answer : α → List String → β)
    (hpass : ∀ s fragments, ((push s).feed fragments).outer = s.feed (pass fragments))
    (hf : ∀ a s fragments, f (a, (push s).feed fragments) = Pure.pure (answer a fragments)) :
    Uniform (within push m >>= f) := by
  intro b n
  obtain ⟨x, hx⟩ := hm b n
  refine ⟨x.map fun o =>
    { o with answer := answer o.answer o.fragments, fragments := pass o.fragments }, fun s trace => ?_⟩
  rw [result_bind, result_within, hx]
  cases x with
  | error fault => rfl
  | ok o =>
    simp only [Outcome.left, Except.map, Sink.foldl_append, ← hpass]
    change (f (o.answer, (push s).feed o.fragments)).result _ = _
    rw [hf]
    rfl

theorem Uniform.buffered : Uniform (buffered m) :=
  hm.within (fun _ => []) (fun a fragments => (a, String.join fragments))
    (fun s _ => (Sink.feed_nil s).symm) fun a s fragments => by simp [Sink.feed]

theorem Uniform.prefixed (lead : String) : Uniform (prefixed lead m) :=
  hm.within (fun fragments => (Sink.leadIn lead false fragments).2)
    (fun a fragments => (a, (Sink.leadIn lead false fragments).1)) (fun _ _ => rfl) fun _ _ _ => rfl

theorem Uniform.numbering (scope : LoopScope) : Uniform (numbering scope m) :=
  hm.within (List.map scope.renameTokens) (fun a _ => a) (fun _ _ => rfl) fun _ _ _ => rfl

end

theorem Uniform.round (header : Loop) {body : Build Bool} (hbody : Uniform body) (item : Item) :
    Uniform (header.round body item) :=
  uniform_nextNumber.bind fun _ => (uniform_bindVariable _ _ _).bind fun _ =>
    (uniform_bindVariable _ _ _).bind fun _ => (uniform_note _).bind fun _ =>
      (hbody.numbering _).bind fun _ => .pure _

theorem closed_uniform (ev : Evaluator) (parts : List Node) :
    Closed ev parts fun _ m => Uniform m where
  pure := .pure
  bind := .bind
  append := uniform_append
  test _ := uniform_evaluate _ _
  collect _ := uniform_evaluate _ _
  substitute _ := uniform_substitute ev _
  declare _ := uniform_declare ev _ _
  round _ := Uniform.round _
  release _ := (uniform_releaseVariable _).bind fun _ => uniform_releaseVariable _
  buffered := .buffered
  prefixed := .prefixed

end Build

/-! ## Trees -/

/-- Applying a node to any stack of sinks has one and the same outcome, and appends the same fragments
one after the other to it. A buffer keeps them from the sink behind it; a prefixed sink passes its lead on
before the first that is not blank, and no second time; a numbering sink passes each on with the references
renamed; the SQL of the statement is all its fragments joined with spaces, without blanks around. -/
theorem Node.apply_uniform (ev : Evaluator) (root : Node) (b : Bindings) (n : Nat) :
    ∃ x : Except Fault (Outcome Bool),
      (∀ s trace, (root.apply ev).result ⟨b, n, s, trace⟩ = x.map fun o =>
        (o.answer, ⟨o.bindings, o.counter, o.fragments.foldl Sink.append s, trace ++ o.events⟩)) ∧
      ∀ fragments outer,
        (∀ sql, fragments.foldl Sink.append (.buffer sql outer) =
          .buffer (sql ++ String.join fragments) outer) ∧
        (∀ lead, fragments.foldl Sink.append (.prefixed lead false outer) =
          .prefixed lead (!fragments.all Text.allBlank)
            ((fragments.takeWhile Text.allBlank ++
              ((if fragments.all Text.allBlank then [] else [lead]) ++
                fragments.dropWhile Text.allBlank)).foldl Sink.append outer)) ∧
        (∀ lead, fragments.foldl Sink.append (.prefixed lead true outer) =
          .prefixed lead true (fragments.foldl Sink.append outer)) ∧
        (∀ scope : LoopScope, fragments.foldl Sink.append (.numbering scope outer) =
          .numbering scope ((fragments.map scope.renameTokens).foldl Sink.append outer)) ∧
        ∀ earlier : List String,
          (fragments.foldl Sink.append (earlier.foldl Sink.append .empty)).sql =
            Text.trim (" ".intercalate (earlier ++ fragments)) := by
  obtain ⟨x, hx⟩ := (Build.closed_uniform ev root.parts).compositional.apply_root b n
  refine ⟨x, hx, fun fragments outer => ?_⟩
  simp only [Sink.foldl_append]
  refine ⟨fun sql => rfl, fun lead => ?_, fun lead => ?_, fun scope => rfl, fun earlier => ?_⟩
  · rw [Sink.feed, Sink.leadIn_false]
  · rw [Sink.feed, Sink.leadIn_true]
  · rw [← Sink.feed_append, Sink.sql_feed_empty]

end SqlTemplate
