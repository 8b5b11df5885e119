import SqlTemplate.Proofs.Evaluation
import SqlTemplate.Proofs.Sink

/-!
# Fragments of an evaluation

A step that emits fragments (`Build.Emits`) does the same whatever the sink is, which only takes the
fragments. What a loop emits follows from what its rounds emit: `Loop.Rounds` collects these one
by one, and `Loop.emits_run` puts the separators between them and the texts of the loop around them.
-/

namespace SqlTemplate

namespace Build

variable {α β : Type} {m : Build α} {c c' : Context} {a : α} {fragments : List String}

/-- The step succeeds, and every sink takes these fragments. -/
def Emits (m : Build α) (c : Context) (a : α) (fragments : List String) (c' : Context) : Prop :=
  ∀ s, m.run { c with sink := s } = .ok a { c' with sink := s.feed fragments }

theorem Emits.pure (a : α) (c : Context) : Emits (pure a : Build α) c a [] c := by
  intro s
  rw [Sink.feed_nil]
  rfl

theorem Emits.bind {f : α → Build β} {b : β} {c'' : Context} {more : List String}
    (hm : Emits m c a fragments c') (hf : Emits (f a) c' b more c'') :
    Emits (m >>= f) c b (fragments ++ more) c'' := by
  intro s
  rw [EStateM.run_bind, hm s]
  dsimp only
  rw [hf, Sink.feed_append]

theorem emits_append (fragment : String) (c : Context) :
    Emits (append fragment) c () [fragment] c := fun _ => rfl

theorem emits_appendText (text : Option String) (c : Context) :
    Emits (Loop.appendText text) c () text.toList c := by
  cases text with
  | none => exact .pure () c
  | some text => exact emits_append text c

theorem emits_evaluate (expression : String) {f : Bindings → Except Fault α}
    (h : f c.bindings = .ok a) :
    Emits (evaluate expression f) c a [] (c.noted (.evaluated expression)) := by
  intro s
  rw [Sink.feed_nil]
  exact run_evaluate_eq_ok.mpr ⟨h, rfl⟩

theorem Emits.buffered (h : Emits m c a fragments c') :
    Emits (buffered m) c (a, String.join fragments) [] c' := by
  intro s
  rw [Sink.feed_nil]
  unfold Build.buffered
  rw [EStateM.run_bind, run_within, h]
  simp [Sink.feed, Sink.outer]

theorem Emits.numbering (h : Emits m c a fragments c') (scope : LoopScope) :
    Emits (numbering scope m) c a (fragments.map scope.renameTokens) c' := by
  intro s
  unfold Build.numbering
  rw [EStateM.run_bind, run_within, h]
  rfl

theorem Emits.prefixed (h : Emits m c a fragments c') (lead : String) :
    Emits (prefixed lead m) c (a, (Sink.leadIn lead false fragments).1)
      (Sink.leadIn lead false fragments).2 c' := by
  intro s
  unfold Build.prefixed
  rw [EStateM.run_bind, run_within, h]
  rfl

end Build

namespace Loop

open Build

variable {loop : Loop} {body : Build Bool} {c c' : Context} {items : List Item}
  {rounds : List (List String)}

theorem emits_round {item : Item} {applied : Bool} {fragments : List String}
    (h : Emits body (c.enter loop item) applied fragments c') :
    Emits (loop.round body item) c ()
      (fragments.map (LoopScope.renameTokens ⟨loop.item, loop.index, c.counter⟩)) c' := by
  have hbody : Emits (Build.numbering ⟨loop.item, loop.index, c.counter⟩ body >>= fun _ => pure ())
      (c.enter loop item) () (fragments.map _ ++ []) c' := (h.numbering _).bind (.pure () c')
  intro s
  rw [run_round, ← List.append_nil (fragments.map _)]
  exact hbody s

/-- The fragments of several rounds. The separator stands before the first fragment of a round
that is not blank if an earlier round had such a fragment. -/
def joinRounds (separator : String) : Bool → List (List String) → List String
  | _, [] => []
  | first, fragments :: rest =>
    let (emitted, joined) := Sink.leadIn (if first then "" else separator) false fragments
    joined ++ joinRounds separator (first && !emitted) rest

inductive Rounds (loop : Loop) (body : Build Bool) :
    Context → List Item → List (List String) → Context → Prop
  | nil (c : Context) : Rounds loop body c [] [] c
  | cons {c c₁ c₂ : Context} {item : Item} {items : List Item} {applied : Bool}
      {fragments : List String} {rounds : List (List String)}
      (hround : Emits body (c.enter loop item) applied fragments c₁)
      (hrest : Rounds loop body c₁ items rounds c₂) :
      Rounds loop body c (item :: items)
        (fragments.map (LoopScope.renameTokens ⟨loop.item, loop.index, c.counter⟩) :: rounds) c₂

theorem Rounds.emits (h : Rounds loop body c items rounds c') (first : Bool) :
    Emits (loop.rounds body first items) c () (joinRounds (loop.separator.getD "") first rounds)
      c' := by
  induction h generalizing first with
  | nil c => exact .pure () c
  | cons hround _ ih => exact ((emits_round hround).prefixed _).bind (ih _)

theorem emits_release (loop : Loop) (c : Context) :
    Emits (releaseVariable loop.item >>= fun _ => releaseVariable loop.index) c () []
      (c.leave loop) := by
  intro s
  rw [Sink.feed_nil]
  exact run_release loop _

theorem emits_runRounds (h : Rounds loop body c items rounds c') :
    Emits (loop.runRounds body items) c ()
      (loop.opening.toList ++ joinRounds (loop.separator.getD "") true rounds ++
        loop.closing.toList) (c'.leave loop) := by
  rw [List.append_assoc, ← List.append_nil loop.closing.toList]
  refine (emits_appendText _ _).bind ?_
  refine (h.emits true).bind ?_
  exact (emits_appendText _ _).bind (emits_release loop c')

section
variable {ev : Evaluator}
  (hitems : ev.collection loop.collection loop.nullable c.bindings = .ok (some items))
  (hne : items ≠ [])
include hitems hne

theorem emits_run_of_items {fragments : List String}
    (h : Emits (loop.runItems body items) (c.noted (.evaluated loop.collection)) () fragments c') :
    Emits (loop.run ev body) c () fragments c' := by
  cases items with
  | nil => exact absurd rfl hne
  | cons item items => exact (emits_evaluate loop.collection hitems).bind h

/-- What a loop over elements emits if its body is applied to them. -/
theorem emits_run
    (hinline : (if loop.inlineLiterals then loop.inlined? (items.map Item.value) else none) = none)
    (h : Rounds loop body (c.noted (.evaluated loop.collection)) items rounds c') :
    Emits (loop.run ev body) c ()
      ((loop.column.map (· ++ " IN")).toList ++ (loop.opening.toList ++
        joinRounds (loop.separator.getD "") true rounds ++ loop.closing.toList))
      (c'.leave loop) := by
  refine emits_run_of_items hitems hne ?_
  unfold runItems
  rw [hinline]
  exact (emits_appendText _ _).bind (emits_runRounds h)

theorem emits_run_inlined {sql : String}
    (hinline : (if loop.inlineLiterals then loop.inlined? (items.map Item.value) else none) =
      some sql) :
    Emits (loop.run ev body) c () ((loop.column.map (· ++ " IN")).toList ++ [sql])
      (c.noted (.evaluated loop.collection)) := by
  refine emits_run_of_items hitems hne ?_
  unfold runItems
  rw [hinline]
  exact (emits_appendText _ _).bind (emits_append sql _)

end

end Loop

/-! ## Nodes -/

namespace Node

open Build

variable {ev : Evaluator} {c c₁ c₂ : Context} {applied : Bool} {fragments more : List String}

theorem emits_text (ev : Evaluator) (sql : String) (c : Context) :
    Emits ((Node.text sql).apply ev) c true [sql] c :=
  (emits_append sql c).bind (.pure true c)

theorem emits_declare {name expression : String} {v : Value}
    (h : ev.value expression c.bindings = .ok v) :
    Emits ((Node.declare name expression).apply ev) c true []
      { c.noted (.evaluated expression) with bindings := c.bindings.bind name v } := by
  refine (emits_evaluate expression h).bind fun s => ?_
  rw [Sink.feed_nil]
  rfl

theorem emits_trim {body : Node} (h : Emits (body.apply ev) c applied fragments c₁)
    (rule : TrimRule) :
    Emits ((Node.trim rule body).apply ev) c applied (rule.finish (String.join fragments)).toList
      c₁ := by
  refine h.buffered.bind ?_
  dsimp only
  cases rule.finish (String.join fragments) with
  | none => exact .pure applied c₁
  | some sql => exact (emits_append sql c₁).bind (.pure applied c₁)

theorem emits_applyAll_cons {node : Node} {rest : List Node}
    (hnode : Emits (node.apply ev) c applied fragments c₁)
    (hrest : Emits (applyAll ev rest) c₁ () more c₂) :
    Emits (applyAll ev (node :: rest)) c () (fragments ++ more) c₂ :=
  hnode.bind hrest

theorem emits_sequence {children : List Node} (h : Emits (applyAll ev children) c () fragments c₁) :
    Emits ((Node.sequence children).apply ev) c true fragments c₁ := by
  rw [← List.append_nil fragments]
  exact h.bind (.pure true c₁)

end Node

/-! ## Loops whose body is a text -/

def Context.enterAll (c : Context) (loop : Loop) (items : List Item) : Context :=
  items.foldl (·.enter loop ·) c

theorem Loop.rounds_text (ev : Evaluator) (loop : Loop) (sql : String) (c : Context)
    (items : List Item) :
    Rounds loop ((Node.text sql).apply ev) c items
      ((List.range' c.counter items.length).map fun number =>
        [LoopScope.renameTokens ⟨loop.item, loop.index, number⟩ sql])
      (c.enterAll loop items) := by
  induction items generalizing c with
  | nil => exact .nil c
  | cons item items ih =>
    exact .cons (Node.emits_text ev sql _) (ih (c.enter loop item))

theorem Node.evaluate_of_emits {ev : Evaluator} {root : Node} {b : Bindings} {applied : Bool}
    {fragments : List String} {c : Context}
    (h : Build.Emits (root.apply ev) (Context.start b) applied fragments c) :
    root.evaluate ev b = ⟨.ok ((Sink.empty.feed fragments).sql, c.bindings), c.trace⟩ := by
  have hrun : (root.apply ev).run (Context.start b) = _ := h .empty
  unfold evaluate
  rw [hrun]
  rfl

end SqlTemplate
