import SqlTemplate.Proofs.Separators

/-!
# Inside a run

A relation between contexts that every step keeps holds of every run that succeeds (`Build.Leads`). While a
node is applied, nodes inside it are (`Node.Enters`): each of them after runs of what stands before it.
-/

namespace SqlTemplate

/-! ## Relations along a run -/

structure Context.Framing (R : Context → Context → Prop) : Prop where
  refl (c : Context) : R c c
  trans {a b c : Context} (h : R a b) (h' : R b c) : R a c
  sink {c c' : Context} (h : R c c') (s s' : Sink) : R { c with sink := s } { c' with sink := s' }

def Build.Leads (R : Context → Context → Prop) {α : Type} (m : Build α) : Prop :=
  ∀ ⦃c a c'⦄, m.run c = .ok a c' → R c c'

namespace Build.Leads

open Context

variable {R : Context → Context → Prop} (hR : Framing R) {α β : Type} {m : Build α}

section
include hR

theorem pure (a : α) : Leads R (Pure.pure a : Build α) := by
  intro c b c' h
  obtain ⟨_, rfl⟩ := EStateM.run_pure_eq_ok.mp h
  exact hR.refl _

theorem bind {f : α → Build β} (hm : Leads R m) (hf : ∀ a, Leads R (f a)) : Leads R (m >>= f) := by
  intro c b c' h
  obtain ⟨a, c₁, h₁, h₂⟩ := EStateM.run_bind_eq_ok.mp h
  exact hR.trans (hm h₁) (hf a h₂)

theorem append (fragment : String) : Leads R (append fragment) := by
  intro c a c' h
  cases h
  exact hR.sink (hR.refl c) c.sink _

theorem within (hm : Leads R m) (push : Sink → Sink) : Leads R (within push m) := by
  intro c r c' h
  obtain ⟨left, hrun, rfl⟩ := run_within_eq_ok h
  exact hR.sink (hm hrun) c.sink _

theorem buffered (hm : Leads R m) : Leads R (buffered m) :=
  bind hR (within hR hm _) fun r => by split <;> exact pure hR _

theorem prefixed (hm : Leads R m) (lead : String) : Leads R (prefixed lead m) :=
  bind hR (within hR hm _) fun r => by split <;> exact pure hR _

theorem numbering (hm : Leads R m) (scope : LoopScope) : Leads R (numbering scope m) :=
  bind hR (within hR hm _) fun _ => pure hR _

theorem appendText (text : Option String) : Leads R (Loop.appendText text) := by
  cases text with
  | none => exact pure hR _
  | some text => exact append hR text

theorem round {loop : Loop} {body : Build Bool} (hbody : Leads R body)
    (henter : ∀ c item, R c (c.enter loop item)) (item : Item) : Leads R (loop.round body item) := by
  intro c a c' h
  rw [Build.run_round] at h
  exact hR.trans (henter c item) (bind hR (numbering hR hbody _) (fun _ => pure hR _) h)

theorem rounds {loop : Loop} {body : Build Bool} (hround : ∀ item, Leads R (loop.round body item))
    (items : List Item) (first : Bool) : Leads R (loop.rounds body first items) := by
  induction items generalizing first with
  | nil => exact pure hR _
  | cons item items ih => exact bind hR (prefixed hR (hround item) _) fun _ => ih _

end

end Build.Leads

/-! ## Nodes that are applied inside others -/

def Loop.runBefore (loop : Loop) (body : Build Bool) (earlier : List Item) : Build Unit := do
  appendText (loop.column.map (· ++ " IN"))
  appendText loop.opening
  loop.rounds body true earlier

/-- A loop that is applied in one context applies its body in another, in the round for this item with this
number. It does not matter here which text stands before the SQL of the round. -/
inductive Loop.Begins (ev : Evaluator) (loop : Loop) (body : Node) (c : Context) (item : Item) :
    Nat → Context → Prop
  | intro {earlier later : List Item} {c₁ : Context} (lead : String)
      (hitems : ev.collection loop.collection loop.nullable c.bindings =
        .ok (some (earlier ++ item :: later)))
      (hbind : (if loop.inlineLiterals then loop.inlined? ((earlier ++ item :: later).map Item.value)
        else none) = none)
      (hearlier : (loop.runBefore (body.apply ev) earlier).run
        (c.noted (.evaluated loop.collection)) = .ok () c₁) :
      Begins ev loop body c item c₁.counter
        { c₁.enter loop item with
          sink := .numbering ⟨loop.item, loop.index, c₁.counter⟩ (.prefixed lead false c₁.sink) }

/-- A node that is applied in one context applies another one, right inside it, in another context. -/
inductive Node.Enters (ev : Evaluator) : Node × Context → Node × Context → Prop
  | conditional {test : String} {body : Node} {c : Context} (h : ev.test test c.bindings = .ok true) :
      Enters ev (.conditional test body, c) (body, c.noted (.evaluated test))
  | branch {earlier later : List (String × Node)} {test : String} {body : Node}
      {otherwise : Option Node} {c c₁ : Context}
      (hearlier : (Node.applyFirst ev earlier (pure false)).run c = .ok false c₁)
      (h : ev.test test c₁.bindings = .ok true) :
      Enters ev (.choice (earlier ++ (test, body) :: later) otherwise, c)
        (body, c₁.noted (.evaluated test))
  | otherwise {branches : List (String × Node)} {otherwise : Node} {c c₁ : Context}
      (h : (Node.applyFirst ev branches (pure false)).run c = .ok false c₁) :
      Enters ev (.choice branches (some otherwise), c) (otherwise, c₁)
  | trim {rule : TrimRule} {body : Node} {c : Context} :
      Enters ev (.trim rule body, c) (body, { c with sink := .buffer "" c.sink })
  | round {header : Loop} {body : Node} {c c₁ : Context} {item : Item} {number : Nat}
      (h : header.Begins ev body c item number c₁) : Enters ev (.loop header body, c) (body, c₁)
  | child {earlier later : List Node} {node : Node} {c c₁ : Context}
      (h : (Node.applyAll ev earlier).run c = .ok () c₁) :
      Enters ev (.sequence (earlier ++ node :: later), c) (node, c₁)

namespace Node

open Build

theorem partsOfBranches_subset_append (earlier later : List (String × Node)) (otherwise : Option Node) :
    partsOfBranches earlier ⊆ (Node.choice (earlier ++ later) otherwise).parts := by
  have hbranches : partsOfBranches earlier ⊆ partsOfBranches (earlier ++ later) := by
    rw [partsOfBranches_append]
    exact List.subset_append_left _ _
  cases otherwise with
  | none => exact List.subset_cons_of_subset _ hbranches
  | some node => exact List.subset_cons_of_subset _ (List.subset_append_of_subset_left _ hbranches)

theorem partsOfAll_subset_append (earlier later : List Node) :
    partsOfAll earlier ⊆ (Node.sequence (earlier ++ later)).parts := by
  refine List.subset_cons_of_subset _ ?_
  rw [partsOfAll_append]
  exact List.subset_append_left _ _

namespace Enters

variable {ev : Evaluator} {a b : Node × Context}

theorem parts_subset (h : Enters ev a b) : b.1.parts ⊆ a.1.parts := by
  cases h with
  | conditional _ | trim | round _ => exact List.subset_cons_self _ _
  | @branch earlier later test body otherwise c c₁ _ _ =>
    have hbranch := partsOfBranches_subset_append (earlier ++ [(test, body)]) later otherwise
    rw [List.append_assoc, List.singleton_append] at hbranch
    refine List.Subset.trans ?_ hbranch
    simp [partsOfBranches_append, partsOfBranches]
  | otherwise _ => exact List.subset_cons_of_subset _ (List.subset_append_right _ _)
  | @child earlier later node c c₁ _ =>
    have hchild := partsOfAll_subset_append (earlier ++ [node]) later
    rw [List.append_assoc, List.singleton_append] at hchild
    refine List.Subset.trans ?_ hchild
    simp [partsOfAll_append, partsOfAll]

/-- A relation that all steps keep holds up to the context in which the node inside is applied. -/
theorem leads {R : Context → Context → Prop} {P : (α : Type) → Build α → Prop} (h : Enters ev a b)
    (hR : Context.Framing R) (hP : Compositional ev a.1.parts P)
    (hleads : ∀ α (m : Build α), P α m → Leads R m)
    (hasked : ∀ c expression, R c (c.noted (.evaluated expression)))
    (henter : ∀ header node, a.1 = .loop header node → ∀ c item, R c (c.enter header item)) :
    R a.2 b.2 := by
  cases h with
  | conditional _ => exact hasked _ _
  | @branch earlier later test body otherwise c c₁ hearlier _ =>
    have hfirst := hP.applyFirst earlier _
      (partsOfBranches_subset_append earlier ((test, body) :: later) otherwise) (hP.pure false)
    exact hR.trans (hleads _ _ hfirst hearlier) (hasked _ _)
  | @otherwise branches otherwise c c₁ hbranches =>
    have hsub := partsOfBranches_subset_append branches [] (some otherwise)
    rw [List.append_nil] at hsub
    exact hleads _ _ (hP.applyFirst branches _ hsub (hP.pure false)) hbranches
  | trim => exact hR.sink (hR.refl _) _ _
  -- in front of the body come the question, the opening, the earlier rounds and the round's start
  | @round header body c c₁ item number hbegins =>
    cases hbegins with
    | @intro earlier later c₁ lead hitems hbind hearlier =>
      have hbody : Leads R (body.apply ev) :=
        hleads _ _ (hP.apply body fun n hn => List.mem_cons_of_mem _ hn)
      have hround := Leads.round hR hbody (henter header body rfl)
      have hbefore : Leads R (header.runBefore (body.apply ev) earlier) :=
        Leads.bind hR (Leads.appendText hR _) fun _ =>
          Leads.bind hR (Leads.appendText hR _) fun _ => Leads.rounds hR hround earlier true
      have hbegun := hR.trans (hR.trans (hasked c _) (hbefore hearlier)) (henter header body rfl c₁ item)
      exact hR.sink hbegun c.sink _
  | @child earlier later node c c₁ hchildren =>
    exact hleads _ _ (hP.applyAll earlier (partsOfAll_subset_append earlier (node :: later))) hchildren

end Enters

end Node

end SqlTemplate
