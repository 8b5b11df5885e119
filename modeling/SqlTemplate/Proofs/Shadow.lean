import SqlTemplate.Proofs.Inside

/-!
# Loops over one name inside each other

A loop binds its variables under numbered and under their own names. After its last round it releases
the own names, whatever they stood for before: a loop that had a round leaves no variable of the same name
around it (`Context.Frees`). Numbered names stay as they are (`Context.Ahead`). `Loop.get_of_reaches` says
what this means for the nodes of a body that are applied in a round (`Node.Enters`).
-/

namespace SqlTemplate

def Loop.binds (loop : Loop) (name : String) : Bool :=
  loop.item == some name || loop.index == some name

def Event.rebinds (name : String) : Event → Bool
  | .round loop _ _ => loop.binds name
  | _ => false

theorem Build.exists_run_of_result {α : Type} {m : Build α} {c : Context} {p : Context → Bool}
    (h : (m.result c).toOption.any (fun r => p r.2) = true) :
    ∃ a c', m.run c = .ok a c' ∧ p c' = true := by
  cases hresult : m.result c with
  | error fault =>
    rw [hresult] at h
    cases h
  | ok r =>
    rw [hresult] at h
    exact ⟨r.1, r.2, Build.result_eq_ok.mp hresult, h⟩

/-! ## What a loop does to a name -/

theorem Loop.binds_eq_false {loop : Loop} {name : String} :
    loop.binds name = false ↔ loop.item ≠ some name ∧ loop.index ≠ some name := by
  simp [binds]

namespace Bindings

variable {name : String} {own : Option String}

theorem get?_bindVariable_other (hname : Loop.isNumbered name = false) (hne : own ≠ some name)
    (b : Bindings) (number : Nat) (v : Value) :
    (b.bindVariable number own v).locals.get? name = b.locals.get? name := by
  cases own with
  | none => rfl
  | some y =>
    have hy : y ≠ name := fun he => hne (congrArg some he)
    unfold bindVariable
    rw [get?_bind, if_neg hy, get?_bind, if_neg (Loop.ne_numbered hname y number).symm]

theorem get?_releaseVariable_other (hne : own ≠ some name) (b : Bindings) :
    (b.releaseVariable own).locals.get? name = b.locals.get? name := by
  cases own with
  | none => rfl
  | some y =>
    unfold releaseVariable
    rw [get?_release, if_neg fun he => hne (congrArg some he)]

theorem get?_releaseVariable_self (b : Bindings) (name : String) :
    (b.releaseVariable (some name)).locals.get? name = none := by
  unfold releaseVariable
  rw [get?_release, if_pos rfl]

end Bindings

namespace Context

variable {loop : Loop} {name : String}

theorem get?_enter_other (hname : Loop.isNumbered name = false) (hbinds : loop.binds name = false)
    (c : Context) (item : Item) :
    (c.enter loop item).bindings.locals.get? name = c.bindings.locals.get? name := by
  obtain ⟨hitem, hindex⟩ := Loop.binds_eq_false.mp hbinds
  exact (Bindings.get?_bindVariable_other hname hitem _ _ _).trans
    (Bindings.get?_bindVariable_other hname hindex _ _ _)

/-- The item is bound after the index, and its own name after its numbered name. -/
theorem get?_enter_own (hitem : loop.item = some name) (c : Context) (item : Item) :
    (c.enter loop item).bindings.locals.get? name = some item.value := by
  unfold enter
  rw [hitem]
  change ((Bindings.bind _ name item.value).locals.get? name) = _
  rw [Bindings.get?_bind, if_pos rfl]

theorem get?_leave_other (hbinds : loop.binds name = false) (c : Context) :
    (c.leave loop).bindings.locals.get? name = c.bindings.locals.get? name := by
  obtain ⟨hitem, hindex⟩ := Loop.binds_eq_false.mp hbinds
  exact (Bindings.get?_releaseVariable_other hindex _).trans
    (Bindings.get?_releaseVariable_other hitem _)

theorem get?_leave_own (hbinds : loop.binds name = true) (c : Context) :
    (c.leave loop).bindings.locals.get? name = none := by
  change (((c.bindings.releaseVariable loop.item).releaseVariable loop.index).locals.get? name) = _
  by_cases hindex : loop.index = some name
  · rw [hindex, Bindings.get?_releaseVariable_self]
  · have hitem : loop.item = some name := by simpa [Loop.binds, hindex] using hbinds
    rw [Bindings.get?_releaseVariable_other hindex, hitem, Bindings.get?_releaseVariable_self]

end Context

/-! ## Names that a run frees -/

namespace Context

/-- The name keeps its value, unless a loop over it has a round in between: then it is not bound. -/
def Frees (name : String) (c c' : Context) : Prop :=
  ∃ events, c'.trace = c.trace ++ events ∧ c'.bindings.locals.get? name =
    if events.any (Event.rebinds name) then none else c.bindings.locals.get? name

def Extends (c c' : Context) : Prop :=
  c.trace <+: c'.trace

variable {name : String} {c c' : Context}

theorem Frees.of_quiet {events : List Event} (htrace : c'.trace = c.trace ++ events)
    (hquiet : events.any (Event.rebinds name) = false)
    (hkept : c'.bindings.locals.get? name = c.bindings.locals.get? name) : Frees name c c' :=
  ⟨events, htrace, by rw [hquiet, hkept]; rfl⟩

theorem Frees.extends (h : Frees name c c') : Extends c c' := by
  obtain ⟨events, htrace, _⟩ := h
  exact ⟨events, htrace.symm⟩

theorem framing_frees (name : String) : Framing (Frees name) where
  refl _ := .of_quiet (List.append_nil _).symm rfl rfl
  sink h _ _ := h
  trans := by
    rintro a b c ⟨events, htrace, hget⟩ ⟨more, htrace', hget'⟩
    refine ⟨events ++ more, by rw [htrace', htrace, List.append_assoc], ?_⟩
    rw [hget', hget, List.any_append]
    cases more.any (Event.rebinds name) with
    | true => simp
    | false => simp

theorem framing_extends : Framing Extends where
  refl _ := List.prefix_refl _
  trans := List.IsPrefix.trans
  sink h _ _ := h

theorem frees_noted {event : Event} (h : event.rebinds name = false) (c : Context) :
    Frees name c (c.noted event) :=
  .of_quiet rfl (by rw [List.any_cons, h]; rfl) rfl

theorem frees_enter {loop : Loop} (hname : Loop.isNumbered name = false)
    (hbinds : loop.binds name = false) (c : Context) (item : Item) : Frees name c (c.enter loop item) :=
  .of_quiet rfl (by simp [Event.rebinds, hbinds]) (get?_enter_other hname hbinds c item)

end Context

namespace Loop

open Build Context

variable {loop : Loop} {body : Build Bool} {name : String}

theorem rebinds_of_rounds (hbody : Leads (Frees name) body) (hbinds : loop.binds name = true)
    {first : Bool} {item : Item} {items : List Item} {c c' : Context}
    (h : (loop.rounds body first (item :: items)).run c = .ok () c') :
    ∃ events, c'.trace = c.trace ++ events ∧ events.any (Event.rebinds name) = true := by
  have hgrows : Leads Extends body := fun _ _ _ hrun => (hbody hrun).extends
  obtain ⟨⟨_, emitted⟩, c₁, hfirst, hrest⟩ := EStateM.run_bind_eq_ok.mp h
  obtain ⟨left, s, hround, rfl⟩ := run_prefixed_eq_ok hfirst
  rw [run_round] at hround
  have hentered : Extends (enter _ loop item) left :=
    Leads.bind framing_extends (Leads.numbering framing_extends hgrows _)
      (fun _ => Leads.pure framing_extends _) hround
  have hmore : Extends { left with sink := s } c' := Leads.rounds framing_extends
    (Leads.round framing_extends hgrows fun _ _ => List.prefix_append _ _) items _ hrest
  obtain ⟨events, htrace⟩ := hentered.trans hmore
  refine ⟨.round loop c.counter item :: events, ?_, ?_⟩
  · rw [← htrace]
    exact (List.append_assoc _ _ _)
  · simp [Event.rebinds, hbinds]

theorem frees_runRounds (hname : isNumbered name = false) (hbody : Leads (Frees name) body)
    {items : List Item} (hne : items ≠ []) : Leads (Frees name) (loop.runRounds body items) := by
  have hF := framing_frees name
  intro c a c' h
  obtain ⟨_, c₁, hopening, h⟩ := EStateM.run_bind_eq_ok.mp h
  obtain ⟨_, c₂, hrounds, h⟩ := EStateM.run_bind_eq_ok.mp h
  obtain ⟨_, c₃, hclosing, h⟩ := EStateM.run_bind_eq_ok.mp h
  have hopening' := Leads.appendText hF _ hopening
  have hclosing' := Leads.appendText hF _ hclosing
  have hleave := (run_release loop c₃).symm.trans h
  cases hleave
  -- a loop over the name unbinds it at its end, any other leaves it as it was
  cases hbinds : loop.binds name with
  | false =>
    have hrounds' :=
      Leads.rounds hF (Leads.round hF hbody (frees_enter hname hbinds)) items true hrounds
    refine hF.trans (hF.trans hopening' (hF.trans hrounds' hclosing')) ?_
    exact .of_quiet (List.append_nil _).symm rfl (get?_leave_other hbinds c₃)
  | true =>
    obtain ⟨item, rest, rfl⟩ := List.exists_cons_of_ne_nil hne
    obtain ⟨events, htrace, hrebinds⟩ := rebinds_of_rounds hbody hbinds hrounds
    obtain ⟨before, hbefore⟩ := hopening'.extends
    obtain ⟨after, hafter⟩ := hclosing'.extends
    refine ⟨before ++ events ++ after, ?_, ?_⟩
    · change c₃.trace = _
      rw [← hafter, htrace, ← hbefore]
      simp
    · rw [get?_leave_own hbinds]
      simp [hrebinds]

theorem frees_run (ev : Evaluator) (hname : isNumbered name = false)
    (hbody : Leads (Frees name) body) : Leads (Frees name) (loop.run ev body) := by
  have hF := framing_frees name
  intro c a c' h
  obtain ⟨found, c₁, hcollect, h⟩ := EStateM.run_bind_eq_ok.mp h
  obtain ⟨_, rfl⟩ := run_evaluate_eq_ok.mp hcollect
  have hasked : Frees name c (c.noted (.evaluated loop.collection)) := frees_noted rfl c
  refine hF.trans hasked ?_
  match found, h with
  | none, h => exact Leads.pure hF _ h
  | some [], h => exact Leads.pure hF _ h
  | some (item :: items), h =>
    refine Leads.bind hF (Leads.appendText hF _) (fun _ => ?_) h
    split
    · exact Leads.append hF _
    · exact frees_runRounds hname hbody (List.cons_ne_nil _ _)

end Loop

namespace Build

open Context

variable {ev : Evaluator} {parts : List Node} {name : String}

theorem compositional_frees (hname : Loop.isNumbered name = false) (hvalue : name ≠ valueName)
    (hdeclare : ∀ expression, .declare name expression ∉ parts) :
    Compositional ev parts fun _ m => Leads (Frees name) m where
  pure := Leads.pure (framing_frees name)
  bind := Leads.bind (framing_frees name)
  append := Leads.append (framing_frees name)
  buffered := Leads.buffered (framing_frees name)
  loop _ _ hbody := Loop.frees_run ev hname hbody
  test expression := by
    intro c a c' h
    obtain ⟨_, rfl⟩ := run_evaluate_eq_ok.mp h
    exact @frees_noted _ (.evaluated _) rfl c
  substitute _ content := by
    intro c a c' h
    obtain ⟨v, _, _, _, rfl⟩ := run_substitute_eq_ok h
    refine .of_quiet (List.append_assoc _ [_] [_]) rfl ?_
    exact (c.bindings.get?_seeded name).trans (if_neg fun h => hvalue h.1)
  declare {other expression} hpart := by
    intro c a c' h
    obtain ⟨v, c₁, hask, h⟩ := EStateM.run_bind_eq_ok.mp h
    obtain ⟨_, rfl⟩ := run_evaluate_eq_ok.mp hask
    cases h
    have hne : other ≠ name := by
      rintro rfl
      exact hdeclare _ hpart
    have hasked : Frees name c (c.noted (.evaluated expression)) := frees_noted rfl c
    refine (framing_frees name).trans hasked (.of_quiet (List.append_nil _).symm rfl ?_)
    exact (Bindings.get?_bind _ _ _ _).trans (if_neg hne)

end Build

/-! ## Numbered names of rounds that have begun -/

namespace Context

structure Ahead (c c' : Context) : Prop where
  counter : c.counter ≤ c'.counter
  kept : ∀ name number, number < c.counter →
    c'.bindings.locals.get? (Loop.numbered name number) =
      c.bindings.locals.get? (Loop.numbered name number)

namespace Ahead

variable {c c' : Context}

theorem refl (c : Context) : Ahead c c :=
  ⟨Nat.le_refl _, fun _ _ _ => rfl⟩

theorem trans {c'' : Context} (h : Ahead c c') (h' : Ahead c' c'') : Ahead c c'' where
  counter := Nat.le_trans h.counter h'.counter
  kept name number hn :=
    (h'.kept name number (Nat.lt_of_lt_of_le hn h.counter)).trans (h.kept name number hn)

theorem step {ev : Evaluator} {root : Node}
    (hplain : ∀ name ∈ root.boundNames, Loop.isNumbered name = false)
    (hstep : c.Step ev root.parts c') : Ahead c c' := by
  have hnumbered := Loop.isNumbered_numbered
  have hsame : ∀ c', c'.bindings = c.bindings → c'.counter = c.counter → Ahead c c' :=
    fun c' hb hc => ⟨Nat.le_of_eq hc.symm, fun _ _ _ => by rw [hb]⟩
  cases hstep with
  | sink s => exact hsame _ rfl rfl
  | asked expression => exact hsame _ rfl rfl
  | substituted hpart hv hfilter => exact hsame _ rfl rfl
  | seeded =>
    exact ⟨Nat.le_refl _, fun name number _ =>
      Bindings.get?_bind_plain (hnumbered name number) _ (by decide) _⟩
  | declared hpart hv =>
    exact ⟨Nat.le_refl _, fun name number _ => Bindings.get?_bind_plain (hnumbered name number) _
      (hplain _ (Node.mem_boundNames_declare hpart)) _⟩
  | @entered header _ hpart item =>
    have hitem := fun x hx => hplain x (Node.mem_boundNames_item hpart hx)
    have hindex := fun x hx => hplain x (Node.mem_boundNames_index hpart hx)
    refine ⟨Nat.le_succ _, fun name number hn => ?_⟩
    -- A new round has the counter for its number.
    have hother : ∀ own : Option String,
        own.map (Loop.numbered · c.counter) ≠ some (Loop.numbered name number) := by
      intro own he
      obtain ⟨_, _, he⟩ := Option.map_eq_some_iff.mp he
      have := (Loop.numbered_inj he).2
      omega
    change ((Bindings.bindVariable _ _ _ _).locals.get? _) = _
    rw [Bindings.get?_bindVariable (hnumbered name number) _ _ hitem, if_neg (hother _),
      Bindings.get?_bindVariable (hnumbered name number) _ _ hindex, if_neg (hother _)]
  | @left header _ hpart =>
    have hitem := fun x hx => hplain x (Node.mem_boundNames_item hpart hx)
    have hindex := fun x hx => hplain x (Node.mem_boundNames_index hpart hx)
    exact ⟨Nat.le_refl _, fun name number _ =>
      (Bindings.get?_releaseVariable (hnumbered name number) _ hindex).trans
        (Bindings.get?_releaseVariable (hnumbered name number) _ hitem)⟩

theorem run {ev : Evaluator} {root : Node}
    (hplain : ∀ name ∈ root.boundNames, Loop.isNumbered name = false)
    (hrun : Relation.ReflTransGen (Context.Step ev root.parts) c c') : Ahead c c' := by
  induction hrun with
  | refl => exact refl c
  | tail _ hstep ih => exact ih.trans (step hplain hstep)

end Ahead

theorem framing_steps (ev : Evaluator) (parts : List Node) :
    Framing (Relation.ReflTransGen (Step ev parts)) where
  refl _ := .refl
  trans h h' := h.trans h'
  sink {c c'} h _ s' := (Relation.ReflTransGen.head (.sink _ c.sink) h).tail (.sink c' s')

end Context

/-! ## Nodes in a round -/

namespace Node

open Build Context

variable {ev : Evaluator} {name : String}

def rebinds (name : String) : Node → Bool
  | .loop header _ => header.binds name
  | _ => false

/-- Applying a node applies another one inside it, outside all loops over the name. -/
def Reaches (ev : Evaluator) (name : String) : Node × Context → Node × Context → Prop :=
  Relation.ReflTransGen fun a b => a.1.rebinds name = false ∧ Enters ev a b

theorem boundNames_subset {node root : Node} (h : node.parts ⊆ root.parts) :
    node.boundNames ⊆ root.boundNames := by
  intro x hx
  obtain ⟨part, hpart, hx⟩ := List.mem_flatMap.mp hx
  exact List.mem_flatMap.mpr ⟨part, h hpart, hx⟩

variable {a b : Node × Context}

theorem Enters.ahead (h : Enters ev a b)
    (hplain : ∀ name ∈ a.1.boundNames, Loop.isNumbered name = false) : Ahead a.2 b.2 := by
  refine Ahead.run hplain (h.leads (framing_steps ev a.1.parts) closed_walks.compositional ?_ ?_ ?_)
  · exact fun _ _ hm _ _ _ hrun => hm.ok hrun
  · exact fun c expression => .single (.asked c expression)
  · intro header node hloop c item
    have hpart : Node.loop header node ∈ a.1.parts := by
      rw [hloop]
      exact List.mem_cons_self
    exact .single (.entered c hpart item)

theorem Enters.frees (h : Enters ev a b) (hname : Loop.isNumbered name = false)
    (hvalue : name ≠ valueName) (hdeclare : ∀ expression, .declare name expression ∉ a.1.parts)
    (hover : a.1.rebinds name = false) : Frees name a.2 b.2 := by
  refine h.leads (framing_frees name) (compositional_frees hname hvalue hdeclare) ?_ ?_ ?_
  · exact fun _ _ hm => hm
  · exact fun c expression => frees_noted rfl c
  · intro header node hloop c item
    rw [hloop] at hover
    exact frees_enter hname hover c item

section
variable {root : Node} {c₁ : Context} (hname : Loop.isNumbered name = false) (hvalue : name ≠ valueName)
  (hdeclare : ∀ expression, .declare name expression ∉ root.parts)
  (hplain : ∀ x ∈ root.boundNames, Loop.isNumbered x = false)
include hname hvalue hdeclare hplain

theorem Reaches.frees (h : Reaches ev name (root, c₁) b) :
    b.1.parts ⊆ root.parts ∧ Frees name c₁ b.2 ∧ Ahead c₁ b.2 := by
  induction h with
  | refl => exact ⟨List.Subset.refl _, (framing_frees name).refl c₁, .refl c₁⟩
  | @tail a b _ hstep ih =>
    obtain ⟨hsub, hfrees, hahead⟩ := ih
    obtain ⟨hover, henters⟩ := hstep
    refine ⟨List.Subset.trans henters.parts_subset hsub, (framing_frees name).trans hfrees ?_,
      hahead.trans ?_⟩
    · exact henters.frees hname hvalue (fun e he => hdeclare e (hsub he)) hover
    · exact henters.ahead fun x hx => hplain x (boundNames_subset hsub hx)

end

end Node

namespace Loop

open Context

variable {ev : Evaluator} {loop : Loop} {body node : Node} {c₀ c₁ c : Context} {item : Item}
  {number : Nat} {name : String}

theorem Begins.get? (h : loop.Begins ev body c₀ item number c₁) (hitem : loop.item = some name)
    (hname : isNumbered name = false) :
    c₁.bindings.locals.get? name = some item.value ∧
      c₁.bindings.locals.get? (numbered name number) = some item.value ∧ number < c₁.counter := by
  cases h with
  | @intro earlier later c lead hitems hbind hearlier =>
    refine ⟨get?_enter_own hitem c item, ?_, Nat.lt_succ_self _⟩
    change ((Context.enter c loop item).bindings.locals.get? _) = _
    unfold Context.enter
    rw [hitem]
    exact (Bindings.get?_bindVariable (isNumbered_numbered name c.counter) _ _
      (by rintro x ⟨⟩; exact hname) _).trans (if_pos rfl)

/-- In a round of a loop, every node of the body that is applied outside the loops over the same variable
finds the element of the round under the numbered name of the variable, to which references are renamed.
Under its own name it finds the element too, up to the first round of a loop over the variable inside the
body: from then on the name is not bound, and what stands for it is the parameter. -/
theorem get_of_reaches (hitem : loop.item = some name) (hvalue : name ≠ Build.valueName)
    (hdeclare : ∀ expression, .declare name expression ∉ body.parts)
    (hplain : ∀ x ∈ (Node.loop loop body).boundNames, isNumbered x = false)
    (hbegins : loop.Begins ev body c₀ item number c₁)
    (hreaches : Node.Reaches ev name (body, c₁) (node, c)) :
    ∃ events, c.trace = c₁.trace ++ events ∧
      c.bindings.get (numbered name number) = some item.value ∧
      c.bindings.get name =
        if events.any (Event.rebinds name) then c.bindings.fallback name else some item.value := by
  have hname : isNumbered name = false :=
    hplain name (Node.mem_boundNames_item (List.mem_cons_self) hitem)
  have hbody : ∀ x ∈ body.boundNames, isNumbered x = false :=
    fun x hx => hplain x (Node.boundNames_subset (List.subset_cons_self _ _) hx)
  obtain ⟨hown, hnumbered, hlt⟩ := hbegins.get? hitem hname
  obtain ⟨_, ⟨events, htrace, hget⟩, hahead⟩ := hreaches.frees hname hvalue hdeclare hbody
  refine ⟨events, htrace, ?_, ?_⟩
  · exact Bindings.get_of_get? ((hahead.kept name number hlt).trans hnumbered)
  · unfold Bindings.get
    rw [hget]
    cases events.any (Event.rebinds name) with
    | true => rfl
    | false =>
      rw [if_neg Bool.false_ne_true, hown]
      rfl

theorem get_of_reaches_index :
    let inner : Loop := { collection := "ys", item := some "y", index := some "x" }
    let outer : Loop := { collection := "xs", item := some "x", index := some "i" }
    let last : Node := .substitution "$\x7bx\x7d" none
    let body : Node := .sequence [.loop inner (.text "#\x7bx\x7d"), .trim .setClause last]
    let item : Item := ⟨.int 0, .int 7⟩
    let p : Value := .map [("x", .text "p"), ("xs", .list [.int 7]), ("ys", .list [.int 8])]
    let c₀ := Context.start (.start p none false)
    (outer.item = some "x" ∧ "x" ≠ Build.valueName ∧
      (∀ expression, .declare "x" expression ∉ body.parts) ∧
      ∀ x ∈ (Node.loop outer body).boundNames, isNumbered x = false) ∧
    ∃ c₁ c, outer.Begins .paths body c₀ item 0 c₁ ∧
      Node.Reaches .paths "x" (body, c₁) (last, c) ∧
      c.bindings.get (numbered "x" 0) = some item.value ∧
      c.bindings.get "x" = c.bindings.fallback "x" ∧ (c.bindings.get "x").bind Value.text? = some "p" := by
  intro inner outer last body item p c₀
  have hdeclare : ∀ expression, .declare "x" expression ∉ body.parts := by
    simp [body, last, Node.parts, Node.partsOfAll]
  have hplain : ∀ x ∈ (Node.loop outer body).boundNames, isNumbered x = false := by decide +kernel
  refine ⟨⟨rfl, by decide, hdeclare, hplain⟩, ?_⟩
  have hitems : Evaluator.paths.collection "xs" false c₀.bindings = .ok (some ([] ++ [item])) := rfl
  have hbegins :=
    @Begins.intro .paths outer body c₀ item [] [] (c₀.noted (.evaluated "xs")) "" hitems rfl rfl
  have hinner :
      ∃ a c₂, (Node.applyAll .paths [.loop inner (.text "#\x7bx\x7d")]).run _ = .ok a c₂ ∧ _ :=
    Build.exists_run_of_result (p := fun c₂ => (c₂.trace.drop 2).any (Event.rebinds "x") &&
      decide ((c₂.bindings.get "x").bind Value.text? = some "p"))
      (by decide +kernel : ((Node.applyAll .paths [.loop inner (.text "#\x7bx\x7d")]).result
        { (c₀.noted (.evaluated "xs")).enter outer item with
          sink := .numbering ⟨some "x", some "i", 0⟩ (.prefixed "" false .empty) }).toOption.any _ = true)
  obtain ⟨_, c₂, hinner, hleft⟩ := hinner
  obtain ⟨hrebinds, htext⟩ := Bool.and_eq_true_iff.mp hleft
  have hreaches : Node.Reaches .paths "x" (body, _) (last, _) :=
    .tail (.single ⟨rfl, .child hinner⟩) ⟨rfl, .trim⟩
  obtain ⟨events, htrace, hnumbered, hown⟩ :=
    get_of_reaches rfl (by decide) hdeclare hplain hbegins hreaches
  have hevents : c₂.trace.drop 2 = events := by
    rw [show c₂.trace = _ from htrace]
    rfl
  rw [← hevents, hrebinds, if_pos rfl] at hown
  exact ⟨_, _, hbegins, hreaches, hnumbered, hown, of_decide_eq_true htext⟩

/-- A loop inside a round has the same item. Behind it the name is not bound, though a reference to it is one
to the element of the round. -/
theorem item_not_bound_behind_loop :
    let inner : Loop := { collection := "ys", item := some "x" }
    let outer : Loop := { collection := "xs", item := some "x" }
    let last : Node := .substitution "$\x7bx\x7d=#\x7bx\x7d" none
    let body : Node := .sequence [.loop inner (.text "a"), last]
    let item : Item := ⟨.int 0, .int 1⟩
    let c₀ := Context.start (.start (.map [("xs", .list [.int 1]), ("ys", .list [.int 2])]) none false)
    (∃ c₁ c, outer.Begins .paths body c₀ item 0 c₁ ∧
      Node.Reaches .paths "x" (body, c₁) (last, c) ∧ c.bindings.get "x" ≠ some item.value) ∧
    ((Node.loop outer body).evaluate .paths c₀.bindings).result.toOption.map (·.1) =
      some "a =#\x7b__frch_x_0\x7d" := by
  intro inner outer last body item c₀
  refine ⟨?_, by decide +kernel⟩
  have hitems : Evaluator.paths.collection "xs" false c₀.bindings = .ok (some ([] ++ [item])) := rfl
  have hbegins :=
    @Begins.intro .paths outer body c₀ item [] [] (c₀.noted (.evaluated "xs")) "" hitems rfl rfl
  have hinner : ∃ a c₂, (Node.applyAll .paths [.loop inner (.text "a")]).run _ = .ok a c₂ ∧ _ :=
    Build.exists_run_of_result (p := fun c₂ => (c₂.bindings.get "x").isNone)
      (by decide +kernel : ((Node.applyAll .paths [.loop inner (.text "a")]).result
        { (c₀.noted (.evaluated "xs")).enter outer item with
          sink := .numbering ⟨some "x", none, 0⟩ (.prefixed "" false .empty) }).toOption.any _ = true)
  obtain ⟨_, c₂, hinner, hnone⟩ := hinner
  refine ⟨_, c₂, hbegins, .single ⟨rfl, .child hinner⟩, ?_⟩
  rw [Option.isNone_iff_eq_none.mp hnone]
  exact (Option.some_ne_none _).symm

end Loop

end SqlTemplate
