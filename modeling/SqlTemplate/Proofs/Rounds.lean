import SqlTemplate.Proofs.Evaluation

/-!
# The rounds of a run

`RoundsKept` is the invariant of a run: its rounds are numbered in a row by the counter, and the
numbered names that are bound are those of its rounds, with the values of their elements.
`RoundsKept.step` is the law for one step, `rounds_of_apply` that for a run.
-/

namespace SqlTemplate

namespace Event

def number? : Event → Option Nat
  | round _ number _ => some number
  | _ => none

def Names : Event → String → Value → Prop
  | round loop number item, name, v =>
    (loop.item.map (Loop.numbered · number) = some name ∧ v = item.value) ∨
      (loop.index.map (Loop.numbered · number) = some name ∧ v = item.key)
  | _, _, _ => False

end Event

/-- No name that a tree binds begins like a numbered name, and no loop has one name for both of its
variables. -/
structure Node.LeavesNumbered (root : Node) : Prop where
  plain : ∀ name ∈ root.boundNames, Loop.isNumbered name = false
  distinct : ∀ header ∈ root.loops, ∀ name ∈ header.item, header.index ≠ some name

/-- What a run that started with `c₀` and had these events has done. -/
structure RoundsKept (c₀ c : Context) (events : List Event) : Prop where
  trace : c.trace = c₀.trace ++ events
  le : c₀.counter ≤ c.counter
  numbers : events.filterMap Event.number? = List.range' c₀.counter (c.counter - c₀.counter)
  bound : ∀ name, Loop.isNumbered name = true → ∀ v,
    c.bindings.locals.get? name = some v ↔ ∃ e ∈ events, e.Names name v

namespace RoundsKept

variable {c₀ c c' : Context} {events : List Event}

theorem not_names (h : RoundsKept c₀ c events) (x : String) (v : Value) :
    ¬ ∃ e ∈ events, e.Names (Loop.numbered x c.counter) v := by
  rintro ⟨e, he, hn⟩
  cases e with
  | evaluated _ => exact hn
  | substituted _ => exact hn
  | round loop number item =>
    have hnum : number = c.counter := by
      rcases hn with ⟨hx, _⟩ | ⟨hx, _⟩
      · obtain ⟨_, _, hx⟩ := Option.map_eq_some_iff.mp hx
        exact (Loop.numbered_inj hx).2
      · obtain ⟨_, _, hx⟩ := Option.map_eq_some_iff.mp hx
        exact (Loop.numbered_inj hx).2
    have hmem : number ∈ events.filterMap Event.number? :=
      List.mem_filterMap.mpr ⟨_, he, rfl⟩
    rw [h.numbers, List.mem_range'_1] at hmem
    have := h.le
    omega

theorem quiet (h : RoundsKept c₀ c events) (c' : Context) (more : List Event)
    (hcounter : c'.counter = c.counter)
    (htrace : c'.trace = c.trace ++ more) (hmore : ∀ e ∈ more, e.number? = none)
    (hlocals : ∀ name, Loop.isNumbered name = true →
      c'.bindings.locals.get? name = c.bindings.locals.get? name) :
    RoundsKept c₀ c' (events ++ more) where
  trace := by rw [htrace, h.trace, List.append_assoc]
  le := by rw [hcounter]; exact h.le
  numbers := by
    have : more.filterMap Event.number? = [] := List.filterMap_eq_nil_iff.mpr hmore
    rw [List.filterMap_append, this, List.append_nil, hcounter, h.numbers]
  bound := by
    intro name hname v
    rw [hlocals name hname, h.bound name hname v]
    constructor
    · rintro ⟨e, he, hn⟩
      exact ⟨e, by simp [he], hn⟩
    · rintro ⟨e, he, hn⟩
      rcases List.mem_append.mp he with he | he
      · exact ⟨e, he, hn⟩
      · have := hmore e he
        cases e with
        | evaluated _ => exact hn.elim
        | substituted _ => exact hn.elim
        | round _ _ _ => cases this

theorem enter (h : RoundsKept c₀ c events) {loop : Loop}
    (hitem : ∀ name ∈ loop.item, Loop.isNumbered name = false)
    (hindex : ∀ name ∈ loop.index, Loop.isNumbered name = false)
    (hdistinct : ∀ name ∈ loop.item, loop.index ≠ some name) (item : Item) :
    RoundsKept c₀ (c.enter loop item) (events ++ [.round loop c.counter item]) where
  trace := by
    change c.trace ++ _ = _
    rw [h.trace, List.append_assoc]
  le := Nat.le_succ_of_le h.le
  numbers := by
    change _ = List.range' c₀.counter (c.counter + 1 - c₀.counter)
    have hle := h.le
    rw [List.filterMap_append, h.numbers, Nat.succ_sub hle, List.range'_concat]
    simp only [List.filterMap_cons, List.filterMap_nil, Event.number?, Nat.one_mul]
    rw [Nat.add_sub_cancel' hle]
  bound := by
    intro name hname v
    have hsplit : (∃ e ∈ events ++ [.round loop c.counter item], e.Names name v) ↔
        (∃ e ∈ events, e.Names name v) ∨ (Event.round loop c.counter item).Names name v := by
      simp [or_and_right, exists_or]
    rw [hsplit, ← h.bound name hname v]
    change (((c.bindings.bindVariable c.counter loop.index item.key).bindVariable c.counter
      loop.item item.value).locals.get? name = some v) ↔ _
    rw [Bindings.get?_bindVariable hname _ _ hitem, Bindings.get?_bindVariable hname _ _ hindex]
    -- the number is new, so no earlier round names what this one binds
    have hfresh : ∀ x : Option String, x.map (Loop.numbered · c.counter) = some name →
        c.bindings.locals.get? name = some v → False := by
      intro x hx hv
      obtain ⟨y, _, rfl⟩ := Option.map_eq_some_iff.mp hx
      exact h.not_names y v ((h.bound _ hname v).mp hv)
    -- a numbered name stands for the item, for the key, or for neither
    by_cases hi : loop.item.map (Loop.numbered · c.counter) = some name
    · have hx : loop.index.map (Loop.numbered · c.counter) ≠ some name := by
        intro hx
        obtain ⟨a, ha, han⟩ := Option.map_eq_some_iff.mp hi
        obtain ⟨b, hb, hbn⟩ := Option.map_eq_some_iff.mp hx
        rw [← hbn] at han
        exact hdistinct a ha ((Loop.numbered_inj han).1 ▸ hb)
      rw [if_pos hi]
      constructor
      · intro hv
        exact Or.inr (Or.inl ⟨hi, (Option.some.inj hv).symm⟩)
      · rintro (hv | ⟨_, rfl⟩ | ⟨hx', _⟩)
        · exact (hfresh _ hi hv).elim
        · rfl
        · exact absurd hx' hx
    · rw [if_neg hi]
      by_cases hx : loop.index.map (Loop.numbered · c.counter) = some name
      · rw [if_pos hx]
        constructor
        · intro hv
          exact Or.inr (Or.inr ⟨hx, (Option.some.inj hv).symm⟩)
        · rintro (hv | ⟨hi', _⟩ | ⟨_, rfl⟩)
          · exact (hfresh _ hx hv).elim
          · exact absurd hi' hi
          · rfl
      · rw [if_neg hx]
        constructor
        · exact Or.inl
        · rintro (hv | ⟨hi', _⟩ | ⟨hx', _⟩)
          · exact hv
          · exact absurd hi' hi
          · exact absurd hx' hx

theorem step {ev : Evaluator} {root : Node} (hroot : root.LeavesNumbered)
    (h : RoundsKept c₀ c events) (hstep : c.Step ev root.parts c') :
    ∃ events', RoundsKept c₀ c' events' := by
  cases hstep with
  | sink s =>
    exact ⟨_, h.quiet { c with sink := s } [] rfl (by simp) (by simp) fun _ _ => rfl⟩
  | asked expression =>
    refine ⟨_, h.quiet (c.noted (.evaluated expression)) [_] rfl rfl ?_ fun _ _ => rfl⟩
    simp [Event.number?]
  | seeded =>
    refine ⟨_, h.quiet { c with bindings := _ } [] rfl (by simp) (by simp) ?_⟩
    intro name hname
    exact Bindings.get?_bind_plain hname _ (by decide) _
  | @substituted _ _ _ v hpart hv hfilter =>
    refine ⟨_, h.quiet (c.noted (.substituted v.toSql)) [_] rfl rfl ?_ fun _ _ => rfl⟩
    simp [Event.number?]
  | @declared name _ v hpart hv =>
    refine ⟨_, h.quiet { c with bindings := c.bindings.bind name v } [] rfl (by simp) (by simp) ?_⟩
    intro other hother
    exact Bindings.get?_bind_plain hother _ (hroot.plain _ (Node.mem_boundNames_declare hpart)) _
  -- the only step with a new round; the others leave numbered names alone
  | @entered header _ hpart item =>
    refine ⟨_, h.enter ?_ ?_ (hroot.distinct _ (Node.mem_loops hpart)) item⟩
    · exact fun name hname => hroot.plain _ (Node.mem_boundNames_item hpart hname)
    · exact fun name hname => hroot.plain _ (Node.mem_boundNames_index hpart hname)
  | @left header _ hpart =>
    refine ⟨_, h.quiet (c.leave header) [] rfl (by simp [Context.leave]) (by simp) ?_⟩
    intro name hname
    have hitem : ∀ x ∈ header.item, Loop.isNumbered x = false :=
      fun x hx => hroot.plain _ (Node.mem_boundNames_item hpart hx)
    have hindex : ∀ x ∈ header.index, Loop.isNumbered x = false :=
      fun x hx => hroot.plain _ (Node.mem_boundNames_index hpart hx)
    exact (Bindings.get?_releaseVariable hname _ hindex).trans
      (Bindings.get?_releaseVariable hname _ hitem)

theorem run {ev : Evaluator} {root : Node} (hroot : root.LeavesNumbered)
    (hstart : ∀ name, Loop.isNumbered name = true → c₀.bindings.locals.get? name = none)
    (hrun : Relation.ReflTransGen (Context.Step ev root.parts) c₀ c) :
    ∃ events, RoundsKept c₀ c events := by
  induction hrun with
  | refl =>
    refine ⟨[], by simp, Nat.le_refl _, by simp, ?_⟩
    intro name hname v
    simp [hstart name hname]
  | tail _ hstep ih =>
    obtain ⟨events, h⟩ := ih
    exact h.step hroot hstep

end RoundsKept

/-- The rounds of a run have numbers in a row, all different, and when the run ends the numbered
names that are bound are those of its rounds, each with the element or the key of its round. -/
theorem rounds_of_apply {ev : Evaluator} {root : Node} {c c' : Context} {applied : Bool}
    (hroot : root.LeavesNumbered)
    (hstart : ∀ name, Loop.isNumbered name = true → c.bindings.isBound name = false)
    (hrun : (root.apply ev).run c = .ok applied c') :
    ∃ events, c'.trace = c.trace ++ events ∧
      events.filterMap Event.number? = List.range' c.counter (c'.counter - c.counter) ∧
      (events.filterMap Event.number?).Nodup ∧
      ∀ name, Loop.isNumbered name = true → ∀ v,
        c'.bindings.locals.get? name = some v ↔ ∃ e ∈ events, e.Names name v := by
  have hnone : ∀ name, Loop.isNumbered name = true → c.bindings.locals.get? name = none := by
    intro name hname
    simpa [Bindings.isBound, Entries.contains] using hstart name hname
  obtain ⟨events, h⟩ := RoundsKept.run hroot hnone (Node.steps_of_apply hrun)
  refine ⟨events, h.trace, h.numbers, ?_, h.bound⟩
  rw [h.numbers]
  exact List.nodup_range'

theorem rounds_of_apply_nested :
    let inner : Loop := { collection := "row", item := some "cell" }
    let outer : Loop := { collection := "rows", item := some "row", index := some "at" }
    let root : Node := .trim .setClause (.loop outer (.loop inner (.text "#\x7bcell\x7d")))
    let b := Bindings.start (.map [("rows", .list [.list [.int 5], .list [.int 6]])]) none false
    root.LeavesNumbered ∧ (∀ name, Loop.isNumbered name = true → b.isBound name = false) ∧
      ∃ applied c', (root.apply .paths).run (Context.start b) = .ok applied c' ∧
        c'.bindings.locals.names =
          ["__frch_at_0", "__frch_at_2", "__frch_cell_1", "__frch_cell_3", "__frch_row_0",
            "__frch_row_2", "_databaseId", "_parameter"] ∧
        ∃ events, c'.trace = events ∧
          (events.filterMap Event.number?).Nodup ∧
          ∀ name, Loop.isNumbered name = true → ∀ v,
            c'.bindings.locals.get? name = some v ↔ ∃ e ∈ events, e.Names name v := by
  intro inner outer root b
  have hroot : root.LeavesNumbered := by
    constructor <;> decide +kernel
  have hstart : ∀ name, Loop.isNumbered name = true → b.isBound name = false := by
    intro name hname
    exact Bindings.isBound_start hname _ _ _
  have hnames : (root.evaluate .paths b).result.toOption.map (fun r => r.2.locals.names) =
      some ["__frch_at_0", "__frch_at_2", "__frch_cell_1", "__frch_cell_3", "__frch_row_0",
        "__frch_row_2", "_databaseId", "_parameter"] := by decide +kernel
  refine ⟨hroot, hstart, ?_⟩
  cases he : (root.evaluate .paths b).result with
  | error _ => rw [he] at hnames; cases hnames
  | ok r =>
    obtain ⟨sql, b'⟩ := r
    rw [he] at hnames
    obtain ⟨applied, c', hrun, _, rfl⟩ := Node.evaluate_eq_ok.mp he
    obtain ⟨events, htrace, _, hnodup, hbound⟩ := rounds_of_apply hroot hstart hrun
    exact ⟨applied, c', hrun, Option.some.inj hnames, events, htrace, hnodup, hbound⟩

end SqlTemplate
