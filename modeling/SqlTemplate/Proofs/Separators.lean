import Mathlib.Data.List.TakeWhile
import SqlTemplate.Proofs.Emission
import SqlTemplate.Proofs.Uniform

/-!
# Separators between rounds

A loop puts one more fragment into every round that is not blank, before the first of its fragments that
is not (`Loop.separated`): an empty text while all earlier rounds were blank, and else the separator.
A run of a loop has rounds, whatever its body is, because the body is uniform in the sink behind it
(`Loop.exists_rounds`); `Node.apply_loop_separated` says what they give. Cut where the rounds that are
not blank begin to speak, the fragments are blocks with the separator between any two of them.
-/

namespace SqlTemplate

/-! ## What stands in a round -/

namespace Loop

def lead (separator : String) (earlier : List (List String)) : String :=
  if earlier.flatten.all Text.allBlank then "" else separator

/-- The fragments of a round with its lead before the first that is not blank. -/
def spaced (lead : String) (fragments : List String) : List String :=
  if fragments.all Text.allBlank then fragments
  else fragments.takeWhile Text.allBlank ++ lead :: fragments.dropWhile Text.allBlank

def separated (separator : String) (rounds : List (List String)) : List (List String) :=
  rounds.mapIdx fun i fragments => spaced (lead separator (rounds.take i)) fragments

theorem leadIn_eq_spaced (lead : String) (fragments : List String) :
    Sink.leadIn lead false fragments =
      (!fragments.all Text.allBlank, spaced lead fragments) := by
  rw [Sink.leadIn_false, spaced]
  by_cases h : fragments.all Text.allBlank = true
  · have hall : ∀ fragment ∈ fragments, Text.allBlank fragment = true := by simpa using h
    simp [h, List.takeWhile_eq_self_iff.mpr hall, List.dropWhile_eq_nil_iff.mpr hall]
  · simp [h]

theorem joinRounds_cons (separator : String) (first : Bool) (fragments : List String)
    (rest : List (List String)) :
    joinRounds separator first (fragments :: rest) =
      spaced (if first then "" else separator) fragments ++
        joinRounds separator (first && fragments.all Text.allBlank) rest := by
  rw [joinRounds, leadIn_eq_spaced]
  simp

theorem joinRounds_after (separator : String) (earlier rounds : List (List String)) :
    joinRounds separator (earlier.flatten.all Text.allBlank) rounds =
      (rounds.mapIdx fun i fragments =>
        spaced (lead separator (earlier ++ rounds.take i)) fragments).flatten := by
  induction rounds generalizing earlier with
  | nil => rfl
  | cons fragments rest ih =>
    have hnext : (earlier.flatten.all Text.allBlank && fragments.all Text.allBlank) =
        (earlier ++ [fragments]).flatten.all Text.allBlank := by
      simp
    rw [joinRounds_cons, hnext, ih, List.mapIdx_cons, List.flatten_cons]
    simp [lead]

theorem joinRounds_eq_separated (separator : String) (rounds : List (List String)) :
    joinRounds separator true rounds = (separated separator rounds).flatten :=
  joinRounds_after separator [] rounds

/-! ## Blocks -/

/-- The fragments of rounds cut before the first that is not blank of every round that has one. -/
structure Blocks (rounds : List (List String)) (blanks : List String)
    (blocks : List (List String)) : Prop where
  flatten_eq : rounds.flatten = blanks ++ blocks.flatten
  blank : ∀ fragment ∈ blanks, Text.allBlank fragment = true
  speaks : ∀ block ∈ blocks, ∃ fragment ∈ block.head?, Text.allBlank fragment = false
  length_eq : blocks.length = rounds.countP fun fragments => !fragments.all Text.allBlank

section
variable {fragments blanks : List String} {rounds blocks : List (List String)}

theorem Blocks.skip (h : Blocks rounds blanks blocks) (hblank : fragments.all Text.allBlank = true) :
    Blocks (fragments :: rounds) (fragments ++ blanks) blocks where
  flatten_eq := by rw [List.flatten_cons, h.flatten_eq, List.append_assoc]
  blank := by
    intro fragment hm
    rcases List.mem_append.mp hm with hm | hm
    · exact List.all_eq_true.mp hblank fragment hm
    · exact h.blank fragment hm
  speaks := h.speaks
  length_eq := by rw [h.length_eq, List.countP_cons_of_neg (by simp [hblank])]

theorem Blocks.speak (h : Blocks rounds blanks blocks)
    (hspeaks : fragments.all Text.allBlank = false) :
    Blocks (fragments :: rounds) (fragments.takeWhile Text.allBlank)
      ((fragments.dropWhile Text.allBlank ++ blanks) :: blocks) where
  flatten_eq := by
    rw [List.flatten_cons, List.flatten_cons, h.flatten_eq, ← List.append_assoc, ← List.append_assoc,
      ← List.append_assoc, List.takeWhile_append_dropWhile]
  blank := fun _ hm => List.mem_takeWhile_imp hm
  speaks := by
    have hne : fragments.dropWhile Text.allBlank ≠ [] := by
      intro hnil
      rw [List.all_eq_true.mpr (List.dropWhile_eq_nil_iff.mp hnil)] at hspeaks
      cases hspeaks
    have hhead := List.head_dropWhile_not Text.allBlank hne
    intro block hm
    rcases List.mem_cons.mp hm with rfl | hm
    · refine ⟨_, ?_, hhead⟩
      rw [List.head?_append_of_ne_nil _ hne]
      exact List.head_mem_head? hne
    · exact h.speaks block hm
  length_eq := by
    rw [List.length_cons, h.length_eq, List.countP_cons_of_pos (by simp [hspeaks])]

theorem intercalate_eq_flatMap (separator : String) (block : List String)
    (blocks : List (List String)) :
    [separator].intercalate (block :: blocks) = block ++ blocks.flatMap (separator :: ·) := by
  induction blocks generalizing block with
  | nil => simp
  | cons next blocks ih => simp [List.intercalate_cons_cons, ih]

theorem exists_blocks (rounds : List (List String)) :
    ∃ blanks blocks, Blocks rounds blanks blocks ∧ ∀ separator,
      joinRounds separator false rounds = blanks ++ blocks.flatMap (separator :: ·) ∧
      joinRounds separator true rounds =
        blanks ++ if blocks = [] then [] else "" :: [separator].intercalate blocks := by
  induction rounds with
  | nil => exact ⟨[], [], ⟨rfl, by simp, by simp, rfl⟩, fun _ => ⟨rfl, rfl⟩⟩
  | cons fragments rest ih =>
    obtain ⟨blanks, blocks, hblocks, hjoin⟩ := ih
    by_cases h : fragments.all Text.allBlank = true
    · refine ⟨_, _, hblocks.skip h, fun separator => ?_⟩
      obtain ⟨hfalse, htrue⟩ := hjoin separator
      simp [joinRounds_cons, spaced, h, hfalse, htrue]
    · rw [Bool.not_eq_true] at h
      refine ⟨_, _, hblocks.speak h, fun separator => ?_⟩
      obtain ⟨hfalse, _⟩ := hjoin separator
      simp [joinRounds_cons, spaced, h, hfalse, intercalate_eq_flatMap]

end

end Loop

/-! ## The rounds of a run -/

namespace Build

variable {α : Type} {m : Build α} {c c' : Context}

theorem result_eq_ok {a : α} : m.result c = .ok (a, c') ↔ m.run c = .ok a c' := by
  unfold result
  cases m.run c <;> simp

theorem Uniform.emits (hm : Uniform m) {a : α} (h : m.run c = .ok a c') :
    ∃ fragments, Emits m c a fragments c' := by
  obtain ⟨x, hx⟩ := hm c.bindings c.counter
  have hresult : m.result c = .ok (a, c') := result_eq_ok.mpr h
  have hleft : x.map (·.left c.sink c.trace) = .ok (a, c') := (hx c.sink c.trace).symm.trans hresult
  cases x with
  | error fault => cases hleft
  | ok o =>
    cases hleft
    refine ⟨o.fragments, fun s => result_eq_ok.mp ?_⟩
    have hs : m.result { c with sink := s } = .ok (o.left s c.trace) := hx s c.trace
    rw [hs, Outcome.left, Sink.foldl_append]

theorem run_within_eq_ok {push : Sink → Sink} {r : α × Sink}
    (h : (within push m).run c = .ok r c') :
    ∃ left, m.run { c with sink := push c.sink } = .ok r.1 left ∧
      c' = { left with sink := left.sink.outer } := by
  rw [run_within] at h
  cases hrun : m.run { c with sink := push c.sink } with
  | error fault left => rw [hrun] at h; cases h
  | ok a left =>
    rw [hrun] at h
    cases h
    exact ⟨left, rfl, rfl⟩

theorem run_numbering_eq_ok {scope : LoopScope} {a : α} (h : (numbering scope m).run c = .ok a c') :
    ∃ left s, m.run { c with sink := .numbering scope c.sink } = .ok a left ∧
      c' = { left with sink := s } := by
  obtain ⟨r, c₁, hwithin, hpure⟩ := EStateM.run_bind_eq_ok.mp h
  obtain ⟨rfl, rfl⟩ := EStateM.run_pure_eq_ok.mp hpure
  obtain ⟨left, hrun, rfl⟩ := run_within_eq_ok hwithin
  exact ⟨left, _, hrun, rfl⟩

theorem run_prefixed_eq_ok {lead : String} {r : α × Bool}
    (h : (prefixed lead m).run c = .ok r c') :
    ∃ left s, m.run { c with sink := .prefixed lead false c.sink } = .ok r.1 left ∧
      c' = { left with sink := s } := by
  obtain ⟨⟨a, s⟩, c₁, hwithin, hpure⟩ := EStateM.run_bind_eq_ok.mp h
  obtain ⟨left, hrun, rfl⟩ := run_within_eq_ok hwithin
  refine ⟨left, left.sink.outer, ?_⟩
  cases s <;> obtain ⟨rfl, rfl⟩ := EStateM.run_pure_eq_ok.mp hpure <;> exact ⟨hrun, rfl⟩

end Build

namespace Loop

open Build

variable {loop : Loop} {body : Build Bool} {c c' : Context} {items : List Item}

theorem Rounds.length_eq {rounds : List (List String)} (h : Rounds loop body c items rounds c') :
    rounds.length = items.length := by
  induction h with
  | nil => rfl
  | cons _ _ ih => rw [List.length_cons, List.length_cons, ih]

/-- The body of a round that succeeds emits fragments, whatever stands behind the round. -/
theorem exists_round (hbody : Uniform body) {s : Sink} {lead : String} {item : Item}
    {answer : Unit × Bool}
    (h : (prefixed lead (loop.round body item)).run { c with sink := s } = .ok answer c') :
    ∃ applied fragments, Emits body (c.enter loop item) applied fragments c' := by
  obtain ⟨c₁, s₁, hround, rfl⟩ := run_prefixed_eq_ok h
  rw [run_round] at hround
  obtain ⟨applied, c₂, hnumbering, hpure⟩ := EStateM.run_bind_eq_ok.mp hround
  obtain ⟨_, rfl⟩ := EStateM.run_pure_eq_ok.mp hpure
  obtain ⟨left, s₂, hrun, rfl⟩ := run_numbering_eq_ok hnumbering
  obtain ⟨fragments, hemits⟩ := hbody.emits hrun
  -- The sinks of both contexts are overwritten in what a step emits.
  exact ⟨applied, fragments, fun t => hemits t⟩

theorem exists_rounds (hbody : Uniform body) (first : Bool) {s : Sink}
    (h : (loop.rounds body first items).run { c with sink := s } = .ok () c') :
    ∃ rounds left, Rounds loop body c items rounds left := by
  induction items generalizing c s first with
  | nil => exact ⟨[], c, .nil c⟩
  | cons item items ih =>
    obtain ⟨_, c₁, hround, hrest⟩ := EStateM.run_bind_eq_ok.mp h
    obtain ⟨applied, fragments, hemits⟩ := exists_round hbody hround
    obtain ⟨rounds, left, hrounds⟩ := ih _ hrest
    exact ⟨_, left, .cons hemits hrounds⟩

theorem sink_of_run_appendText {text : Option String} {u : Unit}
    (h : (appendText text).run c = .ok u c') : ∃ s, c' = { c with sink := s } := by
  have hrun : (appendText text).run c = _ := emits_appendText text c c.sink
  rw [hrun] at h
  cases h
  exact ⟨_, rfl⟩

section
variable {ev : Evaluator}
  (hitems : ev.collection loop.collection loop.nullable c.bindings = .ok (some items))
  (hne : items ≠ [])
  (hbind : (if loop.inlineLiterals then loop.inlined? (items.map Item.value) else none) = none)
include hitems hne hbind

theorem exists_rounds_of_run (hbody : Uniform body) (h : (loop.run ev body).run c = .ok () c') :
    ∃ rounds left, Rounds loop body (c.noted (.evaluated loop.collection)) items rounds left := by
  obtain ⟨found, c₁, hcollect, hfound⟩ := EStateM.run_bind_eq_ok.mp h
  obtain ⟨hvalue, rfl⟩ := run_evaluate_eq_ok.mp hcollect
  rw [hitems] at hvalue
  cases hvalue
  have hrest : (loop.runItems body items).run (c.noted (.evaluated loop.collection)) = .ok () c' := by
    cases items with
    | nil => exact absurd rfl hne
    | cons item items => exact hfound
  unfold runItems at hrest
  rw [hbind] at hrest
  obtain ⟨_, c₂, hcolumn, hrest⟩ := EStateM.run_bind_eq_ok.mp hrest
  obtain ⟨s₂, rfl⟩ := sink_of_run_appendText hcolumn
  obtain ⟨_, c₃, hopening, hrest⟩ := EStateM.run_bind_eq_ok.mp hrest
  obtain ⟨s₃, rfl⟩ := sink_of_run_appendText hopening
  obtain ⟨_, c₄, hrounds, _⟩ := EStateM.run_bind_eq_ok.mp hrest
  exact exists_rounds hbody true hrounds

end

end Loop

/-! ## Loops in a tree -/

namespace Node

section
variable {ev : Evaluator} {loop : Loop} {body : Node} {c : Context} {items : List Item}
  (hitems : ev.collection loop.collection loop.nullable c.bindings = .ok (some items))
  (hne : items ≠ [])
  (hbind : (if loop.inlineLiterals then loop.inlined? (items.map Item.value) else none) = none)
include hitems hne hbind

theorem emits_loop {rounds : List (List String)} {left : Context}
    (h : Loop.Rounds loop (body.apply ev) (c.noted (.evaluated loop.collection)) items rounds left) :
    Build.Emits ((Node.loop loop body).apply ev) c true
      ((loop.column.map (· ++ " IN")).toList ++ loop.opening.toList ++
        (Loop.separated (loop.separator.getD "") rounds).flatten ++ loop.closing.toList)
      (left.leave loop) := by
  have hrun := Loop.emits_run hitems hne hbind h
  rw [Loop.joinRounds_eq_separated, ← List.append_assoc, ← List.append_assoc] at hrun
  intro s
  unfold apply
  rw [EStateM.run_bind, hrun s]
  rfl

/-- A loop over elements that it does not write as literals succeeds exactly if its rounds do, and then
appends their fragments, each round with its lead, between the texts of the loop. Whatever the rounds
are, their fragments with the leads are blank ones and then, after an empty text, blocks that begin with
one that is not blank and have the separator between any two of them: one block for each round that is
not blank. -/
theorem apply_loop_separated :
    (∀ applied c', ((Node.loop loop body).apply ev).run c = .ok applied c' ↔
      applied = true ∧ ∃ rounds left,
        Loop.Rounds loop (body.apply ev) (c.noted (.evaluated loop.collection)) items rounds left ∧
        rounds.length = items.length ∧
        c' = { left.leave loop with sink :=
          ((loop.column.map (· ++ " IN")).toList ++ loop.opening.toList ++
            (Loop.separated (loop.separator.getD "") rounds).flatten ++
            loop.closing.toList).foldl Sink.append c.sink }) ∧
    ∀ rounds, ∃ blanks blocks, Loop.Blocks rounds blanks blocks ∧ ∀ separator,
      (Loop.separated separator rounds).flatten =
        blanks ++ if blocks = [] then [] else "" :: [separator].intercalate blocks := by
  constructor
  · intro applied c'
    simp only [Sink.foldl_append]
    constructor
    · intro h
      obtain ⟨_, c₁, hrun, _⟩ := EStateM.run_bind_eq_ok.mp h
      obtain ⟨rounds, left, hrounds⟩ := Loop.exists_rounds_of_run hitems hne hbind
        (Build.closed_uniform ev body.parts).compositional.apply_root hrun
      have hleft := (emits_loop hitems hne hbind hrounds c.sink).symm.trans h
      cases hleft
      exact ⟨rfl, rounds, left, hrounds, hrounds.length_eq, rfl⟩
    · rintro ⟨rfl, rounds, left, hrounds, _, rfl⟩
      exact emits_loop hitems hne hbind hrounds c.sink
  · intro rounds
    obtain ⟨blanks, blocks, hblocks, hjoin⟩ := Loop.exists_blocks rounds
    refine ⟨blanks, blocks, hblocks, fun separator => ?_⟩
    rw [← Loop.joinRounds_eq_separated]
    exact (hjoin separator).2

end

/-- Rounds with a loop inside them: the first and the third have no cells and are blank, and the others
begin with blank fragments. -/
theorem apply_loop_separated_nested :
    let cells : Loop := { collection := "row", item := some "cell", separator := some "+" }
    let rows : Loop :=
      { collection := "rows", item := some "row", column := some "id", opening := some "(",
        separator := some ",", closing := some ")" }
    let body : Node := .sequence [.text " ", .loop cells (.text "#\x7bcell\x7d")]
    let items : List Item :=
      Evaluator.byPosition [.list [], .list [.int 5, .int 6], .list [], .list [.int 7]]
    let c := Context.start (.start (.map [("rows", .list (items.map Item.value))]) none false)
    (Evaluator.paths.collection "rows" false c.bindings = .ok (some items) ∧ items ≠ [] ∧
      (if rows.inlineLiterals then rows.inlined? (items.map Item.value) else none) = none) ∧
    ∃ c', ((Node.loop rows body).apply .paths).run c = .ok true c' ∧
      c'.sql =
        "id IN (       #\x7b__frch_cell_2\x7d + #\x7b__frch_cell_3\x7d      , #\x7b__frch_cell_6\x7d )" ∧
      ∃ rounds left,
        Loop.Rounds rows (body.apply .paths) (c.noted (.evaluated "rows")) items rounds left ∧
        rounds.length = 4 ∧
        c'.sink = (["id IN"] ++ ["("] ++ (Loop.separated "," rounds).flatten ++ [")"]).foldl
          Sink.append .empty := by
  intro cells rows body items c
  have hitems : Evaluator.paths.collection "rows" false c.bindings = .ok (some items) := rfl
  have hsql : ((Node.loop rows body).evaluate .paths c.bindings).result.toOption.map (·.1) = some
      "id IN (       #\x7b__frch_cell_2\x7d + #\x7b__frch_cell_3\x7d      , #\x7b__frch_cell_6\x7d )" := by
    decide +kernel
  refine ⟨⟨hitems, List.cons_ne_nil _ _, rfl⟩, ?_⟩
  cases he : ((Node.loop rows body).evaluate .paths c.bindings).result with
  | error _ => rw [he] at hsql; cases hsql
  | ok r =>
    obtain ⟨sql, b⟩ := r
    rw [he] at hsql
    obtain ⟨applied, c', hrun, rfl, _⟩ := Node.evaluate_eq_ok.mp he
    obtain ⟨rfl, rounds, left, hrounds, hlength, hleft⟩ :=
      ((apply_loop_separated hitems (List.cons_ne_nil _ _) rfl).1 applied c').mp hrun
    exact ⟨c', hrun, Option.some.inj hsql, rounds, left, hrounds, hlength, by rw [hleft]; rfl⟩

end Node

end SqlTemplate
