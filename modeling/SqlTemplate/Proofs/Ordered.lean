import SqlTemplate.Pattern.Reader
import SqlTemplate.Proofs.Matching

/-!
# Bounds in patterns that are read

No repetition of a pattern that is read asks for more rounds than it allows (`isOrdered_of_read?`). The
reader compares the bounds where they are written, and to put patterns together only moves their parts.
-/

namespace SqlTemplate.Pattern

variable {p : Pattern} {ps : List Pattern}

/-! ## Patterns from parts -/

theorem isOrdered_parts (h : p.IsOrdered) : Row.IsOrdered p.parts := by
  induction p with
  | empty => simp [parts, Row.IsOrdered]
  | seq p q ihp ihq =>
    intro r hr
    exact (List.mem_append.mp hr).elim (ihp h.1 r) (ihq h.2 r)
  | _ => exact List.forall_mem_singleton.mpr h

theorem isOrdered_branches (h : p.IsOrdered) : Row.IsOrdered p.branches := by
  induction p with
  | alt p q ihp ihq =>
    intro r hr
    exact (List.mem_append.mp hr).elim (ihp h.1 r) (ihq h.2 r)
  | _ => exact List.forall_mem_singleton.mpr h

theorem isOrdered_ofParts (h : Row.IsOrdered ps) : (ofParts ps).IsOrdered := by
  induction ps with
  | nil => trivial
  | cons p ps ih =>
    obtain ⟨hp, hps⟩ := List.forall_mem_cons.mp h
    cases ps with
    | nil => exact hp
    | cons q ps => exact ⟨hp, ih hps⟩

theorem isOrdered_ofBranches (h : Row.IsOrdered ps) : (ofBranches ps).IsOrdered := by
  induction ps with
  | nil => trivial
  | cons p ps ih =>
    obtain ⟨hp, hps⟩ := List.forall_mem_cons.mp h
    cases ps with
    | nil => exact hp
    | cons q ps => exact ⟨hp, ih hps⟩

theorem isOrdered_flatMap {f : Pattern → List Pattern}
    (hf : ∀ {p : Pattern}, p.IsOrdered → Row.IsOrdered (f p)) (h : Row.IsOrdered ps) :
    Row.IsOrdered (ps.flatMap f) := by
  intro q hq
  obtain ⟨p, hp, hq⟩ := List.mem_flatMap.mp hq
  exact hf (h p hp) q hq

theorem isOrdered_sequence (h : Row.IsOrdered ps) : (sequence ps).IsOrdered :=
  isOrdered_ofParts (isOrdered_flatMap isOrdered_parts h)

theorem isOrdered_choiceApart (h : Row.IsOrdered ps) : (choiceApart ps).IsOrdered := by
  unfold choiceApart
  dsimp only
  split
  · trivial
  · exact isOrdered_ofBranches (isOrdered_flatMap isOrdered_branches h)

theorem flatten_runs (ps : List Pattern) : (runs ps).flatten = ps := by
  induction ps with
  | nil => rfl
  | cons p ps ih =>
    rw [runs]
    split
    · rename_i hruns
      rw [hruns] at ih
      split
      · simpa using ih
      · simpa using ih
    · rw [List.flatten_cons, ih, List.singleton_append]

theorem prefix_of_sharedStart {α : Type} [DecidableEq α] (xs ys : List α) : sharedStart xs ys <+: xs := by
  induction xs generalizing ys with
  | nil => simp [sharedStart]
  | cons x xs ih =>
    cases ys with
    | nil => simp [sharedStart]
    | cons y ys =>
      rw [sharedStart]
      split
      · exact List.cons_prefix_cons.mpr ⟨rfl, ih ys⟩
      · exact List.nil_prefix

theorem prefix_of_foldl_sharedStart {α : Type} [DecidableEq α] (xs : List α) (rest : List (List α)) :
    rest.foldl sharedStart xs <+: xs := by
  induction rest generalizing xs with
  | nil => exact List.prefix_rfl
  | cons ys rest ih => exact (ih (sharedStart xs ys)).trans (prefix_of_sharedStart xs ys)

theorem mem_of_mem_sharedStartOfAll {α : Type} [DecidableEq α] {lists : List (List α)} {x : α}
    (h : x ∈ sharedStartOfAll lists) : ∃ xs ∈ lists, x ∈ xs := by
  cases lists with
  | nil => cases h
  | cons xs rest => exact ⟨xs, List.mem_cons_self, (prefix_of_foldl_sharedStart xs rest).mem h⟩

theorem isOrdered_choice (h : Row.IsOrdered ps) : (choice ps).IsOrdered := by
  have hbranches : Row.IsOrdered (ps.flatMap branches) := isOrdered_flatMap isOrdered_branches h
  have hruns : ∀ split ∈ (ps.flatMap branches).map fun p => runs p.parts,
      Row.IsOrdered split.flatten := by
    intro split hsplit
    obtain ⟨p, hp, rfl⟩ := List.mem_map.mp hsplit
    rw [flatten_runs]
    exact isOrdered_parts (hbranches p hp)
  unfold choice
  dsimp only
  -- only the bounds in the runs count from here on
  generalize (ps.flatMap branches).map (fun p => runs p.parts) = split at hruns
  generalize hshared : (if split.all (2 ≤ ·.length) then sharedStartOfAll split else []) = shared
  split
  · exact isOrdered_choiceApart hbranches
  · refine isOrdered_sequence fun q hq => ?_
    rcases List.mem_append.mp hq with hq | hq
    · obtain ⟨run, hrun, hq⟩ := List.mem_flatten.mp hq
      have hmem : run ∈ sharedStartOfAll split := by
        split at hshared
        · rwa [hshared]
        · rw [← hshared] at hrun
          cases hrun
      obtain ⟨runs, hmem, hrun⟩ := mem_of_mem_sharedStartOfAll hmem
      exact hruns runs hmem q (List.mem_flatten.mpr ⟨run, hrun, hq⟩)
    · obtain rfl := List.mem_singleton.mp hq
      refine isOrdered_choiceApart fun r hr => ?_
      obtain ⟨runs, hmem, rfl⟩ := List.mem_map.mp hr
      refine isOrdered_ofParts fun q hq => ?_
      obtain ⟨run, hrun, hq⟩ := List.mem_flatten.mp hq
      exact hruns runs hmem q (List.mem_flatten.mpr ⟨run, List.mem_of_mem_drop hrun, hq⟩)

theorem isOrdered_times {least : Nat} {most : Option Nat} (hbounds : ∀ m ∈ most, least ≤ m)
    (h : p.IsOrdered) : (times least most p).IsOrdered := by
  unfold times
  dsimp only
  generalize hmost : (if p.onlyEmpty = true then some (min (most.getD 1) 1) else most) = most'
  generalize hleast : (if p.onlyEmpty = true then min least 1 else least) = least'
  split
  · trivial
  · split
    · exact h
    · refine ⟨fun m hm => ?_, h⟩
      split at hmost
      · subst hmost
        cases hm
        split at hleast
        · cases most with
          | none => simp; omega
          | some m =>
            have := hbounds m rfl
            simp only [Option.getD_some]
            omega
        · contradiction
      · split at hleast
        · contradiction
        · rw [← hleast]
          exact hbounds m (hmost ▸ hm)

/-! ## Pieces -/

def Piece.IsOrdered (p : Piece) : Prop := p.pattern.IsOrdered

namespace Piece

theorem isOrdered_gather {f : List Pattern → Pattern}
    (hf : ∀ {ps : List Pattern}, Row.IsOrdered ps → (f ps).IsOrdered) {ps : List Piece}
    (h : ∀ p ∈ ps, p.IsOrdered) : (gather f ps).IsOrdered := by
  unfold gather
  split
  · trivial
  · exact h _ List.mem_cons_self
  · refine hf fun q hq => ?_
    obtain ⟨p, hp, rfl⟩ := List.mem_map.mp hq
    exact h p hp

theorem isOrdered_times {p : Piece} {least : Nat} {most : Option Nat}
    (hbounds : ∀ m ∈ most, least ≤ m) (h : p.IsOrdered) : (times least most p).IsOrdered :=
  Pattern.isOrdered_times hbounds h

theorem isOrdered_group {p : Piece} (h : p.IsOrdered) (number : Option Nat) :
    (group number p).IsOrdered := by
  cases number with
  | none => exact h
  | some n => exact h

end Piece

/-! ## The reader -/

theorem le_of_readBounds? {flags : Flags} {s rest : List Char} {least : Nat} {most : Option Nat}
    (h : readBounds? flags s = some ((least, most), rest)) : ∀ m ∈ most, least ≤ m := by
  intro m hm
  obtain rfl := Option.mem_def.mp hm
  obtain ⟨⟨first, s'⟩, _, h⟩ := Option.bind_eq_some_iff.mp h
  dsimp only at h
  split at h
  · cases h
    exact Nat.le_refl _
  · split at h
    · cases h
    · obtain ⟨⟨last, s''⟩, _, h⟩ := Option.bind_eq_some_iff.mp h
      dsimp only at h
      split at h
      · split at h
        · rename_i hle
          cases h
          exact hle
        · cases h
      · cases h
  · cases h

theorem isOrdered_of_readRepetitions? {fuel : Nat} {flags : Flags} {p q : Piece}
    {s rest : List Char} (hp : p.IsOrdered)
    (h : readRepetitions? fuel flags p s = some (q, rest)) : q.IsOrdered := by
  induction fuel generalizing p s with
  | zero => cases h
  | succ fuel ih =>
    rw [readRepetitions?] at h
    split at h
    · exact ih (Piece.isOrdered_times (by simp) hp) h
    · exact ih (Piece.isOrdered_times (by simp) hp) h
    · exact ih (Piece.isOrdered_times (by simp) hp) h
    · obtain ⟨⟨⟨least, most⟩, s'⟩, hbounds, h⟩ := Option.bind_eq_some_iff.mp h
      exact ih (Piece.isOrdered_times (le_of_readBounds? hbounds) hp) h
    · cases h
      exact hp

theorem isOrdered_of_readPrimitive? {flags : Flags} {s rest : List Char} {p : Piece}
    (h : readPrimitive? flags s = some (p, rest)) : p.IsOrdered := by
  have hprimitive (primitive : Primitive) : (flags.primitive primitive).IsOrdered := by
    cases primitive <;> trivial
  cases s with
  | nil => cases h
  | cons c s =>
    unfold readPrimitive? at h
    dsimp only at h
    split at h
    iterate 4 cases h
    · obtain ⟨set, _, h⟩ := Option.bind_eq_some_iff.mp h
      cases h
      trivial
    · cases h
      trivial
    · cases h
      trivial
    · obtain ⟨⟨primitive, s'⟩, _, h⟩ := Option.bind_eq_some_iff.mp h
      cases h
      exact hprimitive primitive
    · obtain ⟨⟨members, s'⟩, _, h⟩ := Option.bind_eq_some_iff.mp h
      cases h
      trivial
    · cases h
      exact hprimitive (.literal c)

/-- Pieces and branches that are read have their bounds in order. -/
theorem isOrdered_of_read (fuel : Nat) :
    (∀ {scope scope' : Scope} {s rest : List Char} {ps : List Piece},
      readBranches? fuel scope s = some (ps, scope', rest) → ∀ p ∈ ps, p.IsOrdered) ∧
    ∀ {scope scope' : Scope} {s rest : List Char} {ps : List Piece},
      readSequence? fuel scope s = some (ps, scope', rest) → ∀ p ∈ ps, p.IsOrdered := by
  -- both readers at once: each calls the other with less fuel
  induction fuel with
  | zero =>
    constructor
    · intro scope scope' s rest ps h
      rw [readBranches?] at h
      cases h
    · intro scope scope' s rest ps h
      rw [readSequence?] at h
      cases h
  | succ fuel ih =>
    obtain ⟨ihbranches, ihsequence⟩ := ih
    constructor
    · intro scope scope' s rest ps h
      rw [readBranches?] at h
      obtain ⟨⟨pieces, inner, s₁⟩, hpieces, h⟩ := Option.bind_eq_some_iff.mp h
      have hbranch : (Piece.sequence pieces).IsOrdered :=
        Piece.isOrdered_gather isOrdered_sequence (ihsequence hpieces)
      dsimp only at h
      split at h
      · obtain ⟨⟨branches, outer, s₂⟩, hbranches, h⟩ := Option.bind_eq_some_iff.mp h
        cases h
        exact List.forall_mem_cons.mpr ⟨hbranch, ihbranches hbranches⟩
      · cases h
        exact List.forall_mem_cons.mpr ⟨hbranch, List.forall_mem_nil _⟩
    · intro scope scope' s rest ps h
      rw [readSequence?] at h
      split at h
      · cases h
        exact List.forall_mem_nil _
      · cases h
        exact List.forall_mem_nil _
      · cases h
        exact List.forall_mem_nil _
      · obtain ⟨⟨opening, s₁⟩, hopening, h⟩ := Option.bind_eq_some_iff.mp h
        dsimp only at h
        split at h
        · obtain ⟨⟨pieces, inner, s₂⟩, hpieces, h⟩ := Option.bind_eq_some_iff.mp h
          cases h
          exact List.forall_mem_cons.mpr ⟨trivial, ihsequence hpieces⟩
        · obtain ⟨⟨branches, inner, s₂⟩, hbranches, h⟩ := Option.bind_eq_some_iff.mp h
          dsimp only at h
          split at h
          · obtain ⟨⟨p, s₃⟩, hp, h⟩ := Option.bind_eq_some_iff.mp h
            obtain ⟨⟨pieces, outer, s₄⟩, hpieces, h⟩ := Option.bind_eq_some_iff.mp h
            cases h
            have hchoice : (Piece.choice branches).IsOrdered :=
              Piece.isOrdered_gather isOrdered_choice (ihbranches hbranches)
            have hpiece := isOrdered_of_readRepetitions? (Piece.isOrdered_group hchoice _) hp
            exact List.forall_mem_cons.mpr ⟨hpiece, ihsequence hpieces⟩
          · cases h
      · obtain ⟨⟨p, s₁⟩, hp, h⟩ := Option.bind_eq_some_iff.mp h
        obtain ⟨⟨q, s₂⟩, hq, h⟩ := Option.bind_eq_some_iff.mp h
        obtain ⟨⟨pieces, outer, s₃⟩, hpieces, h⟩ := Option.bind_eq_some_iff.mp h
        cases h
        have hpiece := isOrdered_of_readRepetitions? (isOrdered_of_readPrimitive? hp) hq
        exact List.forall_mem_cons.mpr ⟨hpiece, ihsequence hpieces⟩

theorem isOrdered_of_read? {s : List Char} (h : read? s = some p) : p.IsOrdered := by
  obtain ⟨⟨branches, scope, rest⟩, hbranches, h⟩ := Option.bind_eq_some_iff.mp h
  dsimp only at h
  split at h
  · cases h
    exact Piece.isOrdered_gather isOrdered_choice ((isOrdered_of_read _).1 hbranches)
  · cases h

end SqlTemplate.Pattern
