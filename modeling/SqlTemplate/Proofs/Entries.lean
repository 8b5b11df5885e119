import Mathlib.Data.String.Basic
import SqlTemplate.Entries

/-!
# Maps made of pairs

The map of a list of pairs is sorted by name, and holds of every name the last value that the list
gives it.
-/

def List.lastValue? {α : Type} (name : String) (pairs : List (String × α)) : Option α :=
  ((pairs.filter (·.1 == name)).map (·.2)).getLast?

namespace SqlTemplate.Entries

variable {α : Type} {entries : Entries α} {name : String} {value : α}

def Sorted (entries : Entries α) : Prop :=
  entries.Pairwise (·.1 < ·.1)

theorem ne_of_get?_eq_none (h : entries.get? name = none) : ∀ e ∈ entries, e.1 ≠ name := by
  induction entries with
  | nil => simp
  | cons entry rest ih =>
    obtain ⟨k, v⟩ := entry
    simp only [get?] at h
    split at h
    · cases h
    · rename_i hk
      exact List.forall_mem_cons.mpr ⟨hk, ih h⟩

theorem mem_of_get? (h : entries.get? name = some value) : (name, value) ∈ entries := by
  induction entries with
  | nil => cases h
  | cons entry rest ih =>
    obtain ⟨k, v⟩ := entry
    simp only [get?] at h
    split at h
    · subst k
      cases h
      exact List.mem_cons_self
    · exact List.mem_cons_of_mem _ (ih h)

theorem mem_insert {e : String × α} (h : e ∈ entries.insert name value) :
    e = (name, value) ∨ e ∈ entries := by
  induction entries with
  | nil => exact Or.inl (List.mem_singleton.mp h)
  | cons entry rest ih =>
    obtain ⟨k, v⟩ := entry
    simp only [insert] at h
    split at h
    · rcases List.mem_cons.mp h with h | h
      · exact Or.inl h
      · exact Or.inr (List.mem_cons_of_mem _ h)
    · split at h
      · exact List.mem_cons.mp h
      · rcases List.mem_cons.mp h with h | h
        · exact Or.inr (h ▸ List.mem_cons_self)
        · exact (ih h).imp_right (List.mem_cons_of_mem _)

theorem Sorted.insert (h : Sorted entries) (name : String) (value : α) :
    Sorted (entries.insert name value) := by
  induction entries with
  | nil => exact List.pairwise_singleton _ _
  | cons entry rest ih =>
    obtain ⟨k, v⟩ := entry
    obtain ⟨hhead, hrest⟩ := List.pairwise_cons.mp h
    simp only [Entries.insert]
    by_cases hk : k = name
    · subst hk
      rw [if_pos rfl]
      exact List.pairwise_cons.mpr ⟨hhead, hrest⟩
    · rw [if_neg hk]
      by_cases hlt : name < k
      · rw [if_pos hlt]
        refine List.pairwise_cons.mpr ⟨fun e he => ?_, h⟩
        rcases List.mem_cons.mp he with rfl | he
        · exact hlt
        · exact lt_trans hlt (hhead e he)
      · rw [if_neg hlt]
        refine List.pairwise_cons.mpr ⟨fun e he => ?_, ih hrest⟩
        rcases mem_insert he with rfl | he
        · exact lt_of_le_of_ne (not_lt.mp hlt) hk
        · exact hhead e he

theorem Sorted.insertAll (h : Sorted entries) (pairs : List (String × α)) :
    Sorted (entries.insertAll pairs) := by
  induction pairs generalizing entries with
  | nil => exact h
  | cons pair pairs ih => exact ih (h.insert pair.1 pair.2)

theorem sorted_ofList (pairs : List (String × α)) : Sorted (ofList pairs) :=
  Sorted.insertAll List.Pairwise.nil pairs

theorem get?_insertAll (pairs : List (String × α)) (entries : Entries α) (name : String) :
    (entries.insertAll pairs).get? name = (pairs.lastValue? name <|> entries.get? name) := by
  induction pairs generalizing entries with
  | nil => rfl
  | cons pair pairs ih =>
    have hstep : entries.insertAll (pair :: pairs) =
        (entries.insert pair.1 pair.2).insertAll pairs := rfl
    rw [hstep, ih, get?_insert]
    unfold List.lastValue?
    by_cases hp : pair.1 = name
    · rw [if_pos hp, List.filter_cons_of_pos (by simp [hp]), List.map_cons, List.getLast?_cons]
      cases ((pairs.filter (·.1 == name)).map (·.2)).getLast? <;> rfl
    · rw [if_neg hp, List.filter_cons_of_neg (by simp [hp])]

theorem get?_ofList (pairs : List (String × α)) (name : String) :
    (ofList pairs).get? name = pairs.lastValue? name := by
  unfold ofList
  rw [get?_insertAll]
  cases pairs.lastValue? name <;> rfl

theorem lastValue?_of_mem {pairs : List (String × α)} (h : (pairs.map (·.1)).Nodup)
    (hmem : (name, value) ∈ pairs) : pairs.lastValue? name = some value := by
  obtain ⟨before, after, rfl⟩ := List.append_of_mem hmem
  rw [List.map_append, List.map_cons, List.nodup_append, List.nodup_cons] at h
  obtain ⟨-, ⟨hafter, -⟩, hbefore⟩ := h
  have hfirst : ∀ e ∈ before, ¬ (e.1 == name) = true := fun e he => by
    simpa using hbefore e.1 (List.mem_map_of_mem he) name List.mem_cons_self
  have hlast : ∀ e ∈ after, ¬ (e.1 == name) = true := fun e he hname =>
    hafter (List.mem_map.mpr ⟨e, he, beq_iff_eq.mp hname⟩)
  unfold List.lastValue?
  rw [List.filter_append, List.filter_eq_nil_iff.mpr hfirst, List.filter_cons_of_pos (by simp),
    List.filter_eq_nil_iff.mpr hlast]
  rfl

end SqlTemplate.Entries
