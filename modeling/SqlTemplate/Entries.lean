/-!
# Named entries

A finite map from names to values, held as the list of its entries in the order of their names
(code point by code point). Every map built with `insert` from `[]` is sorted and has each name
once.
-/

namespace SqlTemplate

/-- The entries of a finite map, sorted by name. -/
abbrev Entries (α : Type) := List (String × α)

namespace Entries

variable {α : Type}

def get? (name : String) : Entries α → Option α
  | [] => none
  | (k, v) :: rest => if k = name then some v else get? name rest

def contains (name : String) (entries : Entries α) : Bool :=
  (entries.get? name).isSome

def insert (name : String) (value : α) : Entries α → Entries α
  | [] => [(name, value)]
  | (k, v) :: rest =>
    if k = name then (name, value) :: rest
    else if name < k then (name, value) :: (k, v) :: rest
    else (k, v) :: insert name value rest

def erase (name : String) (entries : Entries α) : Entries α :=
  entries.filter (·.1 ≠ name)

/-- Inserts pairs one after the other: of two with one name the later stays. -/
def insertAll (pairs : List (String × α)) (entries : Entries α) : Entries α :=
  pairs.foldl (fun m (k, v) => m.insert k v) entries

/-- The map of a list of pairs: of two with one name the later stays. -/
def ofList (pairs : List (String × α)) : Entries α :=
  insertAll pairs []

def names (entries : Entries α) : List String :=
  entries.map (·.1)

theorem get?_insert (entries : Entries α) (name other : String) (value : α) :
    (entries.insert name value).get? other =
      if name = other then some value else entries.get? other := by
  induction entries with
  | nil => simp [insert, get?]
  | cons e rest ih =>
    obtain ⟨k, v⟩ := e
    simp only [insert]
    split
    · subst_vars; simp only [get?]; split <;> rfl
    · split
      · simp [get?]
      · simp only [get?, ih]
        by_cases hk : k = other
        · subst hk; simp [Ne.symm ‹_›]
        · simp [hk]

theorem get?_erase (entries : Entries α) (name other : String) :
    (entries.erase name).get? other = if name = other then none else entries.get? other := by
  induction entries with
  | nil => simp [erase, get?]
  | cons e rest ih =>
    obtain ⟨k, v⟩ := e
    simp only [erase, ne_eq, decide_not] at ih ⊢
    by_cases hk : k = name
    · subst hk
      simp only [List.filter_cons, decide_true, Bool.not_true, Bool.false_eq_true, if_false, ih,
        get?]
      split <;> rfl
    · simp only [List.filter_cons, hk, decide_false, Bool.not_false, if_true, get?, ih]
      by_cases ho : k = other
      · subst ho; simp [Ne.symm hk]
      · simp [ho]

end Entries

end SqlTemplate
