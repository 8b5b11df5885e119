import SqlTemplate.Proofs.Bindable

/-!
# Histories of registrations

What the handlers answer is read off the registrations that made them. The one that was made last for a
kind and a column type stands for both (`History.last?`), all of these together say which handler a
look-up finds (`History.Answers`), and the order of two registrations matters only where both are for
the same kind and column type.
-/

namespace SqlTemplate

/-! ## Pairs with distinct keys -/

section
variable {α β : Type} {pairs : List (α × β)}

theorem lookup_eq_some_iff_mem [BEq α] [LawfulBEq α] (h : (pairs.map (·.1)).Nodup) {key : α} {value : β} :
    pairs.lookup key = some value ↔ (key, value) ∈ pairs := by
  rw [List.lookup_eq_some_iff]
  constructor
  · rintro ⟨before, after, rfl, -⟩
    simp
  · intro hmem
    obtain ⟨before, after, rfl⟩ := List.append_of_mem hmem
    refine ⟨before, after, rfl, fun pair hpair => ?_⟩
    rw [List.map_append, List.nodup_append] at h
    have hne := h.2.2 pair.1 (List.mem_map_of_mem hpair) key (by simp)
    simpa using hne.symm

variable [DecidableEq α]

theorem keys_setKey (key : α) (value : β) (pairs : List (α × β)) :
    (setKey key value pairs).map (·.1) =
      if key ∈ pairs.map (·.1) then pairs.map (·.1) else pairs.map (·.1) ++ [key] := by
  induction pairs with
  | nil => rfl
  | cons pair rest ih =>
    obtain ⟨k, v⟩ := pair
    by_cases hk : k = key
    · simp [setKey, hk]
    · by_cases hmem : key ∈ rest.map (·.1)
      · simp only [hmem, if_true] at ih
        simp [setKey, hk, ih, hmem]
      · simp only [hmem, if_false] at ih
        simp [setKey, hk, ih, hmem, Ne.symm hk]

theorem setKey_ne_nil (key : α) (value : β) (pairs : List (α × β)) : setKey key value pairs ≠ [] := by
  cases pairs with
  | nil => exact List.cons_ne_nil _ _
  | cons pair rest =>
    simp only [setKey]
    split <;> exact List.cons_ne_nil _ _

theorem nodup_keys_setKey (h : (pairs.map (·.1)).Nodup) (key : α) (value : β) :
    ((setKey key value pairs).map (·.1)).Nodup := by
  rw [keys_setKey]
  split
  · exact h
  · rename_i hkey
    refine List.nodup_append.mpr ⟨h, List.pairwise_singleton _ key, fun k hk other ho he => hkey ?_⟩
    rwa [← List.mem_singleton.mp ho, ← he]

end

namespace Handlers

abbrev History := List (Kind × Option ColumnType × String)

namespace History

def last? (history : History) (kind : Kind) (column : Option ColumnType) : Option String :=
  ((history.filter fun entry => entry.1 = kind ∧ entry.2.1 = column).map (·.2.2)).getLast?

/-- Which handler a look-up finds: the last one for just this column type, else the last one for any
column type, else the one that is last for every column type the kind has. -/
inductive Answers (history : History) (kind : Kind) (column : Option ColumnType) (name : String) : Prop
  | exact {c : ColumnType} (given : column = some c)
      (last : history.last? kind (some c) = some name)
  | general (missing : ∀ c ∈ column, history.last? kind (some c) = none)
      (last : history.last? kind none = some name)
  | sole (missing : ∀ c ∈ column, history.last? kind (some c) = none)
      (special : history.last? kind none = none)
      (registered : ∃ other ∈ history, other.1 = kind)
      (same : ∀ c other, history.last? kind c = some other → other = name)

variable {history swapped : History} {kind : Kind} {column : Option ColumnType} {name : String}

theorem last?_concat (history : History) (entry : Kind × Option ColumnType × String) (kind : Kind)
    (column : Option ColumnType) :
    (history ++ [entry]).last? kind column =
      if entry.1 = kind ∧ entry.2.1 = column then some entry.2.2 else history.last? kind column := by
  obtain ⟨k, c, n⟩ := entry
  unfold last?
  by_cases h : k = kind ∧ c = column
  · simp [h]
  · simp only [List.filter_append, List.map_append]
    simp [h]

theorem last?_eq_none_iff :
    history.last? kind column = none ↔ ∀ entry ∈ history, entry.1 = kind → entry.2.1 ≠ column := by
  simp [last?]

theorem mem_of_last? (h : history.last? kind column = some name) : (kind, column, name) ∈ history := by
  obtain ⟨entry, he, rfl⟩ := List.mem_map.mp (List.mem_of_getLast? h)
  obtain ⟨hmem, hkey⟩ := List.mem_filter.mp he
  obtain ⟨rfl, rfl⟩ := of_decide_eq_true hkey
  exact hmem

theorem exists_last? {entry : Kind × Option ColumnType × String} (h : entry ∈ history) :
    ∃ name, history.last? entry.1 entry.2.1 = some name := by
  cases hlast : history.last? entry.1 entry.2.1 with
  | none => exact absurd rfl (last?_eq_none_iff.mp hlast entry h rfl)
  | some name => exact ⟨name, rfl⟩

theorem Answers.registered (h : history.Answers kind column name) :
    ∃ entry ∈ history, entry.1 = kind := by
  cases h with
  | exact given last => exact ⟨_, mem_of_last? last, rfl⟩
  | general missing last => exact ⟨_, mem_of_last? last, rfl⟩
  | sole missing special registered same => exact registered

theorem Answers.congr (hlast : ∀ column, swapped.last? kind column = history.last? kind column)
    (hkind : (∃ entry ∈ history, entry.1 = kind) → ∃ entry ∈ swapped, entry.1 = kind)
    (h : history.Answers kind column name) : swapped.Answers kind column name := by
  cases h with
  | exact given last => exact .exact given (hlast _ ▸ last)
  | general missing last => exact .general (fun c hc => hlast _ ▸ missing c hc) (hlast _ ▸ last)
  | sole missing special registered same =>
    exact .sole (fun c hc => hlast _ ▸ missing c hc) (hlast _ ▸ special) (hkind registered)
      fun c other hc => same c other (hlast _ ▸ hc)

theorem last?_swap (before after : History) {first second : Kind × Option ColumnType × String}
    (hkey : (first.1, first.2.1) ≠ (second.1, second.2.1)) (kind : Kind) (column : Option ColumnType) :
    last? (before ++ second :: first :: after) kind column =
      last? (before ++ first :: second :: after) kind column := by
  unfold last?
  simp only [List.filter_append, List.filter_cons]
  -- at most one of the two has the key that is asked for
  by_cases hfirst : first.1 = kind ∧ first.2.1 = column
  · have hsecond : ¬ (second.1 = kind ∧ second.2.1 = column) := fun hsecond =>
      hkey (Prod.ext (hfirst.1.trans hsecond.1.symm) (hfirst.2.trans hsecond.2.symm))
    simp only [hfirst, hsecond, decide_false, Bool.false_eq_true, if_false]
  · simp only [hfirst, decide_false, Bool.false_eq_true, if_false]

end History

/-! ## What registrations leave -/

structure Reflects (h : Handlers) (history : History) : Prop where
  lookup : ∀ kind column,
    (h.byKind.lookup kind).bind (·.lookup column) = history.last? kind column
  kinds : ∀ kind, (h.byKind.lookup kind).isSome = true ↔ ∃ entry ∈ history, entry.1 = kind
  ne_nil : ∀ kind handlers, h.byKind.lookup kind = some handlers → handlers ≠ []
  nodup : ∀ kind handlers, h.byKind.lookup kind = some handlers → (handlers.map (·.1)).Nodup
  names : ∀ name, name ∈ h.names ↔ ∃ entry ∈ history, entry.2.2 = name

theorem lookup_byKind_register (h : Handlers) (kind other : Kind) (column : Option ColumnType)
    (name : String) : (h.register kind column name).byKind.lookup other =
      if kind = other then some (setKey column name ((h.byKind.lookup kind).getD []))
      else h.byKind.lookup other :=
  lookup_setKey kind other _ h.byKind

theorem of_lookup_register {P : KindHandlers → Prop} {h : Handlers} {kind : Kind}
    {column : Option ColumnType} {name : String}
    (hnew : P (setKey column name ((h.byKind.lookup kind).getD [])))
    (hold : ∀ other handlers, h.byKind.lookup other = some handlers → P handlers) :
    ∀ other handlers, (h.register kind column name).byKind.lookup other = some handlers →
      P handlers := by
  intro other handlers hlookup
  rw [lookup_byKind_register] at hlookup
  split at hlookup
  · cases hlookup
    exact hnew
  · exact hold other handlers hlookup

namespace Reflects

variable {h : Handlers} {history : History}

theorem empty : Reflects empty [] where
  lookup _ _ := rfl
  kinds _ := by simp [Handlers.empty]
  ne_nil _ _ hlookup := nomatch hlookup
  nodup _ _ hlookup := nomatch hlookup
  names _ := by simp [Handlers.empty]

theorem lookup_getD (hh : h.Reflects history) (kind : Kind) (column : Option ColumnType) :
    ((h.byKind.lookup kind).getD []).lookup column = history.last? kind column := by
  rw [← hh.lookup]
  cases h.byKind.lookup kind <;> rfl

theorem nodup_getD (hh : h.Reflects history) (kind : Kind) :
    (((h.byKind.lookup kind).getD []).map (·.1)).Nodup := by
  cases hlookup : h.byKind.lookup kind with
  | none => exact List.nodup_nil
  | some handlers => exact hh.nodup kind handlers hlookup

/-- One more registration, one more entry of the history. -/
theorem register (hh : h.Reflects history) (kind : Kind) (column : Option ColumnType) (name : String) :
    (h.register kind column name).Reflects (history ++ [(kind, column, name)]) where
  lookup other c := by
    rw [lookup_byKind_register, History.last?_concat]
    by_cases hkind : kind = other
    · subst hkind
      simp only [if_true, Option.bind_some, lookup_setKey, hh.lookup_getD, true_and]
    · rw [if_neg hkind, if_neg (fun hk => hkind hk.1)]
      exact hh.lookup other c
  kinds other := by
    rw [lookup_byKind_register]
    by_cases hkind : kind = other
    · simp [hkind]
    · simpa [hkind] using hh.kinds other
  ne_nil := of_lookup_register (setKey_ne_nil column name _) hh.ne_nil
  nodup := of_lookup_register (nodup_keys_setKey (hh.nodup_getD kind) column name) hh.nodup
  names other := by
    rw [mem_names_register, hh.names]
    simp [or_comm, eq_comm]

theorem registerAll (hh : h.Reflects history) (entries : History) :
    (h.registerAll entries).Reflects (history ++ entries) := by
  induction entries generalizing h history with
  | nil => rwa [List.append_nil]
  | cons entry entries ih =>
    have hrest := ih (hh.register entry.1 entry.2.1 entry.2.2)
    rwa [List.append_assoc] at hrest

end Reflects

theorem reflects_registerAll (history : History) : (empty.registerAll history).Reflects history :=
  Reflects.empty.registerAll history

/-! ## Look-ups -/

theorem sole?_eq_some_iff {handlers : KindHandlers} {name : String} :
    sole? handlers = some name ↔ handlers ≠ [] ∧ ∀ entry ∈ handlers, entry.2 = name := by
  cases handlers with
  | nil => simp [sole?]
  | cons entry rest =>
    simp only [sole?, Option.ite_none_right_eq_some, Option.some.injEq, List.all_eq_true, beq_iff_eq,
      List.forall_mem_cons]
    constructor
    · rintro ⟨hrest, rfl⟩
      exact ⟨List.cons_ne_nil _ _, rfl, hrest⟩
    · rintro ⟨-, rfl, hrest⟩
      exact ⟨hrest, rfl⟩

theorem lookup_of_kind {h : Handlers} {kind : Kind} {handlers : KindHandlers}
    (hkind : h.byKind.lookup kind = some handlers) (column : Option ColumnType) :
    h.lookup kind column =
      (column.bind fun c => handlers.lookup (some c)).or
        ((handlers.lookup none).or (sole? handlers)) := by
  unfold lookup
  rw [hkind]
  simp only [Option.orElse_eq_orElse, Option.orElse_eq_or]
  rfl

namespace Reflects

variable {h : Handlers} {history : History} {kind : Kind} {column : Option ColumnType} {name : String}

theorem sole?_eq_some_iff_last? (hh : h.Reflects history) {handlers : KindHandlers}
    (hkind : h.byKind.lookup kind = some handlers) :
    sole? handlers = some name ↔ (∃ entry ∈ history, entry.1 = kind) ∧
      ∀ c other, history.last? kind c = some other → other = name := by
  have hlast : ∀ c other, history.last? kind c = some other ↔ (c, other) ∈ handlers := by
    intro c other
    rw [← hh.lookup, hkind, Option.bind_some]
    exact lookup_eq_some_iff_mem (hh.nodup kind handlers hkind)
  rw [sole?_eq_some_iff]
  constructor
  · rintro ⟨-, hall⟩
    exact ⟨(hh.kinds kind).mp (Option.isSome_of_eq_some hkind),
      fun c other ho => hall (c, other) ((hlast c other).mp ho)⟩
  · rintro ⟨⟨entry, he, rfl⟩, hall⟩
    obtain ⟨n, hn⟩ := History.exists_last? he
    exact ⟨List.ne_nil_of_mem ((hlast _ n).mp hn),
      fun e hmem => hall e.1 e.2 ((hlast e.1 e.2).mpr hmem)⟩

/-- What a look-up finds is what the history answers. -/
theorem lookup_eq_some_iff (hh : h.Reflects history) :
    h.lookup kind column = some name ↔ history.Answers kind column name := by
  cases hkind : h.byKind.lookup kind with
  | none =>
    -- a kind without handlers was never registered, so the history has no answer either
    have hmissing : ¬ ∃ entry ∈ history, entry.1 = kind := by
      rw [← hh.kinds, hkind]
      decide
    have hnone : h.lookup kind column = none := by
      unfold Handlers.lookup
      rw [hkind]
      rfl
    rw [hnone]
    exact ⟨fun hsome => (nomatch hsome), fun ha => absurd ha.registered hmissing⟩
  | some handlers =>
    have hlast : ∀ c, handlers.lookup c = history.last? kind c := fun c => by
      rw [← hh.lookup, hkind, Option.bind_some]
    rw [lookup_of_kind hkind, Option.or_eq_some_iff, Option.or_eq_some_iff,
      Option.bind_eq_some_iff, Option.bind_eq_none_iff, hh.sole?_eq_some_iff_last? hkind]
    simp only [hlast]
    constructor
    · rintro (⟨c, given, last⟩ | ⟨missing, last | ⟨special, registered, same⟩⟩)
      · exact .exact given last
      · exact .general missing last
      · exact .sole missing special registered same
    · intro ha
      cases ha with
      | exact given last => exact Or.inl ⟨_, given, last⟩
      | general missing last => exact Or.inr ⟨missing, Or.inl last⟩
      | sole missing special registered same =>
        exact Or.inr ⟨missing, Or.inr ⟨special, registered, same⟩⟩

/-- The kinds that have handlers are those of the history: no registration leaves a kind without any. -/
theorem has_iff (hh : h.Reflects history) :
    h.has kind = true ↔ ∃ entry ∈ history, entry.1 = kind := by
  rw [← hh.kinds]
  unfold has
  cases hkind : h.byKind.lookup kind with
  | none => rfl
  | some handlers => simpa using hh.ne_nil kind handlers hkind

end Reflects

theorem has_registerAll (history : History) (kind : Kind) :
    (empty.registerAll history).has kind = true ↔ ∃ entry ∈ history, entry.1 = kind :=
  (reflects_registerAll history).has_iff

theorem named?_registerAll (history : History) (name handler : String) :
    (empty.registerAll history).named? name = some handler ↔
      handler = name ∧ ∃ entry ∈ history, entry.2.2 = name := by
  rw [← (reflects_registerAll history).names]
  unfold named?
  simp [eq_comm, and_comm]

/-- Handlers that are registered one after the other answer what the history of the registrations says,
know the kinds and names in it, and do not depend on the order of registrations of different keys. -/
theorem lookup_registerAll (history : History) :
    let h := empty.registerAll history
    (∀ kind column name, h.lookup kind column = some name ↔ history.Answers kind column name) ∧
    (∀ kind, h.has kind = true ↔ ∃ entry ∈ history, entry.1 = kind) ∧
    (∀ name handler, h.named? name = some handler ↔
      handler = name ∧ ∃ entry ∈ history, entry.2.2 = name) ∧
    (∀ kind column name, h.lookup kind column = some name → h.named? name = some name) ∧
    ∀ before first second after, history = before ++ first :: second :: after →
      (first.1, first.2.1) ≠ (second.1, second.2.1) →
      let swapped := empty.registerAll (before ++ second :: first :: after)
      (∀ kind column, swapped.lookup kind column = h.lookup kind column) ∧
      (∀ kind, swapped.has kind = h.has kind) ∧ ∀ name, swapped.named? name = h.named? name := by
  intro h
  refine ⟨fun kind column name => (reflects_registerAll history).lookup_eq_some_iff,
    has_registerAll history, named?_registerAll history,
    fun kind column name => (Registered.empty.registerAll history).named?_of_lookup, ?_⟩
  rintro before first second after rfl hkey swapped
  have hperm : (before ++ second :: first :: after).Perm (before ++ first :: second :: after) :=
    (List.Perm.swap first second after).append_left before
  have hentries : ∀ P : Kind × Option ColumnType × String → Prop,
      (∃ entry ∈ before ++ second :: first :: after, P entry) ↔
        ∃ entry ∈ before ++ first :: second :: after, P entry := fun P => by simp only [hperm.mem_iff]
  have hlast := History.last?_swap before after hkey
  refine ⟨fun kind column => Option.ext fun name => ?_, fun kind => ?_, fun name => ?_⟩
  · rw [(reflects_registerAll _).lookup_eq_some_iff, (reflects_registerAll _).lookup_eq_some_iff]
    exact ⟨.congr (fun c => (hlast kind c).symm) (hentries _).mp, .congr (hlast kind) (hentries _).mpr⟩
  · rw [Bool.eq_iff_iff, has_registerAll, has_registerAll, hentries]
  · refine Option.ext fun handler => ?_
    rw [named?_registerAll, named?_registerAll, hentries]

theorem lookup_registerAll_money :
    let money : Kind := .record "Money"
    let before : History := [(money, some .decimal, "money"), (.text, none, "string")]
    let history : History := before ++ (money, some .numeric, "cash") :: (.text, some .numeric, "digits") ::
      [(money, some .numeric, "money")]
    let swapped : History := before ++ (.text, some .numeric, "digits") :: (money, some .numeric, "cash") ::
      [(money, some .numeric, "money")]
    (money, some ColumnType.numeric) ≠ (.text, some .numeric) ∧
      (empty.registerAll history).lookup money (some .varchar) = some "money" ∧
      history.Answers money (some .varchar) "money" ∧
      (empty.registerAll history).named? "cash" = some "cash" ∧
      (empty.registerAll swapped).lookup money (some .varchar) = some "money" := by
  intro money before history swapped
  have hkey : (money, some ColumnType.numeric) ≠ (.text, some .numeric) := by decide
  have hfound : (empty.registerAll history).lookup money (some .varchar) = some "money" := by decide
  obtain ⟨hlookup, -, hnamed, -, hswap⟩ := lookup_registerAll history
  obtain ⟨hsame, -, -⟩ := hswap before (money, some .numeric, "cash") (.text, some .numeric, "digits")
    [(money, some .numeric, "money")] rfl hkey
  exact ⟨hkey, hfound, (hlookup _ _ _).mp hfound, (hnamed _ _).mpr ⟨rfl, by decide⟩,
    (hsame _ _).trans hfound⟩

end Handlers

end SqlTemplate
