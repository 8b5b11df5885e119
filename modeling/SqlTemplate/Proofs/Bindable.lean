import SqlTemplate.Proofs.Parameter
import SqlTemplate.Source

/-!
# Parameters that can be bound

A handler that a look-up answers is one that was registered, so its name is known. The parameter of a
content is completed last, when its kind, its column type and its handler are settled: from there on
either a result map reads its rows or a known handler binds its value (`bindable_of_bind`).
-/

namespace SqlTemplate

/-! ## Registrations -/

theorem mem_setKey {α β : Type} [DecidableEq α] {key : α} {value : β} {pairs : List (α × β)}
    {e : α × β} (h : e ∈ setKey key value pairs) : e = (key, value) ∨ e ∈ pairs := by
  induction pairs with
  | nil => exact Or.inl (List.mem_singleton.mp h)
  | cons pair rest ih =>
    obtain ⟨k, v⟩ := pair
    simp only [setKey] at h
    by_cases hk : k = key
    · rw [if_pos hk, List.mem_cons] at h
      exact h.imp (fun he => hk ▸ he) (List.mem_cons_of_mem _)
    · rw [if_neg hk, List.mem_cons] at h
      rcases h with h | h
      · exact Or.inr (h ▸ List.mem_cons_self)
      · exact (ih h).imp_right (List.mem_cons_of_mem _)

namespace Handlers

inductive Registered : Handlers → Prop
  | empty : Registered empty
  | register {h : Handlers} (hh : Registered h) (kind : Kind) (column : Option ColumnType)
    (name : String) : Registered (h.register kind column name)

theorem Registered.registerAll {h : Handlers} (hh : Registered h)
    (entries : List (Kind × Option ColumnType × String)) : Registered (h.registerAll entries) := by
  induction entries generalizing h with
  | nil => exact hh
  | cons entry entries ih => exact ih (hh.register entry.1 entry.2.1 entry.2.2)

theorem registered_standard : Registered standard :=
  Registered.empty.registerAll _

def Named (h : Handlers) : Prop :=
  ∀ kind handlers, h.byKind.lookup kind = some handlers → ∀ e ∈ handlers, e.2 ∈ h.names

theorem mem_names_register {h : Handlers} {kind : Kind} {column : Option ColumnType}
    {name other : String} :
    other ∈ (h.register kind column name).names ↔ other = name ∨ other ∈ h.names := by
  unfold register
  dsimp only
  by_cases hname : h.names.contains name = true
  · rw [if_pos hname]
    refine ⟨Or.inr, fun ho => ho.elim (fun he => ?_) id⟩
    exact he ▸ List.contains_iff_mem.mp hname
  · rw [if_neg hname, List.mem_append, List.mem_singleton, or_comm]

theorem Named.register {h : Handlers} (hh : Named h) (kind : Kind) (column : Option ColumnType)
    (name : String) : Named (h.register kind column name) := by
  intro other handlers hlookup e he
  apply mem_names_register.mpr
  change (setKey kind _ h.byKind).lookup other = _ at hlookup
  rw [lookup_setKey] at hlookup
  by_cases hkind : kind = other
  · rw [if_pos hkind, Option.some.injEq] at hlookup
    subst hlookup
    rcases mem_setKey he with rfl | he
    · exact Or.inl rfl
    · cases hold : h.byKind.lookup kind with
      | none =>
        rw [hold] at he
        cases he
      | some old =>
        rw [hold] at he
        exact Or.inr (hh kind old hold e he)
  · rw [if_neg hkind] at hlookup
    exact Or.inr (hh other handlers hlookup e he)

theorem Registered.named {h : Handlers} (hh : Registered h) : Named h := by
  induction hh with
  | empty =>
    intro kind handlers hlookup
    cases hlookup
  | register _ kind column name ih => exact ih.register kind column name

theorem mem_of_lookup {h : Handlers} {kind : Kind} {column : Option ColumnType} {name : String}
    (hlookup : h.lookup kind column = some name) :
    ∃ handlers, h.byKind.lookup kind = some handlers ∧ ∃ e ∈ handlers, e.2 = name := by
  obtain ⟨handlers, hkind, hname⟩ := Option.bind_eq_some_iff.mp hlookup
  refine ⟨handlers, hkind, ?_⟩
  have hexact : ∀ c, handlers.lookup c = some name → ∃ e ∈ handlers, e.2 = name := by
    intro c hc
    obtain ⟨before, after, hsplit, _⟩ := List.lookup_eq_some_iff.mp hc
    exact ⟨(c, name), by simp [hsplit], rfl⟩
  have hsole : sole? handlers = some name → ∃ e ∈ handlers, e.2 = name := by
    intro hs
    cases handlers with
    | nil => cases hs
    | cons e rest =>
      simp only [sole?] at hs
      split at hs
      · exact ⟨e, List.mem_cons_self, Option.some.inj hs⟩
      · cases hs
  simp only [Option.orElse_eq_orElse, Option.orElse_eq_or, Option.or_eq_some_iff] at hname
  rcases hname with hc | ⟨_, hany | ⟨_, hs⟩⟩
  · obtain ⟨c, _, hc⟩ := Option.bind_eq_some_iff.mp hc
    exact hexact (some c) hc
  · exact hexact none hany
  · exact hsole hs

theorem Registered.named?_of_lookup {h : Handlers} (hh : Registered h) {kind : Kind}
    {column : Option ColumnType} {name : String} (hlookup : h.lookup kind column = some name) :
    h.named? name = some name := by
  obtain ⟨handlers, hkind, e, he, rfl⟩ := mem_of_lookup hlookup
  unfold named?
  rw [if_pos (List.contains_iff_mem.mpr (hh.named kind handlers hkind e he))]

theorem named?_eq_some {h : Handlers} {name handler : String} (hn : h.named? name = some handler) :
    h.named? handler = some handler := by
  have hname : name = handler := by
    unfold named? at hn
    split at hn
    · exact Option.some.inj hn
    · cases hn
  rwa [hname] at hn

end Handlers

/-! ## Finished parameters -/

namespace Parameter

/-- What a parameter is bound with: a result map if it yields rows, and else a handler whose name is
known. -/
structure Bindable (handlers : Handlers) (p : Parameter) : Prop where
  cursor : p.kind = .resultSet ∨ p.columnType = some .cursor → ∃ id, p.resultMap = some id
  value : p.kind ≠ .resultSet → p.columnType ≠ some .cursor →
    ∃ handler, p.handler = some handler ∧ handlers.named? handler = some handler

theorem isCursor_eq_true {p : Parameter} :
    p.isCursor = true ↔ p.kind = .resultSet ∨ p.columnType = some .cursor := by
  simp [isCursor]

theorem named?_of_option {config : Configuration} {content name handler : String} {kind : Kind}
    (h : some <$> (config.namedHandler kind name).mapError (Fault.within content) =
      .ok (some handler)) : config.handlers.named? handler = some handler := by
  unfold Configuration.namedHandler at h
  cases hn : config.handlers.named? name with
  | none =>
    rw [hn] at h
    cases h
  | some known =>
    rw [hn] at h
    cases h
    exact Handlers.named?_eq_some hn

section
variable {config : Configuration} (hconfig : config.handlers.Registered) {content : String}
include hconfig

theorem bindable_complete {p q : Parameter}
    (hhandler : ∀ handler ∈ p.handler, config.handlers.named? handler = some handler)
    (h : complete config content p = .ok q) : q.Bindable config.handlers := by
  unfold complete at h
  by_cases hcursor : p.isCursor = true
  · rw [if_pos hcursor] at h
    have hrows := isCursor_eq_true.mp hcursor
    split at h
    · rename_i hmap
      cases h
      exact ⟨fun _ => Option.isSome_iff_exists.mp hmap,
        fun hkind hcolumn => (hrows.elim hkind hcolumn).elim⟩
    · cases h
  · rw [if_neg hcursor] at h
    have hrows : ¬ (p.kind = .resultSet ∨ p.columnType = some .cursor) :=
      fun hrows => hcursor (isCursor_eq_true.mpr hrows)
    split at h
    · rename_i handler hsome
      cases h
      refine ⟨fun hc => absurd hc hrows, fun _ _ => ⟨handler, rfl, ?_⟩⟩
      simp only [Option.orElse_eq_orElse, Option.orElse_eq_or, Option.or_eq_some_iff] at hsome
      rcases hsome with hnamed | ⟨_, hlookup⟩
      · exact hhandler handler hnamed
      · exact hconfig.named?_of_lookup hlookup
    · cases h

theorem bindable_finish {columnType : Option ColumnType} {d : Draft} {p : Parameter}
    (h : finish config content columnType d = .ok p) : p.Bindable config.handlers := by
  unfold finish at h
  split at h
  · exact bindable_complete hconfig (by simp) h
  · obtain ⟨handler, hhandler, h⟩ := Except.bind_eq_ok.mp h
    refine bindable_complete hconfig (fun name hname => ?_) h
    cases hname
    exact named?_of_option hhandler

theorem bindable_ofContent {kind : Kind} {bindings : Bindings} {p : Parameter}
    (h : ofContent config kind bindings content = .ok p) : p.Bindable config.handlers := by
  obtain ⟨reference, _, h⟩ := Except.bind_eq_ok.mp h
  split at h
  · cases h
  · obtain ⟨columnType, _, h⟩ := Except.bind_eq_ok.mp h
    obtain ⟨d, _, h⟩ := Except.bind_eq_ok.mp h
    exact bindable_finish hconfig h

theorem bindable_ofSql {sql : String} {kind : Kind} {bindings : Bindings} {statement : Statement}
    (h : Statement.ofSql config sql kind bindings = .ok statement) :
    ∀ p ∈ statement.parameters, p.Bindable config.handlers := by
  intro p hp
  obtain ⟨content, _, hp⟩ := List.exists_of_forall₂_of_mem (Statement.forall₂_of_ofSql h) hp
  exact bindable_ofContent hconfig hp

end

end Parameter

/-! ## Sources -/

/-- The sources that a configuration gives rise to: a statement of SQL that was evaluated elsewhere, a
statement of a template or of SQL without an evaluation before it, and templates that every call
evaluates. -/
inductive Source.MadeBy (config : Configuration) : Source → Prop
  | static {sql : String} {kind : Kind} {bindings : Bindings} {statement : Statement}
    (h : Statement.ofSql config sql kind bindings = .ok statement) : MadeBy config (.fixed statement)
  | raw {root : Node} {kind : Kind} {statement : Statement}
    (h : Statement.ofNode config root kind = .ok statement) : MadeBy config (.fixed statement)
  | rawSql {sql : String} {kind : Kind} {statement : Statement}
    (h : Statement.ofRawSql config sql kind = .ok statement) : MadeBy config (.fixed statement)
  | dynamic (root : Node) : MadeBy config (.dynamic root)

theorem Source.MadeBy.ofSql_of_bind {config callConfig : Configuration} {source : Source}
    (hsource : source.MadeBy config) (hcall : ∀ root, source = .dynamic root → callConfig = config)
    {ev : Evaluator} {p : Value} {bound : BoundStatement}
    (hbound : (source.bind ev callConfig p).result = .ok bound) :
    ∃ sql kind bindings, Statement.ofSql config sql kind bindings = .ok bound.statement := by
  cases hsource with
  | static h =>
    cases hbound
    exact ⟨_, _, _, h⟩
  | raw h =>
    cases hbound
    obtain ⟨⟨sql, bindings⟩, _, h⟩ := Except.bind_eq_ok.mp h
    exact ⟨sql, _, bindings, h⟩
  | rawSql h =>
    cases hbound
    exact ⟨_, _, _, h⟩
  | dynamic root =>
    cases hcall root rfl
    obtain ⟨⟨sql, bindings⟩, _, h⟩ := Except.bind_eq_ok.mp hbound
    obtain ⟨statement, hs, h⟩ := Except.bind_eq_ok.mp h
    cases h
    exact ⟨sql, _, bindings, hs⟩

/-- Every parameter of a bound statement can be bound with what its configuration knows. A dynamic
source makes its statement with the configuration of the call. -/
theorem bindable_of_bind {config callConfig : Configuration}
    (hconfig : config.handlers.Registered) {source : Source} (hsource : source.MadeBy config)
    (hcall : ∀ root, source = .dynamic root → callConfig = config) (ev : Evaluator) (p : Value)
    {bound : BoundStatement} (hbound : (source.bind ev callConfig p).result = .ok bound) :
    ∀ q ∈ bound.statement.parameters, q.Bindable config.handlers := by
  obtain ⟨sql, kind, bindings, h⟩ := hsource.ofSql_of_bind hcall hbound
  exact Parameter.bindable_ofSql hconfig h

theorem bindable_of_bind_cursor :
    let config := { Configuration.standard with
      handlers := Handlers.standard.register (.record "Money") (some .decimal) "money" }
    let root : Node := .loop { collection := "xs", item := some "x" }
      (.text "#\x7bx\x7d #\x7bx, typeHandler=clob\x7d #\x7brows:CURSOR, resultMap=all\x7d")
    let p : Value := .map [("xs", .list [.record "Money" []])]
    config.handlers.Registered ∧ (Source.dynamic root).MadeBy config ∧
      (∀ other, Source.dynamic root = .dynamic other → config = config) ∧
      ∃ bound, ((Source.dynamic root).bind .paths config p).result = .ok bound ∧
        bound.statement.parameters.map (fun q => (q.kind, q.handler, q.resultMap)) =
          [(.record "Money", some "money", none), (.record "Money", some "clob", none),
           (.resultSet, none, some "all")] ∧
        ∀ q ∈ bound.statement.parameters, q.Bindable config.handlers := by
  intro config root p
  have hconfig : config.handlers.Registered := Handlers.registered_standard.register _ _ _
  have hsource : (Source.dynamic root).MadeBy config := .dynamic root
  have hparameters : ((Source.dynamic root).bind .paths config p).result.map (fun b =>
      b.statement.parameters.map fun q => (q.kind, q.handler, q.resultMap)) =
        .ok [(.record "Money", some "money", none), (.record "Money", some "clob", none),
          (.resultSet, none, some "all")] := by decide +kernel
  obtain ⟨bound, hbound, hqs⟩ := Except.map_eq_ok.mp hparameters
  exact ⟨hconfig, hsource, fun _ _ => rfl, bound, hbound, hqs,
    bindable_of_bind hconfig hsource (fun _ _ => rfl) .paths p hbound⟩

end SqlTemplate
