import SqlTemplate.Proofs.Entries
import SqlTemplate.Proofs.Lookup
import SqlTemplate.Proofs.Parameter

/-!
# The kind of a bound value

The kind of a parameter is settled before its value is looked up, by other definitions that look at
the same places in another order. `kind_valueAt` says where the two meet: at a root that is bound,
and at a parameter that is bound as a whole. Both read the parameter that the evaluation left, which
a template may replace by binding its name.
-/

namespace SqlTemplate

def Reference.LeavesKind (content : String) : Prop :=
  ∃ reference, Reference.parse content = .ok reference ∧
    reference.options.get? "javaType" = none

theorem Parameter.kind_of_ofContent {config : Configuration} {kind : Kind} {bindings : Bindings}
    {content : String} {p : Parameter} (h : ofContent config kind bindings content = .ok p)
    (hleaves : Reference.LeavesKind content) :
    ∃ columnType, p.kind = propertyKind config kind bindings columnType p.property := by
  obtain ⟨reference, property, columnType, d, hr, _, _, hd, hp⟩ := ofContent_eq_ok h
  obtain ⟨reference', hr', hnone⟩ := hleaves
  rw [hr] at hr'
  cases hr'
  obtain ⟨hproperty, hkind⟩ := Draft.setOptions_kept hd
  refine ⟨columnType, ?_⟩
  rw [hp]
  dsimp only
  rw [hproperty]
  exact hkind (Entries.ne_of_get?_eq_none hnone)

/-- Where the root is bound, or the parameter is bound as a whole, a property has the kind of its
value. A null parameter is no exception: it is null everywhere, and of the kind that has the handler. -/
theorem BoundStatement.kind_valueAt {config : Configuration} {statement : Statement} {b : Bindings}
    {columnType : Option ColumnType} {property : String}
    (h : b.isBound (rootName property) = true ∨ config.hasHandler b.parameter.kind = true) :
    ((BoundStatement.mk statement b.parameter b.locals).valueAt config property).kind =
      Parameter.propertyKind config b.parameter.kind b columnType property := by
  unfold Parameter.propertyKind
  rw [Bindings.localPath_eq_follow]
  cases hroot : b.locals.get? (rootName property) with
  | some v => rw [valueAt_of_get? _ config hroot, Option.map_some]
  | none =>
    have hunbound : b.isBound (rootName property) = false := by
      simp [Bindings.isBound, Entries.contains, hroot]
    have hhandler : config.hasHandler b.parameter.kind = true := by
      rw [hunbound] at h
      exact h.resolve_left Bool.false_ne_true
    rw [Option.map_none]
    dsimp only
    rw [if_pos hhandler]
    unfold valueAt hasAdditional bindsWhole Entries.contains
    dsimp only
    rw [hroot, hhandler]
    cases hnull : b.parameter with
    | null => rfl
    | _ => simp [Value.isNull]

theorem BoundStatement.getElem?_values (b : BoundStatement) (config : Configuration) {i : Nat}
    {q : Parameter} (hq : b.statement.parameters[i]? = some q) (hmode : q.mode ≠ .output) :
    (b.values config)[i]? = some (b.valueAt config q.property) := by
  unfold values
  rw [List.getElem?_map, hq, Option.map_some, valueOf, if_neg hmode]

/-- A placeholder whose content states no kind is bound to a value of the kind that was settled for
it, if the root of its property is bound in the end or the parameter of the statement is bound as a
whole. That parameter is the one of the call, unless the template binds its name. -/
theorem kind_of_bindDynamic {ev : Evaluator} {config : Configuration} {root : Node} {p : Value}
    {bound : BoundStatement} (hbound : (Source.bindDynamic ev config root p).result = .ok bound) :
    ∃ sql bindings,
      (root.evaluate ev (config.startBindings p)).result = .ok (sql, bindings) ∧
      bound.parameter = bindings.parameter ∧
      (Bindings.parameterName ∉ root.boundNames → bound.parameter = p) ∧
      (Delimiters.hash.tokens (Statement.prepare config sql)).length =
        bound.statement.parameters.length ∧
      ∀ (i : Nat) (content : String) (q : Parameter),
        (Delimiters.hash.tokens (Statement.prepare config sql))[i]? = some content →
        bound.statement.parameters[i]? = some q →
        Reference.LeavesKind content → q.mode ≠ .output →
        (bindings.isBound (rootName q.property) = true ∨
          config.hasHandler bound.parameter.kind = true) →
        ∃ v, (bound.values config)[i]? = some v ∧ q.kind = v.kind := by
  obtain ⟨sql, bindings, statement, he, hs, rfl⟩ := Source.bindDynamic_eq_ok.mp hbound
  have hpairs := Statement.forall₂_of_ofSql hs
  refine ⟨sql, bindings, he, rfl, fun hroot => ?_, hpairs.length_eq, ?_⟩
  · obtain ⟨applied, c, hrun, _, rfl⟩ := Node.evaluate_eq_ok.mp he
    exact (ParameterKept.run hroot (Node.steps_of_apply hrun)).parameter
  · intro i content q hcontent hq hleaves hmode hcase
    have hof : Parameter.ofContent config bindings.parameter.kind bindings content = .ok q := by
      obtain ⟨hi, rfl⟩ := List.getElem?_eq_some_iff.mp hcontent
      obtain ⟨hi', rfl⟩ := List.getElem?_eq_some_iff.mp hq
      exact hpairs.get hi hi'
    obtain ⟨columnType, hkind⟩ := Parameter.kind_of_ofContent hof hleaves
    refine ⟨_, BoundStatement.getElem?_values _ config hq hmode, ?_⟩
    rw [hkind, BoundStatement.kind_valueAt hcase]

theorem kind_of_bindDynamic_money :
    let config := { Configuration.standard with
      handlers := Handlers.standard.register (.record "Money") none "money" }
    let root : Node := .sequence [.declare "n" "amount", .text "#\x7bn\x7d #\x7bother\x7d"]
    let p : Value := .record "Money" [("amount", .int 5)]
    ∃ bound, (Source.bindDynamic .paths config root p).result = .ok bound ∧
      bound.parameter = p ∧
      bound.statement.parameters.map (·.kind) = [.int, .record "Money"] ∧
      ∀ (i : Nat) (q : Parameter), bound.statement.parameters[i]? = some q →
        ∃ v, (bound.values config)[i]? = some v ∧ q.kind = v.kind := by
  intro config root p
  have hroot : Bindings.parameterName ∉ root.boundNames := by decide +kernel
  have hsql : (root.evaluate .paths (config.startBindings p)).result.map Prod.fst =
      .ok "#\x7bn\x7d #\x7bother\x7d" := by decide +kernel
  have hparameters : (Source.bindDynamic .paths config root p).result.map
      (fun b => b.statement.parameters) =
        .ok [{ property := "n", kind := .int, handler := some "long" },
          { property := "other", kind := .record "Money", handler := some "money" }] := by
    decide +kernel
  obtain ⟨bound, hbound, hqs⟩ := Except.map_eq_ok.mp hparameters
  obtain ⟨sql, bindings, he, _, hkept, hlength, hkind⟩ := kind_of_bindDynamic hbound
  have hp : bound.parameter = p := hkept hroot
  have hwhole : config.hasHandler bound.parameter.kind = true := by
    rw [hp]
    decide +kernel
  rw [he] at hsql
  cases Except.ok.inj hsql
  have htokens : Delimiters.hash.tokens (Statement.prepare config "#\x7bn\x7d #\x7bother\x7d") =
      ["n", "other"] := by decide +kernel
  have hleaves : ∀ content ∈ ["n", "other"], Reference.LeavesKind content := by
    simp only [List.forall_mem_cons, List.not_mem_nil, false_implies, implies_true, and_true]
    exact ⟨⟨⟨.property "n", none, []⟩, by decide +kernel, rfl⟩,
      ⟨.property "other", none, []⟩, by decide +kernel, rfl⟩
  have hmode : ∀ r ∈ bound.statement.parameters, r.mode ≠ .output := by
    rw [hqs]
    decide
  refine ⟨bound, hbound, hp, by rw [hqs]; rfl, fun i q hq => ?_⟩
  obtain ⟨hi, _⟩ := List.getElem?_eq_some_iff.mp hq
  have hcontent := List.getElem?_eq_getElem (hlength ▸ hi)
  have hmem := List.mem_of_getElem? hcontent
  exact hkind i _ q hcontent hq (hleaves _ (htokens ▸ hmem)) (hmode q (List.mem_of_getElem? hq))
    (Or.inr hwhole)

/-- The parameter of the call has a handler and gives way to one of its parts, which is a map: a
number is bound where an object was announced. -/
theorem kind_of_bindDynamic_replaced :
    let config := { Configuration.standard with
      handlers := Handlers.standard.register (.record "Money") none "money" }
    let root : Node := .sequence [.declare "_parameter" "parts", .text "#\x7bx\x7d"]
    let p : Value := .record "Money" [("parts", .map [("x", .int 1)])]
    config.hasHandler p.kind = true ∧ Reference.LeavesKind "x" ∧
      ∃ bound, (Source.bindDynamic .paths config root p).result = .ok bound ∧
        Delimiters.hash.tokens "#\x7bx\x7d" = ["x"] ∧
        (bound.statement.parameters.map fun q => (q.mode, q.kind)) = [(.input, .object)] ∧
        (bound.values config).map Value.kind = [.int] := by
  intro config root p
  have hcall : (Source.bindDynamic .paths config root p).result.map (fun b =>
      (b.statement.parameters.map fun q => (q.mode, q.kind), (b.values config).map Value.kind)) =
        .ok ([(.input, .object)], [.int]) := by decide +kernel
  obtain ⟨bound, hbound, hpair⟩ := Except.map_eq_ok.mp hcall
  obtain ⟨hparameters, hvalues⟩ := Prod.ext_iff.mp hpair
  exact ⟨by decide +kernel, ⟨⟨.property "x", none, []⟩, by decide +kernel, rfl⟩,
    bound, hbound, by decide +kernel, hparameters, hvalues⟩

end SqlTemplate
