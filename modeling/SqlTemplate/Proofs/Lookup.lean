import SqlTemplate.Proofs.Evaluation
import SqlTemplate.Proofs.Pass

/-!
# The value of a placeholder

A path is looked up twice: by the bindings while a template is evaluated, and by the bound statement
when a placeholder is filled. `valueAt_eq_getPath` says that the two agree as long as no parameter
stands for every name, and `ParameterKept` that a run does not change which parameter that is.
-/

namespace SqlTemplate

/-! ## Two lookups -/

namespace BoundStatement

theorem valueAt_of_get? (b : BoundStatement) (config : Configuration) {property : String} {v : Value}
    (h : b.additional.get? (rootName property) = some v) :
    b.valueAt config property = (v.follow (Path.ofText property)).getD .null := by
  unfold valueAt hasAdditional Entries.contains
  rw [h]
  change ((b.additional.get? (rootName property)).bind (·.follow (Path.ofText property))).getD _ = _
  rw [h, Option.bind_some]

theorem valueAt_eq_getPath (statement : Statement) (b : Bindings) (config : Configuration) {property : String}
    (hanswers : b.answersAll = false)
    (hwhole : b.parameter.isNull = false → config.hasHandler b.parameter.kind = false)
    (hroot : rootName property ≠ "") :
    (BoundStatement.mk statement b.parameter b.locals).valueAt config property =
      (b.getPath property).getD .null := by
  cases h : b.locals.get? (rootName property) with
  | some v =>
    rw [valueAt_of_get? _ config h, Bindings.getPath_eq_follow, Bindings.get_of_get? h,
      Option.bind_some]
  | none =>
    have hget : b.get (rootName property) = b.fallback (rootName property) := by
      unfold Bindings.get
      rw [h]
    rw [Bindings.getPath_eq_follow, hget]
    unfold Bindings.fallback valueAt hasAdditional bindsWhole Entries.contains
    dsimp only
    rw [h]
    cases hnull : b.parameter.isNull with
    | true => simp
    | false => simp [hanswers, hwhole hnull, Value.getPath_eq_follow _ hroot]

end BoundStatement

/-! ## The parameter of a run -/

structure ParameterKept (b b' : Bindings) : Prop where
  parameter : b'.parameter = b.parameter
  answersAll : b'.answersAll = b.answersAll

namespace ParameterKept

variable {ev : Evaluator} {root : Node} {c c' : Context}

theorem refl (b : Bindings) : ParameterKept b b := ⟨rfl, rfl⟩

theorem trans {b₁ b₂ b₃ : Bindings} (h : ParameterKept b₁ b₂) (h' : ParameterKept b₂ b₃) :
    ParameterKept b₁ b₃ :=
  ⟨h'.parameter.trans h.parameter, h'.answersAll.trans h.answersAll⟩

theorem step (hroot : Bindings.parameterName ∉ root.boundNames)
    (hstep : c.Step ev root.parts c') : ParameterKept c.bindings c'.bindings := by
  have hne : ∀ name ∈ root.boundNames, name ≠ Bindings.parameterName := by
    rintro name hname rfl
    exact hroot hname
  cases hstep with
  | sink s => exact refl _
  | asked expression => exact refl _
  | substituted hpart hv hfilter => exact refl _
  | seeded => exact ⟨Bindings.parameter_bind _ (by decide) _, rfl⟩
  | declared hpart hv =>
    exact ⟨Bindings.parameter_bind _ (hne _ (Node.mem_boundNames_declare hpart)) _, rfl⟩
  | @entered header _ hpart item =>
    have hitem := fun x hx => hne x (Node.mem_boundNames_item hpart hx)
    have hindex := fun x hx => hne x (Node.mem_boundNames_index hpart hx)
    refine ⟨?_, by simp [Context.enter]⟩
    exact (Bindings.parameter_bindVariable _ _ hitem _).trans
      (Bindings.parameter_bindVariable _ _ hindex _)
  | @left header _ hpart =>
    have hitem := fun x hx => hne x (Node.mem_boundNames_item hpart hx)
    have hindex := fun x hx => hne x (Node.mem_boundNames_index hpart hx)
    refine ⟨?_, by simp [Context.leave]⟩
    exact (Bindings.parameter_releaseVariable _ hindex).trans
      (Bindings.parameter_releaseVariable _ hitem)

theorem run (hroot : Bindings.parameterName ∉ root.boundNames)
    (hrun : Relation.ReflTransGen (Context.Step ev root.parts) c c') :
    ParameterKept c.bindings c'.bindings := by
  induction hrun with
  | refl => exact refl _
  | tail _ hstep ih => exact ih.trans (step hroot hstep)

end ParameterKept

/-! ## What placeholders are bound to -/

theorem Source.bindDynamic_eq_ok {ev : Evaluator} {config : Configuration} {root : Node} {p : Value}
    {bound : BoundStatement} :
    (bindDynamic ev config root p).result = .ok bound ↔
      ∃ sql bindings statement,
        (root.evaluate ev (config.startBindings p)).result = .ok (sql, bindings) ∧
        Statement.ofSql config sql bindings.parameter.kind bindings = .ok statement ∧
        bound = ⟨statement, bindings.parameter, bindings.locals⟩ := by
  unfold bindDynamic bindResult
  simp only [Except.bind_eq_ok]
  constructor
  · rintro ⟨⟨sql, bindings⟩, he, statement, hs, hb⟩
    cases hb
    exact ⟨sql, bindings, statement, he, hs, rfl⟩
  · rintro ⟨sql, bindings, statement, he, hs, rfl⟩
    exact ⟨(sql, bindings), he, statement, hs, rfl⟩

/-- A placeholder whose property has a name at its root is bound to what the template saw at the
path: its value in the bindings that the evaluation left, or null. -/
theorem values_of_bindDynamic {ev : Evaluator} {config : Configuration} {root : Node} {p : Value}
    {bound : BoundStatement} (hroot : Bindings.parameterName ∉ root.boundNames)
    (hwhole : p.isNull = false → config.hasHandler p.kind = false)
    (hbound : (Source.bindDynamic ev config root p).result = .ok bound) :
    ∃ sql bindings,
      (root.evaluate ev (config.startBindings p)).result = .ok (sql, bindings) ∧
      ∀ (i : Nat) (q : Parameter), bound.statement.parameters[i]? = some q → q.mode ≠ .output →
        rootName q.property ≠ "" →
        (bound.values config)[i]? = some ((bindings.getPath q.property).getD .null) := by
  obtain ⟨sql, bindings, statement, he, _, rfl⟩ := Source.bindDynamic_eq_ok.mp hbound
  refine ⟨sql, bindings, he, fun i q hq hmode hname => ?_⟩
  obtain ⟨applied, c, hrun, _, rfl⟩ := Node.evaluate_eq_ok.mp he
  have hkept : ParameterKept (config.startBindings p) c.bindings :=
    ParameterKept.run hroot (Node.steps_of_apply hrun)
  have hparameter : c.bindings.parameter = p := hkept.parameter
  have hanswers : c.bindings.answersAll = false := by
    rw [hkept.answersAll]
    change (config.hasHandler p.kind && !p.isNull) = false
    cases hnull : p.isNull with
    | true => simp
    | false => simp [hwhole hnull]
  unfold BoundStatement.values
  rw [List.getElem?_map, hq, Option.map_some, BoundStatement.valueOf, if_neg hmode,
    BoundStatement.valueAt_eq_getPath statement c.bindings config hanswers (hparameter ▸ hwhole)
      hname]

theorem values_of_bindDynamic_names :
    let root : Node := .sequence
      [.declare "n" "id",
       .loop { collection := "ids", item := some "x" } (.text "#\x7bx\x7d #\x7bn\x7d"),
       .text "#\x7bids[1]\x7d #\x7b_parameter.id\x7d"]
    let p : Value := .map [("id", .int 7), ("ids", .list [.int 1, .int 2])]
    Bindings.parameterName ∉ root.boundNames ∧
      (p.isNull = false → Configuration.standard.hasHandler p.kind = false) ∧
      ∃ bound, (Source.bindDynamic .paths .standard root p).result = .ok bound ∧
        bound.statement.parameters.map (·.property) =
          ["__frch_x_0", "n", "__frch_x_1", "n", "ids[1]", "_parameter.id"] ∧
        ∃ sql bindings,
          (root.evaluate .paths (Configuration.standard.startBindings p)).result =
            .ok (sql, bindings) ∧
          ∀ (i : Nat) (q : Parameter), bound.statement.parameters[i]? = some q →
            q.mode ≠ .output → rootName q.property ≠ "" →
            (bound.values .standard)[i]? = some ((bindings.getPath q.property).getD .null) := by
  intro root p
  have hroot : Bindings.parameterName ∉ root.boundNames := by decide +kernel
  have hwhole : p.isNull = false → Configuration.standard.hasHandler p.kind = false := by
    decide +kernel
  have hproperties : ((Source.bindDynamic .paths .standard root p).result.toOption.map
      fun b => b.statement.parameters.map (·.property)) =
        some ["__frch_x_0", "n", "__frch_x_1", "n", "ids[1]", "_parameter.id"] := by decide +kernel
  refine ⟨hroot, hwhole, ?_⟩
  cases hbound : (Source.bindDynamic .paths .standard root p).result with
  | error _ => rw [hbound] at hproperties; cases hproperties
  | ok bound =>
    rw [hbound] at hproperties
    exact ⟨bound, rfl, Option.some.inj hproperties, values_of_bindDynamic hroot hwhole hbound⟩

end SqlTemplate
