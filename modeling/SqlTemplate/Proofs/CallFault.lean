import SqlTemplate.Proofs.FirstFault
import SqlTemplate.Proofs.Screening

/-!
# Registration faults in calls

What is wrong with the grammar of a content can be told from the content: its options are read in the
same way whatever kind the value has (`ofContent_eq_error`). A dynamic template is accepted without a
look at its contents, so a call finds their faults in its final pass. `registrationFault_of_bind` says
exactly when a call fails with a fault of the registration phase.
-/

open Except (Fails)

namespace SqlTemplate

/-! ## Faults of a content -/

namespace Parameter

variable {config : Configuration} {content : String} {fault : Fault}

def draftOf (config : Configuration) (content : String) : Except Fault Draft := do
  let reference ← Reference.parse content
  match reference.target with
  | .expression _ => .error (.template .expressionParameter content)
  | .property property =>
    let _ ← columnTypeOf content reference
    Draft.setOptions config content ⟨{ property, kind := .object }, none⟩ reference.options

theorem Draft.setOption_eq_error {d : Draft} {name value : String} (d' : Draft)
    (h : d.setOption config content name value = .error fault) :
    d'.setOption config content name value = .error fault := by
  unfold setOption at h ⊢
  split at h
  · rcases Except.bind_eq_error.mp h with h | ⟨_, _, h⟩
    · exact Except.bind_eq_error.mpr (Or.inl h)
    · cases h
  · cases h
  · cases h
  · rcases Except.bind_eq_error.mp h with h | ⟨_, _, h⟩
    · exact Except.bind_eq_error.mpr (Or.inl h)
    · cases h
  · split at h
    · cases h
    · exact h
  · cases h
  · cases h
  · cases h
  · exact h
  · exact h

theorem Draft.setOptions_eq_error {d : Draft} {options : List (String × String)} (d' : Draft)
    (h : d.setOptions config content options = .error fault) :
    d'.setOptions config content options = .error fault := by
  induction options generalizing d d' with
  | nil => cases h
  | cons option options ih =>
    rcases Except.bind_eq_error.mp h with h | ⟨e, he, h⟩
    · exact Except.bind_eq_error.mpr (Or.inl (setOption_eq_error d' h))
    · cases hd' : d'.setOption config content option.1 option.2 with
      | error fault' =>
        rw [setOption_eq_error d hd'] at he
        cases he
      | ok e' => exact Except.bind_eq_error.mpr (Or.inr ⟨e', hd', ih e' h⟩)

/-- A fault of the registration phase is found in a content before a kind is looked at. -/
theorem ofContent_eq_error {kind : Kind} {bindings : Bindings} (hphase : fault.phase = .registration) :
    ofContent config kind bindings content = .error fault ↔ draftOf config content = .error fault := by
  unfold ofContent draftOf
  rw [Except.bind_eq_error, Except.bind_eq_error]
  refine or_congr Iff.rfl (exists_congr fun reference => and_congr_right fun _ => ?_)
  cases reference.target with
  | expression inner => simp only [Except.error.injEq]
  | property property =>
    rw [Except.bind_eq_error, Except.bind_eq_error]
    refine or_congr Iff.rfl (exists_congr fun columnType => and_congr_right fun _ => ?_)
    rw [ofProperty_eq, Except.bind_eq_error]
    constructor
    · rintro (h | ⟨d, _, h⟩)
      · exact Draft.setOptions_eq_error _ h
      · have htyping : fault.phase = .typeResolution := (typing_finish columnType d fault h).1
        rw [hphase] at htyping
        cases htyping
    · exact fun h => Or.inl (Draft.setOptions_eq_error _ h)

end Parameter

/-! ## Faults of an evaluation -/

/-- The last thing that happened is that the evaluator was asked, and it answered with a fault. -/
def Evaluator.Refuses (ev : Evaluator) (trace : List Event) (fault : Fault) : Prop :=
  ∃ expression bindings, trace.getLast? = some (.evaluated expression) ∧
    ev.Faults expression bindings fault

namespace Evaluator

theorem fails_items (expression : String) (nullable : Bool) (v : Value) :
    Fails (fun fault => fault.phase = .invocation) (items expression nullable v) := by
  unfold items
  split
  · split
    · exact .ok _
    · exact .error rfl
  · exact .ok _
  · exact .ok _
  · exact .ok _
  · exact .error rfl

theorem fails_value_paths (expression : String) (b : Bindings) :
    Fails (fun fault => fault.phase = .invocation) (paths.value expression b) := by
  change Fails _ (pathValue expression b)
  unfold pathValue
  dsimp only
  split
  · exact .ok _
  · split
    · exact .ok _
    · exact .error rfl

theorem phase_of_faults_paths {expression : String} {b : Bindings} {fault : Fault}
    (h : paths.Faults expression b fault) : fault.phase = .invocation := by
  cases h with
  | value h => exact fails_value_paths expression b fault h
  | test h =>
    rw [test_paths] at h
    exact fails_value_paths expression b fault (Except.map_eq_error.mp h)
  | collection h =>
    rw [collection_paths] at h
    exact (fails_value_paths expression b).bind (fun v => fails_items expression _ v) fault h

theorem not_refuses_paths {trace : List Event} {fault : Fault}
    (hphase : fault.phase = .registration) : ¬ paths.Refuses trace fault := by
  rintro ⟨expression, b, _, h⟩
  rw [phase_of_faults_paths h] at hphase
  cases hphase

end Evaluator

/-- Filters fail with faults of a call; a fault of the registration phase is the answer of the
evaluator. -/
theorem Node.refuses_of_evaluate {ev : Evaluator} {root : Node} {b : Bindings} {fault : Fault}
    (hphase : fault.phase = .registration) (h : (root.evaluate ev b).result = .error fault) :
    ev.Refuses (root.evaluate ev b).trace fault := by
  unfold evaluate at h ⊢
  cases hrun : (root.apply ev).run (Context.start b) with
  | ok applied c =>
    rw [hrun] at h
    cases h
  | error fault' c =>
    rw [hrun] at h
    cases h
    obtain ⟨c₁, _, hstop⟩ := stop_of_apply hrun
    cases hstop with
    | unanswered h => exact ⟨_, _, List.getLast?_concat, h⟩
    | rejected hpart hv hfilter => cases hphase

/-! ## Calls -/

/-- The first content of the SQL that has no parameter is at fault by itself. -/
def Statement.Malformed (config : Configuration) (sql : String) (kind : Kind) (bindings : Bindings)
    (fault : Fault) : Prop :=
  ∃ before content after,
    Delimiters.hash.tokens (prepare config sql) = before ++ content :: after ∧
    (∀ c ∈ before, ∃ q, Parameter.ofContent config kind bindings c = .ok q) ∧
    Parameter.draftOf config content = .error fault ∧ fault.fragment? = some content

theorem Statement.ofSql_eq_registrationFault {config : Configuration} {sql : String} {kind : Kind}
    {bindings : Bindings} {fault : Fault} (hphase : fault.phase = .registration) :
    ofSql config sql kind bindings = .error fault ↔ Malformed config sql kind bindings fault := by
  rw [ofSql_eq_error]
  unfold Malformed
  simp only [Parameter.ofContent_eq_error hphase]

/-- SQL with a malformed content has no final statement, whatever it is registered for. -/
theorem Statement.Malformed.ofSql_ne_ok {config : Configuration} {sql : String} {kind : Kind}
    {bindings : Bindings} {fault : Fault} (hphase : fault.phase = .registration)
    (h : Malformed config sql kind bindings fault) (kind' : Kind) (bindings' : Bindings)
    (statement : Statement) : ofSql config sql kind' bindings' ≠ .ok statement := by
  intro hok
  obtain ⟨before, content, after, htokens, _, hdraft, _⟩ := h
  have hmem : content ∈ Delimiters.hash.tokens (prepare config sql) := by simp [htokens]
  obtain ⟨q, _, hq⟩ := List.exists_of_forall₂_of_mem (forall₂_of_ofSql hok).flip hmem
  have herror := (@Parameter.ofContent_eq_error config content fault kind' bindings' hphase).mpr hdraft
  rw [herror] at hq
  cases hq

theorem Source.bindDynamic_eq_error {ev : Evaluator} {config : Configuration} {root : Node}
    {p : Value} {fault : Fault} :
    (bindDynamic ev config root p).result = .error fault ↔
      (root.evaluate ev (config.startBindings p)).result = .error fault ∨
      ∃ sql bindings, (root.evaluate ev (config.startBindings p)).result = .ok (sql, bindings) ∧
        Statement.ofSql config sql bindings.parameter.kind bindings = .error fault := by
  unfold bindDynamic bindResult
  dsimp only
  rw [Except.bind_eq_error]
  refine or_congr Iff.rfl ⟨?_, ?_⟩
  · rintro ⟨⟨sql, bindings⟩, he, h⟩
    rcases Except.bind_eq_error.mp h with h | ⟨_, _, h⟩
    · exact ⟨sql, bindings, he, h⟩
    · cases h
  · rintro ⟨sql, bindings, he, h⟩
    exact ⟨(sql, bindings), he, Except.bind_eq_error.mpr (Or.inl h)⟩

theorem Template.textNode_eq_text {config : Configuration} {text : String}
    (hsql : config.substituteVariables text = text)
    (htoken : Delimiters.dollar.hasToken text = false) : textNode config text = .text text := by
  unfold textNode
  rw [hsql]
  dsimp only
  rw [htoken]
  rfl

/-- A call of a fixed source does not fail. A call of a dynamic one fails with a fault of the
registration phase if the evaluator answers with such a fault, or if the evaluation gives SQL in which
the first content without a parameter is malformed. That fault depends on nothing that the call brings:
the SQL has no final statement without a call either. -/
theorem registrationFault_of_bind {config callConfig : Configuration} {contents : List Element}
    {text : String} {kind : Kind} {source : Source}
    (hsource : Template.source config contents kind = .ok source ∨
      Template.textSource config text kind = .ok source) (ev : Evaluator) (p : Value) :
    let e := source.bind ev callConfig p
    (∃ statement, source = .fixed statement ∧ e.result = .ok (statement.bind p)) ∨
    ∃ root, (Template.compile config contents = .ok root ∨ Template.textNode config text = root) ∧
      root.isDynamic = true ∧ source = .dynamic root ∧
      let evaluated := (root.evaluate ev (callConfig.startBindings p)).result
      ∀ fault, fault.phase = .registration →
        (e.result = .error fault ↔
          evaluated = .error fault ∧ ev.Refuses e.trace fault ∨
          ∃ sql bindings, evaluated = .ok (sql, bindings) ∧
            Statement.Malformed callConfig sql bindings.parameter.kind bindings fault) ∧
        ∀ sql kind bindings, Statement.Malformed callConfig sql kind bindings fault →
          ∀ kind' statement, Statement.ofRawSql callConfig sql kind' ≠ .ok statement := by
  intro e
  obtain ⟨root, hroot, hsourceOf⟩ : ∃ root,
      (Template.compile config contents = .ok root ∨ Template.textNode config text = root) ∧
        Template.sourceOf config root kind = .ok source := by
    rcases hsource with h | h
    · obtain ⟨root, hroot, h⟩ := Except.bind_eq_ok.mp h
      exact ⟨root, Or.inl hroot, h⟩
    · exact ⟨_, Or.inr rfl, h⟩
  rcases Template.sourceOf_eq_ok hsourceOf with ⟨hdynamic, rfl⟩ | ⟨statement, rfl⟩
  · refine Or.inr ⟨root, hroot, hdynamic, rfl, fun fault hphase => ⟨?_, ?_⟩⟩
    · refine Source.bindDynamic_eq_error.trans (or_congr ?_ ?_)
      · exact ⟨fun h => ⟨h, Node.refuses_of_evaluate hphase h⟩, And.left⟩
      · simp only [Statement.ofSql_eq_registrationFault hphase]
    · intro sql kind bindings hmalformed kind' statement
      exact hmalformed.ofSql_ne_ok hphase kind' _ statement
  · exact Or.inl ⟨statement, rfl, rfl⟩

theorem registrationFault_of_bind_branch :
    let contents : List Element :=
      [.text "a", .element "if" [("test", "on")] [.text "#\x7bid, scale=2\x7d"]]
    let fault : Fault := .template (.unknownOption "scale" "id, scale=2") "id, scale=2"
    let p (on : Bool) : Value := .map [("on", .bool on)]
    ∃ source, Template.source .standard contents .map = .ok source ∧
      (∃ bound, (source.bind .paths .standard (p false)).result = .ok bound) ∧
      (source.bind .paths .standard (p true)).result = .error fault ∧
      ∃ sql bindings,
        Statement.Malformed .standard sql bindings.parameter.kind bindings fault := by
  intro contents fault p
  let root : Node := .sequence [.text "a", .conditional "on" (.sequence [.text "#\x7bid, scale=2\x7d"])]
  have hbefore : Template.textNode .standard "a" = .text "a" :=
    Template.textNode_eq_text (by decide +kernel) (by decide +kernel)
  have hinside : Template.textNode .standard "#\x7bid, scale=2\x7d" = .text "#\x7bid, scale=2\x7d" :=
    Template.textNode_eq_text (by decide +kernel) (by decide +kernel)
  have hsource : Template.source .standard contents .map = .ok (.dynamic root) := by
    unfold Template.source Template.compile
    simp only [contents, Template.compileAll, Template.compileElement, hbefore, hinside]
    rfl
  have hcalls : ((Source.bindDynamic .paths .standard root (p false)).result.map (·.statement),
      (Source.bindDynamic .paths .standard root (p true)).result.map (·.statement)) =
        (.ok ⟨"a", []⟩, .error fault) := by decide +kernel
  obtain ⟨hoff, hon⟩ := Prod.ext_iff.mp hcalls
  obtain ⟨bound, hbound, _⟩ := Except.map_eq_ok.mp hoff
  have hfault := Except.map_eq_error.mp hon
  refine ⟨_, hsource, ⟨bound, hbound⟩, hfault, ?_⟩
  rcases @registrationFault_of_bind .standard .standard contents "" .map _ (Or.inl hsource) .paths
    (p true) with ⟨_, hfixed, _⟩ | ⟨_, _, _, _, hiff⟩
  · cases hfixed
  · rcases (hiff fault rfl).1.mp hfault with ⟨_, hrefuses⟩ | ⟨sql, bindings, _, hmalformed⟩
    · exact absurd hrefuses (Evaluator.not_refuses_paths rfl)
    · exact ⟨sql, bindings, hmalformed⟩

/-- A text that is accepted, and a call of it that fails on its grammar. -/
theorem registrationFault_of_bind_syntax :
    let text := "$\x7ba\x7d #\x7bid:\x7d"
    let fault : Fault := .reference "id:" 3
    fault.phase = .registration ∧
      ∃ source, Template.textSource .standard text .map = .ok source ∧
        (source.bind .paths .standard (.map [("a", .text "x")])).result = .error fault := by
  intro text fault
  have hcall : (Template.textSource .standard text .map).map (fun source =>
      (source.bind .paths .standard (.map [("a", .text "x")])).result.map BoundStatement.statement) =
        .ok (.error fault) := by decide +kernel
  obtain ⟨source, hsource, hfault⟩ := Except.map_eq_ok.mp hcall
  exact ⟨rfl, source, hsource, Except.map_eq_error.mp hfault⟩

end SqlTemplate
