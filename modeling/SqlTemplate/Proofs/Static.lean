import SqlTemplate.Proofs.Emission
import SqlTemplate.Proofs.Lookup
import SqlTemplate.Proofs.Parameter
import SqlTemplate.Proofs.Uniform

/-!
# Static templates

A static template appends the same fragments whatever the bindings are, and asks no evaluator
(`Node.emits_static`). It can be made a statement once for all calls, or evaluated anew for each;
`fixed_agrees_dynamic` compares the two. The first knows no parameter when it is made and no
bindings when it is bound, so tokens that refer to the names every call starts with stand apart.
-/

namespace SqlTemplate

/-! ## The fragments of a static template -/

namespace Node

mutual

def fragments : Node → List String
  | .text sql => [sql]
  | .trim rule body => (rule.finish (String.join body.fragments)).toList
  | .sequence children => fragmentsOfAll children
  | _ => []

def fragmentsOfAll : List Node → List String
  | [] => []
  | node :: rest => node.fragments ++ fragmentsOfAll rest

end

variable (ev : Evaluator)

mutual

theorem emits_static (root : Node) (h : root.isDynamic = false) (c : Context) :
    Build.Emits (root.apply ev) c true root.fragments c := by
  cases root with
  | text sql => exact emits_text ev sql c
  | substitution _ _ => cases h
  | conditional _ _ => cases h
  | choice _ _ => cases h
  | loop _ _ => cases h
  | declare _ _ => cases h
  | trim rule body => exact emits_trim (emits_static body h c) rule
  | sequence children => exact emits_sequence (emits_staticAll children h c)

theorem emits_staticAll (children : List Node) (h : anyDynamic children = false) (c : Context) :
    Build.Emits (applyAll ev children) c () (fragmentsOfAll children) c := by
  cases children with
  | nil => exact .pure () c
  | cons node rest =>
    unfold anyDynamic at h
    rw [Bool.or_eq_false_iff] at h
    exact emits_applyAll_cons (emits_static node h.1 c) (emits_staticAll rest h.2 c)

end

/-- A static node succeeds in every context and under every evaluator, and does nothing but append
fragments, which are always the same: bindings, counter and trace stay as they are. -/
theorem apply_static {root : Node} (h : root.isDynamic = false) :
    ∃ fragments : List String, ∀ (ev : Evaluator) (c : Context),
      (root.apply ev).run c = .ok true { c with sink := fragments.foldl Sink.append c.sink } := by
  refine ⟨root.fragments, fun ev c => ?_⟩
  have hrun : (root.apply ev).run c = .ok true { c with sink := c.sink.feed root.fragments } :=
    emits_static ev root h c c.sink
  rw [hrun, Sink.foldl_append]

theorem apply_static_unanswered :
    let root : Node := .sequence
      [.text "UPDATE blog", .trim .setClause (.sequence [.text "", .text " title = #\x7bt\x7d,"])]
    let silent : Evaluator :=
      { value := fun expression _ => .error (.evaluation expression .notAnExpression) }
    let inside : Context :=
      { bindings := .start (.int 7) none true, counter := 3,
        sink := .numbering ⟨some "t", none, 2⟩ (.prefixed "," false .empty) }
    root.isDynamic = false ∧
      ∃ fragments : List String,
        (fragments.foldl Sink.append .empty).sql = "UPDATE blog SET title = #\x7bt\x7d" ∧
        (root.apply silent).run inside =
          .ok true { inside with sink := fragments.foldl Sink.append inside.sink } ∧
        (root.apply .paths).run (Context.start .empty) =
          .ok true { Context.start .empty with sink := fragments.foldl Sink.append .empty } := by
  intro root silent inside
  have hstatic : root.isDynamic = false := rfl
  obtain ⟨fragments, hrun⟩ := apply_static hstatic
  refine ⟨hstatic, fragments, ?_, hrun silent inside, hrun .paths _⟩
  have hsql : (root.evaluate .paths .empty).result.toOption.map (·.1) =
      some "UPDATE blog SET title = #\x7bt\x7d" := by decide +kernel
  unfold evaluate at hsql
  rw [hrun .paths] at hsql
  exact Option.some.inj hsql

def staticSql (root : Node) : String :=
  (Sink.empty.feed root.fragments).sql

theorem evaluate_static {root : Node} (h : root.isDynamic = false) (b : Bindings) :
    root.evaluate ev b = ⟨.ok (root.staticSql, b), []⟩ :=
  evaluate_of_emits (emits_static ev root h (Context.start b))

end Node

theorem Statement.ofNode_static {root : Node} (h : root.isDynamic = false) (config : Configuration)
    (kind : Kind) :
    ofNode config root kind = ofSql config root.staticSql kind (config.startBindings .null) := by
  unfold ofNode
  rw [Node.evaluate_static .paths h]
  rfl

/-! ## Names that every call starts with -/

namespace Configuration

variable (config : Configuration) (p p' : Value) {name property : String}

theorem get?_startBindings (h : name ≠ Bindings.parameterName) :
    (config.startBindings p).locals.get? name = (config.startBindings p').locals.get? name := by
  simp [startBindings, Bindings.start, Entries.ofList, Entries.insertAll, Entries.get?_insert,
    Ne.symm h]

theorem get?_startBindings_parameter :
    (config.startBindings p).locals.get? Bindings.parameterName = some p := rfl

theorem get?_startBindings_none (h : name ≠ Bindings.parameterName)
    (h' : name ≠ Bindings.databaseName) : (config.startBindings p).locals.get? name = none := by
  simp [startBindings, Bindings.start, Entries.ofList, Entries.insertAll, Entries.get?_insert,
    Entries.get?, Ne.symm h, Ne.symm h']

theorem localPath_startBindings (h : rootName property ≠ Bindings.parameterName) :
    (config.startBindings p).localPath property = (config.startBindings p').localPath property := by
  rw [Bindings.localPath_eq_follow, Bindings.localPath_eq_follow,
    get?_startBindings config p p' h]

end Configuration

/-! ## Two ways to bind a static template -/

inductive SameOutcome {α : Type} (R : α → α → Prop) : Except Fault α → Except Fault α → Prop
  | error (fault : Fault) : SameOutcome R (.error fault) (.error fault)
  | ok {a b : α} (h : R a b) : SameOutcome R (.ok a) (.ok b)

theorem SameOutcome.map_eq {α β : Type} {R : α → α → Prop} {x y : Except Fault α} (f : α → β)
    (h : SameOutcome R x y) (hR : ∀ a b, R a b → f a = f b) :
    x.toOption.map f = y.toOption.map f := by
  cases h with
  | error fault => rfl
  | ok hab => exact congrArg some (hR _ _ hab)

def Source.bindFixed (config : Configuration) (root : Node) (p : Value) :
    Except Fault BoundStatement :=
  (Statement.ofNode config root p.kind).map (·.bind p)

/-- What a name stands for is known before the parameter `p` is: it is not the name of the parameter,
or `p` is null. -/
def Value.KnownAhead (p : Value) (name : String) : Prop :=
  name = Bindings.parameterName → p = .null

namespace BoundStatement

structure Agrees (config : Configuration) (b b' : BoundStatement) : Prop where
  statement : b.statement = b'.statement
  values : b.values config = b'.values config
  columnTypes : b.columnTypes config = b'.columnTypes config

/-- What two bound statements have in common at one placeholder. -/
structure AgreesAt (config : Configuration) (b b' : BoundStatement) (q q' : Parameter) : Prop where
  alike : q.AlikeButKind q'
  same : b.parameter.KnownAhead (rootName q.property) → q = q'
  value : q.mode = .output ∨ b.parameter.KnownAhead (rootName q.property) ∧
      rootName q.property ≠ Bindings.databaseName →
    b.valueOf config q = b'.valueOf config q' ∧
      columnTypeOf config q (b.valueOf config q) = columnTypeOf config q' (b'.valueOf config q')

variable (config : Configuration) (statement statement' : Statement) {p : Value} {property : String}

theorem valueAt_bind (h : p.KnownAhead (rootName property))
    (h' : rootName property ≠ Bindings.databaseName) :
    (statement.bind p).valueAt config property =
      (BoundStatement.mk statement' p (config.startBindings p).locals).valueAt config property := by
  -- the parameter under its own name is null on both sides, and any other name is bound on
  -- neither
  by_cases hroot : rootName property = Bindings.parameterName
  · have hp := h hroot
    subst hp
    have hget : (config.startBindings .null).locals.get? (rootName property) = some .null := by
      rw [hroot]
      exact Configuration.get?_startBindings_parameter config .null
    have hdynamic := valueAt_of_get?
      ⟨statement', .null, (config.startBindings .null).locals⟩ config hget
    rw [hdynamic, Value.follow_null]
    rfl
  · have hnone := Configuration.get?_startBindings_none config p hroot h'
    unfold valueAt hasAdditional Entries.contains
    dsimp only
    rw [hnone]
    rfl

end BoundStatement

section
variable {root : Node} (hstatic : root.isDynamic = false)
include hstatic

theorem Source.bindFixed_eq (config : Configuration) (p : Value) :
    bindFixed config root p =
      (Statement.ofSql config root.staticSql p.kind (config.startBindings .null)).map
        (·.bind p) := by
  unfold bindFixed
  rw [Statement.ofNode_static hstatic]

theorem Source.bindDynamic_eq (ev : Evaluator) (config : Configuration) (p : Value) :
    (bindDynamic ev config root p).result =
      (Statement.ofSql config root.staticSql p.kind (config.startBindings p)).map
        (BoundStatement.mk · p (config.startBindings p).locals) := by
  unfold bindDynamic
  rw [Node.evaluate_static ev hstatic]
  change Source.bindResult _ _ _ = _
  unfold bindResult
  rw [Configuration.startBindings, Bindings.parameter_start]
  cases Statement.ofSql config root.staticSql p.kind _ <;> rfl

end

/-- What a content means does not depend on the parameter, as far as it is known ahead. -/
theorem Parameter.ofContent_startBindings {config : Configuration} {kind : Kind} {p : Value}
    {content : String}
    (h : ∀ name, Parameter.rootOf? content = some name → p.KnownAhead name) :
    ofContent config kind (config.startBindings .null) content =
      ofContent config kind (config.startBindings p) content := by
  refine ofContent_congr fun property hproperty => ?_
  by_cases hroot : rootName property = Bindings.parameterName
  · rw [h _ hproperty hroot]
  · exact Configuration.localPath_startBindings config .null p hroot

theorem Statement.ofSql_startBindings {config : Configuration} {sql : String} {kind : Kind}
    {p : Value}
    (h : ∀ content ∈ Delimiters.hash.tokens (prepare config sql), ∀ name,
      Parameter.rootOf? content = some name → p.KnownAhead name) :
    ofSql config sql kind (config.startBindings .null) =
      ofSql config sql kind (config.startBindings p) := by
  rw [ofSql_eq, ofSql_eq,
    Except.mapM_congr fun content hc => Parameter.ofContent_startBindings (h content hc)]

namespace BoundStatement

variable (config : Configuration) {p : Value} (statement statement' : Statement)

theorem valueOf_bind {q q' : Parameter} (hq : q.AlikeButKind q')
    (h : q.mode = .output ∨ p.KnownAhead (rootName q.property) ∧
      rootName q.property ≠ Bindings.databaseName) :
    (statement.bind p).valueOf config q =
      (BoundStatement.mk statement' p (config.startBindings p).locals).valueOf config q' := by
  unfold valueOf
  rw [← hq.mode_eq, ← hq.property_eq]
  rcases h with h | ⟨h, h'⟩
  · rw [if_pos h, if_pos h]
  · rw [valueAt_bind config statement statement' h h']

theorem agreesAt {content : String} {q q' : Parameter}
    (hq : Parameter.ofContent config p.kind (config.startBindings .null) content = .ok q)
    (hq' : Parameter.ofContent config p.kind (config.startBindings p) content = .ok q') :
    AgreesAt config (statement.bind p) ⟨statement', p, (config.startBindings p).locals⟩ q q' where
  alike := Parameter.ofContent_alike hq hq'
  same := by
    intro h
    have hroot := Parameter.rootOf?_eq hq
    rw [Parameter.ofContent_startBindings, hq'] at hq
    · exact (Except.ok.inj hq).symm
    · intro name hname
      rw [hroot] at hname
      cases hname
      exact h
  value := by
    intro h
    have halike := Parameter.ofContent_alike hq hq'
    have hvalue : (statement.bind p).valueOf config q =
        (BoundStatement.mk statement' p (config.startBindings p).locals).valueOf config q' :=
      valueOf_bind config statement statement' halike h
    refine ⟨hvalue, ?_⟩
    unfold columnTypeOf
    rw [hvalue, halike.columnType_eq]

/-- A statement whose tokens leave the names that calls start with alone binds the same values with
bindings and without. -/
theorem agrees_bind {sql : String}
    (hs : Statement.ofSql config sql p.kind (config.startBindings p) = .ok statement)
    (h : ∀ content ∈ Delimiters.hash.tokens (Statement.prepare config sql), ∀ name,
      Parameter.rootOf? content = some name →
        p.KnownAhead name ∧ name ≠ Bindings.databaseName) :
    Agrees config (statement.bind p) ⟨statement, p, (config.startBindings p).locals⟩ := by
  have hvalue : ∀ q ∈ statement.parameters, (statement.bind p).valueOf config q =
      (BoundStatement.mk statement p (config.startBindings p).locals).valueOf config q := by
    intro q hq
    obtain ⟨content, hc, hq⟩ := List.exists_of_forall₂_of_mem (Statement.forall₂_of_ofSql hs) hq
    exact valueOf_bind config statement statement rfl
      (Or.inr (h content hc _ (Parameter.rootOf?_eq hq)))
  refine ⟨rfl, List.map_congr_left hvalue, List.map_congr_left fun q hq => ?_⟩
  rw [hvalue q hq]

end BoundStatement

/-- What a static template becomes in the two ways to bind it. -/
theorem fixed_agrees_dynamic {root : Node} (hstatic : root.isDynamic = false) :
    (∀ ev bindings, root.evaluate ev bindings = ⟨.ok (root.staticSql, bindings), []⟩) ∧
    ∀ (ev : Evaluator) (config : Configuration) (p : Value),
      let contents := Delimiters.hash.tokens (Statement.prepare config root.staticSql)
      let fixed := Source.bindFixed config root p
      let dynamic := (Source.bindDynamic ev config root p).result
      ((∀ content ∈ contents, ∀ name, Parameter.rootOf? content = some name →
          p.KnownAhead name) →
        SameOutcome (fun b b' => b.statement = b'.statement) fixed dynamic) ∧
      ((∀ content ∈ contents, ∀ name, Parameter.rootOf? content = some name →
          p.KnownAhead name ∧ name ≠ Bindings.databaseName) →
        SameOutcome (BoundStatement.Agrees config) fixed dynamic) ∧
      ∀ b b', fixed = .ok b → dynamic = .ok b' →
        b.statement.sql = b'.statement.sql ∧
        List.Forall₂ (BoundStatement.AgreesAt config b b') b.statement.parameters
          b'.statement.parameters := by
  refine ⟨fun ev bindings => Node.evaluate_static ev hstatic bindings, ?_⟩
  intro ev config p contents fixed dynamic
  -- both ways are one final pass over the SQL of the template, with different bindings
  have hfixed : fixed = _ := Source.bindFixed_eq hstatic config p
  have hdynamic : dynamic = _ := Source.bindDynamic_eq hstatic ev config p
  refine ⟨?_, ?_, ?_⟩
  · intro h
    rw [hfixed, hdynamic, Statement.ofSql_startBindings h]
    cases Statement.ofSql config root.staticSql p.kind (config.startBindings p) with
    | error fault => exact .error fault
    | ok statement => exact .ok rfl
  · intro h
    rw [hfixed, hdynamic,
      Statement.ofSql_startBindings fun content hc name hn => (h content hc name hn).1]
    cases hs : Statement.ofSql config root.staticSql p.kind (config.startBindings p) with
    | error fault => exact .error fault
    | ok statement => exact .ok (BoundStatement.agrees_bind config statement hs h)
  · intro b b' hb hb'
    rw [hfixed] at hb
    rw [hdynamic] at hb'
    obtain ⟨statement, hs, rfl⟩ := Except.map_eq_ok.mp hb
    obtain ⟨statement', hs', rfl⟩ := Except.map_eq_ok.mp hb'
    refine ⟨?_, List.forall₂_of_common_left (fun content q q' hq hq' => ?_)
      (Statement.forall₂_of_ofSql hs) (Statement.forall₂_of_ofSql hs')⟩
    · exact (Statement.sql_of_ofSql hs).trans (Statement.sql_of_ofSql hs').symm
    · exact BoundStatement.agreesAt config statement statement' hq hq'

theorem fixed_agrees_dynamic_set :
    let root : Node := .trim .setClause
      (.sequence [.text "a = #\x7bname\x7d,", .text " b = #\x7bids[0]\x7d,"])
    let p : Value := .map [("ids", .list [.int 1]), ("name", .text "x")]
    root.isDynamic = false ∧
      (Source.bindFixed .standard root p).toOption.map (·.statement.sql) =
        some "SET a = ?, b = ?" ∧
      SameOutcome (BoundStatement.Agrees .standard) (Source.bindFixed .standard root p)
        (Source.bindDynamic .paths .standard root p).result := by
  intro root p
  have hstatic : root.isDynamic = false := rfl
  refine ⟨hstatic, by decide +kernel, ?_⟩
  refine ((fixed_agrees_dynamic hstatic).2 .paths .standard p).2.1 ?_
  have hroots : ∀ content ∈ Delimiters.hash.tokens (Statement.prepare .standard root.staticSql),
      Parameter.rootOf? content = some "name" ∨ Parameter.rootOf? content = some "ids" := by
    decide +kernel
  intro content hc name hname
  rcases hroots content hc with h | h
  · rw [h] at hname
    cases hname
    exact ⟨fun he => absurd he (by decide), by decide⟩
  · rw [h] at hname
    cases hname
    exact ⟨fun he => absurd he (by decide), by decide⟩

/-- The kind of a token that refers to the parameter by name stays open in a fixed statement, and
the database identifier is looked up in the parameter. -/
theorem fixed_disagrees_dynamic :
    let config : Configuration := { Configuration.standard with settings.databaseId := some "pg" }
    let p : Value := .map [("id", .int 1)]
    let database : Node := .text "#\x7b_databaseId\x7d"
    let parameter : Node := .text "#\x7b_parameter.id\x7d"
    (database.isDynamic = false ∧
      ¬ SameOutcome (BoundStatement.Agrees config) (Source.bindFixed config database p)
        (Source.bindDynamic .paths config database p).result) ∧
    (parameter.isDynamic = false ∧
      ¬ SameOutcome (BoundStatement.Agrees config) (Source.bindFixed config parameter p)
        (Source.bindDynamic .paths config parameter p).result) := by
  intro config p database parameter
  refine ⟨⟨rfl, fun h => ?_⟩, ⟨rfl, fun h => ?_⟩⟩
  · have hnull := h.map_eq (fun b => (b.values config).map Value.isNull)
      fun b b' hb => congrArg (List.map Value.isNull) hb.values
    exact absurd hnull (by decide +kernel)
  · have hparameters := h.map_eq (fun b => b.statement.parameters)
      fun b b' hb => congrArg Statement.parameters hb.statement
    exact absurd hparameters (by decide +kernel)

end SqlTemplate
