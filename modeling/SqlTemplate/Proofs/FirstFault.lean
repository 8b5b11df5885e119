import SqlTemplate.Proofs.Parameter

/-!
# The first fault of the final pass

A content that has no parameter has a fault that shows this content, whichever of its parts is at
fault (`showing_ofContent`). The pass succeeds if every content of the text has a parameter, and
otherwise its fault is that of the first one that has none (`ofSql_firstFault`).
-/

open Except (Fails)

namespace SqlTemplate

/-! ## What faults show -/

namespace Fault

def fragment? : Fault → Option String
  | template _ fragment | typing _ fragment => some fragment
  | reference content _ => some content
  | evaluation .. | rejected .. | settings _ => none

theorem phase_within (content : String) (fault : Fault) :
    (fault.within content).phase = fault.phase := by
  cases fault <;> rfl

theorem fragment?_within {content : String} {fault : Fault} (h : fault.phase = .typeResolution) :
    (fault.within content).fragment? = some content := by
  cases fault with
  | typing cause fragment => rfl
  | template cause fragment => cases h
  | reference content position => cases h
  | evaluation expression cause => cases h
  | rejected value pattern => cases h
  | settings cause => cases h

end Fault

/-! ## Names that options give -/

namespace Configuration

variable (config : Configuration) (name : String)

theorem fails_namedKind :
    Fails (fun fault => fault.phase = .typeResolution) (config.namedKind name) := by
  unfold namedKind
  dsimp only
  split
  · exact .ok _
  · split
    · exact .ok _
    · exact .error rfl

theorem fails_namedHandler (kind : Kind) :
    Fails (fun fault => fault.phase = .typeResolution) (config.namedHandler kind name) := by
  unfold namedHandler
  split
  · exact .ok _
  · exact .error rfl

theorem fails_namedColumnType :
    Fails (fun fault => fault.phase = .typeResolution) (namedColumnType name) := by
  unfold namedColumnType
  split
  · exact .ok _
  · exact .error rfl

theorem fails_namedMode : Fails (fun fault => fault.phase = .typeResolution) (namedMode name) := by
  unfold namedMode
  split
  · exact .ok _
  · exact .error rfl

end Configuration

/-! ## Contents without a parameter -/

namespace Parameter

def Showing {α : Type} (content : String) : Except Fault α → Prop :=
  Fails fun fault => fault.fragment? = some content

def Typing {α : Type} (content : String) : Except Fault α → Prop :=
  Fails fun fault => fault.phase = .typeResolution ∧ fault.fragment? = some content

variable {config : Configuration} {content : String}

theorem Typing.showing {α : Type} {x : Except Fault α} (h : Typing content x) : Showing content x :=
  h.imp fun _ => And.right

theorem typing_within {α : Type} {x : Except Fault α}
    (h : Fails (fun fault => fault.phase = .typeResolution) x) :
    Typing content (x.mapError (Fault.within content)) :=
  h.mapError fun fault hphase =>
    ⟨(fault.phase_within content).trans hphase, Fault.fragment?_within hphase⟩

theorem typing_complete (p : Parameter) : Typing content (complete config content p) := by
  unfold complete
  split
  · split
    · exact .ok _
    · exact .error ⟨rfl, rfl⟩
  · split
    · exact .ok _
    · exact .error ⟨rfl, rfl⟩

theorem typing_finish (columnType : Option ColumnType) (d : Draft) :
    Typing content (finish config content columnType d) := by
  unfold finish
  split
  · exact typing_complete _
  · exact ((typing_within (config.fails_namedHandler _ _)).map _).bind fun _ => typing_complete _

theorem showing_setOption (d : Draft) (name value : String) :
    Showing content (d.setOption config content name value) := by
  unfold Draft.setOption
  split
  · exact (typing_within (config.fails_namedKind value)).showing.bind fun _ => .ok _
  · exact .ok _
  · exact .ok _
  · exact (typing_within (Configuration.fails_namedMode value)).showing.bind fun _ => .ok _
  · split
    · exact .ok _
    · exact .error rfl
  · exact .ok _
  · exact .ok _
  · exact .ok _
  · exact .error rfl
  · exact .error rfl

theorem showing_setOptions (d : Draft) (options : List (String × String)) :
    Showing content (d.setOptions config content options) := by
  induction options generalizing d with
  | nil => exact .ok d
  | cons option rest ih => exact (showing_setOption d option.1 option.2).bind fun d => ih d

theorem showing_columnTypeOf (reference : Reference) :
    Showing content (columnTypeOf content reference) := by
  unfold columnTypeOf
  split
  · exact .ok _
  · exact (typing_within (Configuration.fails_namedColumnType _)).showing.map _

theorem showing_parse : Showing content (Reference.parse content) := by
  unfold Reference.parse
  split
  · exact .ok _
  · exact .error rfl

/-- Whatever part of a content is at fault, the fault shows the whole content. -/
theorem showing_ofContent (kind : Kind) (bindings : Bindings) :
    Showing content (ofContent config kind bindings content) := by
  refine showing_parse.bind fun reference => ?_
  split
  · exact .error rfl
  · refine (showing_columnTypeOf reference).bind fun columnType => ?_
    rw [ofProperty_eq]
    exact (showing_setOptions _ _).bind fun d => (typing_finish columnType d).showing

end Parameter

namespace Statement

theorem ofSql_eq_error {config : Configuration} {sql : String} {kind : Kind} {bindings : Bindings}
    {fault : Fault} :
    ofSql config sql kind bindings = .error fault ↔
      ∃ before content after,
        Delimiters.hash.tokens (prepare config sql) = before ++ content :: after ∧
        (∀ c ∈ before, ∃ p, Parameter.ofContent config kind bindings c = .ok p) ∧
        Parameter.ofContent config kind bindings content = .error fault ∧
        fault.fragment? = some content := by
  rw [ofSql_eq, Except.map_eq_error, Except.mapM_eq_error]
  constructor
  · rintro ⟨before, content, after, hs, hb, hf⟩
    exact ⟨before, content, after, hs, hb, hf, Parameter.showing_ofContent kind bindings fault hf⟩
  · rintro ⟨before, content, after, hs, hb, hf, _⟩
    exact ⟨before, content, after, hs, hb, hf⟩

/-- The final pass succeeds exactly if every token content has a parameter of its own; then each token
is one placeholder, with the parameter of its content. It fails with the fault of the first content
that has none, and that fault shows the whole content. -/
theorem ofSql_firstFault {config : Configuration} (hshrink : config.settings.shrinkBlanks = false)
    (sql : String) (kind : Kind) (bindings : Bindings) :
    let contents := Delimiters.hash.tokens sql
    let parameterOf := Parameter.ofContent config kind bindings
    let result := ofSql config sql kind bindings
    ((∃ statement, result = .ok statement) ↔
      ∀ content ∈ contents, ∃ p, parameterOf content = .ok p) ∧
    (∀ statement, result = .ok statement →
      statement.sql = Delimiters.hash.replace (fun _ => "?") sql ∧
      statement.parameters.length = contents.length ∧
      List.Forall₂ (fun content p => parameterOf content = .ok p ∧
          ∃ reference, Reference.parse content = .ok reference ∧
            reference.target = .property p.property)
        contents statement.parameters) ∧
    ∀ fault, result = .error fault ↔
      ∃ before content after, contents = before ++ content :: after ∧
        (∀ c ∈ before, ∃ p, parameterOf c = .ok p) ∧ parameterOf content = .error fault ∧
        fault.fragment? = some content := by
  intro contents parameterOf result
  have hpairs : ∀ statement, result = .ok statement →
      List.Forall₂ (fun content p => parameterOf content = .ok p) contents statement.parameters := by
    intro statement hs
    have hforall := forall₂_of_ofSql hs
    rwa [prepare_eq hshrink] at hforall
  have hfault : ∀ fault, result = .error fault ↔
      ∃ before content after, contents = before ++ content :: after ∧
        (∀ c ∈ before, ∃ p, parameterOf c = .ok p) ∧ parameterOf content = .error fault ∧
        fault.fragment? = some content := by
    intro fault
    have hiff := @ofSql_eq_error config sql kind bindings fault
    rwa [prepare_eq hshrink] at hiff
  refine ⟨⟨?_, fun hall => ?_⟩, ?_, hfault⟩
  · rintro ⟨statement, hs⟩ content hc
    obtain ⟨p, _, hp⟩ := List.exists_of_forall₂_of_mem (hpairs statement hs).flip hc
    exact ⟨p, hp⟩
  · cases hr : result with
    | ok statement => exact ⟨statement, rfl⟩
    | error fault =>
      -- a fault would belong to a content without a parameter
      obtain ⟨before, content, after, hs, _, hf, _⟩ := (hfault fault).mp hr
      obtain ⟨p, hp⟩ := hall content (by rw [hs]; simp)
      rw [hp] at hf
      cases hf
  · intro statement hs
    have hlength := (hpairs statement hs).length_eq.symm
    refine ⟨?_, hlength, (hpairs statement hs).imp fun content p hp => ⟨hp, ?_⟩⟩
    · rw [sql_of_ofSql hs, prepare_eq hshrink]
      rfl
    · exact Parameter.target_of_ofContent hp

theorem ofSql_firstFault_handler :
    let sql := "a = #\x7bid\x7d, b = #\x7b b ,typeHandler=none\x7d, c = #\x7b(c)\x7d"
    let fault : Fault := .typing (.unknownHandler "none" .object) " b ,typeHandler=none"
    Configuration.standard.settings.shrinkBlanks = false ∧
      (∃ p, Parameter.ofContent .standard .map .empty "id" = .ok p) ∧
      ofSql .standard sql .map .empty = .error fault ∧
      fault.fragment? = some " b ,typeHandler=none" := by
  intro sql fault
  obtain ⟨_, _, hfault⟩ := @ofSql_firstFault .standard rfl sql .map .empty
  have hfirst : ∃ p, Parameter.ofContent .standard .map .empty "id" = .ok p :=
    ⟨⟨"id", .input, .object, none, none, some "object", none, none⟩, by decide +kernel⟩
  have htokens : Delimiters.hash.tokens sql = ["id"] ++ " b ,typeHandler=none" :: ["(c)"] := by
    decide +kernel
  have hsecond : Parameter.ofContent .standard .map .empty " b ,typeHandler=none" = .error fault := by
    decide +kernel
  refine ⟨rfl, hfirst, (hfault fault).mpr ⟨_, _, _, htokens, ?_, hsecond, rfl⟩, rfl⟩
  intro c hc
  rw [List.mem_singleton.mp hc]
  exact hfirst

end Statement

end SqlTemplate
