import SqlTemplate.Proofs.Emission
import SqlTemplate.Proofs.InList

/-!
# Declared variables

A declaration binds a name, and a `${…}` token with the name for its content asks for it. Before it does, the
token binds `value` if the parameter is a scalar or null (`Bindings.seeded`). So the token gets the declared
value under every other name, and under that name if the parameter is none of these.
-/

namespace SqlTemplate

/-- A name that an evaluator of paths looks up: it does not begin with a digit and is none of the words that
stand for values of their own. -/
structure IsVariable (name : String) : Prop extends IsName name where
  head : name.toList.head?.any Char.isDigit = false
  not_word : name ∉ ["null", "true", "false"]

namespace Bindings

/-- Declaring `value` leaves the parameter as it is, so that it decides the seeding of the token. -/
theorem get?_seeded_bind (b : Bindings) (name : String) (v : Value) :
    (b.bind name v).seeded.locals.get? name =
      some (if name = Build.valueName ∧ b.seeds = true then b.parameter else v) := by
  rw [get?_seeded, get?_bind, if_pos rfl]
  by_cases hname : name = Build.valueName
  · have hparameter : (b.bind name v).parameter = b.parameter :=
      parameter_bind b (by rw [hname]; decide) v
    have hseeds : (b.bind name v).seeds = b.seeds := by
      unfold seeds
      rw [hparameter]
    rw [hparameter, hseeds]
    split <;> rfl
  · rw [if_neg fun h => hname h.1, if_neg fun h => hname h.1]

end Bindings

/-! ## Evaluating a variable -/

namespace Evaluator

variable {name : String} (h : IsVariable name)
include h

theorem not_isDigit_of_mem_head? : ∀ c ∈ name.toList.head?, c.isDigit = false := by
  intro c hc
  have hnone := (Option.any_eq_false _ _).mp h.head c hc
  simpa using hnone

theorem unquote?_variable {quote : Char} (hquote : LoopScope.continuesName quote = false) :
    unquote? quote name.toList = none := by
  cases hs : name.toList with
  | nil => rfl
  | cons c s =>
    have hc : c ≠ quote := by
      rintro rfl
      exact h.not_mem hquote (hs ▸ List.mem_cons_self)
    simp [unquote?, hc]

theorem number?_variable : number? name.toList = none := by
  have hhead : name.toList.head?.any (fun c => c.isDigit || c == '-') = false := by
    rw [Option.any_eq_false]
    intro c hc
    have hdash : c ≠ '-' :=
      LoopScope.ne_of_continuesName_false (by decide) (h.continues c (List.mem_of_head? hc)) |>.symm
    simp [not_isDigit_of_mem_head? h c hc, hdash]
  unfold number?
  rw [hhead, if_neg Bool.false_ne_true]

theorem literal?_variable : literal? name.toList = none := by
  have hword := h.not_word
  simp only [List.mem_cons, List.not_mem_nil, or_false, not_or] at hword
  unfold literal?
  rw [String.ofList_toList]
  split
  · exact absurd rfl hword.1
  · exact absurd rfl hword.2.1
  · exact absurd rfl hword.2.2
  · rw [unquote?_variable h (by decide), unquote?_variable h (by decide), number?_variable h]
    rfl

theorem isPath_variable : isPath name.toList = true := by
  have hall : ∀ c ∈ name.toList, (c.isAlphanum || c == '_' || c == '$') = true := h.continues
  obtain ⟨c, s, hs⟩ := List.exists_cons_of_ne_nil h.ne_nil
  have hc : LoopScope.continuesName c = true := h.continues c (hs ▸ List.mem_cons_self)
  have hdigit : c.isDigit = false := not_isDigit_of_mem_head? h c (by rw [hs]; rfl)
  have hdot := LoopScope.ne_of_continuesName_false (k := '.') (by decide) hc
  have hbracket := LoopScope.ne_of_continuesName_false (k := '[') (by decide) hc
  unfold isPath
  rw [Bool.and_eq_true, List.all_eq_true]
  constructor
  · simp [hs, hdigit, hdot.symm, hbracket.symm]
  · intro d hd
    simp [hall d hd]

theorem value_variable (b : Bindings) : paths.value name b = .ok ((b.get name).getD .null) := by
  have hblank : ∀ c ∈ name.toList, Text.isBlank c = false :=
    fun c hc => LoopScope.not_isBlank_of_continuesName (h.continues c hc)
  have htrim : Text.trimBoth Text.isBlank name.toList = name.toList :=
    Text.trimBoth_eq_self (fun c hc => hblank c (List.mem_of_head? hc))
      fun c hc => hblank c (List.mem_of_getLast? hc)
  have hpath : b.getPath name = b.get name := by
    rw [Bindings.getPath_eq_follow, rootName_name h.toIsName]
    cases b.get name with
    | none => rfl
    | some v => exact Value.follow_name h.toIsName v
  simp only [paths, pathValue]
  rw [htrim, literal?_variable h, isPath_variable h, String.ofList_toList, hpath]
  rfl

end Evaluator

/-! ## Tokens -/

namespace Build

variable {ev : Evaluator} {c c' : Context} {v : Value}

theorem emits_bindValue (c : Context) : Emits bindValue c () [] c.seeded := by
  intro s
  rw [Sink.feed_nil]
  exact run_bindValue { c with sink := s }

theorem emits_note (event : Event) (c : Context) : Emits (note event) c () [] (c.noted event) := by
  intro s
  rw [Sink.feed_nil]
  rfl

theorem emits_substitute {content : String} (c : Context)
    (h : ev.value content c.bindings.seeded = .ok v) :
    Emits (substitute ev none content) c v.toSql []
      ((c.seeded.noted (.evaluated content)).noted (.substituted v.toSql)) :=
  (emits_bindValue c).bind ((emits_evaluate content h).bind ((emits_note _ _).bind (.pure _ _)))

theorem emits_scan_wrap {d : Delimiters} {lead : Char} (hd : d.Braced lead) {name : String}
    (hname : IsName name) {handle : String → Build String} {answer : String} {fragments : List String}
    (h : Emits (handle name) c answer fragments c') :
    Emits (d.scan handle (d.wrap name)) c answer fragments c' := by
  have htokens : d.tokens (d.wrap name) = [name] := by
    rw [d.tokens_eq, hname.outline_wrap hd]
    simp [Outline.contents]
  intro s
  rw [Delimiters.run_scan_eq_ok]
  refine ⟨[answer], ?_, ?_⟩
  · rw [htokens]
    exact .cons (h s) (.nil _)
  · rw [hname.outline_wrap hd]
    simp [Outline.fill]

end Build

namespace Node

open Build

variable {name expression : String} {c : Context} {v : Value}

theorem emits_substitution_wrap {ev : Evaluator} {c' : Context} {answer : String}
    (hname : IsName name) (h : Emits (substitute ev none name) c answer [] c') :
    Emits ((Node.substitution (Delimiters.dollar.wrap name) none).apply ev) c true [answer] c' :=
  (emits_scan_wrap Delimiters.braced_dollar hname h).bind ((emits_append answer c').bind (.pure true c'))

/-- A declaration and a token with its name. The value that the token writes, and that the name has
afterwards, is the declared one, unless the name is `value` and the parameter takes its place. -/
theorem emits_declared (hname : IsVariable name)
    (hvalue : Evaluator.paths.value expression c.bindings = .ok v) :
    let declare : Node := .declare name expression
    let token : Node := .substitution (Delimiters.dollar.wrap name) none
    let seen := if name = valueName ∧ c.bindings.seeds = true then c.bindings.parameter else v
    ∃ c', Emits ((Node.sequence [declare, token]).apply .paths) c true [seen.toSql] c' ∧
      c'.bindings = (c.bindings.bind name v).seeded ∧ c'.bindings.locals.get? name = some seen ∧
      c'.trace = c.trace ++ [.evaluated expression, .evaluated name, .substituted seen.toSql] := by
  intro declare token seen
  have hseen : (c.bindings.bind name v).seeded.locals.get? name = some seen :=
    Bindings.get?_seeded_bind c.bindings name v
  have hfound : Evaluator.paths.value name (c.bindings.bind name v).seeded = .ok seen := by
    rw [Evaluator.value_variable hname, Bindings.get_of_get? hseen]
    rfl
  let c₁ : Context := { c.noted (.evaluated expression) with bindings := c.bindings.bind name v }
  have htoken := emits_substitution_wrap hname.toIsName (emits_substitute c₁ hfound)
  refine ⟨_, emits_sequence (emits_applyAll_cons (emits_declare hvalue)
    (emits_applyAll_cons htoken (.pure () _))), rfl, hseen, ?_⟩
  simp [c₁, Context.noted, Context.seeded]

theorem emits_declared_pattern :
    let b := Bindings.start (.int 4) none true
    let declare : Node := .declare "pattern" "'x'"
    let token : Node := .substitution "$\x7bpattern\x7d" none
    (IsVariable "pattern" ∧ Evaluator.paths.value "'x'" b = .ok (.text "x")) ∧
    ∃ c', Emits ((Node.sequence [declare, token]).apply .paths) (Context.start b) true ["x"] c' ∧
      c'.bindings.locals.get? "pattern" = some (.text "x") := by
  intro b declare token
  have hname : IsVariable "pattern" := ⟨⟨by decide, List.all_eq_true.mp (by decide)⟩, by decide, by decide⟩
  have hvalue : Evaluator.paths.value "'x'" b = .ok (.text "x") := by rfl
  refine ⟨⟨hname, hvalue⟩, ?_⟩
  obtain ⟨c', hemits, _, hbound, _⟩ := emits_declared (c := Context.start b) hname hvalue
  exact ⟨c', hemits, hbound⟩

/-- A scalar and null take the place of the declared value under the name `value`. -/
theorem declared_value_hidden :
    let root : Node := .sequence [.declare "value" "'x'", .substitution "$\x7bvalue\x7d" none]
    let four := Bindings.start (.int 4) none true
    let null := Bindings.start .null none false
    (IsVariable "value" ∧ Evaluator.paths.value "'x'" four = .ok (.text "x") ∧
      Evaluator.paths.value "'x'" null = .ok (.text "x")) ∧
    (root.evaluate .paths four).result.toOption.map (fun r => (r.1, (r.2.get "value").bind Value.int?)) =
      some ("4", some 4) ∧
    (root.evaluate .paths null).result.toOption.map (fun r => (r.1, (r.2.get "value").map Value.isNull)) =
      some ("", some true) := by
  intro root four null
  have hname : IsVariable "value" := ⟨⟨by decide, List.all_eq_true.mp (by decide)⟩, by decide, by decide⟩
  exact ⟨⟨hname, rfl, rfl⟩, by decide +kernel, by decide +kernel⟩

end Node

end SqlTemplate
