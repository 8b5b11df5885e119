import SqlTemplate.Proofs.Pass
import SqlTemplate.Proofs.Static
import SqlTemplate.Template

/-!
# Escaped opening delimiters

A text in which every opening delimiter is escaped has no token, and scanning it drops the backslashes
(`outline_of_allEscaped`). A template is scanned twice: what the first scan makes of it decides whether it
is fixed, and the delimiters that lost their backslashes begin tokens now. If one of these is complete
the source is dynamic, and every call asks the evaluator for it (`textSource_of_allEscaped`).
-/

namespace SqlTemplate

/-! ## Texts without tokens -/

namespace Delimiters

def AllEscaped (d : Delimiters) (s : List Char) : Prop :=
  ∀ i < s.length, d.opening <+: s.drop i → escapes (s.take i) = true

instance (d : Delimiters) (s : List Char) : Decidable (d.AllEscaped s) :=
  inferInstanceAs (Decidable (∀ i < s.length, d.opening <+: s.drop i → escapes (s.take i) = true))

def dropEscapes (d : Delimiters) : List Char → List Char
  | [] => []
  | c :: s => if c = '\\' ∧ d.opening <+: s then d.dropEscapes s else c :: d.dropEscapes s

variable {d : Delimiters} {lead : Char} {s : List Char}

theorem AllEscaped.escapes (h : d.AllEscaped s) {before after : List Char}
    (hs : s = before ++ d.opening ++ after) : Delimiters.escapes before = true := by
  have hpos := List.length_pos_iff.mpr d.opening_ne_nil
  have hlength : before.length < s.length := by
    rw [hs]
    simp only [List.length_append]
    omega
  have htake : s.take before.length = before := by rw [hs, List.append_assoc, List.take_left]
  rw [← htake]
  refine h before.length hlength ?_
  rw [hs, List.append_assoc, List.drop_left]
  exact List.prefix_append _ _

theorem AllEscaped.of_append (hd : d.Braced lead) {before after : List Char}
    (h : d.AllEscaped (before ++ d.opening ++ after)) : d.AllEscaped after := by
  intro i _ hi
  obtain ⟨rest, hrest⟩ := hi
  have hsplit : before ++ d.opening ++ after =
      (before ++ d.opening ++ after.take i) ++ d.opening ++ rest := by
    rw [List.append_assoc _ _ rest, hrest, List.append_assoc _ _ (after.drop i),
      List.take_append_drop]
  have he := h.escapes hsplit
  -- what stands in front of a delimiter right behind another one is a brace, not a backslash
  by_cases htake : after.take i = []
  · rw [htake, List.append_nil, hd.opening] at he
    simp [Delimiters.escapes] at he
  · rwa [escapes_append htake] at he

theorem dropEscapes_of_free (h : ¬ d.opening <:+: s) : d.dropEscapes s = s := by
  induction s with
  | nil => rfl
  | cons c s ih =>
    rw [List.infix_cons_iff, not_or] at h
    have hs : ¬ d.opening <+: s := fun hp => h.2 hp.isInfix
    rw [dropEscapes, if_neg (fun hc => hs hc.2), ih h.2]

theorem dropEscapes_append (hd : d.Braced lead) {u : List Char} (h : ¬ d.opening <:+: u)
    (after : List Char) :
    d.dropEscapes (u ++ '\\' :: (d.opening ++ after)) = u ++ d.opening ++ d.dropEscapes after := by
  induction u with
  | nil =>
    have hlead : dropEscapes d (d.opening ++ after) = d.opening ++ d.dropEscapes after := by
      rw [hd.opening]
      simp [dropEscapes, hd.lead_ne_backslash]
    rw [List.nil_append, dropEscapes, if_pos ⟨rfl, List.prefix_append _ _⟩, hlead]
    rfl
  | cons c u ih =>
    rw [List.infix_cons_iff, not_or] at h
    -- no opening delimiter begins in front of the backslash and ends behind it
    have hnot : ¬ d.opening <+: u ++ '\\' :: (d.opening ++ after) := by
      intro hp
      rw [hd.opening] at hp h
      cases u with
      | nil => simp [hd.lead_ne_backslash] at hp
      | cons a u =>
        cases u with
        | nil => simp at hp
        | cons b u =>
          simp only [List.cons_append, List.cons_prefix_cons, List.nil_prefix, and_true] at hp
          exact h.2 ⟨[], u, by simp [← hp.1, ← hp.2]⟩
    rw [List.cons_append, dropEscapes, if_neg (fun hc => hnot hc.2), ih h.2]
    rfl

theorem outline_of_allEscaped (hd : d.Braced lead) (h : d.AllEscaped s) :
    d.outline s = .text (d.dropEscapes s) := by
  unfold outline
  fun_induction segments d s with
  | case1 s hcut =>
    rw [dropEscapes_of_free (Text.cut?_eq_none_iff.mp hcut)]
    simp [Outline.ofSegments, Outline.prepend]
  | case2 s before after hcut he ih =>
    have hs := Text.eq_append_of_cut? hcut
    have hsplit : s = before.dropLast ++ '\\' :: (d.opening ++ after) := by
      rw [hs, eq_append_of_escapes he]
      simp
    have hfree : ¬ d.opening <:+: before.dropLast := fun hi =>
      Text.not_infix_of_cut? d.opening_ne_nil hcut (hi.trans (List.dropLast_prefix before).isInfix)
    rw [hs] at h
    rw [Outline.ofSegments, ih (h.of_append hd), hsplit, dropEscapes_append hd hfree, Outline.prepend]
  -- no opening delimiter is without a backslash
  | case3 s before after hcut he hread =>
    exact absurd (h.escapes (Text.eq_append_of_cut? hcut)) he
  | case4 s before after hcut he content rest hread ih =>
    exact absurd (h.escapes (Text.eq_append_of_cut? hcut)) he

theorem head?_dropEscapes (hd : d.Braced lead) {l : Char} (hl : l ≠ lead)
    (h : (d.dropEscapes s).head? = some l) : s.head? = some l := by
  cases s with
  | nil => exact h
  | cons c s =>
    rw [dropEscapes] at h
    split at h
    · rename_i hc
      obtain ⟨rest, rfl⟩ := hc.2
      rw [hd.opening] at h
      simp [dropEscapes, hd.lead_ne_backslash, Ne.symm hl] at h
    · simpa using h

/-- Dropping backslashes brings no other characters together than those of opening delimiters. -/
theorem pair_infix_dropEscapes (hd : d.Braced lead) {k l : Char} (hl : l ≠ lead)
    (h : [k, l] <:+: d.dropEscapes s) : [k, l] <:+: s := by
  induction s with
  | nil => exact h
  | cons c s ih =>
    rw [dropEscapes] at h
    split at h
    · exact Text.pair_infix_cons_iff.mpr (Or.inr (ih h))
    · rw [Text.pair_infix_cons_iff] at h
      exact Text.pair_infix_cons_iff.mpr
        (h.imp (fun hc => ⟨hc.1, head?_dropEscapes hd hl hc.2⟩) ih)

theorem hasToken_eq_false_iff {text : String} :
    d.hasToken text = false ↔ d.tokens text = [] := by
  unfold hasToken tokens
  rw [List.map_eq_nil_iff, List.filterMap_eq_nil_iff, List.any_eq_false]
  simp

end Delimiters

theorem Text.trim_infix (s : String) : (trim s).toList <:+: s.toList := by
  have hend : ∀ t : List Char, trimEnd isBlank t <+: t := fun t => by
    rw [← List.reverse_suffix, trimEnd, List.reverse_reverse]
    exact List.dropWhile_suffix isBlank
  rw [trim, String.toList_ofList]
  exact (hend _).isInfix.trans (List.dropWhile_suffix isBlank).isInfix

/-! ## The trace of a run -/

namespace Build

variable {α β : Type}

def Starts (m : Build α) (event : Event) : Prop :=
  ∀ c, c.trace ++ [event] <+: (left (m.run c)).trace

theorem Starts.bind {m : Build α} {f : α → Build β} {event : Event} (hm : Starts m event)
    (hf : ∀ a, Grows (f a)) : Starts (m >>= f) event := by
  intro c
  have h := hm c
  rw [EStateM.run_bind]
  cases hr : m.run c with
  | ok a c' =>
    rw [hr] at h
    exact h.trans (hf a c')
  | error e c' =>
    rw [hr] at h
    exact h

theorem starts_substitute (ev : Evaluator) (filter : Option Filter) (content : String) :
    Starts (substitute ev filter content) (.evaluated content) := by
  intro c
  cases hrun : (substitute ev filter content).run c with
  | ok text c' =>
    obtain ⟨v, _, _, _, rfl⟩ := run_substitute_eq_ok hrun
    exact List.prefix_append _ _
  | error fault c' =>
    rcases run_substitute_eq_error hrun with ⟨_, rfl⟩ | ⟨f, v, _, _, _, _, rfl⟩
    · exact List.prefix_refl _
    · exact List.prefix_append _ _

theorem starts_scan {ev : Evaluator} {filter : Option Filter} {d : Delimiters} {text content : String}
    (h : (d.tokens text).head? = some content) :
    Starts (d.scan (substitute ev filter) text) (.evaluated content) := by
  obtain ⟨rest, hrest⟩ := List.head?_eq_some_iff.mp h
  have hmore : Walks ev [.substitution text filter] (rest.mapM (substitute ev filter)) :=
    closed_walks.compositional.mapM (walks_substitute (List.mem_singleton_self _)) rest
  rw [Delimiters.scan_eq, hrest, List.mapM_cons, bind_assoc]
  exact (starts_substitute ev filter content).bind fun _ =>
    ((hmore.bind fun _ => .pure _).bind fun _ => .pure _).grows

end Build

/-- A text with a token asks for the first one before anything else happens. -/
theorem Node.trace_evaluate_substitution {text content : String}
    (h : (Delimiters.dollar.tokens text).head? = some content) (ev : Evaluator)
    (filter : Option Filter) (b : Bindings) :
    ∃ more, ((Node.substitution text filter).evaluate ev b).trace = .evaluated content :: more := by
  have happend : ∀ sql, Build.Walks ev [] (Build.append sql >>= fun _ => pure true) :=
    fun sql => (Build.walks_append sql).bind fun _ => .pure true
  have hstarts : Build.Starts ((Node.substitution text filter).apply ev) (.evaluated content) :=
    (Build.starts_scan h).bind fun sql => (happend sql).grows
  obtain ⟨more, hmore⟩ := hstarts (Context.start b)
  refine ⟨more, ?_⟩
  unfold evaluate
  cases hr : ((Node.substitution text filter).apply ev).run (Context.start b) with
  | ok a c => rw [hr] at hmore; exact hmore.symm
  | error e c => rw [hr] at hmore; exact hmore.symm

/-! ## Templates of plain text -/

theorem Configuration.substituteVariables_of_allEscaped (config : Configuration) {text : String}
    (h : Delimiters.dollar.AllEscaped text.toList) :
    config.substituteVariables text =
      String.ofList (Delimiters.dollar.dropEscapes text.toList) := by
  apply String.toList_inj.mp
  unfold substituteVariables
  rw [Delimiters.toList_replace, Delimiters.outline_of_allEscaped Delimiters.braced_dollar h,
    String.toList_ofList]
  rfl

theorem Template.sourceOf_text {config : Configuration} {sql : String}
    (hshrink : config.settings.shrinkBlanks = false) (hfree : ¬ ['#', '{'] <:+: sql.toList)
    (kind : Kind) : sourceOf config (.text sql) kind = .ok (.fixed ⟨Text.trim sql, []⟩) := by
  have hstatic : (Node.text sql).isDynamic = false := rfl
  have hsql : (Node.text sql).staticSql = Text.trim sql := by
    rw [Node.staticSql, Node.fragments, Sink.sql_feed_empty, String.intercalate_singleton]
  have hpass : Statement.ofSql config (Text.trim sql) kind (config.startBindings .null) =
      .ok ⟨Text.trim sql, []⟩ :=
    (Statement.ofSql_eq_text_iff hshrink).mpr
      (Delimiters.inert_of_free fun hi => hfree (hi.trans (Text.trim_infix sql)))
  unfold sourceOf Statement.ofNode
  rw [hstatic, Node.evaluate_static _ hstatic, hsql]
  change (do pure (.fixed (← Statement.ofSql config (Text.trim sql) kind _)) : Except Fault Source) = _
  rw [hpass]
  rfl

section
variable {config : Configuration} {text : String} (hshrink : config.settings.shrinkBlanks = false)
  (hfree : ¬ ['#', '{'] <:+: text.toList) (hescaped : Delimiters.dollar.AllEscaped text.toList)
include hshrink hfree hescaped

/-- Text whose `${` are all escaped is data to the end, as what is left after its backslashes are
dropped, exactly if no token is in what is left. Otherwise every call asks the evaluator for the
first of these tokens. -/
theorem textSource_of_allEscaped (kind : Kind) :
    let sql := String.ofList (Delimiters.dollar.dropEscapes text.toList)
    let literal : Statement := ⟨Text.trim sql, []⟩
    let root := Node.substitution sql config.filter
    (Delimiters.dollar.hasToken sql = false →
      Template.textSource config text kind = .ok (.fixed literal)) ∧
    (∀ content, (Delimiters.dollar.tokens sql).head? = some content →
      Template.textSource config text kind = .ok (.dynamic root) ∧
      ∀ ev p, ∃ more, ((Source.dynamic root).bind ev config p).trace =
        .evaluated content :: more) ∧
    ((∃ source, Template.textSource config text kind = .ok source ∧
        ∀ ev p, source.bind ev config p = ⟨.ok (literal.bind p), []⟩) ↔
      Delimiters.dollar.hasToken sql = false) := by
  intro sql literal root
  -- the variables find no token in the text, the choice of the node may
  have hnode : Template.textSource config text kind = Template.sourceOf config
      (if Delimiters.dollar.hasToken sql then root else .text sql) kind := by
    have hsql := config.substituteVariables_of_allEscaped hescaped
    unfold Template.textSource Template.textNode
    rw [hsql]
  have hfixed : Delimiters.dollar.hasToken sql = false →
      Template.textSource config text kind = .ok (.fixed literal) := by
    intro h
    rw [hnode, h]
    refine Template.sourceOf_text hshrink (fun hi => hfree ?_) kind
    rw [String.toList_ofList] at hi
    exact Delimiters.pair_infix_dropEscapes Delimiters.braced_dollar (by decide) hi
  have hdynamic : ∀ content, (Delimiters.dollar.tokens sql).head? = some content →
      Template.textSource config text kind = .ok (.dynamic root) ∧
      ∀ ev p, ∃ more, ((Source.dynamic root).bind ev config p).trace =
        .evaluated content :: more := by
    intro content h
    have htoken : Delimiters.dollar.hasToken sql = true := by
      rw [← Bool.not_eq_false, Delimiters.hasToken_eq_false_iff]
      intro hnil
      rw [hnil] at h
      cases h
    refine ⟨?_, fun ev p => Node.trace_evaluate_substitution h ev config.filter _⟩
    rw [hnode, htoken]
    rfl
  refine ⟨hfixed, hdynamic, ?_, fun h => ⟨_, hfixed h, fun _ _ => rfl⟩⟩
  -- a fixed source asks nothing, so a token would show in the trace
  rintro ⟨source, hsource, hbind⟩
  rw [Delimiters.hasToken_eq_false_iff]
  cases ht : Delimiters.dollar.tokens sql with
  | nil => rfl
  | cons content rest =>
    obtain ⟨hd, htrace⟩ := hdynamic content (by rw [ht]; rfl)
    rw [hd] at hsource
    cases hsource
    obtain ⟨more, hmore⟩ := htrace .paths .null
    rw [hbind] at hmore
    cases hmore

end

theorem textSource_of_allEscaped_twice :
    let settings : Settings :=
      { variableTexts := Entries.ofList [("c", "v"), ("b", "v")], variableDefaults := true }
    let config : Configuration := { Configuration.standard with settings }
    let text := " \\\\$\x7bc:d\x7d \\$\x7bb"
    let sql := " \\$\x7bc:d\x7d $\x7bb"
    ¬ ['#', '\x7b'] <:+: text.toList ∧ Delimiters.dollar.AllEscaped text.toList ∧
      String.ofList (Delimiters.dollar.dropEscapes text.toList) = sql ∧
      Template.textSource config text .object = .ok (.fixed ⟨"\\$\x7bc:d\x7d $\x7bb", []⟩) := by
  intro settings config text sql
  have hfree : ¬ ['#', '\x7b'] <:+: text.toList := by decide +kernel
  have hescaped : Delimiters.dollar.AllEscaped text.toList := by decide +kernel
  have hsql : String.ofList (Delimiters.dollar.dropEscapes text.toList) = sql := by decide +kernel
  obtain ⟨hfixed, _, _⟩ := @textSource_of_allEscaped config text rfl hfree hescaped .object
  have htrim : Text.trim sql = "\\$\x7bc:d\x7d $\x7bb" := by decide +kernel
  rw [hsql, htrim] at hfixed
  exact ⟨hfree, hescaped, hsql, hfixed (by decide +kernel)⟩

/-- One backslash before a token: the evaluator is asked, and its answer is the SQL. -/
theorem textSource_of_allEscaped_once :
    let text := "\\$\x7bid\x7d"
    let ev := Evaluator.paths.withAnswers [("id", .ok (.int 7))]
    ¬ ['#', '\x7b'] <:+: text.toList ∧ Delimiters.dollar.AllEscaped text.toList ∧
      (Template.textSource .standard text .map).toOption.map (fun source =>
        let e := source.bind ev .standard (.map [("id", .int 2)])
        (e.trace.filterMap Event.expression?, e.result.toOption.map (·.statement.sql))) =
          some (["id"], some "7") := by
  exact ⟨by decide +kernel, by decide +kernel, by decide +kernel⟩

end SqlTemplate
