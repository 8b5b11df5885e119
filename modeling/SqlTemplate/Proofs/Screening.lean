import SqlTemplate.Proofs.Compilation
import SqlTemplate.Proofs.Evaluation

/-!
# Filtered substitutions

Every `${…}` token that a compiled template keeps carries the filter of its configuration
(`Template.filtered_compile`). A step of an evaluation notes a text only if the filter accepts it, and the
only stop that notes one is its rejection. So a statement that is returned has no text in it that the
filter does not accept (`Template.accepted_of_bind`).
-/

namespace SqlTemplate

/-! ## Filters of a tree -/

def Node.Filtered (filter : Option Filter) (parts : List Node) : Prop :=
  ∀ sql g, .substitution sql g ∈ parts → g = filter

namespace Node

variable {filter : Option Filter} {parts parts' : List Node}

theorem filtered_nil : Filtered filter [] :=
  fun _ _ h => nomatch h

theorem Filtered.cons {node : Node} (hnode : ∀ sql g, node = .substitution sql g → g = filter)
    (h : Filtered filter parts) : Filtered filter (node :: parts) := by
  intro sql g hg
  rcases List.mem_cons.mp hg with rfl | hg
  · exact hnode sql g rfl
  · exact h sql g hg

theorem filtered_text (sql : String) : Filtered filter (Node.text sql).parts :=
  filtered_nil.cons fun _ _ h => nomatch h

theorem Filtered.append (h : Filtered filter parts) (h' : Filtered filter parts') :
    Filtered filter (parts ++ parts') := by
  intro sql g hg
  exact (List.mem_append.mp hg).elim (h sql g) (h' sql g)

theorem filtered_choice {branches : List (String × Node)} {otherwise : Option Node}
    (hb : Filtered filter (partsOfBranches branches))
    (ho : ∀ node ∈ otherwise, Filtered filter node.parts) :
    Filtered filter (Node.choice branches otherwise).parts := by
  cases otherwise with
  | none => exact hb.cons fun _ _ h => nomatch h
  | some node => exact (hb.append (ho node rfl)).cons fun _ _ h => nomatch h

end Node

namespace Template

open Node

variable {config : Configuration}

theorem filtered_textNode (config : Configuration) (text : String) :
    Filtered config.filter (textNode config text).parts := by
  unfold textNode
  dsimp only
  split
  · exact filtered_nil.cons fun _ _ h => (Node.substitution.inj h).2 ▸ rfl
  · exact filtered_text _

theorem inNode_eq_ok {tag : Tag} {node : Node} (h : inNode config tag = .ok node) :
    ∃ header sql, node = .loop header (.text sql) := by
  obtain ⟨collection, _, h⟩ := Except.bind_eq_ok.mp h
  obtain ⟨nullable, _, h⟩ := Except.bind_eq_ok.mp h
  obtain ⟨inlineLiterals, _, h⟩ := Except.bind_eq_ok.mp h
  cases h
  exact ⟨_, _, rfl⟩

theorem filtered_of_forall₂ {contents : List Element} {nodes : List Node}
    (h : ∀ e ∈ contents, ∀ node, Forms config e node → Filtered config.filter node.parts)
    (hall : List.Forall₂ (Forms config) contents nodes) :
    Filtered config.filter (partsOfAll nodes) := by
  induction hall with
  | nil => exact filtered_nil
  | cons hnode _ ih =>
    exact (h _ List.mem_cons_self _ hnode).append (ih fun e he => h e (List.mem_cons_of_mem _ he))

theorem filtered_branches {filter : Option Filter} {branches : List (String × Node)}
    (h : Filtered filter (partsOfAll (branches.map branchNode))) :
    Filtered filter (partsOfBranches branches) := by
  intro sql g hg
  refine h sql g ?_
  induction branches with
  | nil => exact hg
  | cons branch branches ih =>
    rcases List.mem_append.mp hg with hg | hg
    · exact List.mem_append_left _ (List.mem_cons_of_mem _ hg)
    · exact List.mem_append_right _ (ih (fun sql g hg => h sql g (List.mem_append_right _ hg)) hg)

theorem filtered_of_forms {e : Element} {node : Node} (h : Forms config e node) :
    Filtered config.filter node.parts := by
  induction e using Element.ind generalizing node with
  | text t =>
    cases h
    exact filtered_textNode config t
  | element name attributes children ih =>
    have hsequence : ∀ {nodes}, List.Forall₂ (Forms config) children nodes →
        Filtered config.filter (Node.sequence nodes).parts := fun hnodes =>
      (filtered_of_forall₂ (fun e he _ => ih e he) hnodes).cons fun _ _ h => nomatch h
    have hfilter : ∀ {p : Element → Bool} {nodes},
        List.Forall₂ (Forms config) (children.filter p) nodes →
          Filtered config.filter (partsOfAll nodes) :=
      filtered_of_forall₂ fun e he _ => ih e (List.mem_of_mem_filter he)
    cases h with
    | block role hnodes =>
      unfold blockOf
      split
      case h_1 | h_2 | h_3 => exact (hsequence hnodes).cons fun _ _ h => nomatch h
      case h_4 => exact hsequence hnodes
    | loop role hheader hnodes => exact (hsequence hnodes).cons fun _ _ h => nomatch h
    | list role hnode =>
      obtain ⟨header, sql, rfl⟩ := inNode_eq_ok hnode
      exact (filtered_text sql).cons fun _ _ h => nomatch h
    | conditional role htest hnodes => exact (hsequence hnodes).cons fun _ _ h => nomatch h
    | choice role hbranches hotherwise =>
      refine filtered_choice (filtered_branches (hfilter hbranches)) fun node hnode => ?_
      cases hnode
      exact (List.append_nil node.parts) ▸ hfilter hotherwise
    | declaration role hname hvalue => exact filtered_nil.cons fun _ _ h => nomatch h

theorem filtered_compile {contents : List Element} {root : Node}
    (h : compile config contents = .ok root) : Filtered config.filter root.parts := by
  obtain ⟨nodes, rfl, hnodes⟩ := compile_eq_ok.mp h
  exact (filtered_of_forall₂ (fun _ _ _ => filtered_of_forms) hnodes).cons fun _ _ h => nomatch h

theorem sourceOf_eq_ok {root : Node} {kind : Kind} {source : Source}
    (h : sourceOf config root kind = .ok source) :
    (root.isDynamic = true ∧ source = .dynamic root) ∨
      ∃ statement, source = .fixed statement := by
  unfold sourceOf at h
  split at h
  · rename_i hdynamic
    cases h
    exact Or.inl ⟨hdynamic, rfl⟩
  · obtain ⟨statement, _, h⟩ := Except.bind_eq_ok.mp h
    cases h
    exact Or.inr ⟨statement, rfl⟩

end Template

/-! ## Texts of an evaluation -/

def Evaluation.texts {α : Type} (e : Evaluation α) : List String :=
  e.trace.filterMap Event.text?

namespace Context

def texts (c : Context) : List String :=
  c.trace.filterMap Event.text?

theorem texts_noted (c : Context) (event : Event) :
    (c.noted event).texts = c.texts ++ event.text?.toList := by
  unfold texts noted
  rw [List.filterMap_append]
  cases event <;> rfl

def Accepted (f : Filter) (c : Context) : Prop :=
  ∀ t ∈ c.texts, f.accepts t = true

variable {f : Filter} {ev : Evaluator} {parts : List Node} {c c' : Context}

theorem Accepted.of_texts (h : Accepted f c) {more : List String} (ht : c'.texts = c.texts ++ more)
    (hmore : ∀ t ∈ more, f.accepts t = true) : Accepted f c' := by
  intro t hmem
  rw [ht] at hmem
  exact (List.mem_append.mp hmem).elim (h t) (hmore t)

section
variable (hparts : Node.Filtered (some f) parts)
include hparts

theorem Accepted.step (h : Accepted f c) (hstep : Step ev parts c c') : Accepted f c' := by
  cases hstep with
  | sink s => exact h
  | asked expression => exact h.of_texts (texts_noted c _) (by simp [Event.text?])
  | seeded => exact h
  | substituted hpart hv hfilter =>
    have haccepts := hfilter f (hparts _ _ hpart)
    exact h.of_texts (texts_noted c _) (by simpa [Event.text?] using haccepts)
  | declared hpart hv => exact h
  | entered hpart item =>
    exact h.of_texts (texts_noted c (.round _ c.counter item)) (by simp [Event.text?])
  | left hpart => exact h

theorem Accepted.run (h : Accepted f c) (hrun : Relation.ReflTransGen (Step ev parts) c c') :
    Accepted f c' := by
  induction hrun with
  | refl => exact h
  | tail _ hstep ih => exact ih.step hparts hstep

/-- Only the last text of a run that stops may be one that the filter does not accept, and then the run
stops because of it. -/
theorem Accepted.stop (h : Accepted f c) {fault : Fault} (hstop : Stop ev parts c fault c')
    {t : String} (ht : t ∈ c'.texts) (hreject : f.accepts t = false) :
    fault = .rejected t f.pattern ∧ c'.texts.getLast? = some t := by
  have hnew : t ∉ c.texts := by
    intro hmem
    rw [h t hmem] at hreject
    cases hreject
  cases hstop with
  | unanswered h => exact absurd (by simpa [texts_noted, Event.text?] using ht) hnew
  | rejected hpart hv hfilter =>
    cases hparts _ _ hpart
    rw [texts_noted] at ht ⊢
    rcases List.mem_append.mp ht with ht | ht
    · exact absurd ht hnew
    · cases List.mem_singleton.mp ht
      exact ⟨rfl, List.getLast?_concat⟩

end

end Context

/-! ## Texts in the place of tokens -/

namespace Build

variable {ev : Evaluator} {filter : Option Filter} {c c' : Context}

theorem texts_substitute {content text : String}
    (h : (substitute ev filter content).run c = .ok text c') :
    c'.texts = c.texts ++ [text] ∧ c'.sink = c.sink := by
  obtain ⟨v, _, _, rfl, rfl⟩ := run_substitute_eq_ok h
  rw [Context.texts_noted, Context.texts_noted]
  simp [Event.text?, Context.texts, Context.noted, Context.seeded]

theorem texts_of_answers {contents answers : List String}
    (h : Delimiters.Answers (substitute ev filter) c contents answers c') :
    c'.texts = c.texts ++ answers ∧ c'.sink = c.sink ∧ answers.length = contents.length := by
  induction h with
  | nil c => simp
  | cons h _ ih =>
    obtain ⟨ht, hs⟩ := texts_substitute h
    obtain ⟨htexts, hsink, hlength⟩ := ih
    rw [htexts, hsink, ht, hs]
    simp [hlength]

/-- The texts that an evaluation notes are those that it puts in the place of the tokens. -/
theorem texts_of_apply {sql : String} {applied : Bool}
    (h : ((Node.substitution sql filter).apply ev).run c = .ok applied c') :
    ∃ texts, c'.texts = c.texts ++ texts ∧
      texts.length = (Delimiters.dollar.tokens sql).length ∧
      c'.sink = c.sink.append ((Delimiters.dollar.outline sql.toList).fill texts) := by
  obtain ⟨out, c₁, hscan, happend⟩ := EStateM.run_bind_eq_ok.mp h
  cases happend
  obtain ⟨answers, hanswers, rfl⟩ := Delimiters.run_scan_eq_ok.mp hscan
  obtain ⟨ht, hs, hlength⟩ := texts_of_answers hanswers
  refine ⟨answers, ht, hlength, ?_⟩
  rw [← hs]

end Build

/-! ## Calls -/

theorem Node.texts_evaluate {f : Filter} {root : Node} (hroot : Filtered (some f) root.parts)
    (ev : Evaluator) (b : Bindings) :
    (∀ r, (root.evaluate ev b).result = .ok r →
      ∀ t ∈ (root.evaluate ev b).texts, f.accepts t = true) ∧
    ∀ t ∈ (root.evaluate ev b).texts, f.accepts t = false →
      (root.evaluate ev b).result = .error (.rejected t f.pattern) ∧
        (root.evaluate ev b).texts.getLast? = some t := by
  have hstart : (Context.start b).Accepted f := by
    simp [Context.Accepted, Context.texts, Context.start]
  unfold evaluate
  cases hrun : (root.apply ev).run (Context.start b) with
  | ok applied c =>
    have hc : c.Accepted f := hstart.run hroot (steps_of_apply hrun)
    refine ⟨fun _ _ => hc, fun t ht hreject => ?_⟩
    rw [hc t ht] at hreject
    cases hreject
  | error fault c =>
    obtain ⟨c₁, hsteps, hstop⟩ := stop_of_apply hrun
    refine ⟨fun r hr => (nomatch hr), fun t ht hreject => ?_⟩
    obtain ⟨rfl, hlast⟩ := (hstart.run hroot hsteps).stop hroot hstop ht hreject
    exact ⟨rfl, hlast⟩

namespace Template

variable {config callConfig : Configuration} {f : Filter} {contents : List Element} {text : String}
  {kind : Kind} {source : Source}

/-- With a filter in the configuration, a statement is returned only if all texts that were found for
`${…}` tokens are accepted; a text that is not is the last that a call finds, and the call fails with
it. The texts are noted by the substitutions that put them in the place of their tokens, and no node
takes one back. -/
theorem accepted_of_bind (hfilter : config.filter = some f)
    (hsource : Template.source config contents kind = .ok source ∨
      textSource config text kind = .ok source) (ev : Evaluator) (p : Value) :
    let e := source.bind ev callConfig p
    (∀ bound, e.result = .ok bound → ∀ t ∈ e.texts, f.accepts t = true) ∧
    (∀ t ∈ e.texts, f.accepts t = false →
      e.result = .error (.rejected t f.pattern) ∧ e.texts.getLast? = some t) ∧
    (∀ sql filter c c' applied, ((Node.substitution sql filter).apply ev).run c = .ok applied c' →
      ∃ texts, c'.texts = c.texts ++ texts ∧
        texts.length = (Delimiters.dollar.tokens sql).length ∧
        c'.sink = c.sink.append ((Delimiters.dollar.outline sql.toList).fill texts)) ∧
    ∀ node c, c.texts <+: (Build.left ((Node.apply ev node).run c)).texts := by
  intro e
  obtain ⟨root, hroot, hsourceOf⟩ : ∃ root, Node.Filtered (some f) root.parts ∧
      sourceOf config root kind = .ok source := by
    rw [← hfilter]
    rcases hsource with h | h
    · obtain ⟨root, hroot, h⟩ := Except.bind_eq_ok.mp h
      exact ⟨root, filtered_compile hroot, h⟩
    · exact ⟨_, filtered_textNode config text, h⟩
  have hcall : (∀ bound, e.result = .ok bound → ∀ t ∈ e.texts, f.accepts t = true) ∧
      ∀ t ∈ e.texts, f.accepts t = false →
        e.result = .error (.rejected t f.pattern) ∧ e.texts.getLast? = some t := by
    rcases sourceOf_eq_ok hsourceOf with ⟨_, rfl⟩ | ⟨statement, rfl⟩
    · obtain ⟨hok, hreject⟩ := Node.texts_evaluate hroot ev (callConfig.startBindings p)
      constructor
      · intro bound hbound
        obtain ⟨r, hr, _⟩ := Except.bind_eq_ok.mp hbound
        exact hok r hr
      · intro t ht hf
        obtain ⟨hfault, hlast⟩ := hreject t ht hf
        refine ⟨?_, hlast⟩
        change ((root.evaluate ev (callConfig.startBindings p)).result >>= _) = _
        rw [hfault]
        rfl
    · -- a fixed source evaluates nothing in a call
      have hnone : e.texts = [] := rfl
      simp [hnone]
  exact ⟨hcall.1, hcall.2, fun _ _ _ _ _ h => Build.texts_of_apply h,
    fun node c => (Node.grows_apply ev node c).filterMap Event.text?⟩

theorem accepted_of_bind_columns :
    let text := "ORDER BY $\x7ba\x7d, $\x7bb\x7d, $\x7bc\x7d"
    let p : Value := .map [("a", .text "id"), ("b", .text "1;drop"), ("c", .text "name")]
    ∃ f source, Filter.ofPattern "[a-z]+" = .ok f ∧
      textSource { Configuration.standard with filter := some f } text .map = .ok source ∧
      (source.bind .paths .standard p).texts = ["id", "1;drop"] ∧ f.accepts "1;drop" = false ∧
      (source.bind .paths .standard p).result = .error (.rejected "1;drop" f.pattern) := by
  intro text p
  have hcall : ((Filter.ofPattern "[a-z]+").toOption.any fun f => !f.accepts "1;drop" &&
      ((Source.dynamic (.substitution text (some f))).bind .paths .standard p).texts ==
        ["id", "1;drop"]) = true := by decide +kernel
  cases hpattern : Filter.ofPattern "[a-z]+" with
  | error fault => rw [hpattern] at hcall; cases hcall
  | ok f =>
    rw [hpattern] at hcall
    obtain ⟨hreject, htexts⟩ : f.accepts "1;drop" = false ∧
        ((Source.dynamic (.substitution text (some f))).bind .paths .standard p).texts =
          ["id", "1;drop"] := by
      simpa [Except.toOption] using hcall
    let config := { Configuration.standard with filter := some f }
    have hsource : textSource config text .map = .ok (.dynamic (.substitution text (some f))) := by
      have hsql : config.substituteVariables text = text :=
        (by decide +kernel : Configuration.standard.substituteVariables text = text)
      have htoken : Delimiters.dollar.hasToken text = true := by decide +kernel
      unfold textSource textNode
      rw [hsql]
      dsimp only
      rw [htoken]
      rfl
    obtain ⟨_, hrejected, _, _⟩ :=
      @accepted_of_bind config .standard f [] text .map _ rfl (Or.inr hsource) .paths p
    have hmem : "1;drop" ∈ ["id", "1;drop"] := by simp
    exact ⟨f, _, rfl, hsource, htexts, hreject, (hrejected _ (htexts ▸ hmem) hreject).1⟩

end Template

end SqlTemplate
