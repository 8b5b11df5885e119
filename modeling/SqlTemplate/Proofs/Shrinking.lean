import SqlTemplate.Proofs.Pass
import SqlTemplate.Proofs.Reading

/-!
# Collapsed blanks

Where the settings say so, the final pass reads the SQL with every run of blanks collapsed to one space
and without blanks at its ends. A delimiter holds no blank and none is a backslash, so the collapsed text
has the outline of the text, in which the runs of the literals and of the contents are collapsed
(`outline_collapseRuns`); the ends that are cut off belong to the first and the last literal. So the pass
finds the same tokens in the same order, and collapsing commutes with replacing them
(`ofSql_collapseBlanks`).
-/

namespace SqlTemplate

namespace Text

/-! ## Runs of blanks -/

def collapseRuns : List Char → List Char
  | [] => []
  | c :: s =>
    if isBlank c then if s.head?.any isBlank then collapseRuns s else ' ' :: collapseRuns s
    else c :: collapseRuns s

def spaced (c : Char) : Char :=
  if isBlank c then ' ' else c

theorem collapseRuns_cons {c : Char} (hc : isBlank c = false) (s : List Char) :
    collapseRuns (c :: s) = c :: collapseRuns s := by
  simp [collapseRuns, hc]

theorem collapseRuns_cons_blank {c : Char} (hc : isBlank c = true) (s : List Char) :
    collapseRuns (c :: s) = if s.head?.any isBlank then collapseRuns s else ' ' :: collapseRuns s := by
  simp [collapseRuns, hc]

theorem head?_collapseRuns (s : List Char) : (collapseRuns s).head? = s.head?.map spaced := by
  induction s with
  | nil => rfl
  | cons c s ih =>
    by_cases hc : isBlank c = true
    · rw [collapseRuns_cons_blank hc]
      split
      · rename_i hs
        cases hhead : s.head? with
        | none =>
          rw [hhead] at hs
          cases hs
        | some c' =>
          rw [hhead] at hs
          simp [ih, hhead, spaced, hc, show isBlank c' = true from hs]
      · simp [spaced, hc]
    · simp [collapseRuns_cons (by simpa using hc), spaced, hc]

theorem collapseRuns_eq_nil_iff {s : List Char} : collapseRuns s = [] ↔ s = [] := by
  rw [← List.head?_eq_none_iff, head?_collapseRuns, Option.map_eq_none_iff, List.head?_eq_none_iff]

theorem getLast?_collapseRuns (s : List Char) :
    (collapseRuns s).getLast? = s.getLast?.map spaced := by
  induction s with
  | nil => rfl
  | cons c s ih =>
    by_cases hnil : s = []
    · subst hnil
      by_cases hc : isBlank c = true <;> simp [collapseRuns, spaced, hc]
    · have hne : collapseRuns s ≠ [] := by rwa [Ne, collapseRuns_eq_nil_iff]
      have hlast : ∀ c', (c' :: collapseRuns s).getLast? = (collapseRuns s).getLast? := by
        intro c'
        rw [List.getLast?_cons, List.getLast?_eq_some_getLast hne]
        rfl
      have hcons : (c :: s).getLast? = s.getLast? := by
        rw [List.getLast?_cons, List.getLast?_eq_some_getLast hnil]
        rfl
      rw [hcons, ← ih]
      by_cases hc : isBlank c = true
      · rw [collapseRuns_cons_blank hc]
        split
        · rfl
        · exact hlast ' '
      · rw [collapseRuns_cons (by simpa using hc)]
        exact hlast c

section
variable {k : Char} (hk : isBlank k = false)
include hk

theorem collapseRuns_append_cons (a b : List Char) :
    collapseRuns (a ++ k :: b) = collapseRuns a ++ k :: collapseRuns b := by
  induction a with
  | nil => exact collapseRuns_cons hk b
  | cons c a ih =>
    have hhead : (a ++ k :: b).head?.any isBlank = a.head?.any isBlank := by
      cases a <;> simp [hk]
    rw [List.cons_append]
    by_cases hc : isBlank c = true
    · rw [collapseRuns_cons_blank hc, collapseRuns_cons_blank hc, hhead, ih]
      split <;> rfl
    · rw [collapseRuns_cons (by simpa using hc), collapseRuns_cons (by simpa using hc), ih]
      rfl

end

section
variable {d : List Char} (hd : ∀ c ∈ d, isBlank c = false)
include hd

theorem collapseRuns_append_free (hne : d ≠ []) (a b : List Char) :
    collapseRuns (a ++ d ++ b) = collapseRuns a ++ d ++ collapseRuns b := by
  induction d generalizing a with
  | nil => exact absurd rfl hne
  | cons k d ih =>
    have hk := hd k List.mem_cons_self
    by_cases hnil : d = []
    · subst hnil
      simpa using collapseRuns_append_cons hk a b
    · have hrest := ih (fun c hc => hd c (List.mem_cons_of_mem k hc)) hnil (a ++ [k])
      have hone : collapseRuns (a ++ [k]) = collapseRuns a ++ [k] := collapseRuns_append_cons hk a []
      simpa [hone] using hrest

theorem prefix_of_collapseRuns {s : List Char} (h : d <+: collapseRuns s) : d <+: s := by
  induction d generalizing s with
  | nil => exact List.nil_prefix
  | cons k d ih =>
    have hk := hd k List.mem_cons_self
    cases s with
    | nil => exact h
    | cons c s =>
      by_cases hc : isBlank c = true
      · have hhead : (collapseRuns (c :: s)).head? = some k := by
          obtain ⟨rest, hrest⟩ := h
          rw [← hrest]
          rfl
        rw [head?_collapseRuns] at hhead
        simp only [List.head?_cons, Option.map_some, spaced, hc, if_true, Option.some.injEq] at hhead
        rw [← hhead] at hk
        exact absurd hk (by decide)
      · rw [collapseRuns_cons (by simpa using hc), List.cons_prefix_cons] at h
        rw [List.cons_prefix_cons]
        exact ⟨h.1, ih (fun c hc => hd c (List.mem_cons_of_mem k hc)) h.2⟩

theorem infix_of_collapseRuns {s : List Char} (h : d <:+: collapseRuns s) : d <:+: s := by
  induction s with
  | nil => exact h
  | cons c s ih =>
    rw [List.infix_cons_iff]
    by_cases hpre : d <+: collapseRuns (c :: s)
    · exact Or.inl (prefix_of_collapseRuns hd hpre)
    · refine Or.inr (ih ?_)
      by_cases hc : isBlank c = true
      · rw [collapseRuns_cons_blank hc] at h hpre
        split at h
        · exact h
        · rename_i hs
          rw [if_neg hs] at hpre
          exact (List.infix_cons_iff.mp h).resolve_left hpre
      · rw [collapseRuns_cons (by simpa using hc)] at h hpre
        exact (List.infix_cons_iff.mp h).resolve_left hpre

end

/-- Collapsing runs does not move a delimiter that has no blanks in it. -/
theorem cut?_collapseRuns {k : Char} {t : List Char} (hk : k ∉ t)
    (hd : ∀ c ∈ k :: t, isBlank c = false) (s : List Char) :
    cut? (k :: t) (collapseRuns s) = (cut? (k :: t) s).map (Prod.map collapseRuns collapseRuns) := by
  cases hcut : cut? (k :: t) s with
  | none => exact cut?_eq_none_iff.mpr fun h => cut?_eq_none_iff.mp hcut (infix_of_collapseRuns hd h)
  | some p =>
    obtain ⟨a, b⟩ := p
    have hfree : ¬ k :: t <:+: collapseRuns a := fun h =>
      not_infix_of_cut? (List.cons_ne_nil k t) hcut (infix_of_collapseRuns hd h)
    rw [eq_append_of_cut? hcut, collapseRuns_append_free hd (List.cons_ne_nil k t),
      cut?_of_free hk hfree]
    rfl

/-! ## Words with one space between them -/

theorem not_of_mem_pieces {p : Char → Bool} {s t : List Char} (ht : t ∈ pieces p s) :
    ∀ c ∈ t, p c = false := by
  induction s generalizing t with
  | nil =>
    cases List.mem_singleton.mp ht
    simp
  | cons c s ih =>
    by_cases hc : p c = true
    · simp only [pieces, splitWhere, hc, if_true, List.mem_cons] at ht ih
      rcases ht with rfl | ht
      · simp
      · exact ih ht
    · simp only [pieces, splitWhere, hc, Bool.false_eq_true, if_false, List.mem_cons] at ht ih
      rcases ht with rfl | ht
      · intro c' hc'
        rcases List.mem_cons.mp hc' with rfl | hc'
        · simpa using hc
        · exact ih (Or.inl rfl) c' hc'
      · exact ih (Or.inr ht)

theorem of_mem_words {s w : List Char} (h : w ∈ words s) : w ≠ [] ∧ ∀ c ∈ w, isBlank c = false := by
  obtain ⟨hw, hne⟩ := List.mem_filter.mp h
  exact ⟨by simpa using hne, not_of_mem_pieces hw⟩

theorem words_cons_blank {c : Char} (hc : isBlank c = true) (s : List Char) :
    words (c :: s) = words s := by
  simp [words, pieces, splitWhere, hc]

theorem words_cons {c : Char} (hc : isBlank c = false) (s : List Char) :
    (words (c :: s) = [c] :: words s ∧ ∀ c' ∈ s.head?, isBlank c' = true) ∨
      ∃ w ws, words s = w :: ws ∧ words (c :: s) = (c :: w) :: ws ∧ s.head?.any isBlank = false := by
  cases s with
  | nil => simp [words, pieces, splitWhere, hc]
  | cons c' s =>
    by_cases hc' : isBlank c' = true
    · simp [words, pieces, splitWhere, hc, hc']
    · simp [words, pieces, splitWhere, hc, hc']

/-- Collapsing the blanks of a text leaves out the spaces that collapsed runs have at its ends. -/
theorem exists_collapseRuns_eq (s : List Char) : ∃ post, (∀ c ∈ post, isBlank c = true) ∧
    collapseRuns s =
      (if s.head?.any isBlank then [' '] else []) ++ [' '].intercalate (words s) ++ post := by
  induction s with
  | nil => exact ⟨[], by simp, rfl⟩
  | cons c s ih =>
    obtain ⟨post, hpost, hs⟩ := ih
    by_cases hc : isBlank c = true
    · refine ⟨post, hpost, ?_⟩
      rw [collapseRuns_cons_blank hc, words_cons_blank hc, hs]
      by_cases hhead : s.head?.any isBlank = true <;> simp [hhead, hc]
    · rw [Bool.not_eq_true] at hc
      rw [collapseRuns_cons hc, hs]
      -- the character is a word of its own or begins the one that follows
      rcases words_cons hc s with ⟨hwords, hhead⟩ | ⟨w, ws, hw, hwords, hhead⟩
      · cases hrest : words s with
        | nil =>
          refine ⟨(if s.head?.any isBlank then [' '] else []) ++ post, fun c' hc' => ?_, ?_⟩
          · rcases List.mem_append.mp hc' with hc' | hc'
            · split at hc'
              · cases List.mem_singleton.mp hc'
                rfl
              · cases hc'
            · exact hpost c' hc'
          · simp [hwords, hrest, hc]
        | cons w ws =>
          have hblank : s.head?.any isBlank = true := by
            cases s with
            | nil => cases hrest
            | cons c' s => exact hhead c' rfl
          refine ⟨post, hpost, ?_⟩
          rw [hwords, hrest, List.intercalate_cons_cons]
          simp [hblank, hc]
      · refine ⟨post, hpost, ?_⟩
        rw [hwords, hw]
        cases ws <;> simp [hhead, hc, List.intercalate_cons_cons]

theorem not_isBlank_ends {ws : List (List Char)} (h : ∀ w ∈ ws, w ≠ [] ∧ ∀ c ∈ w, isBlank c = false) :
    (∀ c ∈ ([' '].intercalate ws).head?, isBlank c = false) ∧
      (∀ c ∈ ([' '].intercalate ws).getLast?, isBlank c = false) ∧
      (ws ≠ [] → [' '].intercalate ws ≠ []) := by
  induction ws with
  | nil => simp
  | cons w ws ih =>
    obtain ⟨hne, hw⟩ := h w List.mem_cons_self
    cases ws with
    | nil =>
      rw [List.intercalate_singleton]
      exact ⟨fun c hc => hw c (List.mem_of_mem_head? hc), fun c hc => hw c (List.mem_of_getLast? hc),
        fun _ => hne⟩
    | cons w' ws =>
      obtain ⟨_, hlast, hrest⟩ := ih fun v hv => h v (List.mem_cons_of_mem w hv)
      rw [List.intercalate_cons_cons, List.append_assoc]
      refine ⟨fun c hc => ?_, fun c hc => ?_, fun _ => by simp⟩
      · rw [List.head?_append_of_ne_nil _ hne] at hc
        exact hw c (List.mem_of_mem_head? hc)
      · rw [← List.append_assoc, List.getLast?_append_of_ne_nil _ (hrest (by simp))] at hc
        exact hlast c hc

structure Bare (s : List Char) : Prop where
  first : ∀ c ∈ s.head?, isBlank c = false
  last : ∀ c ∈ s.getLast?, isBlank c = false

theorem Bare.trimBoth_append {s pre post : List Char} (h : Bare s)
    (hpre : ∀ c ∈ pre, isBlank c = true) (hpost : ∀ c ∈ post, isBlank c = true) :
    trimBoth isBlank (pre ++ s ++ post) = s := by
  rw [Text.trimBoth_append hpre hpost, trimBoth_eq_self h.first h.last]

theorem toList_collapseBlanks (s : String) :
    (collapseBlanks s).toList = [' '].intercalate (words s.toList) := by
  simp [collapseBlanks, String.toList_intercalate]

theorem bare_collapseBlanks (s : String) : Bare (collapseBlanks s).toList := by
  rw [toList_collapseBlanks]
  obtain ⟨hfirst, hlast, _⟩ := not_isBlank_ends fun _ => of_mem_words (s := s.toList)
  exact ⟨hfirst, hlast⟩

theorem exists_collapseRuns_eq_append (s : String) : ∃ pre post, (∀ c ∈ pre, isBlank c = true) ∧
    (∀ c ∈ post, isBlank c = true) ∧
    collapseRuns s.toList = pre ++ (collapseBlanks s).toList ++ post := by
  obtain ⟨post, hpost, hs⟩ := exists_collapseRuns_eq s.toList
  refine ⟨_, post, fun c hc => ?_, hpost, by rw [hs, toList_collapseBlanks]⟩
  split at hc
  · cases List.mem_singleton.mp hc
    rfl
  · cases hc

/-- To collapse the blanks is to collapse the runs and to trim the ends. -/
theorem collapseBlanks_eq_trim (s : String) :
    collapseBlanks s = trim (String.ofList (collapseRuns s.toList)) := by
  obtain ⟨pre, post, hpre, hpost, hs⟩ := exists_collapseRuns_eq_append s
  rw [trim, String.toList_ofList, hs, (bare_collapseBlanks s).trimBoth_append hpre hpost,
    String.ofList_toList]

end Text

/-! ## Outlines with collapsed runs -/

namespace Outline

def map (f : List Char → List Char) : Outline → Outline
  | text t => .text (f t)
  | token before content rest => .token (f before) (f content) (rest.map f)

def concat (more : List Char) : Outline → Outline
  | text t => .text (t ++ more)
  | token before content rest => .token before content (rest.concat more)

theorem contents_map (f : List Char → List Char) (o : Outline) :
    (o.map f).contents = o.contents.map f := by
  induction o with
  | text t => rfl
  | token before content rest ih => simp [map, contents, ih]

theorem contents_concat (more : List Char) (o : Outline) : (o.concat more).contents = o.contents := by
  induction o with
  | text t => rfl
  | token before content rest ih => simp [concat, contents, ih]

theorem render_concat (f : List Char → List Char) (more : List Char) (o : Outline) :
    (o.concat more).render f = o.render f ++ more := by
  induction o with
  | text t => rfl
  | token before content rest ih => simp [concat, render, ih]

theorem concat_prepend (t more : List Char) (o : Outline) :
    (o.prepend t).concat more = (o.concat more).prepend t := by
  cases o <;> simp [prepend, concat]

section
variable {d : List Char} (hd : ∀ c ∈ d, Text.isBlank c = false) (hne : d ≠ [])
include hd hne

theorem map_prepend (t : List Char) (o : Outline) :
    (o.prepend (t ++ d)).map Text.collapseRuns =
      (o.map Text.collapseRuns).prepend (Text.collapseRuns t ++ d) := by
  cases o <;> simp only [prepend, map, Text.collapseRuns_append_free hd hne]

/-- Runs can be collapsed before or after something without blanks takes the place of the tokens. -/
theorem collapseRuns_render (o : Outline) :
    Text.collapseRuns (o.render fun _ => d) = (o.map Text.collapseRuns).render fun _ => d := by
  induction o with
  | text t => rfl
  | token before content rest ih => rw [render, Text.collapseRuns_append_free hd hne, ih]; rfl

end

end Outline

namespace Delimiters

open Text

theorem escapes_collapseRuns (s : List Char) : escapes (collapseRuns s) = escapes s := by
  unfold escapes
  rw [getLast?_collapseRuns]
  cases s.getLast? with
  | none => rfl
  | some c =>
    by_cases hc : isBlank c = true
    · have hne : c ≠ '\\' := by
        rintro rfl
        exact absurd hc (by decide)
      simp [spaced, hc, hne]
    · simp [spaced, hc]

theorem dropLast_collapseRuns {s : List Char} (h : escapes s = true) :
    (collapseRuns s).dropLast = collapseRuns s.dropLast := by
  have hs : collapseRuns s = collapseRuns s.dropLast ++ ['\\'] := by
    conv_lhs => rw [eq_append_of_escapes h]
    exact collapseRuns_append_cons (by decide) _ []
  rw [hs, List.dropLast_concat]

theorem readContent_collapseRuns (s : List Char) :
    readContent ['}'] (collapseRuns s) =
      (readContent ['}'] s).map (Prod.map collapseRuns collapseRuns) := by
  have hbrace : ∀ c ∈ ['}'], isBlank c = false := by
    simp [(by decide : isBlank '}' = false)]
  fun_induction readContent ['}'] s with
  | case1 s hcut =>
    rw [readContent_eq, cut?_collapseRuns List.not_mem_nil hbrace, hcut]
    rfl
  | case2 s before after hcut he ih =>
    rw [readContent_eq, cut?_collapseRuns List.not_mem_nil hbrace, hcut]
    simp only [Option.map_some, Prod.map_apply, escapes_collapseRuns, he, if_true, ih,
      dropLast_collapseRuns he, Option.map_map]
    congr 1
    funext p
    simp only [Function.comp_apply, Prod.map,
      collapseRuns_append_free hbrace (List.cons_ne_nil _ _)]
  | case3 s before after hcut he =>
    rw [readContent_eq, cut?_collapseRuns List.not_mem_nil hbrace, hcut]
    simp [escapes_collapseRuns, he]

section
variable {d : Delimiters} {lead : Char} (hd : d.Braced lead)
include hd

theorem outline_collapseRuns (hlead : isBlank lead = false) (s : List Char) :
    d.outline (collapseRuns s) = (d.outline s).map collapseRuns := by
  have hopening : ∀ c ∈ [lead, '{'], isBlank c = false := by
    simp [hlead, (by decide : isBlank '{' = false)]
  have hcollapsed : cut? d.opening (collapseRuns s) =
      (cut? d.opening s).map (Prod.map collapseRuns collapseRuns) := by
    rw [hd.opening]
    exact cut?_collapseRuns (by simpa using hd.lead_ne_brace) hopening s
  rw [outline_eq d s, outline_eq d (collapseRuns s), hcollapsed]
  cases hcut : cut? d.opening s with
  | none => rfl
  | some p =>
    obtain ⟨before, after⟩ := p
    have hlength := length_of_cut? hcut
    have hpos := List.length_pos_iff.mpr d.opening_ne_nil
    simp only [Option.map_some, Prod.map_apply, escapes_collapseRuns]
    split
    · rename_i he
      rw [dropLast_collapseRuns he, outline_collapseRuns hlead after, hd.opening,
        Outline.map_prepend hopening (List.cons_ne_nil _ _)]
    · rw [hd.closing, readContent_collapseRuns]
      cases hread : readContent ['}'] after with
      | none => rfl
      | some q =>
        obtain ⟨content, rest⟩ := q
        have hrest := length_of_readContent hread
        simp only [Option.map_some, Prod.map_apply]
        rw [outline_collapseRuns hlead rest]
        rfl
termination_by s.length

end

/-! ## Blanks at the ends -/

theorem cut?_singleton_eq_none_iff {k : Char} {s : List Char} : cut? [k] s = none ↔ k ∉ s := by
  constructor
  · intro h hk
    obtain ⟨a, b, rfl, ha⟩ := List.eq_append_cons_of_mem hk
    rw [cut?_singleton ha] at h
    cases h
  · intro hk
    exact cut?_eq_none_iff.mpr fun h => hk (h.subset List.mem_cons_self)

theorem cut?_append_of_not_mem {k : Char} {t pre : List Char} (hk : k ∉ pre) (s : List Char) :
    cut? (k :: t) (pre ++ s) = (cut? (k :: t) s).map (Prod.map (pre ++ ·) id) := by
  induction pre with
  | nil =>
    rw [List.nil_append]
    cases cut? (k :: t) s <;> rfl
  | cons c pre ih =>
    rw [List.mem_cons, not_or] at hk
    have hc : ¬ (k :: t).isPrefixOf (c :: (pre ++ s)) = true := by simp [hk.1]
    rw [List.cons_append, cut?, if_neg hc, ih hk.2, Option.map_map]
    rfl

theorem suffix_of_readContent {closing s content rest : List Char}
    (h : readContent closing s = some (content, rest)) : rest <:+ s := by
  fun_induction readContent closing s generalizing content with
  | case1 => cases h
  | case2 s before after hcut he ih =>
    obtain ⟨⟨content', rest'⟩, hread, hr⟩ := Option.map_eq_some_iff.mp h
    cases hr
    exact (ih hread).trans ⟨before ++ closing, (eq_append_of_cut? hcut).symm⟩
  | case3 s before after hcut he =>
    obtain ⟨_, rfl⟩ := Prod.mk.inj (Option.some.inj h)
    exact ⟨before ++ closing, (eq_append_of_cut? hcut).symm⟩

section
variable {blanks : List Char} (hblanks : ∀ c ∈ blanks, isBlank c = true)
include hblanks

theorem not_mem_of_blanks {k : Char} (hk : isBlank k = false) : k ∉ blanks := by
  intro h
  rw [hblanks k h] at hk
  cases hk

theorem readContent_append_blanks (s : List Char) :
    readContent ['}'] (s ++ blanks) = (readContent ['}'] s).map (Prod.map id (· ++ blanks)) := by
  fun_induction readContent ['}'] s with
  | case1 s hcut =>
    have hnone : cut? ['}'] (s ++ blanks) = none := by
      rw [cut?_singleton_eq_none_iff] at hcut ⊢
      rw [List.mem_append, not_or]
      exact ⟨hcut, not_mem_of_blanks hblanks (by decide)⟩
    rw [readContent_eq, hnone]
    rfl
  | case2 s before after hcut he ih =>
    have hsome := cut?_append hcut (after ++ blanks)
    rw [← List.append_assoc, ← eq_append_of_cut? hcut] at hsome
    rw [readContent_eq, hsome]
    simp only [he, if_true, ih, Option.map_map]
    rfl
  | case3 s before after hcut he =>
    have hsome := cut?_append hcut (after ++ blanks)
    rw [← List.append_assoc, ← eq_append_of_cut? hcut] at hsome
    rw [readContent_eq, hsome]
    simp [he]

variable {d : Delimiters} {lead : Char} (hd : d.Braced lead)
include hd

theorem outline_append_blanks (s : List Char) :
    d.outline (s ++ blanks) = (d.outline s).concat blanks := by
  rw [outline_eq d s]
  cases hcut : cut? d.opening s with
  | none =>
    have hnone : cut? d.opening (s ++ blanks) = none := by
      rw [cut?_eq_none_iff, hd.opening] at hcut ⊢
      intro h
      have hbrace : '{' ∉ blanks := not_mem_of_blanks hblanks (by decide)
      -- a delimiter that the blanks complete would hold a blank
      rcases pair_infix_append h with h | h | h
      · exact hcut h
      · exact hbrace (h.subset (by simp))
      · exact hbrace (List.mem_of_mem_head? h)
    rw [outline_eq, hnone]
    rfl
  | some p =>
    obtain ⟨before, after⟩ := p
    have hlength := length_of_cut? hcut
    have hpos := List.length_pos_iff.mpr d.opening_ne_nil
    have hsome := cut?_append hcut (after ++ blanks)
    rw [← List.append_assoc, ← eq_append_of_cut? hcut] at hsome
    rw [outline_eq, hsome]
    dsimp only
    split
    · rw [outline_append_blanks after, Outline.concat_prepend]
    · rw [hd.closing, readContent_append_blanks hblanks]
      cases hread : readContent ['}'] after with
      | none => rfl
      | some q =>
        obtain ⟨content, rest⟩ := q
        have hrest := length_of_readContent hread
        simp only [Option.map_some, Prod.map_apply, id_eq]
        rw [outline_append_blanks rest]
        rfl
termination_by s.length

theorem outline_blanks_append (hlead : isBlank lead = false) (s : List Char) :
    d.outline (blanks ++ s) = (d.outline s).prepend blanks := by
  have hcut : cut? d.opening (blanks ++ s) =
      (cut? d.opening s).map (Prod.map (blanks ++ ·) id) := by
    rw [hd.opening]
    exact cut?_append_of_not_mem (not_mem_of_blanks hblanks hlead) s
  have hescapes : ∀ before, escapes (blanks ++ before) = escapes before := by
    intro before
    by_cases hnil : before = []
    · have hblank : '\\' ∉ blanks := not_mem_of_blanks hblanks (by decide)
      rw [hnil, List.append_nil, escapes_eq_false hblank]
      rfl
    · exact escapes_append hnil
  rw [outline_eq, outline_eq d s, hcut]
  cases cut? d.opening s with
  | none => rfl
  | some p =>
    obtain ⟨before, after⟩ := p
    simp only [Option.map_some, Prod.map_apply, id_eq, hescapes]
    split
    · rename_i he
      have hne : before ≠ [] := by
        rintro rfl
        cases he
      rw [List.dropLast_append_of_ne_nil hne]
      cases d.outline after <;> simp [Outline.prepend]
    · cases readContent d.closing after <;> rfl

end

section
variable {d : Delimiters} {lead : Char} (hd : d.Braced lead) {fill : List Char}
  (hfill : ∀ c ∈ fill, isBlank c = false) (hne : fill ≠ [])
include hd hfill hne

theorem mem_head?_of_render (hlead : isBlank lead = false) {s : List Char} {c : Char}
    (h : c ∈ ((d.outline s).render fun _ => fill).head?) (hc : isBlank c = true) : c ∈ s.head? := by
  have hfront : ∀ {before front after : List Char}, before <+: s → front ≠ [] →
      (∀ k ∈ front.head?, isBlank k = false) → c ∈ (before ++ (front ++ after)).head? →
        c ∈ s.head? := by
    intro before front after hbefore hne hk h
    by_cases hnil : before = []
    · rw [hnil, List.nil_append, List.head?_append_of_ne_nil _ hne] at h
      rw [hk c h] at hc
      cases hc
    · rw [List.head?_append_of_ne_nil _ hnil] at h
      exact List.mem_head?_of_prefix hbefore h
  rw [outline_eq] at h
  cases hcut : cut? d.opening s with
  | none =>
    rw [hcut] at h
    exact h
  | some p =>
    obtain ⟨before, after⟩ := p
    have hbefore : before <+: s := ⟨d.opening ++ after, by simp [eq_append_of_cut? hcut]⟩
    rw [hcut] at h
    dsimp only at h
    split at h
    · rw [Outline.render_prepend, hd.opening, List.append_assoc] at h
      refine hfront ((List.dropLast_prefix before).trans hbefore) (List.cons_ne_nil _ _) ?_ h
      simpa using hlead
    · cases hread : readContent d.closing after with
      | none =>
        rw [hread] at h
        exact h
      | some q =>
        rw [hread] at h
        simp only [Outline.render, List.append_assoc] at h
        exact hfront hbefore hne (fun k hk => hfill k (List.mem_of_mem_head? hk)) h

theorem mem_getLast?_of_render {s : List Char} {c : Char}
    (h : c ∈ ((d.outline s).render fun _ => fill).getLast?) (hc : isBlank c = true) :
    c ∈ s.getLast? := by
  -- the end is that of the rest, or of what the token is filled with
  have hend : ∀ {front back rest : List Char}, rest <:+ s → front ≠ [] →
      (∀ k ∈ front.getLast?, isBlank k = false) → (c ∈ back.getLast? → c ∈ rest.getLast?) →
        c ∈ (front ++ back).getLast? → c ∈ s.getLast? := by
    intro front back rest hrest hne hk hback h
    by_cases hnil : back = []
    · rw [hnil, List.append_nil] at h
      rw [hk c h] at hc
      cases hc
    · rw [List.getLast?_append_of_ne_nil _ hnil] at h
      exact List.mem_getLast?_of_suffix hrest (hback h)
  rw [outline_eq] at h
  cases hcut : cut? d.opening s with
  | none =>
    rw [hcut] at h
    exact h
  | some p =>
    obtain ⟨before, after⟩ := p
    have hlength := length_of_cut? hcut
    have hpos := List.length_pos_iff.mpr d.opening_ne_nil
    have hafter : after <:+ s := ⟨before ++ d.opening, (eq_append_of_cut? hcut).symm⟩
    rw [hcut] at h
    dsimp only at h
    split at h
    · rw [Outline.render_prepend, hd.opening] at h
      refine hend hafter (by simp) (fun k hk => ?_) (mem_getLast?_of_render · hc) h
      rw [List.getLast?_append_of_ne_nil _ (List.cons_ne_nil _ _)] at hk
      cases hk
      show isBlank '{' = false
      decide
    · cases hread : readContent d.closing after with
      | none =>
        rw [hread] at h
        exact h
      | some q =>
        obtain ⟨content, rest⟩ := q
        have hrest := length_of_readContent hread
        rw [hread] at h
        refine hend ((suffix_of_readContent hread).trans hafter) (by simp [hne]) (fun k hk => ?_)
          (mem_getLast?_of_render · hc) h
        rw [List.getLast?_append_of_ne_nil _ hne] at hk
        exact hfill k (List.mem_of_getLast? hk)
termination_by s.length

theorem bare_render (hlead : isBlank lead = false) {s : List Char} (h : Bare s) :
    Bare ((d.outline s).render fun _ => fill) := by
  constructor
  · intro c hc
    by_contra hblank
    rw [Bool.not_eq_false] at hblank
    rw [h.first c (mem_head?_of_render hd hfill hne hlead hc hblank)] at hblank
    cases hblank
  · intro c hc
    by_contra hblank
    rw [Bool.not_eq_false] at hblank
    rw [h.last c (mem_getLast?_of_render hd hfill hne hc hblank)] at hblank
    cases hblank

/-- A text with longer runs in it and with blanks around it has the same tokens, with longer runs. -/
theorem collapse_render (hlead : isBlank lead = false) {s t pre post : List Char}
    (hpre : ∀ c ∈ pre, isBlank c = true) (hpost : ∀ c ∈ post, isBlank c = true)
    (hs : collapseRuns s = pre ++ t ++ post) :
    (d.outline t).contents = (d.outline s).contents.map collapseRuns ∧
      collapseRuns ((d.outline s).render fun _ => fill) =
        pre ++ ((d.outline t).render fun _ => fill) ++ post := by
  have houtline : (d.outline s).map collapseRuns = ((d.outline t).concat post).prepend pre := by
    rw [← outline_collapseRuns hd hlead, hs, outline_append_blanks hpost hd,
      outline_blanks_append hpre hd hlead, Outline.concat_prepend]
  constructor
  · rw [← Outline.contents_map, houtline, Outline.contents_prepend, Outline.contents_concat]
  · rw [Outline.collapseRuns_render hfill hne, houtline, Outline.render_prepend, Outline.render_concat,
      List.append_assoc]

end

end Delimiters

namespace Statement

open Text

/-- The collapsed text has the tokens of the text, with their runs collapsed, and its statement is the
collapsed one. -/
theorem ofSql_collapseBlanks (sql : String) :
    let collapsed := collapseBlanks sql
    let runs := fun content : String => String.ofList (collapseRuns content.toList)
    collapsed = trim (runs sql) ∧
    Delimiters.hash.tokens collapsed = (Delimiters.hash.tokens sql).map runs ∧
    Delimiters.hash.replace (fun _ => placeholder) collapsed =
      collapseBlanks (Delimiters.hash.replace (fun _ => placeholder) sql) ∧
    ∀ (config : Configuration) (kind : Kind) (bindings : Bindings),
      config.settings.shrinkBlanks = true →
      ofSql config sql kind bindings =
        (((Delimiters.hash.tokens sql).map runs).mapM
          (Parameter.ofContent config kind bindings)).map fun parameters =>
            ⟨collapseBlanks (Delimiters.hash.replace (fun _ => placeholder) sql), parameters⟩ := by
  intro collapsed runs
  obtain ⟨pre, post, hpre, hpost, hs⟩ := exists_collapseRuns_eq_append sql
  have hfill : ∀ c ∈ placeholder.toList, isBlank c = false := by
    simp [placeholder, (by decide : isBlank '?' = false)]
  have hbare := bare_collapseBlanks sql
  obtain ⟨hcontents, hrender⟩ := Delimiters.collapse_render Delimiters.braced_hash hfill (by decide)
    (by decide) hpre hpost hs
  have htokens : Delimiters.hash.tokens collapsed = (Delimiters.hash.tokens sql).map runs := by
    rw [Delimiters.tokens_eq, Delimiters.tokens_eq, hcontents, List.map_map, List.map_map]
    congr 1
    funext content
    simp [runs]
  -- trimming takes away just the blanks that the runs left at the ends
  have hreplace : Delimiters.hash.replace (fun _ => placeholder) collapsed =
      collapseBlanks (Delimiters.hash.replace (fun _ => placeholder) sql) := by
    rw [collapseBlanks_eq_trim, trim, String.toList_ofList, Delimiters.toList_replace, hrender,
      (Delimiters.bare_render Delimiters.braced_hash hfill (by decide) (by decide)
        hbare).trimBoth_append hpre hpost,
      ← Delimiters.toList_replace Delimiters.hash (fun _ => placeholder), String.ofList_toList]
  refine ⟨collapseBlanks_eq_trim sql, htokens, hreplace, fun config kind bindings hshrink => ?_⟩
  have hprepare : prepare config sql = collapsed := by
    unfold prepare
    rw [if_pos hshrink]
  rw [ofSql_eq, hprepare, htokens, hreplace]

theorem ofSql_collapseBlanks_runs :
    let config : Configuration := { Configuration.standard with settings.shrinkBlanks := true }
    let sql := "  a\t \\#\x7bx\x7d  #\x7b id \n ,  mode =  IN \x7d z#\x7by  "
    config.settings.shrinkBlanks = true ∧
    Delimiters.hash.tokens (collapseBlanks sql) = [" id , mode = IN "] ∧
    ofSql config sql (.record "User") (.start .null none false) =
      .ok ⟨"a #\x7bx\x7d ? z#\x7by", [{ property := "id", kind := .object, handler := some "object" }]⟩ := by
  intro config sql
  obtain ⟨-, htokens, -, hsql⟩ := ofSql_collapseBlanks sql
  have hcontents : Delimiters.hash.tokens sql = [" id \n ,  mode =  IN "] := by decide +kernel
  refine ⟨rfl, ?_, ?_⟩
  · rw [htokens, hcontents]
    decide +kernel
  · rw [hsql config (.record "User") (.start .null none false) rfl, hcontents]
    decide +kernel

end Statement

end SqlTemplate
