import SqlTemplate.Proofs.Scan

/-!
# Outlines

The outline of a text is its literal text with the contents of its tokens in between. Written out
anew without escapes, an outline is a text that may be split in another way;
`outline_written_iff` says exactly when it is not: no literal text in front of a token holds an
opening delimiter, no content holds a closing one, and the literal text at the end is inert.
-/

namespace SqlTemplate

/-! ## First occurrences -/

namespace Text

theorem cut?_eq_none_iff {d s : List Char} : cut? d s = none ↔ ¬ d <:+: s := by
  induction s with
  | nil => simp [cut?]
  | cons c s ih =>
    rw [List.infix_cons_iff, not_or, ← List.isPrefixOf_iff_prefix]
    simp only [cut?]
    split
    · rename_i hp; simp [hp]
    · rename_i hp; simp [hp, ih]

theorem not_infix_of_cut? {d s a b : List Char} (hd : d ≠ []) (h : cut? d s = some (a, b)) :
    ¬ d <:+: a := by
  induction s generalizing a b with
  | nil => simp [cut?, hd] at h
  | cons c s ih =>
    have hs := eq_append_of_cut? h
    simp only [cut?] at h
    split at h
    · simp only [Option.some.injEq, Prod.mk.injEq] at h
      obtain ⟨rfl, _⟩ := h
      simpa using hd
    · rename_i hp
      simp only [Option.map_eq_some_iff, Prod.mk.injEq] at h
      obtain ⟨⟨a', b'⟩, h, rfl, rfl⟩ := h
      rw [List.infix_cons_iff, not_or]
      refine ⟨fun hpre => hp ?_, ih h⟩
      rw [List.isPrefixOf_iff_prefix, hs, List.append_assoc]
      exact hpre.trans (List.prefix_append _ _)

section
variable {k l : Char}

theorem pair_infix_cons_iff {c : Char} {s : List Char} :
    [k, l] <:+: c :: s ↔ (c = k ∧ s.head? = some l) ∨ [k, l] <:+: s := by
  rw [List.infix_cons_iff, List.cons_prefix_cons, eq_comm (a := k)]
  cases s with
  | nil => simp
  | cons d s => simp [eq_comm]

theorem pair_infix_append {a b : List Char} (h : [k, l] <:+: a ++ b) :
    [k, l] <:+: a ∨ [k, l] <:+: b ∨ b.head? = some l := by
  induction a with
  | nil => exact Or.inr (Or.inl h)
  | cons c a ih =>
    rw [List.cons_append, pair_infix_cons_iff] at h
    rcases h with ⟨rfl, h⟩ | h
    · cases a with
      | nil => exact Or.inr (Or.inr h)
      | cons d a => exact Or.inl (pair_infix_cons_iff.mpr (Or.inl ⟨rfl, h⟩))
    · exact (ih h).imp (fun h => pair_infix_cons_iff.mpr (Or.inr h)) id

theorem cut?_pair (hkl : k ≠ l) {a : List Char} (h : ¬ [k, l] <:+: a) (b : List Char) :
    cut? [k, l] (a ++ [k, l] ++ b) = some (a, b) :=
  cut?_of_free (by simpa using hkl) h b

end

end Text

namespace Delimiters

structure Braced (d : Delimiters) (lead : Char) : Prop where
  opening : d.opening = [lead, '{']
  closing : d.closing = ['}']
  lead_ne_brace : lead ≠ '{'
  lead_ne_backslash : lead ≠ '\\'

theorem braced_hash : hash.Braced '#' := ⟨rfl, rfl, by decide, by decide⟩

theorem braced_dollar : dollar.Braced '$' := ⟨rfl, rfl, by decide, by decide⟩

theorem eq_append_of_escapes {s : List Char} (h : escapes s = true) :
    s = s.dropLast ++ ['\\'] := by
  rw [escapes, beq_iff_eq] at h
  obtain ⟨t, rfl⟩ := List.getLast?_eq_some_iff.mp h
  rw [List.dropLast_concat]

theorem escapes_append {a b : List Char} (hb : b ≠ []) : escapes (a ++ b) = escapes b := by
  unfold escapes
  rw [List.getLast?_append, List.getLast?_eq_some_getLast hb, Option.some_or]

theorem readContent_append {c : List Char} (hc : '}' ∉ c) (he : escapes c = false)
    (r : List Char) : readContent ['}'] (c ++ '}' :: r) = some (c, r) := by
  rw [readContent_eq, Text.cut?_singleton hc r]
  simp [he]

/-- A content that is read back whole holds no closing delimiter and does not escape the one behind
it. -/
theorem of_readContent_append {c r r' : List Char}
    (h : readContent ['}'] (c ++ '}' :: r) = some (c, r')) :
    '}' ∉ c ∧ escapes c = false ∧ r' = r := by
  -- an escaped brace would have lost its backslash, one inside would have ended the content
  by_cases hc : '}' ∈ c
  · obtain ⟨u, v, rfl, hu⟩ := List.eq_append_cons_of_mem hc
    rw [List.append_assoc, List.cons_append, readContent_eq, Text.cut?_singleton hu] at h
    simp only at h
    split at h
    · rename_i he
      obtain ⟨⟨content, rest⟩, _, hr⟩ := Option.map_eq_some_iff.mp h
      simp only [Prod.mk.injEq] at hr
      have hu' := hr.1
      rw [eq_append_of_escapes he] at hu'
      simp at hu'
    · simp at h
  · rw [readContent_eq, Text.cut?_singleton hc] at h
    simp only at h
    split at h
    · rename_i he
      obtain ⟨⟨content, rest⟩, _, hr⟩ := Option.map_eq_some_iff.mp h
      simp only [Prod.mk.injEq] at hr
      have hc' := hr.1
      rw [eq_append_of_escapes he] at hc'
      simp at hc'
    · rename_i he
      simp only [Option.some.injEq, Prod.mk.injEq, true_and] at h
      exact ⟨hc, by simpa using he, h.symm⟩

end Delimiters

/-! ## Outlines of segments -/

inductive Outline where
  | text (t : List Char)
  | token (before content : List Char) (rest : Outline)
deriving DecidableEq

namespace Outline

def prepend (t : List Char) : Outline → Outline
  | text t' => .text (t ++ t')
  | token before content rest => .token (t ++ before) content rest

def ofSegments : List Segment → Outline
  | [] => .text []
  | .literal t :: rest => (ofSegments rest).prepend t
  | .token content :: rest => .token [] content (ofSegments rest)

def mapContent (f : String → String) : Outline → Outline
  | text t => .text t
  | token before content rest =>
    .token before (f (String.ofList content)).toList (rest.mapContent f)

def contents : Outline → List (List Char)
  | text _ => []
  | token _ content rest => content :: rest.contents

def render (f : List Char → List Char) : Outline → List Char
  | text t => t
  | token before content rest => before ++ f content ++ rest.render f

def written (d : Delimiters) : Outline → List Char :=
  render fun content => d.opening ++ content ++ d.closing

theorem contents_prepend (t : List Char) (o : Outline) : (o.prepend t).contents = o.contents := by
  cases o <;> rfl

theorem render_prepend (f : List Char → List Char) (t : List Char) (o : Outline) :
    (o.prepend t).render f = t ++ o.render f := by
  cases o <;> simp [prepend, render]

theorem render_mapContent (f : String → String) (g : List Char → List Char) (o : Outline) :
    (o.mapContent f).render g = o.render fun c => g (f (String.ofList c)).toList := by
  induction o with
  | text t => rfl
  | token before content rest ih => simp [mapContent, render, ih]

theorem contents_ofSegments (parts : List Segment) :
    (ofSegments parts).contents = parts.filterMap Segment.content? := by
  induction parts with
  | nil => rfl
  | cons part parts ih =>
    cases part with
    | literal t => rw [ofSegments, contents_prepend, ih]; rfl
    | token content => rw [ofSegments, contents, ih]; rfl

theorem render_ofSegments (f : List Char → List Char) (parts : List Segment) :
    (ofSegments parts).render f = parts.flatMap fun
      | .literal t => t
      | .token content => f content := by
  induction parts with
  | nil => rfl
  | cons part parts ih =>
    cases part with
    | literal t => rw [ofSegments, render_prepend, ih]; rfl
    | token content => rw [ofSegments, render, ih]; rfl

end Outline

namespace Delimiters

def outline (d : Delimiters) (s : List Char) : Outline :=
  .ofSegments (d.segments s)

/-- The first opening delimiter of a text, if it has one, is neither escaped nor closed. -/
def Inert (d : Delimiters) (s : List Char) : Prop :=
  ∀ before after, Text.cut? d.opening s = some (before, after) →
    escapes before = false ∧ readContent d.closing after = none

theorem inert_of_free {d : Delimiters} {s : List Char} (h : ¬ d.opening <:+: s) :
    d.Inert s := by
  intro before after hcut
  rw [Text.cut?_eq_none_iff.mpr h] at hcut
  cases hcut

theorem outline_eq (d : Delimiters) (s : List Char) :
    d.outline s = match Text.cut? d.opening s with
      | none => .text s
      | some (before, after) =>
        if escapes before then (d.outline after).prepend (before.dropLast ++ d.opening)
        else match readContent d.closing after with
          | none => .text s
          | some (content, rest) => .token before content (d.outline rest) := by
  unfold outline
  rw [segments_eq]
  cases Text.cut? d.opening s with
  | none => simp [Outline.ofSegments, Outline.prepend]
  | some p =>
    obtain ⟨before, after⟩ := p
    dsimp only
    split
    · rfl
    · cases readContent d.closing after with
      | none => simp [Outline.ofSegments, Outline.prepend]
      | some q => simp [Outline.ofSegments, Outline.prepend]

theorem tokens_eq (d : Delimiters) (text : String) :
    d.tokens text = (d.outline text.toList).contents.map String.ofList := by
  rw [tokens, outline, Outline.contents_ofSegments]

theorem toList_replace (d : Delimiters) (f : String → String) (text : String) :
    (d.replace f text).toList =
      (d.outline text.toList).render fun content => (f (String.ofList content)).toList := by
  unfold replace
  rw [outline, Outline.render_ofSegments, String.toList_join, List.flatMap_map]
  congr 1
  funext part
  cases part <;> simp

end Delimiters

/-! ## Writing an outline and splitting the text again -/

namespace Outline

/-- Tokens that begin and end where their delimiters are written, and literal text at the end in
which none begins. -/
def Stable (d : Delimiters) : Outline → Prop
  | text t => d.Inert t
  | token before content rest =>
    ¬ d.opening <:+: before ∧ Delimiters.escapes before = false ∧
      '}' ∉ content ∧ Delimiters.escapes content = false ∧ rest.Stable d

end Outline

namespace Delimiters

variable {d : Delimiters} {lead : Char}

theorem outline_eq_text_iff (hd : d.Braced lead) {t : List Char} :
    d.outline t = .text t ↔ d.Inert t := by
  rw [outline_eq]
  unfold Inert
  cases hcut : Text.cut? d.opening t with
  | none => simp
  | some p =>
    obtain ⟨before, after⟩ := p
    have ht := Text.eq_append_of_cut? hcut
    simp only [Option.some.injEq, Prod.mk.injEq, and_imp]
    split
    · rename_i he
      constructor
      · intro h
        cases ho : d.outline after with
        | token _ _ _ => rw [ho] at h; cases h
        | text t' =>
          -- the text would go on with the opening delimiter where it has the backslash
          rw [ho, ht, hd.opening] at h
          simp only [Outline.prepend, Outline.text.injEq] at h
          rw [eq_append_of_escapes he] at h
          simp [hd.lead_ne_backslash] at h
      · intro h
        have := (h _ _ rfl rfl).1
        rw [he] at this
        cases this
    · rename_i he
      cases hr : readContent d.closing after with
      | none =>
        simp only [true_iff]
        rintro _ _ rfl rfl
        exact ⟨by simpa using he, hr⟩
      | some q =>
        simp only [reduceCtorEq, false_iff]
        intro h
        have := (h _ _ rfl rfl).2
        rw [hr] at this
        cases this

/-- An outline is split from the text it is written as if and only if it is stable. -/
theorem outline_written_iff (hd : d.Braced lead) (o : Outline) :
    d.outline (o.written d) = o ↔ o.Stable d := by
  induction o with
  | text t => exact outline_eq_text_iff hd
  | token before content rest ih =>
    have hw : (Outline.token before content rest).written d =
        before ++ d.opening ++ (content ++ '}' :: rest.written d) := by
      simp [Outline.written, Outline.render, hd.closing]
    rw [hw, outline_eq]
    constructor
    · intro h
      cases hcut : Text.cut? d.opening (before ++ d.opening ++
          (content ++ '}' :: rest.written d)) with
      | none => rw [hcut] at h; cases h
      | some p =>
        obtain ⟨u, v⟩ := p
        have hs := Text.eq_append_of_cut? hcut
        rw [hcut] at h
        simp only at h
        split at h
        · rename_i he
          cases ho : d.outline v with
          | text t => rw [ho] at h; cases h
          | token b c r =>
            -- `before` would have an opening delimiter where the text has the backslash
            rw [ho] at h
            simp only [Outline.prepend, Outline.token.injEq] at h
            rw [← h.1, hd.opening, eq_append_of_escapes he] at hs
            simp [hd.lead_ne_backslash] at hs
        · rename_i he
          cases hr : readContent d.closing v with
          | none => rw [hr] at h; cases h
          | some q =>
            obtain ⟨c, r⟩ := q
            rw [hr] at h
            simp only [Outline.token.injEq] at h
            obtain ⟨rfl, rfl, hrest⟩ := h
            have hv : c ++ '}' :: rest.written d = v := List.append_cancel_left hs
            rw [← hv, hd.closing] at hr
            obtain ⟨hq, hc, hw⟩ := of_readContent_append hr
            rw [hw] at hrest
            exact ⟨Text.not_infix_of_cut? d.opening_ne_nil hcut, by simpa using he, hq, hc,
              ih.mp hrest⟩
    · rintro ⟨hfree, he, hq, hc, hrest⟩
      rw [hd.opening] at hfree ⊢
      rw [Text.cut?_pair hd.lead_ne_brace hfree, hd.closing]
      simp only [he, readContent_append hq hc, ih.mpr hrest]
      rfl

end Delimiters

end SqlTemplate
