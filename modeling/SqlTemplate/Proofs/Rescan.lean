import SqlTemplate.Proofs.Outline
import SqlTemplate.Proofs.Scope

/-!
# Renamed text, scanned again

A loop takes the tokens out of a fragment and writes them back without escapes, and every loop
around it and the final pass scan the result. `outline_renameTokens_iff` says which fragments keep
their outline in this: those whose outline is stable. Names and numbers have no part in it, for
renaming neither closes a token nor escapes its end.
-/

namespace SqlTemplate

/-! ## Renaming under any name -/

namespace LoopScope

theorem rename_eq_or (scope : LoopScope) (content : String) :
    scope.rename content = content ∨
      ∃ name rest, Refers name content rest ∧
        scope.rename content = Loop.numbered name scope.number ++ String.ofList rest := by
  rw [rename_eq]
  cases h : scope.names.findSome? fun name => rename? name scope.number content with
  | none => exact Or.inl rfl
  | some t =>
    obtain ⟨_, name, _, _, ht, _⟩ := List.findSome?_eq_some_iff.mp h
    exact Or.inr ⟨name, refers_of_rename? ht⟩

theorem mem_rename_iff {k : Char} (hk : continuesName k = false) (hblank : Text.isBlank k = false)
    (scope : LoopScope) (content : String) :
    k ∈ (scope.rename content).toList ↔ k ∈ content.toList := by
  rcases scope.rename_eq_or content with he | ⟨name, rest, ⟨⟨blanks, hc, hb⟩, _⟩, he⟩
  · rw [he]
  · have hblanks : k ∉ blanks := by
      intro hm
      rw [hb k hm] at hblank
      cases hblank
    rw [he, hc, String.toList_append, String.toList_ofList]
    simp only [List.mem_append, mem_numbered_iff hk, hblanks, false_or]

theorem escapes_rename (scope : LoopScope) {content : String}
    (h : Delimiters.escapes content.toList = false) :
    Delimiters.escapes (scope.rename content).toList = false := by
  rcases scope.rename_eq_or content with he | ⟨name, rest, ⟨⟨blanks, hc, _⟩, _⟩, he⟩
  · rw [he]
    exact h
  · rw [he, String.toList_append, String.toList_ofList]
    cases rest with
    | nil =>
      -- the name may end with a backslash, but the number stands behind it
      rw [List.append_nil, Loop.toList_numbered, ← List.append_assoc,
        Delimiters.escapes_append (List.cons_ne_nil _ _)]
      refine Delimiters.escapes_eq_false fun hm => ?_
      rcases List.mem_cons.mp hm with hm | hm
      · cases hm
      · exact absurd (continuesName_of_mem_digits hm) (by decide)
    | cons c rest =>
      rw [hc, ← List.append_assoc, Delimiters.escapes_append (List.cons_ne_nil c rest)] at h
      rw [Delimiters.escapes_append (List.cons_ne_nil c rest)]
      exact h

end LoopScope

/-! ## The contents that a scan finds -/

namespace Delimiters

theorem escapes_of_readContent {s content rest : List Char}
    (h : readContent ['}'] s = some (content, rest)) : escapes content = false := by
  generalize hk : ['}'] = closing at h
  fun_induction readContent closing s generalizing content with
  | case1 => cases h
  | case2 s before after hcut he ih =>
    obtain ⟨⟨content', rest'⟩, hread, hr⟩ := Option.map_eq_some_iff.mp h
    simp only [Prod.mk.injEq] at hr
    obtain ⟨rfl, rfl⟩ := hr
    have ih := ih hread
    cases content' with
    | nil =>
      rw [List.append_nil, ← hk, escapes_append (List.cons_ne_nil _ _)]
      rfl
    | cons c content' => rwa [escapes_append (List.cons_ne_nil c content')]
  | case3 s before after hcut he =>
    simp only [Option.some.injEq, Prod.mk.injEq] at h
    obtain ⟨rfl, _⟩ := h
    simpa using he

theorem escapes_of_mem_contents {d : Delimiters} {lead : Char} (hd : d.Braced lead)
    {s content : List Char} (h : content ∈ (d.outline s).contents) : escapes content = false := by
  unfold outline at h
  fun_induction segments d s with
  | case1 s hcut => cases h
  | case2 s before after hcut he ih =>
    rw [Outline.ofSegments, Outline.contents_prepend] at h
    exact ih h
  | case3 s before after hcut he hread => cases h
  | case4 s before after hcut he c rest hread ih =>
    rw [Outline.ofSegments, Outline.contents_prepend, Outline.ofSegments, Outline.contents] at h
    rcases List.mem_cons.mp h with rfl | h
    · rw [hd.closing] at hread
      exact escapes_of_readContent hread
    · exact ih h

end Delimiters

/-! ## Outlines with other contents -/

namespace Outline

theorem mapContent_mapContent (f g : String → String) (o : Outline) :
    (o.mapContent f).mapContent g = o.mapContent (g ∘ f) := by
  induction o with
  | text t => rfl
  | token before content rest ih => simp [mapContent, ih]

theorem mapContent_id (o : Outline) : o.mapContent id = o := by
  induction o with
  | text t => rfl
  | token before content rest ih => simp [mapContent, ih]

theorem stable_mapContent_iff {d : Delimiters} {f : String → String} {o : Outline}
    (hclosing : ∀ c ∈ o.contents, '}' ∈ (f (String.ofList c)).toList ↔ '}' ∈ c)
    (hend : ∀ c ∈ o.contents,
      Delimiters.escapes (f (String.ofList c)).toList = Delimiters.escapes c) :
    (o.mapContent f).Stable d ↔ o.Stable d := by
  induction o with
  | text t => exact Iff.rfl
  | token before content rest ih =>
    have ih := ih (fun c hc => hclosing c (List.mem_cons_of_mem _ hc))
      fun c hc => hend c (List.mem_cons_of_mem _ hc)
    have hq := hclosing content List.mem_cons_self
    have he := hend content List.mem_cons_self
    rw [mapContent, Stable, Stable, ih, hq, he]

end Outline

/-! ## Fragments inside loops -/

namespace LoopScope

variable (scope : LoopScope) (sql : String)

theorem toList_renameTokens :
    (scope.renameTokens sql).toList =
      ((Delimiters.hash.outline sql.toList).mapContent scope.rename).written Delimiters.hash := by
  unfold renameTokens Outline.written
  rw [Delimiters.toList_replace, Outline.render_mapContent]
  congr 1
  funext c
  simp [Delimiters.wrap]

theorem stable_rename_iff :
    ((Delimiters.hash.outline sql.toList).mapContent scope.rename).Stable Delimiters.hash ↔
      (Delimiters.hash.outline sql.toList).Stable Delimiters.hash := by
  refine Outline.stable_mapContent_iff (fun c _ => ?_) fun c hc => ?_
  · rw [mem_rename_iff (by decide) (by decide), String.toList_ofList]
  · have he := Delimiters.escapes_of_mem_contents Delimiters.braced_hash hc
    rw [he, escapes_rename]
    rwa [String.toList_ofList]

theorem outline_renameTokens_iff :
    Delimiters.hash.outline (scope.renameTokens sql).toList =
        (Delimiters.hash.outline sql.toList).mapContent scope.rename ↔
      (Delimiters.hash.outline sql.toList).Stable Delimiters.hash := by
  rw [toList_renameTokens, Delimiters.outline_written_iff Delimiters.braced_hash, stable_rename_iff]

theorem outline_renamedBy {sql : String}
    (h : (Delimiters.hash.outline sql.toList).Stable Delimiters.hash) (scopes : List LoopScope) :
    Delimiters.hash.outline (Sink.renamedBy scopes sql).toList =
      (Delimiters.hash.outline sql.toList).mapContent (renameThrough scopes) := by
  induction scopes generalizing sql with
  | nil => exact (Outline.mapContent_id _).symm
  | cons scope scopes ih =>
    have hone := (outline_renameTokens_iff scope sql).mpr h
    have hstable := (stable_rename_iff scope sql).mpr h
    rw [← hone] at hstable
    have hrest : Delimiters.hash.outline (Sink.renamedBy scopes (scope.renameTokens sql)).toList =
        _ := ih hstable
    rw [hone, Outline.mapContent_mapContent] at hrest
    exact hrest

end LoopScope

/-- What a loop appends for a fragment has the same tokens with the same literal text between them,
renamed, exactly if the outline of the fragment is stable; then this holds behind any number of
loops, under any names. A fragment without escapes is one of these. -/
theorem outline_append_numbering (scope : LoopScope) (sql : String) :
    let o := Delimiters.hash.outline sql.toList
    let text := scope.renameTokens sql
    (∀ s, (Sink.numbering scope s).append sql = .numbering scope (s.append text)) ∧
    (Delimiters.hash.outline text.toList = o.mapContent scope.rename ↔
      o.Stable Delimiters.hash) ∧
    (o.Stable Delimiters.hash → ∀ scopes,
      Delimiters.hash.outline (Sink.renamedBy scopes sql).toList =
        o.mapContent (LoopScope.renameThrough scopes)) ∧
    (o.written Delimiters.hash = sql.toList → o.Stable Delimiters.hash) := by
  intro o text
  refine ⟨fun _ => rfl, scope.outline_renameTokens_iff sql, LoopScope.outline_renamedBy, fun h => ?_⟩
  rw [← Delimiters.outline_written_iff Delimiters.braced_hash, h]

theorem outline_append_numbering_stable :
    let sql := "a\\b #\x7bx.id\x7d \\#\x7by"
    let o := Delimiters.hash.outline sql.toList
    let scopes : List LoopScope := [⟨some "x", none, 4⟩, ⟨some "y", some "x", 3⟩]
    o = .token "a\\b ".toList "x.id".toList (.text " #\x7by".toList) ∧
      o.Stable Delimiters.hash ∧
      Delimiters.hash.outline (Sink.renamedBy scopes sql).toList =
        .token "a\\b ".toList "__frch_x_4.id".toList (.text " #\x7by".toList) := by
  intro sql o scopes
  have hstable : o.Stable Delimiters.hash :=
    (Delimiters.outline_written_iff Delimiters.braced_hash o).mp (by decide +kernel)
  obtain ⟨_, _, hscopes, _⟩ := outline_append_numbering ⟨some "x", none, 4⟩ sql
  exact ⟨by decide +kernel, hstable, (hscopes hstable scopes).trans (by decide +kernel)⟩

/-- An escaped opening delimiter becomes a token, and an escaped closing one cuts its token short. -/
theorem outline_append_numbering_escaped :
    let scope : LoopScope := ⟨some "x", none, 0⟩
    let outline (sql : String) := Delimiters.hash.outline sql.toList
    outline "\\#\x7bx\x7d" = .text "#\x7bx\x7d".toList ∧
      outline (scope.renameTokens "\\#\x7bx\x7d") = .token [] "x".toList (.text []) ∧
      outline "#\x7bx\\\x7dy\x7d" = .token [] "x\x7dy".toList (.text []) ∧
      outline (scope.renameTokens "#\x7bx\\\x7dy\x7d") =
        .token [] "__frch_x_0".toList (.text "y\x7d".toList) := by
  decide +kernel

end SqlTemplate
