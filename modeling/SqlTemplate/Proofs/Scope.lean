import SqlTemplate.Proofs.Numbered
import SqlTemplate.Proofs.Sink

/-!
# The scopes of loop variables

`Resolves` says what a reference means inside nested loops, and nothing about how the sinks of the
loops find it out: the innermost loop with a matching variable claims it. The sinks rescan the text
once for every loop; `resolves_renameThrough` is the law for one content, `toList_renamedBy` carries it
over to texts. What keeps an outer loop from touching a reference that an inner one has claimed is
`not_refers_numbered`.
-/

namespace SqlTemplate

/-! ## References to variables -/

structure Loop.IsVariable (name : String) : Prop where
  ne_nil : name.toList ≠ []
  continues : ∀ c ∈ name.toList, LoopScope.continuesName c = true
  plain : Loop.isNumbered name = false

instance (name : String) : Decidable (Loop.IsVariable name) :=
  decidable_of_iff (name.toList ≠ [] ∧ name.toList.all LoopScope.continuesName = true ∧
      Loop.isNumbered name = false)
    ⟨fun h => ⟨h.1, List.all_eq_true.mp h.2.1, h.2.2⟩,
      fun h => ⟨h.1, List.all_eq_true.mpr h.2, h.3⟩⟩

namespace LoopScope

def names (scope : LoopScope) : List String :=
  scope.item.toList ++ scope.index.toList

/-- A content refers to a name: behind blanks it begins with the name, and `rest`, which follows,
does not continue the name. -/
def Refers (name content : String) (rest : List Char) : Prop :=
  (∃ blanks, content.toList = blanks ++ (name.toList ++ rest) ∧
    ∀ c ∈ blanks, Text.isBlank c = true) ∧ rest.head?.any continuesName = false

def references (scopes : List LoopScope) : List (String × Nat) :=
  scopes.flatMap fun scope => scope.names.map (·, scope.number)

/-- What the content of a token becomes among variables of which the first that it refers to claims
it. -/
inductive Resolves : List (String × Nat) → String → String → Prop
  | free {vars : List (String × Nat)} {content : String}
      (h : ∀ v ∈ vars, ∀ rest, ¬ Refers v.1 content rest) : Resolves vars content content
  | claimed {before after : List (String × Nat)} {name content : String} {number : Nat}
      {rest : List Char} (hbefore : ∀ v ∈ before, ∀ rest, ¬ Refers v.1 content rest)
      (h : Refers name content rest) :
      Resolves (before ++ (name, number) :: after) content
        (Loop.numbered name number ++ String.ofList rest)

theorem toNat_of_continuesName {c : Char} (h : continuesName c = true) :
    0x24 ≤ c.toNat ∧ c.toNat ≤ 0x7A := by
  delta continuesName Char.isAlphanum Char.isAlpha Char.isUpper Char.isLower Char.isDigit at h
  simp only [Bool.or_eq_true, Bool.and_eq_true, decide_eq_true_eq, beq_iff_eq,
    UInt32.le_iff_toNat_le, ge_iff_le] at h
  change ((((65 ≤ c.toNat ∧ c.toNat ≤ 90) ∨ (97 ≤ c.toNat ∧ c.toNat ≤ 122)) ∨
    (48 ≤ c.toNat ∧ c.toNat ≤ 57)) ∨ c = '_') ∨ c = '$' at h
  rcases h with (((h | h) | h) | rfl) | rfl
  · omega
  · omega
  · omega
  · decide
  · decide

theorem not_isBlank_of_continuesName {c : Char} (h : continuesName c = true) :
    Text.isBlank c = false := by
  have hn := toNat_of_continuesName h
  unfold Text.isBlank
  simp only [Bool.or_eq_false_iff, Bool.and_eq_false_iff, decide_eq_false_iff_not, beq_eq_false_iff_ne]
  omega

theorem ne_of_continuesName_false {c k : Char} (hk : continuesName k = false)
    (h : continuesName c = true) : k ≠ c := by
  rintro rfl
  rw [h] at hk
  cases hk

/-! ## One loop -/

theorem refers_of_rename? {name content t : String} {number : Nat}
    (h : rename? name number content = some t) :
    ∃ rest, Refers name content rest ∧ t = Loop.numbered name number ++ String.ofList rest := by
  have hsplit := List.takeWhile_append_dropWhile (p := Text.isBlank) (l := content.toList)
  simp only [rename?] at h
  split at h
  · rename_i hp
    obtain ⟨rest, hrest⟩ := List.isPrefixOf_iff_prefix.mp hp
    rw [← hrest, List.drop_left] at h
    split at h
    · cases h
    · rename_i hc
      refine ⟨rest, ⟨⟨content.toList.takeWhile Text.isBlank, ?_, ?_⟩, ?_⟩, ?_⟩
      · rw [hrest, hsplit]
      · exact List.all_eq_true.mp List.all_takeWhile
      · simpa using hc
      · exact (Option.some.inj h).symm
  · cases h

theorem rename?_of_refers {name content : String} {rest : List Char} (hne : name.toList ≠ [])
    (hcontinues : ∀ c ∈ name.toList, continuesName c = true) (number : Nat)
    (h : Refers name content rest) :
    rename? name number content = some (Loop.numbered name number ++ String.ofList rest) := by
  obtain ⟨⟨blanks, hc, hb⟩, hr⟩ := h
  have hdrop : content.toList.dropWhile Text.isBlank = name.toList ++ rest := by
    rw [hc, List.dropWhile_append_of_pos hb]
    cases hn : name.toList with
    | nil => exact absurd hn hne
    | cons c s =>
      have := not_isBlank_of_continuesName (hcontinues c (by rw [hn]; simp))
      rw [List.cons_append, List.dropWhile_cons_of_neg (by simp [this])]
  have hp : name.toList.isPrefixOf (name.toList ++ rest) = true := by
    rw [List.isPrefixOf_iff_prefix]
    exact List.prefix_append _ _
  simp [rename?, hdrop, hp, hr]

theorem rename?_eq_some_iff {name : String} (hname : Loop.IsVariable name) (number : Nat)
    (content t : String) :
    rename? name number content = some t ↔
      ∃ rest, Refers name content rest ∧ t = Loop.numbered name number ++ String.ofList rest := by
  constructor
  · exact refers_of_rename?
  · rintro ⟨rest, hr, rfl⟩
    exact rename?_of_refers hname.ne_nil hname.continues number hr

theorem rename?_eq_none_iff {name : String} (hname : Loop.IsVariable name) (number : Nat)
    (content : String) :
    rename? name number content = none ↔ ∀ rest, ¬ Refers name content rest := by
  constructor
  · intro h rest hr
    rw [(rename?_eq_some_iff hname number content _).mpr ⟨rest, hr, rfl⟩] at h
    cases h
  · intro h
    cases ht : rename? name number content with
    | none => rfl
    | some t =>
      obtain ⟨rest, hr, _⟩ := (rename?_eq_some_iff hname number content t).mp ht
      exact absurd hr (h rest)

theorem rename_eq (scope : LoopScope) (content : String) :
    scope.rename content =
      (scope.names.findSome? fun name => rename? name scope.number content).getD content := by
  unfold rename names
  cases scope.item with
  | none => cases scope.index <;> simp
  | some item =>
    cases scope.index with
    | none => simp
    | some index =>
      cases hi : rename? item scope.number content with
      | none => cases hx : rename? index scope.number content <;> simp [hi, hx]
      | some t => simp [hi]

/-- A loop claims a content for the first of its variables that the content refers to, or leaves it
as it is. -/
theorem rename_cases {scope : LoopScope} (hvars : ∀ name ∈ scope.names, Loop.IsVariable name)
    (content : String) :
    (∃ names name more rest, scope.names = names ++ name :: more ∧
        (∀ n ∈ names, ∀ rest, ¬ Refers n content rest) ∧ Refers name content rest ∧
        scope.rename content = Loop.numbered name scope.number ++ String.ofList rest) ∨
      (∀ name ∈ scope.names, ∀ rest, ¬ Refers name content rest) ∧
        scope.rename content = content := by
  rw [rename_eq]
  cases h : scope.names.findSome? fun name => rename? name scope.number content with
  | none =>
    rw [List.findSome?_eq_none_iff] at h
    exact Or.inr ⟨fun name hn => (rename?_eq_none_iff (hvars name hn) _ _).mp (h name hn), rfl⟩
  | some t =>
    obtain ⟨names, name, more, hl, ht, hn⟩ := List.findSome?_eq_some_iff.mp h
    have hmem : ∀ n ∈ names ++ name :: more, Loop.IsVariable n := by rw [← hl]; exact hvars
    obtain ⟨rest, hr, he⟩ := (rename?_eq_some_iff (hmem name (by simp)) _ _ _).mp ht
    refine Or.inl ⟨names, name, more, rest, hl, ?_, hr, he⟩
    intro n hnm
    exact (rename?_eq_none_iff (hmem n (by simp [hnm])) _ _).mp (hn n hnm)

/-! ## Loops around a loop -/

theorem continuesName_of_mem_marker {c : Char} (h : c ∈ Loop.marker) : continuesName c = true := by
  have hall : Loop.marker.all continuesName = true := by decide
  exact List.all_eq_true.mp hall c h

theorem continuesName_of_mem_digits {c : Char} {number : Nat} (h : c ∈ Nat.toDigits 10 number) :
    continuesName c = true := by
  have := Nat.isDigit_of_mem_toDigits (by decide) (by decide) h
  simp [continuesName, Char.isAlphanum, this]

theorem mem_numbered_iff {k : Char} (hk : continuesName k = false) (name : String) (number : Nat) :
    k ∈ (Loop.numbered name number).toList ↔ k ∈ name.toList := by
  have hmarker : k ∉ Loop.marker := fun hm =>
    ne_of_continuesName_false hk (continuesName_of_mem_marker hm) rfl
  have hdigits : k ∉ Nat.toDigits 10 number := fun hm =>
    ne_of_continuesName_false hk (continuesName_of_mem_digits hm) rfl
  have hline : k ≠ '_' := ne_of_continuesName_false hk (by decide)
  rw [Loop.toList_numbered]
  simp [hmarker, hdigits, hline]

/-- No variable is what a numbered name begins with: it would have to end inside the beginning that
all numbered names share, and there it is continued. -/
theorem not_refers_numbered {x : String} (hx : Loop.IsVariable x) (name : String) (number : Nat)
    (s rest : List Char) : ¬ Refers x (Loop.numbered name number ++ String.ofList s) rest := by
  rintro ⟨⟨blanks, hc, hb⟩, hr⟩
  rw [String.toList_append, Loop.toList_numbered, List.append_assoc] at hc
  have hblanks : blanks = [] := by
    cases blanks with
    | nil => rfl
    | cons c blanks =>
      simp only [Loop.marker, List.cons_append, List.cons.injEq] at hc
      have := hb c (by simp)
      rw [← hc.1] at this
      exact absurd this (by decide)
  rw [hblanks, List.nil_append] at hc
  rcases List.append_eq_append_iff.mp hc with ⟨a, ha, _⟩ | ⟨a, ha, har⟩
  · have : Loop.isNumbered x = true := by
      rw [Loop.isNumbered, List.isPrefixOf_iff_prefix]
      exact ⟨a, ha.symm⟩
    rw [hx.plain] at this
    cases this
  · cases a with
    | nil =>
      have : Loop.isNumbered x = true := by
        rw [Loop.isNumbered, List.isPrefixOf_iff_prefix]
        exact ⟨[], by rw [ha]; simp⟩
      rw [hx.plain] at this
      cases this
    | cons c a =>
      have hcm : c ∈ Loop.marker := by rw [ha]; simp
      rw [har] at hr
      simp [continuesName_of_mem_marker hcm] at hr

def renameThrough (scopes : List LoopScope) (content : String) : String :=
  scopes.foldl (fun content scope => scope.rename content) content

theorem Resolves.prepend {vars before : List (String × Nat)} {content t : String}
    (hbefore : ∀ v ∈ before, ∀ rest, ¬ Refers v.1 content rest) (h : Resolves vars content t) :
    Resolves (before ++ vars) content t := by
  cases h with
  | free h =>
    refine .free fun v hv => ?_
    rcases List.mem_append.mp hv with hv | hv
    · exact hbefore v hv
    · exact h v hv
  | @claimed before' after name _ number rest hb h =>
    rw [← List.append_assoc]
    refine .claimed (fun v hv => ?_) h
    rcases List.mem_append.mp hv with hv | hv
    · exact hbefore v hv
    · exact hb v hv

theorem renameThrough_numbered {scopes : List LoopScope}
    (hvars : ∀ scope ∈ scopes, ∀ name ∈ scope.names, Loop.IsVariable name) (name : String)
    (number : Nat) (s : List Char) :
    renameThrough scopes (Loop.numbered name number ++ String.ofList s) =
      Loop.numbered name number ++ String.ofList s := by
  induction scopes with
  | nil => rfl
  | cons scope scopes ih =>
    have hscope := hvars scope (by simp)
    have hkeep : scope.rename (Loop.numbered name number ++ String.ofList s) =
        Loop.numbered name number ++ String.ofList s := by
      rcases rename_cases hscope (Loop.numbered name number ++ String.ofList s) with
        ⟨_, x, _, rest, hl, _, hr, _⟩ | ⟨_, he⟩
      · exact absurd hr (not_refers_numbered (hscope x (by rw [hl]; simp)) name number s rest)
      · exact he
    unfold renameThrough at ih ⊢
    rw [List.foldl_cons, hkeep]
    exact ih fun scope hm => hvars scope (by simp [hm])

/-- Renaming loop by loop, from the inside out, finds the innermost loop that claims a content. -/
theorem resolves_renameThrough {scopes : List LoopScope}
    (hvars : ∀ scope ∈ scopes, ∀ name ∈ scope.names, Loop.IsVariable name) (content : String) :
    Resolves (references scopes) content (renameThrough scopes content) := by
  induction scopes with
  | nil => exact .free (by simp [references])
  | cons scope scopes ih =>
    have hscopes : ∀ s ∈ scopes, ∀ name ∈ s.names, Loop.IsVariable name :=
      fun s hm => hvars s (by simp [hm])
    have hrefs : references (scope :: scopes) =
        scope.names.map (·, scope.number) ++ references scopes := by simp [references]
    rw [hrefs]
    rcases rename_cases (hvars scope (by simp)) content with
      ⟨names, name, more, rest, hl, hn, hr, he⟩ | ⟨hn, he⟩
    -- the inner loop claims the content, and the loops around it leave its numbered name alone
    · have ht : renameThrough (scope :: scopes) content =
          Loop.numbered name scope.number ++ String.ofList rest := by
        unfold renameThrough
        rw [List.foldl_cons, he]
        exact renameThrough_numbered hscopes name scope.number rest
      rw [ht, hl, List.map_append, List.map_cons, List.append_assoc, List.cons_append]
      refine .claimed ?_ hr
      intro v hv
      obtain ⟨n, hm, rfl⟩ := List.mem_map.mp hv
      exact hn n hm
    · have ht : renameThrough (scope :: scopes) content = renameThrough scopes content := by
        unfold renameThrough
        rw [List.foldl_cons, he]
      rw [ht]
      refine (ih hscopes).prepend ?_
      intro v hv
      obtain ⟨n, hm, rfl⟩ := List.mem_map.mp hv
      exact hn n hm

/-- What inner loops have renamed the loops around them leave alone. -/
theorem renameThrough_append {inner outer : List LoopScope}
    (hvars : ∀ scope ∈ inner ++ outer, ∀ name ∈ scope.names, Loop.IsVariable name)
    {content : String} (h : renameThrough inner content ≠ content) :
    renameThrough (inner ++ outer) content = renameThrough inner content := by
  have happ : renameThrough (inner ++ outer) content =
      renameThrough outer (renameThrough inner content) := by simp [renameThrough]
  rw [happ]
  have hinner : Resolves (references inner) content (renameThrough inner content) :=
    resolves_renameThrough (fun s hm => hvars s (by simp [hm])) content
  generalize renameThrough inner content = t at hinner h
  generalize references inner = vars at hinner
  cases hinner with
  | free _ => exact absurd rfl h
  | @claimed _ _ name _ number rest _ _ =>
    exact renameThrough_numbered (fun s hm => hvars s (by simp [hm])) name number rest

/-! ## Texts inside loops -/

theorem not_mem_rename {k : Char} (hk : continuesName k = false) {scope : LoopScope}
    (hvars : ∀ name ∈ scope.names, Loop.IsVariable name) {content : String}
    (h : k ∉ content.toList) : k ∉ (scope.rename content).toList := by
  rcases rename_cases hvars content with ⟨_, name, _, rest, hl, _, ⟨⟨blanks, hc, _⟩, _⟩, he⟩ | ⟨_, he⟩
  · rw [hc] at h
    simp only [List.mem_append, not_or] at h
    rw [he, String.toList_append, String.toList_ofList, List.mem_append, mem_numbered_iff hk, not_or]
    exact h.2
  · rw [he]
    exact h

theorem toList_renamedBy {scopes : List LoopScope}
    (hvars : ∀ scope ∈ scopes, ∀ name ∈ scope.names, Loop.IsVariable name) {sql : String}
    (hsql : '\\' ∉ sql.toList) :
    (Sink.renamedBy scopes sql).toList =
      Delimiters.hash.written ((Delimiters.hash.segments sql.toList).map
        (Segment.mapContent fun c => (renameThrough scopes (String.ofList c)).toList)) := by
  induction scopes generalizing sql with
  | nil =>
    have hid : (Segment.mapContent fun c => (renameThrough [] (String.ofList c)).toList) = id := by
      funext part
      cases part <;> simp [Segment.mapContent, renameThrough]
    rw [hid, List.map_id, Delimiters.written_segments _ hsql]
    rfl
  | cons scope scopes ih =>
    have hscope := hvars scope (by simp)
    let f := fun c => (scope.rename (String.ofList c)).toList
    have hb : ∀ c, '\\' ∉ c → '\\' ∉ f c := fun c hc =>
      not_mem_rename (by decide) hscope (by simpa using hc)
    have hq : ∀ c, '}' ∉ c → '}' ∉ f c := fun c hc =>
      not_mem_rename (by decide) hscope (by simpa using hc)
    have htext : (scope.renameTokens sql).toList =
        Delimiters.hash.written ((Delimiters.hash.segments sql.toList).map (Segment.mapContent f)) :=
      Delimiters.toList_replace_wrap _ scope.rename sql
    -- a second scan finds the renamed contents at the same places
    have hstep := Delimiters.segments_written_map Delimiters.hash rfl f hb hq hsql
    have hrest : '\\' ∉ (scope.renameTokens sql).toList := by
      rw [htext]
      exact Delimiters.not_mem_written_map _ hb hsql
    have ih := ih (fun s hm => hvars s (by simp [hm])) hrest
    rw [htext, hstep, List.map_map] at ih
    have hcomp : (Segment.mapContent fun c => (renameThrough scopes (String.ofList c)).toList) ∘
        Segment.mapContent f =
        Segment.mapContent fun c => (renameThrough (scope :: scopes) (String.ofList c)).toList := by
      funext part
      cases part <;> simp [Segment.mapContent, renameThrough, f]
    rw [hcomp] at ih
    exact ih

end LoopScope

open LoopScope

/-- References to loop variables are lexically scoped. A fragment without backslashes that is
appended inside nested loops reaches the sink behind them as its own text with the contents of its
tokens renamed, behind texts that stand between rounds. A content becomes what the innermost loop
that claims it makes of it, and no loop further out renames it again. -/
theorem append_insideRounds (rounds : List LoopRound) (s : Sink) (sql : String)
    (hvars : ∀ r ∈ rounds, ∀ name ∈ r.scope.names, Loop.IsVariable name)
    (hsql : '\\' ∉ sql.toList) :
    let scopes := rounds.map (·.scope)
    let text := Sink.renamedBy scopes sql
    (∃ rounds' leads, (Sink.insideRounds rounds s).append sql =
        Sink.insideRounds rounds' (s.feed (leads ++ [text])) ∧
      rounds'.map (·.scope) = scopes ∧
      ∀ u ∈ leads, ∃ inner r outer, rounds = inner ++ r :: outer ∧
        u = Sink.renamedBy (outer.map (·.scope)) r.lead) ∧
    Delimiters.hash.written (Delimiters.hash.segments sql.toList) = sql.toList ∧
    text.toList = Delimiters.hash.written ((Delimiters.hash.segments sql.toList).map
      (Segment.mapContent fun c => (renameThrough scopes (String.ofList c)).toList)) ∧
    (∀ content, Resolves (references scopes) content (renameThrough scopes content)) ∧
    ∀ inner outer, scopes = inner ++ outer → ∀ content, renameThrough inner content ≠ content →
      renameThrough scopes content = renameThrough inner content := by
  intro scopes text
  have hscopes : ∀ scope ∈ scopes, ∀ name ∈ scope.names, Loop.IsVariable name := by
    intro scope hm
    obtain ⟨r, hr, rfl⟩ := List.mem_map.mp hm
    exact hvars r hr
  refine ⟨?_, Delimiters.written_segments _ hsql, toList_renamedBy hscopes hsql,
    resolves_renameThrough hscopes, ?_⟩
  · obtain ⟨rounds', leads, hf, hs, hl⟩ := Sink.feed_rounds rounds s [] sql
    refine ⟨rounds', leads, hf, hs, fun u hu => ?_⟩
    rcases hl u hu with ⟨v, hv, _⟩ | h
    · cases hv
    · exact h
  · intro inner outer he content hne
    rw [he] at hscopes ⊢
    exact renameThrough_append hscopes hne

/-- The inner index `_` and the outer item `__frch` are both beginnings of numbered names. -/
theorem append_insideRounds_underscores :
    let rounds : List LoopRound :=
      [⟨⟨some "x", some "_", 4⟩, ",", true⟩, ⟨⟨some "__frch", none, 3⟩, "", false⟩]
    let scopes := rounds.map (·.scope)
    let sql := "#\x7b _.id\x7d #\x7b__frch,mode=IN\x7d #\x7bxs\x7d"
    (∀ r ∈ rounds, ∀ name ∈ r.scope.names, Loop.IsVariable name) ∧ '\\' ∉ sql.toList ∧
      Sink.renamedBy scopes sql =
        "#\x7b__frch___4.id\x7d #\x7b__frch___frch_3,mode=IN\x7d #\x7bxs\x7d" ∧
      Resolves (references scopes) " _.id" "__frch___4.id" ∧
      Resolves (references scopes) "__frch,mode=IN" "__frch___frch_3,mode=IN" ∧
      Resolves (references scopes) "xs" "xs" := by
  intro rounds scopes sql
  have hvars : ∀ r ∈ rounds, ∀ name ∈ r.scope.names, Loop.IsVariable name := by decide +kernel
  have hsql : '\\' ∉ sql.toList := by decide +kernel
  obtain ⟨_, _, _, h, _⟩ := append_insideRounds rounds .empty sql hvars hsql
  refine ⟨hvars, hsql, by decide +kernel, ?_, ?_, ?_⟩
  · exact (show renameThrough scopes " _.id" = "__frch___4.id" by decide +kernel) ▸ h " _.id"
  · exact (show renameThrough scopes "__frch,mode=IN" = "__frch___frch_3,mode=IN" by
      decide +kernel) ▸ h "__frch,mode=IN"
  · exact (show renameThrough scopes "xs" = "xs" by decide +kernel) ▸ h "xs"

end SqlTemplate
