import SqlTemplate.Proofs.Answers

/-!
# Writing tokens and literals

An outline can be written so that every delimiter in a literal or in a content is escaped. Scanning
the written text gives the outline back (`outline_encoded`), unless a backslash that is part of it
comes to stand right before a delimiter that is not.
-/

namespace SqlTemplate

/-! ## Delimiters that begin with a character of their own -/

namespace Text

def escape (d : List Char) : List Char → List Char
  | [] => []
  | c :: s => if d.isPrefixOf (c :: s) then '\\' :: c :: escape d s else c :: escape d s

theorem escape_of_free {d s : List Char} (h : ¬ d <:+: s) : escape d s = s := by
  induction s with
  | nil => rfl
  | cons c s ih =>
    rw [List.infix_cons_iff, not_or] at h
    rw [escape, if_neg (by rw [List.isPrefixOf_iff_prefix]; exact h.1), ih h.2]

variable {k : Char} {t : List Char}

theorem escape_append {u : List Char} (hu : k ∉ u) (s : List Char) :
    escape (k :: t) (u ++ s) = u ++ escape (k :: t) s := by
  induction u with
  | nil => rfl
  | cons c u ih =>
    simp only [List.mem_cons, not_or] at hu
    have hc : ¬ (k :: t).isPrefixOf (c :: (u ++ s)) = true := by simp [hu.1]
    rw [List.cons_append, escape, if_neg hc, ih hu.2]
    rfl

section
variable (hk : k ∉ t)
include hk

theorem escape_of_cut? {s a b : List Char} (h : cut? (k :: t) s = some (a, b)) :
    escape (k :: t) s = a ++ '\\' :: (k :: t ++ escape (k :: t) b) := by
  have hs := eq_append_of_cut? h
  induction s generalizing a with
  | nil => simp at hs
  | cons c s ih =>
    simp only [cut?] at h
    split at h
    · rename_i hp
      simp only [Option.some.injEq, Prod.mk.injEq] at h
      obtain ⟨rfl, _⟩ := h
      have hs : c :: s = k :: (t ++ b) := hs
      rw [escape, if_pos hp, (List.cons.inj hs).1, (List.cons.inj hs).2, escape_append hk]
      rfl
    · rename_i hp
      simp only [Option.map_eq_some_iff, Prod.mk.injEq] at h
      obtain ⟨⟨a', b'⟩, h, rfl, rfl⟩ := h
      rw [escape, if_neg hp, ih h (List.cons.inj hs).2]
      rfl

end

end Text

/-! ## Reading what was written -/

namespace Outline

def encoded (d : Delimiters) : Outline → List Char
  | text t => Text.escape d.opening t
  | token before content rest =>
    Text.escape d.opening before ++
      (d.opening ++ (Text.escape d.closing content ++ (d.closing ++ rest.encoded d)))

/-- No backslash stands right before a delimiter of a token. -/
def Encodable : Outline → Prop
  | text _ => True
  | token before content rest =>
    Delimiters.escapes before = false ∧ Delimiters.escapes content = false ∧ rest.Encodable

theorem prepend_prepend (s t : List Char) (o : Outline) :
    (o.prepend t).prepend s = o.prepend (s ++ t) := by
  cases o <;> simp [prepend]

end Outline

namespace Delimiters

theorem cut?_escaped {k : Char} {t a : List Char} (hk : k ∉ t) (hb : '\\' ∉ k :: t)
    (ha : ¬ k :: t <:+: a) (b : List Char) :
    Text.cut? (k :: t) (a ++ '\\' :: (k :: t ++ b)) = some (a ++ ['\\'], b) := by
  have hfree : ¬ k :: t <:+: a ++ ['\\'] := by
    rw [List.infix_concat_iff, not_or]
    refine ⟨fun hs => ?_, ha⟩
    rcases List.suffix_concat_iff.mp hs with hnil | ⟨u, hu, _⟩
    · cases hnil
    · exact hb (by rw [hu]; simp)
  have h := Text.cut?_of_free hk hfree b
  rwa [List.append_assoc, List.append_assoc] at h

theorem escapes_of_append {u v : List Char} (h : escapes (u ++ v) = false) : escapes v = false := by
  by_cases hnil : v = []
  · rw [hnil]
    rfl
  · rwa [escapes_append hnil] at h

theorem readContent_escape {k : Char} {t : List Char} (hk : k ∉ t) (hb : '\\' ∉ k :: t)
    (rest content : List Char) (he : escapes content = false) :
    readContent (k :: t) (Text.escape (k :: t) content ++ (k :: t ++ rest)) = some (content, rest) := by
  cases hcut : Text.cut? (k :: t) content with
  | none =>
    have hfree := Text.cut?_eq_none_iff.mp hcut
    have hwhole := Text.cut?_of_free hk hfree rest
    rw [List.append_assoc] at hwhole
    rw [Text.escape_of_free hfree, readContent_eq, hwhole]
    simp [he]
  | some p =>
    obtain ⟨u, v⟩ := p
    have hs := Text.eq_append_of_cut? hcut
    have hlength := Text.length_of_cut? hcut
    have hfree := Text.not_infix_of_cut? (List.cons_ne_nil k t) hcut
    have ih := readContent_escape hk hb rest v (escapes_of_append (hs ▸ he))
    have hlast : escapes (u ++ ['\\']) = true := by simp [escapes]
    rw [Text.escape_of_cut? hk hcut, List.append_assoc, List.cons_append, List.append_assoc,
      readContent_eq, cut?_escaped hk hb hfree]
    dsimp only
    rw [if_pos hlast, ih, hs]
    simp
termination_by content.length
decreasing_by
  rw [List.length_cons] at hlength
  omega

section
variable {d : Delimiters} {lead : Char} (hd : d.Braced lead) {w : List Char}
  (hw : w = [] ∨ d.opening <+: w)
include hd hw

theorem outline_append_of_free {t : List Char} (hfree : ¬ d.opening <:+: t)
    (ht : w ≠ [] → escapes t = false) : d.outline (t ++ w) = (d.outline w).prepend t := by
  rcases hw with rfl | ⟨v, rfl⟩
  · have hnil : d.outline [] = .text [] := by
      rw [outline_eq, Text.cut?_eq_none_iff.mpr (by simp [d.opening_ne_nil])]
    rw [List.append_nil, hnil, outline_eq, Text.cut?_eq_none_iff.mpr hfree, Outline.prepend,
      List.append_nil]
  · have hwhole : Text.cut? d.opening (t ++ (d.opening ++ v)) = some (t, v) := by
      rw [hd.opening] at hfree ⊢
      have h := Text.cut?_of_free (by simpa using hd.lead_ne_brace) hfree v
      rwa [List.append_assoc] at h
    have he : escapes t = false := ht (by simp [d.opening_ne_nil])
    rw [outline_eq d (t ++ _), hwhole, outline_eq d (d.opening ++ v), Text.cut?_self]
    dsimp only
    rw [if_neg (by simp [he]), if_neg (by simp [escapes])]
    cases readContent d.closing v with
    | none => simp [Outline.prepend]
    | some p => simp [Outline.prepend]

theorem outline_escape (t : List Char) (ht : w ≠ [] → escapes t = false) :
    d.outline (Text.escape d.opening t ++ w) = (d.outline w).prepend t := by
  have hk : lead ∉ ['{'] := by simpa using hd.lead_ne_brace
  have hb : '\\' ∉ [lead, '{'] := by simp [Ne.symm hd.lead_ne_backslash]
  cases hcut : Text.cut? d.opening t with
  | none =>
    have hfree := Text.cut?_eq_none_iff.mp hcut
    rw [Text.escape_of_free hfree]
    exact outline_append_of_free hd hw hfree ht
  | some p =>
    obtain ⟨u, v⟩ := p
    have hs := Text.eq_append_of_cut? hcut
    have hlength := Text.length_of_cut? hcut
    have hpos := List.length_pos_iff.mpr d.opening_ne_nil
    have hfree := Text.not_infix_of_cut? d.opening_ne_nil hcut
    -- the text behind the first delimiter is shorter
    have ih := outline_escape v fun hne => escapes_of_append (hs ▸ ht hne)
    have hlast : escapes (u ++ ['\\']) = true := by simp [escapes]
    have hescape : Text.escape d.opening t ++ w =
        u ++ '\\' :: (d.opening ++ (Text.escape d.opening v ++ w)) := by
      rw [hd.opening] at hcut ⊢
      rw [Text.escape_of_cut? hk hcut]
      simp
    have hwhole : Text.cut? d.opening (Text.escape d.opening t ++ w) =
        some (u ++ ['\\'], Text.escape d.opening v ++ w) := by
      rw [hescape]
      rw [hd.opening] at hfree ⊢
      exact cut?_escaped hk hb hfree _
    rw [outline_eq, hwhole]
    dsimp only
    rw [if_pos hlast, ih, Outline.prepend_prepend, List.dropLast_concat, hs]
termination_by t.length
decreasing_by omega

end

/-- Scanning undoes writing. -/
theorem outline_encoded {d : Delimiters} {lead : Char} (hd : d.Braced lead) {o : Outline}
    (ho : o.Encodable) : d.outline (o.encoded d) = o := by
  induction o with
  | text t =>
    have h := outline_escape hd (Or.inl rfl) t fun hne => absurd rfl hne
    rw [List.append_nil] at h
    rw [Outline.encoded, h, outline_eq, Text.cut?_eq_none_iff.mpr (by simp [d.opening_ne_nil]),
      Outline.prepend, List.append_nil]
  | token before content rest ih =>
    obtain ⟨hbefore, hcontent, hrest⟩ := ho
    have hread : readContent d.closing
        (Text.escape d.closing content ++ (d.closing ++ rest.encoded d)) =
          some (content, rest.encoded d) := by
      rw [hd.closing]
      exact readContent_escape List.not_mem_nil (by decide) _ content hcontent
    rw [Outline.encoded, outline_escape hd (Or.inr (List.prefix_append _ _)) before fun _ => hbefore,
      outline_eq, Text.cut?_self]
    dsimp only
    rw [if_neg (by simp [escapes]), hread]
    dsimp only
    rw [ih hrest, Outline.prepend, List.append_nil]

end Delimiters

/-- Literals and contents that are written one after the other, with their delimiters escaped, are
what a scan finds: it asks about the contents in order and puts each answer in the place of its
token, between the literals as they were. The state of the handler when the scan fails is the one that
the first failing call leaves, so no later content was asked about. -/
theorem scan_encoded {d : Delimiters} {lead : Char} (hd : d.Braced lead) {parts : List Segment}
    (h : (Outline.ofSegments parts).Encodable) :
    let o := Outline.ofSegments parts
    let text := String.ofList (o.encoded d)
    let contents := (parts.filterMap Segment.content?).map String.ofList
    d.tokens text = contents ∧
    ∀ {ε σ : Type} (handle : String → EStateM ε σ String) (s s' : σ),
      (∀ out, (d.scan handle text).run s = .ok out s' ↔
        ∃ answers, Delimiters.Answers handle s contents answers s' ∧ out = o.fill answers) ∧
      (∀ e, (d.scan handle text).run s = .error e s' ↔
        ∃ before content after answers s₁, contents = before ++ content :: after ∧
          Delimiters.Answers handle s before answers s₁ ∧
          (handle content).run s₁ = .error e s') := by
  intro o text contents
  have houtline : d.outline text.toList = o := by
    rw [String.toList_ofList]
    exact Delimiters.outline_encoded hd h
  have htokens : d.tokens text = contents := by
    rw [Delimiters.tokens_eq, houtline, Outline.contents_ofSegments]
  refine ⟨htokens, fun handle s s' => ⟨fun out => ?_, fun e => ?_⟩⟩
  · rw [Delimiters.run_scan_eq_ok, htokens, houtline]
  · rw [Delimiters.run_scan_eq_error, htokens]

/-- Delimiters that are data, next to an empty token at which a handler fails that keeps a list of
the contents it was asked about. -/
theorem scan_encoded_empty :
    let parts : List Segment := [.literal "a\\".toList, .literal "#\x7bb".toList,
      .token "x\x7dy".toList, .token [], .token "z".toList, .literal "\\#\x7b\\".toList]
    let text := "a\\\\#\x7bb#\x7bx\\\x7dy\x7d#\x7b\x7d#\x7bz\x7d\\\\#\x7b\\"
    let handle : String → EStateM String (List String) String := fun content => do
      modify (· ++ [content])
      if content = "" then throw "empty" else pure content
    Delimiters.hash.Braced '#' ∧ (Outline.ofSegments parts).Encodable ∧
      String.ofList ((Outline.ofSegments parts).encoded Delimiters.hash) = text ∧
      Delimiters.hash.tokens text = ["x\x7dy", "", "z"] ∧
      (Delimiters.hash.scan handle text).run [] = .error "empty" ["x\x7dy", ""] := by
  intro parts text handle
  have hencodable : (Outline.ofSegments parts).Encodable := by
    exact ⟨by decide, by decide, by decide, by decide, by decide, by decide, trivial⟩
  have htext : String.ofList ((Outline.ofSegments parts).encoded Delimiters.hash) = text := by
    decide +kernel
  obtain ⟨htokens, hscan⟩ := scan_encoded Delimiters.braced_hash hencodable
  rw [htext] at htokens hscan
  refine ⟨Delimiters.braced_hash, hencodable, htext, htokens, ?_⟩
  refine ((hscan handle [] ["x\x7dy", ""]).2 "empty").mpr ?_
  exact ⟨["x\x7dy"], "", ["z"], ["x\x7dy"], ["x\x7dy"], rfl, .cons rfl (.nil _), rfl⟩

end SqlTemplate
