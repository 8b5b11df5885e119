import SqlTemplate.Proofs.Pass
import SqlTemplate.Proofs.Reading

/-!
# The language of references

What a content may be, part by part, and the place at which a content that may not be breaks off. Every
content has a derivation in this grammar, and what is derived is what is read (`parse_iff_contentRead`).
A character is padding exactly if it is one byte of at most `0x20`, for every byte of a longer one is
above that.
-/

theorem List.exists_span {α : Type} (p : α → Bool) (s : List α) :
    ∃ a b, s = a ++ b ∧ (∀ c ∈ a, p c = true) ∧ ∀ c ∈ b.head?, p c = false :=
  ⟨s.takeWhile p, s.dropWhile p, List.takeWhile_append_dropWhile.symm, fun _ => List.mem_takeWhile_imp,
    fun _ => List.not_of_mem_head?_dropWhile⟩

namespace SqlTemplate

namespace Reference

open Text

/-! ## Parentheses -/

/-- Texts that close `depth` parentheses they do not open. -/
def Closes : Nat → List Char → Prop
  | 0, s => Balanced s
  | depth + 1, s => ∃ t u, s = t ++ ')' :: u ∧ Balanced t ∧ Closes depth u

theorem Closes.char {c : Char} (hopen : c ≠ '(') (hclose : c ≠ ')') {depth : Nat} {s : List Char}
    (h : Closes depth s) : Closes depth (c :: s) := by
  cases depth with
  | zero => exact Balanced.char hopen hclose h
  | succ depth =>
    obtain ⟨t, u, rfl, ht, hu⟩ := h
    exact ⟨c :: t, u, rfl, Balanced.char hopen hclose ht, hu⟩

theorem Closes.opened {depth : Nat} {s : List Char} (h : Closes (depth + 1) s) :
    Closes depth ('(' :: s) := by
  obtain ⟨t, u, rfl, ht, hu⟩ := h
  cases depth with
  | zero => exact .nested ht hu
  | succ depth =>
    obtain ⟨t', u', rfl, ht', hu'⟩ := hu
    exact ⟨'(' :: (t ++ ')' :: t'), u', by simp, .nested ht ht', hu'⟩

theorem closes_of_closeParenthesis? {depth : Nat} {s a b : List Char}
    (h : closeParenthesis? depth s = some (a, b)) : Closes depth a ∧ s = a ++ ')' :: b := by
  induction s generalizing depth a with
  | nil => simp [closeParenthesis?] at h
  | cons c s ih =>
    by_cases hclose : c = ')'
    · subst hclose
      cases depth with
      | zero =>
        simp only [closeParenthesis?, Option.some.injEq, Prod.mk.injEq] at h
        obtain ⟨rfl, rfl⟩ := h
        exact ⟨.nil, rfl⟩
      | succ depth =>
        simp only [closeParenthesis?, Option.map_eq_some_iff, Prod.mk.injEq] at h
        obtain ⟨⟨a', b'⟩, h, rfl, rfl⟩ := h
        obtain ⟨ha, rfl⟩ := ih h
        exact ⟨⟨[], a', rfl, .nil, ha⟩, rfl⟩
    · by_cases hopen : c = '('
      · subst hopen
        have hstep : closeParenthesis? depth ('(' :: s) =
            (closeParenthesis? (depth + 1) s).map (Prod.map ('(' :: ·) id) := by
          cases depth <;> rfl
        rw [hstep, Option.map_eq_some_iff] at h
        obtain ⟨⟨a', b'⟩, h, he⟩ := h
        cases he
        obtain ⟨ha, rfl⟩ := ih h
        exact ⟨ha.opened, rfl⟩
      · rw [closeParenthesis?_char hopen hclose, Option.map_eq_some_iff] at h
        obtain ⟨⟨a', b'⟩, h, he⟩ := h
        cases he
        obtain ⟨ha, rfl⟩ := ih h
        exact ⟨ha.char hopen hclose, rfl⟩

theorem closeParenthesis?_eq_none {s : List Char}
    (h : ∀ text rest, Balanced text → s ≠ text ++ ')' :: rest) : closeParenthesis? 0 s = none := by
  cases hclose : closeParenthesis? 0 s with
  | none => rfl
  | some p =>
    obtain ⟨htext, hs⟩ := closes_of_closeParenthesis? hclose
    exact absurd hs (h p.1 p.2 htext)

/-! ## Derivations

A derivation ends in the parts of a text, or in the rest of it from the place on that breaks the
grammar. -/

/-- Options after a comma. A name may hold commas, and an option without `=` is refused from its first
character on. -/
inductive OptionsRead : List Char → Parsed (List (String × String)) → Prop
  | done {pad : List Char} (hpad : ∀ c ∈ pad, isPadding c = true) : OptionsRead pad (.ok [])
  | option {pad name value rest : List Char} {result : Parsed (List (String × String))}
    (hpad : ∀ c ∈ pad, isPadding c = true) (hbegin : ∀ c ∈ name.head?, isPadding c = false)
    (hname : '=' ∉ name) (hvalue : ',' ∉ value) (hrest : ∀ c ∈ rest.head?, c = ',')
    (hresult : OptionsRead (rest.drop 1) result) :
    OptionsRead (pad ++ (name ++ '=' :: (value ++ rest)))
      (result.map ((unpad name, unpad value) :: ·))
  | missing {pad place : List Char} (hpad : ∀ c ∈ pad, isPadding c = true) (hne : place ≠ [])
    (hbegin : ∀ c ∈ place.head?, isPadding c = false) (hfree : '=' ∉ place) :
    OptionsRead (pad ++ place) (.error place)

inductive TypeRead : List Char → Parsed (String × List (String × String)) → Prop
  | type {pad type rest : List Char} {result : Parsed (List (String × String))}
    (hpad : ∀ c ∈ pad, isPadding c = true) (hne : type ≠ [])
    (hbegin : ∀ c ∈ type.head?, isPadding c = false) (htype : ',' ∉ type)
    (hrest : ∀ c ∈ rest.head?, c = ',') (hresult : OptionsRead (rest.drop 1) result) :
    TypeRead (pad ++ (type ++ rest)) (result.map (unpad type, ·))
  | missing {pad rest : List Char} (hpad : ∀ c ∈ pad, isPadding c = true)
    (hrest : ∀ c ∈ rest.head?, c = ',') : TypeRead (pad ++ rest) (.error (pad ++ rest))

inductive TailRead : List Char → Parsed (Option String × List (String × String)) → Prop
  | done {pad : List Char} (hpad : ∀ c ∈ pad, isPadding c = true) : TailRead pad (.ok (none, []))
  | type {pad s : List Char} {result : Parsed (String × List (String × String))}
    (hpad : ∀ c ∈ pad, isPadding c = true) (hresult : TypeRead s result) :
    TailRead (pad ++ ':' :: s) (result.map fun p => (some p.1, p.2))
  | options {pad s : List Char} {result : Parsed (List (String × String))}
    (hpad : ∀ c ∈ pad, isPadding c = true) (hresult : OptionsRead s result) :
    TailRead (pad ++ ',' :: s) (result.map (none, ·))
  | stray {pad s : List Char} {c : Char} (hpad : ∀ c ∈ pad, isPadding c = true)
    (hbegin : isPadding c = false) (hc : endsPath c = false) :
    TailRead (pad ++ c :: s) (.error (c :: s))

def assemble (target : Target) (parts : Option String × List (String × String)) : Reference :=
  ⟨target, typeOption parts.2 <|> parts.1, Entries.ofList parts.2⟩

/-- The content of a token: an expression between parentheses that belong together, or else a path up to
the first comma or colon, and what follows. -/
inductive ContentRead : List Char → Parsed Reference → Prop
  | blank {pad : List Char} (hpad : ∀ c ∈ pad, isPadding c = true) : ContentRead pad (.error [])
  | expression {pad text s : List Char} {result : Parsed (Option String × List (String × String))}
    (hpad : ∀ c ∈ pad, isPadding c = true) (htext : Balanced text) (hresult : TailRead s result) :
    ContentRead (pad ++ '(' :: (text ++ ')' :: s))
      (result.map (assemble (.expression (String.ofList text))))
  | unbalanced {pad s : List Char} (hpad : ∀ c ∈ pad, isPadding c = true)
    (hs : ∀ text rest, Balanced text → s ≠ text ++ ')' :: rest) :
    ContentRead (pad ++ '(' :: s) (.error [])
  | property {pad path s : List Char} {result : Parsed (Option String × List (String × String))}
    (hpad : ∀ c ∈ pad, isPadding c = true) (hne : path ++ s ≠ [])
    (hbegin : ∀ c ∈ path.head?, isPadding c = false ∧ c ≠ '(')
    (hpath : ∀ c ∈ path, endsPath c = false) (hs : ∀ c ∈ s.head?, endsPath c = true)
    (hresult : TailRead s result) :
    ContentRead (pad ++ (path ++ s)) (result.map (assemble (.property (unpad path))))

/-! ## Every text has a derivation -/

theorem exists_optionsRead (s : List Char) : ∃ result, OptionsRead s result := by
  obtain ⟨pad, t, hs, hpad, hbegin⟩ := s.exists_span isPadding
  by_cases hnil : t = []
  · rw [hs, hnil, List.append_nil]
    exact ⟨_, .done hpad⟩
  · by_cases heq : '=' ∈ t
    · obtain ⟨name, valuePart, rfl, hname⟩ := List.eq_append_cons_of_mem heq
      obtain ⟨value, rest, rfl, hvalue, hrest⟩ := valuePart.exists_span (· != ',')
      have hlength : (rest.drop 1).length < s.length := by
        simp only [hs, List.length_append, List.length_cons, List.length_drop]
        omega
      obtain ⟨result, hresult⟩ := exists_optionsRead (rest.drop 1)
      rw [hs]
      refine ⟨_, .option hpad (fun c hc => hbegin c ?_) hname (fun hm => ?_) (fun c hc => ?_) hresult⟩
      · rw [List.head?_append, Option.mem_def.mp hc]
        rfl
      · simpa using hvalue _ hm
      · simpa using hrest c hc
    · rw [hs]
      exact ⟨_, .missing hpad hnil hbegin heq⟩
termination_by s.length

theorem exists_typeRead (s : List Char) : ∃ result, TypeRead s result := by
  obtain ⟨pad, t, rfl, hpad, hbegin⟩ := s.exists_span isPadding
  obtain ⟨type, rest, rfl, htype, hrest⟩ := t.exists_span (· != ',')
  have hcomma : ∀ c ∈ rest.head?, c = ',' := fun c hc => by simpa using hrest c hc
  by_cases hnil : type = []
  · subst hnil
    exact ⟨_, .missing hpad hcomma⟩
  · obtain ⟨result, hresult⟩ := exists_optionsRead (rest.drop 1)
    rw [List.head?_append_of_ne_nil _ hnil] at hbegin
    exact ⟨_, .type hpad hnil hbegin (fun hm => by simpa using htype _ hm) hcomma hresult⟩

theorem exists_tailRead (s : List Char) : ∃ result, TailRead s result := by
  obtain ⟨pad, t, rfl, hpad, hbegin⟩ := s.exists_span isPadding
  cases t with
  | nil =>
    rw [List.append_nil]
    exact ⟨_, .done hpad⟩
  | cons c t =>
    by_cases hc : endsPath c = true
    · unfold endsPath at hc
      simp only [Bool.or_eq_true, beq_iff_eq] at hc
      rcases hc with rfl | rfl
      · obtain ⟨result, hresult⟩ := exists_optionsRead t
        exact ⟨_, .options hpad hresult⟩
      · obtain ⟨result, hresult⟩ := exists_typeRead t
        exact ⟨_, .type hpad hresult⟩
    · exact ⟨_, .stray hpad (hbegin c rfl) (by simpa using hc)⟩

theorem exists_contentRead (s : List Char) : ∃ result, ContentRead s result := by
  obtain ⟨pad, t, rfl, hpad, hbegin⟩ := s.exists_span isPadding
  by_cases hnil : t = []
  · subst hnil
    rw [List.append_nil]
    exact ⟨_, .blank hpad⟩
  · by_cases hopen : t.head? = some '('
    · obtain ⟨t, rfl⟩ := List.head?_eq_some_iff.mp hopen
      by_cases hclose : ∃ text rest, Balanced text ∧ t = text ++ ')' :: rest
      · obtain ⟨text, rest, htext, rfl⟩ := hclose
        obtain ⟨result, hresult⟩ := exists_tailRead rest
        exact ⟨_, .expression hpad htext hresult⟩
      · exact ⟨_, .unbalanced hpad fun text rest htext ht => hclose ⟨text, rest, htext, ht⟩⟩
    · obtain ⟨path, s, rfl, hpath, hs⟩ := t.exists_span (!endsPath ·)
      obtain ⟨result, hresult⟩ := exists_tailRead s
      refine ⟨_, .property hpad hnil (fun c hc => ?_) (fun c hc => ?_) (fun c hc => ?_) hresult⟩
      · have hhead : c ∈ (path ++ s).head? := by
          rw [List.head?_append, Option.mem_def.mp hc]
          rfl
        exact ⟨hbegin c hhead, fun h => hopen (h ▸ hhead)⟩
      · simpa using hpath c hc
      · simpa using hs c hc

/-! ## What is derived is read -/

section
variable {k : Char} {s : List Char}

theorem ne_of_not_mem (h : k ∉ s) : ∀ c ∈ s, decide (c ≠ k) = true := by
  intro c hc
  exact decide_eq_true fun he => h (he ▸ hc)

theorem not_ne_of_head? (h : ∀ c ∈ s.head?, c = k) : ∀ c ∈ s.head?, decide (c ≠ k) = false := by
  intro c hc
  simp [h c hc]

end

theorem readOptions_of_padding {pad : List Char} (hpad : ∀ c ∈ pad, isPadding c = true) :
    readOptions pad = .ok [] := by
  rw [readOptions]
  split
  · rfl
  · rename_i h
    rw [List.dropWhile_eq_nil_iff.mpr hpad] at h
    cases h

theorem readOptions_append {pad t : List Char} (hpad : ∀ c ∈ pad, isPadding c = true) (hne : t ≠ [])
    (hbegin : ∀ c ∈ t.head?, isPadding c = false) :
    readOptions (pad ++ t) =
      readOption t >>= fun p => (readOptions p.2).map (p.1 :: ·) := by
  have hskip : (pad ++ t).dropWhile isPadding = t := List.dropWhile_append_of_all hpad hbegin
  rw [readOptions]
  split
  · rename_i h
    exact absurd (hskip.symm.trans h) hne
  · rename_i c t' h
    rw [hskip] at h
    subst h
    split
    · rename_i h
      rw [h]
      rfl
    · rename_i o rest h
      rw [h]
      change _ = (readOptions rest).map (o :: ·)
      cases readOptions rest <;> rfl

theorem readOption_append {name value rest : List Char} (hname : '=' ∉ name) (hvalue : ',' ∉ value)
    (hrest : ∀ c ∈ rest.head?, c = ',') :
    readOption (name ++ '=' :: (value ++ rest)) =
      .ok ((unpad name, unpad value), rest.drop 1) := by
  have hn := ne_of_not_mem hname
  have hv := ne_of_not_mem hvalue
  have hstop := not_ne_of_head? hrest
  unfold readOption
  rw [List.dropWhile_append_of_all hn (by simp), List.takeWhile_append_of_head? hn (by simp)]
  dsimp only
  rw [List.dropWhile_append_of_all hv hstop, List.takeWhile_append_of_head? hv hstop]

theorem OptionsRead.readOptions_eq {s : List Char} {result : Parsed (List (String × String))}
    (h : OptionsRead s result) : readOptions s = result := by
  induction h with
  | done hpad => exact readOptions_of_padding hpad
  | @option pad name value rest result hpad hbegin hname hvalue hrest _ ih =>
    have hhead : ∀ c ∈ (name ++ '=' :: (value ++ rest)).head?, isPadding c = false := by
      cases name with
      | nil => simp [isPadding]
      | cons c name => exact hbegin
    rw [readOptions_append hpad (by simp) hhead, readOption_append hname hvalue hrest]
    change (readOptions (rest.drop 1)).map _ = _
    rw [ih]
  | @missing pad place hpad hne hbegin hfree =>
    have hread : readOption place = .error place := by
      unfold readOption
      rw [List.dropWhile_eq_nil_iff.mpr (ne_of_not_mem hfree)]
    rw [readOptions_append hpad hne hbegin, hread]
    rfl

theorem TypeRead.readType_eq {s : List Char} {result : Parsed (String × List (String × String))}
    (h : TypeRead s result) : readType s = result := by
  cases h with
  | @type pad type rest result hpad hne hbegin htype hrest hresult =>
    obtain ⟨c, type, rfl⟩ := List.exists_cons_of_ne_nil hne
    have hskip : (pad ++ (c :: type ++ rest)).dropWhile isPadding = c :: type ++ rest :=
      List.dropWhile_append_of_all hpad hbegin
    have ht := ne_of_not_mem htype
    have hstop := not_ne_of_head? hrest
    have hc : c ≠ ',' := of_decide_eq_true (ht c List.mem_cons_self)
    unfold readType
    rw [hskip]
    dsimp only
    split
    · rename_i h
      cases h
    · rename_i h
      exact absurd (List.cons.inj h).1 hc
    · rw [List.dropWhile_append_of_all ht hstop, List.takeWhile_append_of_head? ht hstop,
        hresult.readOptions_eq]
      cases result <;> rfl
  | @missing pad rest hpad hrest =>
    have hskip : (pad ++ rest).dropWhile isPadding = rest :=
      List.dropWhile_append_of_all hpad fun c hc => by rw [hrest c hc]; rfl
    unfold readType
    rw [hskip]
    cases rest with
    | nil => rfl
    | cons c rest =>
      rw [hrest c rfl]
      rfl

theorem TailRead.readTail_eq {s : List Char}
    {result : Parsed (Option String × List (String × String))} (h : TailRead s result) :
    readTail s = result := by
  cases h with
  | done hpad =>
    unfold readTail
    rw [List.dropWhile_eq_nil_iff.mpr hpad]
  | @type pad s result hpad hresult =>
    have hskip : (pad ++ ':' :: s).dropWhile isPadding = ':' :: s :=
      List.dropWhile_append_of_all hpad (by simp [isPadding])
    unfold readTail
    rw [hskip]
    change (readType s >>= _) = _
    rw [hresult.readType_eq]
    cases result <;> rfl
  | @options pad s result hpad hresult =>
    have hskip : (pad ++ ',' :: s).dropWhile isPadding = ',' :: s :=
      List.dropWhile_append_of_all hpad (by simp [isPadding])
    unfold readTail
    rw [hskip]
    change (readOptions s >>= _) = _
    rw [hresult.readOptions_eq]
    cases result <;> rfl
  | @stray pad s c hpad hbegin hc =>
    have hskip : (pad ++ c :: s).dropWhile isPadding = c :: s :=
      List.dropWhile_append_of_all hpad (by simpa using hbegin)
    unfold readTail
    rw [hskip]
    split
    · rename_i h
      cases h
    · rename_i h
      cases h
      cases hc
    · rename_i h
      cases h
      cases hc
    · rfl

section
variable {pad text path s : List Char} (hpad : ∀ c ∈ pad, isPadding c = true)
include hpad

theorem readTarget_expression (htext : Balanced text) :
    readTarget (pad ++ '(' :: (text ++ ')' :: s)) = .ok (.expression (String.ofList text), s) := by
  have hskip : (pad ++ '(' :: (text ++ ')' :: s)).dropWhile isPadding = '(' :: (text ++ ')' :: s) :=
    List.dropWhile_append_of_all hpad (by simp [isPadding])
  unfold readTarget
  rw [hskip]
  simp only [closeParenthesis?_balanced htext]

theorem readTarget_unbalanced (hs : ∀ text rest, Balanced text → s ≠ text ++ ')' :: rest) :
    readTarget (pad ++ '(' :: s) = .error [] := by
  have hskip : (pad ++ '(' :: s).dropWhile isPadding = '(' :: s :=
    List.dropWhile_append_of_all hpad (by simp [isPadding])
  unfold readTarget
  rw [hskip]
  simp only [closeParenthesis?_eq_none hs]

theorem readTarget_path (hne : path ++ s ≠ [])
    (hbegin : ∀ c ∈ path.head?, isPadding c = false ∧ c ≠ '(')
    (hpath : ∀ c ∈ path, endsPath c = false) (hs : ∀ c ∈ s.head?, endsPath c = true) :
    readTarget (pad ++ (path ++ s)) = .ok (.property (unpad path), s) := by
  have hhead : ∀ c ∈ (path ++ s).head?, isPadding c = false ∧ c ≠ '(' := by
    cases path with
    | nil =>
      intro c hc
      exact ⟨not_isPadding_of_endsPath (hs c hc), fun he => absurd (hs c hc) (by rw [he]; decide)⟩
    | cons c path => exact hbegin
  have hskip : (pad ++ (path ++ s)).dropWhile isPadding = path ++ s :=
    List.dropWhile_append_of_all hpad fun c hc => (hhead c hc).1
  have hp : ∀ c ∈ path, (!endsPath c) = true := fun c hc => by simp [hpath c hc]
  have hstop : ∀ c ∈ s.head?, (!endsPath c) = false := fun c hc => by simp [hs c hc]
  unfold readTarget
  rw [hskip]
  split
  · rename_i h
    exact absurd h hne
  · rename_i h
    rw [h] at hhead
    exact absurd rfl (hhead '(' rfl).2
  · rw [List.dropWhile_append_of_all hp hstop, List.takeWhile_append_of_head? hp hstop]

end

theorem readParts_eq {s rest : List Char} {target : Target}
    {result : Parsed (Option String × List (String × String))}
    (htarget : readTarget s = .ok (target, rest)) (hresult : TailRead rest result) :
    readParts s = result.map (assemble target) := by
  unfold readParts
  rw [htarget]
  change (readTail rest >>= _) = _
  rw [hresult.readTail_eq]
  cases result <;> rfl

theorem ContentRead.readParts_eq {s : List Char} {result : Parsed Reference} (h : ContentRead s result) :
    readParts s = result := by
  cases h with
  | blank hpad =>
    unfold readParts readTarget
    rw [List.dropWhile_eq_nil_iff.mpr hpad]
    rfl
  | expression hpad htext hresult =>
    exact Reference.readParts_eq (readTarget_expression hpad htext) hresult
  | unbalanced hpad hs =>
    unfold readParts
    rw [readTarget_unbalanced hpad hs]
    rfl
  | property hpad hne hbegin hpath hs hresult =>
    exact Reference.readParts_eq (readTarget_path hpad hne hbegin hpath hs) hresult

theorem readParts_eq_iff {s : List Char} {result : Parsed Reference} :
    readParts s = result ↔ ContentRead s result := by
  refine ⟨fun h => ?_, ContentRead.readParts_eq⟩
  obtain ⟨derived, hderived⟩ := exists_contentRead s
  rw [← h, hderived.readParts_eq]
  exact hderived

/-! ## The place of a fault -/

theorem OptionsRead.isSuffix {s place : List Char} {result : Parsed (List (String × String))}
    (h : OptionsRead s result) (hplace : result = .error place) : place <:+ s := by
  induction h with
  | done hpad => cases hplace
  | @option pad name value rest result _ _ _ _ _ _ ih =>
    have hrest : place <:+ rest := (ih (Except.map_eq_error.mp hplace)).trans (List.drop_suffix 1 rest)
    refine hrest.trans ⟨pad ++ (name ++ '=' :: value), ?_⟩
    simp
  | @missing pad =>
    cases hplace
    exact List.suffix_append pad _

theorem TypeRead.isSuffix {s place : List Char} (h : TypeRead s (.error place)) : place <:+ s := by
  generalize hresult : Except.error place = result at h
  cases h with
  | @type pad type rest _ _ _ _ _ _ hread =>
    have hrest : place <:+ rest :=
      (hread.isSuffix (Except.map_eq_error.mp hresult.symm)).trans (List.drop_suffix 1 rest)
    exact hrest.trans ⟨pad ++ type, by simp⟩
  | missing =>
    cases hresult
    exact List.suffix_rfl

theorem TailRead.isSuffix {s place : List Char} (h : TailRead s (.error place)) : place <:+ s := by
  generalize hresult : Except.error place = result at h
  cases h with
  | done hpad => cases hresult
  | @type pad s _ _ hread =>
    rw [Except.map_eq_error.mp hresult.symm] at hread
    exact hread.isSuffix.trans ⟨pad ++ [':'], by simp⟩
  | @options pad s _ _ hread =>
    exact (hread.isSuffix (Except.map_eq_error.mp hresult.symm)).trans ⟨pad ++ [','], by simp⟩
  | @stray pad s c =>
    cases hresult
    exact List.suffix_append pad _

theorem ContentRead.isSuffix {s place : List Char} (h : ContentRead s (.error place)) : place <:+ s := by
  generalize hresult : Except.error place = result at h
  cases h with
  | blank hpad =>
    cases hresult
    exact List.nil_suffix
  | @expression pad text s _ _ _ hread =>
    rw [Except.map_eq_error.mp hresult.symm] at hread
    exact hread.isSuffix.trans ⟨pad ++ '(' :: (text ++ [')']), by simp⟩
  | unbalanced =>
    cases hresult
    exact List.nil_suffix
  | @property pad path s _ _ _ _ _ _ hread =>
    rw [Except.map_eq_error.mp hresult.symm] at hread
    exact hread.isSuffix.trans ⟨pad ++ path, by simp⟩

end Reference

theorem Text.byteSize_eq (s : List Char) : byteSize s = (String.ofList s).utf8ByteSize := by
  induction s with
  | nil => rfl
  | cons c s ih => simp [byteSize, ih, String.ofList_cons]

namespace Reference

open Text

theorem parse_eq_ok_iff {content : String} {reference : Reference} :
    parse content = .ok reference ↔ ContentRead content.toList (.ok reference) := by
  rw [← readParts_eq_iff]
  unfold parse
  cases readParts content.toList <;> simp

theorem parse_eq_error_iff {content : String} {fault : Fault} :
    parse content = .error fault ↔ ∃ front place, content.toList = front ++ place ∧
      ContentRead content.toList (.error place) ∧
      fault = .reference content (String.ofList front).utf8ByteSize := by
  have hparse : parse content = .error fault ↔ ∃ place,
      ContentRead content.toList (.error place) ∧
      fault = .reference content (byteSize content.toList - byteSize place) := by
    unfold parse
    cases hread : readParts content.toList with
    | ok reference =>
      simp [← readParts_eq_iff, hread]
    | error place =>
      simp [← readParts_eq_iff, hread, eq_comm]
  -- an offset in bytes is the size of what was read
  have hposition : ∀ {front place : List Char}, content.toList = front ++ place →
      byteSize content.toList - byteSize place = (String.ofList front).utf8ByteSize := by
    intro front place h
    rw [h, byteSize_append, byteSize_eq front]
    omega
  rw [hparse]
  constructor
  · rintro ⟨place, hplace, rfl⟩
    obtain ⟨front, hfront⟩ := hplace.isSuffix
    exact ⟨front, place, hfront.symm, hplace, by rw [hposition hfront.symm]⟩
  · rintro ⟨front, place, hfront, hplace, rfl⟩
    exact ⟨place, hplace, by rw [hposition hfront]⟩

/-- A content is accepted exactly if the grammar has a derivation for it that ends in its parts, of which
just one is the target; any other is refused, at the offset in bytes of the place from which on the
derivation leaves it unread. -/
theorem parse_iff_contentRead (content : String) :
    (∀ reference, parse content = .ok reference ↔ ContentRead content.toList (.ok reference)) ∧
    (∀ fault, parse content = .error fault ↔ ∃ front place, content.toList = front ++ place ∧
      ContentRead content.toList (.error place) ∧
      fault = .reference content (String.ofList front).utf8ByteSize) ∧
    ∀ reference, parse content = .ok reference →
      reference.target.property?.isSome = !reference.target.expression?.isSome := by
  refine ⟨fun _ => parse_eq_ok_iff, fun _ => parse_eq_error_iff, fun reference _ => ?_⟩
  cases reference.target <;> rfl

/-- An option without `=` behind one whose name holds a comma, all behind an expression: the place counts
two bytes for the letter with an accent and the padding in front. -/
theorem parse_iff_contentRead_option :
    let content := " (\u00e9(\x01)) , a, b=c,\t, x"
    ContentRead content.toList (.error ", x".toList) ∧
      parse content = .error (.reference content 19) := by
  intro content
  have hchars : content.toList = [' '] ++ '(' :: ("\u00e9(\x01)".toList ++ ')' ::
      ([' '] ++ ',' :: ([' '] ++ ("a, b".toList ++ '=' :: (['c'] ++ ",\t, x".toList))))) := by
    decide +kernel
  have hlast : OptionsRead (",\t, x".toList.drop 1) (.error ", x".toList) :=
    @OptionsRead.missing ['\t'] ", x".toList (List.all_eq_true.mp (by decide)) (by decide)
      (by rintro c ⟨⟩; rfl) (by decide)
  have hoptions : OptionsRead ([' '] ++ ("a, b".toList ++ '=' :: (['c'] ++ ",\t, x".toList)))
      (.error ", x".toList) :=
    @OptionsRead.option [' '] "a, b".toList ['c'] ",\t, x".toList (.error ", x".toList)
      (List.all_eq_true.mp (by decide)) (by rintro c ⟨⟩; rfl) (by decide) (by decide)
      (by rintro c ⟨⟩; rfl) hlast
  have htext : Balanced "\u00e9(\x01)".toList :=
    .char (by decide) (by decide) (@Balanced.nested ['\x01'] [] (.char (by decide) (by decide) .nil) .nil)
  have hread : ContentRead content.toList (.error ", x".toList) := by
    rw [hchars]
    exact .expression (List.all_eq_true.mp (by decide)) htext
      (.options (List.all_eq_true.mp (by decide)) hoptions)
  refine ⟨hread, ((parse_iff_contentRead content).2.1 _).mpr ?_⟩
  exact ⟨" (\u00e9(\x01)) , a, b=c,\t".toList, ", x".toList, by decide +kernel, hread, by decide +kernel⟩

end Reference

end SqlTemplate
