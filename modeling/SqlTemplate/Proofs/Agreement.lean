import SqlTemplate.Proofs.Name

/-!
# Two readers of a reference

A round of a loop renames the content of a token by its beginning, before anything parses it; the parser
takes padding from around the path and cuts it at dots and brackets. `LoopScope.rename_agrees` says for
every content that is parsed to a path when the two agree: the renaming skips blanks where the parser
skips padding, and ends a name at every character that continues none where the parser goes on to a dot
or a bracket.
-/

namespace SqlTemplate

open Text

namespace Reference

def Padded.of (s : List Char) : Padded where
  before := s.takeWhile isPadding
  text := unpad s
  after := ((s.dropWhile isPadding).reverse.takeWhile isPadding).reverse
  before_padding := List.all_takeWhile
  after_padding := by
    rw [List.all_reverse]
    exact List.all_takeWhile
  text_bare := by
    unfold unpad isBare trimBoth
    rw [String.toList_ofList, Bool.and_eq_true, Option.all_eq_true, Option.all_eq_true]
    constructor
    · intro c hc
      rw [List.not_of_mem_head?_dropWhile (mem_head?_of_trimEnd hc)]
      rfl
    · intro c hc
      rw [not_of_mem_getLast?_trimEnd hc]
      rfl

theorem Padded.chars_of (s : List Char) : (Padded.of s).chars = s := by
  unfold chars of unpad trimBoth
  dsimp only
  rw [String.toList_ofList, List.append_assoc, trimEnd_append_reverse,
    List.takeWhile_append_dropWhile]

/-! ## Contents that are parsed to a path -/

section
variable {s tail : List Char} {path : String}

theorem readTarget_eq_property (h : readTarget s = .ok (.property path, tail)) :
    path = unpad (s.takeWhile (!endsPath ·)) ∧ tail = s.dropWhile (!endsPath ·) := by
  have hpads : ∀ c ∈ s.takeWhile isPadding, (!endsPath c) = true := by
    intro c hc
    rw [endsPath_of_isPadding (List.mem_takeWhile_imp hc)]
    rfl
  have hs : s.takeWhile isPadding ++ s.dropWhile isPadding = s := List.takeWhile_append_dropWhile
  have hfound : path = unpad ((s.dropWhile isPadding).takeWhile (!endsPath ·)) ∧
      tail = (s.dropWhile isPadding).dropWhile (!endsPath ·) := by
    unfold readTarget at h
    split at h
    · cases h
    · split at h <;> cases h
    · cases h
      exact ⟨rfl, rfl⟩
  obtain ⟨rfl, rfl⟩ := hfound
  constructor
  · rw [← hs, List.takeWhile_append_of_pos hpads, hs]
    unfold unpad
    rw [← List.append_nil (_ ++ _), trimBoth_append (fun c => List.mem_takeWhile_imp) (by simp)]
  · rw [← hs, List.dropWhile_append_of_pos hpads, hs]

/-- A content that is parsed to a path is that path with its padding and what comes after a comma or
a colon. -/
theorem chars_of_readTarget (h : readTarget s = .ok (.property path, tail)) :
    ∃ item : Padded, item.text = path ∧ s = item.chars ++ tail ∧
      (∀ c ∈ path.toList, endsPath c = false) ∧ ∀ c ∈ tail.head?, endsPath c = true := by
  obtain ⟨rfl, rfl⟩ := readTarget_eq_property h
  refine ⟨.of (s.takeWhile (!endsPath ·)), rfl, ?_, fun c hc => ?_, fun c hc => ?_⟩
  · rw [Padded.chars_of, List.takeWhile_append_dropWhile]
  · have hmem : c ∈ (Padded.of (s.takeWhile (!endsPath ·))).chars := by
      unfold Padded.chars
      exact List.mem_append_left _ (List.mem_append_right _ hc)
    rw [Padded.chars_of] at hmem
    simpa using List.mem_takeWhile_imp hmem
  · simpa using List.not_of_mem_head?_dropWhile hc

end

theorem parse_eq_ok {content : String} {reference : Reference} :
    parse content = .ok reference ↔ ∃ tail type options,
      readTarget content.toList = .ok (reference.target, tail) ∧
      readTail tail = .ok (type, options) ∧
      reference = ⟨reference.target, typeOption options <|> type, Entries.ofList options⟩ := by
  have hparts : parse content = .ok reference ↔ readParts content.toList = .ok reference := by
    unfold parse
    cases readParts content.toList <;> simp
  rw [hparts]
  unfold readParts
  constructor
  · intro h
    obtain ⟨⟨target, tail⟩, htarget, h⟩ := Except.bind_eq_ok.mp h
    obtain ⟨⟨type, options⟩, htail, h⟩ := Except.bind_eq_ok.mp h
    cases h
    exact ⟨tail, type, options, htarget, htail, rfl⟩
  · rintro ⟨tail, type, options, htarget, htail, h⟩
    exact Except.bind_eq_ok.mpr ⟨_, htarget, Except.bind_eq_ok.mpr ⟨_, htail, by rw [h]⟩⟩

end Reference

/-! ## The beginning of a content and of its path -/

theorem endsPath_of_isBlank {c : Char} (h : isBlank c = true) : Reference.endsPath c = false := by
  by_contra hends
  unfold Reference.endsPath at hends
  simp only [Bool.not_eq_false, Bool.or_eq_true, beq_iff_eq] at hends
  rcases hends with rfl | rfl <;> exact absurd h (by decide)

theorem LoopScope.continuesName_of_isPadding {c : Char} (h : isPadding c = true) :
    continuesName c = false :=
  eq_false_of_disjoint continuesName isPadding (fun _ => not_isPadding_of_continuesName) h

theorem LoopScope.continuesName_of_endsPath {c : Char} (h : Reference.endsPath c = true) :
    continuesName c = false :=
  eq_false_of_disjoint continuesName Reference.endsPath (fun _ => endsPath_of_continuesName) h

namespace IsName

open LoopScope

variable {x : String} (hx : IsName x)
include hx

theorem continuesName_of_mem_head? {rest : List Char} {c : Char}
    (h : c ∈ (x.toList ++ rest).head?) : continuesName c = true := by
  rw [List.head?_append_of_ne_nil _ hx.ne_nil] at h
  exact hx.continues c (List.mem_of_mem_head? h)

theorem continuesName_of_mem_getLast? {before : List Char} {c : Char}
    (h : c ∈ (before ++ x.toList).getLast?) : continuesName c = true := by
  rw [List.getLast?_append_of_ne_nil _ hx.ne_nil] at h
  exact hx.continues c (List.mem_of_getLast? h)

end IsName

namespace LoopScope

open Reference

section
variable {x content path : String} {tail : List Char} (hx : IsName x)
  (h : readTarget content.toList = .ok (.property path, tail))
include hx h

theorem refers_path {rest : List Char} (hr : Refers x content rest) :
    (content.toList.takeWhile isPadding).all isBlank = true ∧ ∃ rest, Refers x path rest := by
  obtain ⟨⟨blanks, hc, hb⟩, hend⟩ := hr
  have hhead : ∀ more, ∀ c ∈ (x.toList ++ more).head?, isPadding c = false :=
    fun more c hm => not_isPadding_of_continuesName (hx.continuesName_of_mem_head? hm)
  constructor
  · rw [hc, List.takeWhile_append_eq_left (hhead rest), List.all_eq_true]
    exact fun c hm => hb c ((List.takeWhile_sublist _).subset hm)
  · obtain ⟨rfl, _⟩ := readTarget_eq_property h
    -- neither the blanks nor the name end the path
    have hpiece : content.toList.takeWhile (!endsPath ·) =
        blanks ++ (x.toList ++ rest.takeWhile (!endsPath ·)) := by
      rw [hc, List.takeWhile_append_of_pos, List.takeWhile_append_of_pos]
      · intro c hm
        rw [endsPath_of_continuesName (hx.continues c hm)]
        rfl
      · intro c hm
        rw [endsPath_of_isBlank (hb c hm)]
        rfl
    have hlast : ∀ c ∈ (blanks.dropWhile isPadding ++ x.toList).getLast?, isPadding c = false :=
      fun c hm => not_isPadding_of_continuesName (hx.continuesName_of_mem_getLast? hm)
    refine ⟨trimEnd isPadding (rest.takeWhile (!endsPath ·)), ⟨blanks.dropWhile isPadding, ?_, ?_⟩, ?_⟩
    · unfold unpad trimBoth
      rw [String.toList_ofList, hpiece, List.dropWhile_append_of_head? (hhead _), ← List.append_assoc,
        trimEnd_append hlast, List.append_assoc]
    · exact fun c hm => hb c ((List.dropWhile_sublist _).subset hm)
    · rw [Option.any_eq_false] at hend ⊢
      intro c hm
      have hm' := mem_head?_of_trimEnd hm
      rw [List.head?_takeWhile] at hm'
      exact hend c ((Option.mem_filter_iff.mp hm').1)

omit hx in
/-- A path that refers to a name belongs to a content that does, if blanks are all the padding in
front. -/
theorem refers_content {rest : List Char}
    (hblank : (content.toList.takeWhile isPadding).all isBlank = true) (hr : Refers x path rest) :
    ∃ gap, (∀ c ∈ gap, isPadding c = true) ∧ Refers x content (rest ++ gap ++ tail) := by
  obtain ⟨⟨blanks, hc, hb⟩, hend⟩ := hr
  obtain ⟨item, rfl, hchars, _, htail⟩ := chars_of_readTarget h
  have hgap := List.all_eq_true.mp item.after_padding
  refine ⟨item.after, hgap, ⟨item.before ++ blanks, ?_, ?_⟩, ?_⟩
  · rw [hchars]
    unfold Padded.chars
    rw [hc]
    simp
  · intro c hm
    rcases List.mem_append.mp hm with hm | hm
    · refine List.all_eq_true.mp hblank c ?_
      rw [hchars]
      unfold Padded.chars
      rw [List.append_assoc, List.append_assoc,
        List.takeWhile_append_of_pos (List.all_eq_true.mp item.before_padding)]
      exact List.mem_append_left _ hm
    · exact hb c hm
  · rw [Option.any_eq_false] at hend ⊢
    intro c hm
    rw [List.head?_append, List.head?_append, Option.or_eq_some_iff, Option.or_eq_some_iff] at hm
    rcases hm with (hm | ⟨_, hm⟩) | ⟨_, hm⟩
    · exact hend c hm
    · exact continuesName_of_isPadding (hgap c (List.mem_of_mem_head? hm))
    · exact continuesName_of_endsPath (htail c hm)

theorem readTarget_renamed (number : Nat) {rest gap : List Char} (hr : Refers x path rest)
    (hgap : ∀ c ∈ gap, isPadding c = true) :
    readTarget ((Loop.numbered x number).toList ++ (rest ++ gap ++ tail)) =
      .ok (.property (Loop.numbered x number ++ String.ofList rest), tail) := by
  obtain ⟨⟨blanks, hc, hb⟩, hend⟩ := hr
  obtain ⟨item, rfl, _, hfree, htail⟩ := chars_of_readTarget h
  have hnumbered := hx.numbered number
  have hhead : ∀ c ∈ ((Loop.numbered x number).toList ++ rest).head?, continuesName c = true :=
    fun c hm => hnumbered.continuesName_of_mem_head? hm
  -- the path ends as before, or with the number if nothing followed
  have hlast : ∀ c ∈ ((Loop.numbered x number).toList ++ rest).getLast?, isPadding c = false := by
    intro c hm
    by_cases hnil : rest = []
    · rw [hnil, List.append_nil] at hm
      exact not_isPadding_of_continuesName (hnumbered.continues c (List.mem_of_getLast? hm))
    · rw [List.getLast?_append_of_ne_nil _ hnil] at hm
      refine item.last_bare c ?_
      rwa [hc, ← List.append_assoc, List.getLast?_append_of_ne_nil _ hnil]
  let renamed : Padded :=
    { before := []
      text := Loop.numbered x number ++ String.ofList rest
      after := gap
      before_padding := rfl
      after_padding := List.all_eq_true.mpr hgap
      text_bare := by
        unfold isBare
        rw [String.toList_append, String.toList_ofList, Bool.and_eq_true, Option.all_eq_true,
          Option.all_eq_true]
        constructor
        · intro c hm
          rw [not_isPadding_of_continuesName (hhead c hm)]
          rfl
        · intro c hm
          rw [hlast c hm]
          rfl }
  have htext : renamed.text.toList = (Loop.numbered x number).toList ++ rest := by simp [renamed]
  have hchars : (Loop.numbered x number).toList ++ (rest ++ gap ++ tail) = renamed.chars ++ tail := by
    unfold Padded.chars
    rw [htext]
    simp [renamed]
  rw [hchars]
  refine readTarget_property ?_ ?_ ?_ htail <;> rw [htext]
  · simp [hnumbered.ne_nil]
  · intro c hm
    rcases List.mem_append.mp hm with hm | hm
    · exact endsPath_of_continuesName (hnumbered.continues c hm)
    · exact hfree c (by simp [hc, hm])
  · intro hopen
    exact absurd (hhead _ hopen) (by decide)

end

end LoopScope

/-! ## The root of a path -/

theorem Text.splitWhere_fst (p : Char → Bool) (s : List Char) :
    (splitWhere p s).1 = s.takeWhile (!p ·) := by
  induction s with
  | nil => rfl
  | cons c s ih =>
    by_cases hc : p c = true
    · simp [splitWhere, hc]
    · simp [splitWhere, hc, ih]

def endsRoot (c : Char) : Bool :=
  c == '.' || c == '['

theorem toList_rootName (path : String) :
    (rootName path).toList = path.toList.takeWhile (!endsRoot ·) := by
  unfold rootName Path.ofText Step.ofText
  dsimp only
  rw [String.toList_ofList, splitWhere_fst, List.takeWhile_takeWhile]
  congr 1
  funext c
  by_cases hdot : c = '.'
  · simp [endsRoot, hdot]
  · by_cases hbracket : c = '[' <;> simp [endsRoot, hdot, hbracket]

theorem LoopScope.continuesName_of_endsRoot {c : Char} (h : endsRoot c = true) :
    continuesName c = false := by
  unfold endsRoot at h
  simp only [Bool.or_eq_true, beq_iff_eq] at h
  rcases h with rfl | rfl <;> decide

theorem IsName.rootName_append {name : String} (h : IsName name) {rest : List Char}
    (hrest : ∀ c ∈ rest.head?, endsRoot c = true) :
    rootName (name ++ String.ofList rest) = name := by
  rw [← String.toList_inj, toList_rootName, String.toList_append, String.toList_ofList]
  refine List.takeWhile_append_of_head? (fun c hc => ?_) fun c hc => ?_
  · rw [eq_false_of_disjoint endsRoot LoopScope.continuesName
      (fun _ => LoopScope.continuesName_of_endsRoot) (h.continues c hc)]
    rfl
  · rw [hrest c hc]
    rfl

namespace LoopScope

theorem exists_refers_of_rootName {x path : String} (h : rootName path = x) :
    ∃ rest, Refers x path rest := by
  have hpath : x.toList ++ path.toList.dropWhile (!endsRoot ·) = path.toList := by
    rw [← h, toList_rootName, List.takeWhile_append_dropWhile]
  refine ⟨path.toList.dropWhile (!endsRoot ·), ⟨[], hpath.symm, by simp⟩, ?_⟩
  rw [Option.any_eq_false]
  intro c hc
  rw [continuesName_of_endsRoot (by simpa using List.not_of_mem_head?_dropWhile hc)]

/-- A path whose root is a name refers to no other name than its root. -/
theorem rootName_of_refers {x path : String} {rest : List Char} (hx : IsName x)
    (hroot : ∀ c ∈ (rootName path).toList, continuesName c = true) (hr : Refers x path rest) :
    rootName path = x ∧ path = x ++ String.ofList rest ∧ ∀ c ∈ rest.head?, endsRoot c = true := by
  obtain ⟨⟨blanks, hc, hb⟩, hend⟩ := hr
  rw [Option.any_eq_false] at hend
  have hends : ∀ c ∈ (path.toList.dropWhile (!endsRoot ·)).head?, endsRoot c = true := by
    intro c hm
    simpa using List.not_of_mem_head?_dropWhile hm
  have hsplit : (rootName path).toList ++ path.toList.dropWhile (!endsRoot ·) = path.toList := by
    rw [toList_rootName, List.takeWhile_append_dropWhile]
  have hblanks : blanks = [] := by
    cases blanks with
    | nil => rfl
    | cons b blanks =>
      have hblank := hb b List.mem_cons_self
      by_cases hb' : endsRoot b = true
      · unfold endsRoot at hb'
        simp only [Bool.or_eq_true, beq_iff_eq] at hb'
        rcases hb' with rfl | rfl <;> exact absurd hblank (by decide)
      · have hmem : b ∈ (rootName path).toList := by
          rw [toList_rootName, hc, List.cons_append, List.takeWhile_cons_of_pos (by simpa using hb')]
          exact List.mem_cons_self
        rw [not_isBlank_of_continuesName (hroot b hmem)] at hblank
        cases hblank
  rw [hblanks, List.nil_append] at hc
  -- Both the variable and the root are the longest beginning that is a name.
  have hname : path.toList.takeWhile continuesName = x.toList := by
    rw [hc, List.takeWhile_append_of_head? hx.continues (by simpa using hend)]
  have hsame : path.toList.takeWhile continuesName = (rootName path).toList := by
    rw [← hsplit, List.takeWhile_append_of_head? hroot fun c hm =>
      continuesName_of_endsRoot (hends c hm)]
  have he : rootName path = x := by rw [← String.toList_inj, ← hsame, hname]
  refine ⟨he, by rw [← String.toList_inj, hc, String.toList_append, String.toList_ofList], ?_⟩
  rw [he] at hsplit
  rwa [List.append_cancel_left (hsplit.trans hc)] at hends

/-! ## Renaming and parsing -/

theorem numbered_append_ne {x content : String} {rest : List Char} (number : Nat)
    (hr : Refers x content rest) : Loop.numbered x number ++ String.ofList rest ≠ content := by
  obtain ⟨⟨blanks, hc, hb⟩, _⟩ := hr
  intro he
  rw [← String.toList_inj, String.toList_append, String.toList_ofList, hc, ← List.append_assoc] at he
  have hnumbered := List.append_cancel_right he
  cases blanks with
  | nil =>
    rw [List.nil_append, String.toList_inj] at hnumbered
    exact Loop.numbered_ne_self x number hnumbered
  | cons b blanks =>
    have hline : b = '_' := by
      rw [Loop.toList_numbered] at hnumbered
      exact (List.cons.inj hnumbered).1.symm
    have hblank := hb b List.mem_cons_self
    rw [hline] at hblank
    exact absurd hblank (by decide)

theorem rename_item_eq (x : String) (number : Nat) (content : String) :
    rename ⟨some x, none, number⟩ content = (rename? x number content).getD content := by
  simp [rename]

/-- A content that is parsed to a path is renamed for a variable exactly if only blanks are the padding in
front of the path and the path, behind blanks of its own, begins with the variable, which nothing
continues; the renamed content is parsed to the same reference with the numbered name in place of the
variable and the blanks. When the root of the path is a name, the variable it begins with is the root. -/
theorem rename_agrees {x content path : String} {reference : Reference} (hx : IsName x)
    (hparse : Reference.parse content = .ok reference) (htarget : reference.target = .property path)
    (number : Nat) :
    let scope : LoopScope := ⟨some x, none, number⟩
    let blankPadding := (content.toList.takeWhile isPadding).all isBlank = true
    (scope.rename content ≠ content ↔ blankPadding ∧ ∃ rest, Refers x path rest) ∧
      (∀ rest, blankPadding → Refers x path rest →
        Reference.parse (scope.rename content) = .ok
          { reference with target := .property (Loop.numbered x number ++ String.ofList rest) }) ∧
      ((∀ c ∈ (rootName path).toList, continuesName c = true) →
        ((∃ rest, Refers x path rest) ↔ rootName path = x) ∧
        ∀ rest, Refers x path rest → path = x ++ String.ofList rest ∧
          rootName (Loop.numbered x number ++ String.ofList rest) = Loop.numbered x number) := by
  intro scope blankPadding
  obtain ⟨tail, type, options, hread, htail, href⟩ := Reference.parse_eq_ok.mp hparse
  rw [htarget] at hread
  -- what stands behind the path is not touched, so the rest is parsed as before
  have hrenamed : ∀ rest, blankPadding → Refers x path rest → ∃ gap, (∀ c ∈ gap, isPadding c = true) ∧
      Refers x content (rest ++ gap ++ tail) ∧
      scope.rename content = Loop.numbered x number ++ String.ofList (rest ++ gap ++ tail) := by
    intro rest hblank hr
    obtain ⟨gap, hgap, hcontent⟩ := refers_content hread hblank hr
    refine ⟨gap, hgap, hcontent, ?_⟩
    rw [rename_item_eq, rename?_of_refers hx.ne_nil hx.continues number hcontent, Option.getD_some]
  refine ⟨⟨fun hne => ?_, ?_⟩, fun rest hblank hr => ?_, fun hroot => ?_⟩
  · rw [rename_item_eq] at hne
    cases ht : rename? x number content with
    | none =>
      rw [ht] at hne
      exact absurd rfl hne
    | some t =>
      obtain ⟨rest, hr, _⟩ := refers_of_rename? ht
      exact refers_path hx hread hr
  · rintro ⟨hblank, rest, hr⟩
    obtain ⟨gap, _, hcontent, he⟩ := hrenamed rest hblank hr
    rw [he]
    exact numbered_append_ne number hcontent
  · obtain ⟨gap, hgap, _, he⟩ := hrenamed rest hblank hr
    refine Reference.parse_eq_ok.mpr ⟨tail, type, options, ?_, htail, by rw [href]⟩
    rw [he, String.toList_append, String.toList_ofList]
    exact readTarget_renamed hx hread number hr hgap
  · refine ⟨⟨?_, exists_refers_of_rootName⟩, fun rest hr => ?_⟩
    · rintro ⟨rest, hr⟩
      exact (rootName_of_refers hx hroot hr).1
    · obtain ⟨_, hpath, hends⟩ := rootName_of_refers hx hroot hr
      exact ⟨hpath, (hx.numbered number).rootName_append hends⟩

theorem rename_agrees_item :
    let x := "item"
    let content := " item[0].sku :INT, mode = IN"
    let reference : Reference := ⟨.property "item[0].sku", some "INT", [("mode", "IN")]⟩
    (IsName x ∧ Reference.parse content = .ok reference ∧
      ∀ c ∈ (rootName "item[0].sku").toList, continuesName c = true) ∧
    rename ⟨some x, none, 3⟩ content ≠ content ∧
    Reference.parse (rename ⟨some x, none, 3⟩ content) =
      .ok { reference with target := .property "__frch_item_3[0].sku" } := by
  intro x content reference
  have hx : IsName x := ⟨by decide, List.all_eq_true.mp (by decide)⟩
  have hparse : Reference.parse content = .ok reference := by decide +kernel
  have hblank : (content.toList.takeWhile isPadding).all isBlank = true := by decide
  have hroot : ∀ c ∈ (rootName "item[0].sku").toList, continuesName c = true :=
    List.all_eq_true.mp (by decide +kernel)
  obtain ⟨hrename, hagrees, hname⟩ := rename_agrees hx hparse rfl 3
  obtain ⟨rest, hr⟩ := (hname hroot).1.mpr (by decide +kernel)
  have hrest : "item[0].sku" = x ++ String.ofList rest := ((hname hroot).2 rest hr).1
  have hnumbered : Loop.numbered x 3 ++ String.ofList rest = "__frch_item_3[0].sku" := by
    have hsame : x ++ String.ofList rest = x ++ "[0].sku" := hrest.symm
    rw [String.append_right_inj] at hsame
    rw [hsame]
    decide +kernel
  refine ⟨⟨hx, hparse, hroot⟩, hrename.mpr ⟨hblank, rest, hr⟩, ?_⟩
  rw [hagrees rest hblank hr, hnumbered]

/-- A key that begins with the variable and goes on with a hyphen has another root and is renamed, and a
variable behind a control character is the root and is not. -/
theorem rename_disagrees :
    (IsName "order" ∧ Reference.parse "order-id" = .ok ⟨.property "order-id", none, []⟩ ∧
      rootName "order-id" ≠ "order" ∧
      rename ⟨some "order", none, 0⟩ "order-id" = "__frch_order_0-id") ∧
    IsName "x" ∧ Reference.parse "\x01x" = .ok ⟨.property "x", none, []⟩ ∧ rootName "x" = "x" ∧
      rename ⟨some "x", none, 0⟩ "\x01x" = "\x01x" := by
  refine ⟨⟨⟨by decide, List.all_eq_true.mp (by decide)⟩, ?_, ?_, ?_⟩,
    ⟨by decide, List.all_eq_true.mp (by decide)⟩, ?_, ?_, ?_⟩ <;> decide +kernel

end LoopScope

end SqlTemplate
