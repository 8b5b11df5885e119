import SqlTemplate.Proofs.Name

/-!
# Item paths

The item of an `in` list is a path that starts at the variable of the loop. In a round the variable
has a number and the steps behind it stay (`Loop.itemPath`), so that the round refers to what these
steps lead to from its element (`Value.follow_itemPath`). From a scalar they lead nowhere unless they
are dots only (`Value.follow_of_isSimple`).
-/

namespace SqlTemplate

/-! ## Pieces of paths -/

namespace Text

variable {p : Char → Bool}

theorem mem_head?_of_splitWhere {s : List Char} {c : Char} (h : c ∈ (splitWhere p s).1.head?) :
    c ∈ s.head? ∧ p c = false := by
  cases s with
  | nil => cases h
  | cons d s =>
    by_cases hd : p d = true
    · simp [splitWhere, hd] at h
    · simp only [splitWhere, hd, Bool.false_eq_true, if_false, List.head?_cons, Option.mem_def,
        Option.some.injEq] at h ⊢
      subst h
      exact ⟨rfl, by simpa using hd⟩

theorem all_eq_splitWhere {k : Char} {s : List Char} :
    s.all (· == k) = ((splitWhere (· == k) s).1.isEmpty &&
      (splitWhere (· == k) s).2.all List.isEmpty) := by
  induction s with
  | nil => rfl
  | cons c s ih =>
    by_cases hc : c = k
    · simp [splitWhere, hc, ih]
    · simp [splitWhere, hc]

end Text

namespace Loop

def tailOf (item : String) : List Char :=
  item.toList.dropWhile fun c => !(c == '.' || c == '[')

def itemPath (item : String) (number : Nat) : String :=
  numbered (variableOf item) number ++ String.ofList (tailOf item)

def isPathChar (c : Char) : Bool :=
  !(Text.isBlank c || Text.isPadding c || Reference.endsPath c || c == '}' || c == '\\')

structure IsItem (item : String) : Prop where
  isName : IsName (variableOf item)
  isPathChar : ∀ c ∈ item.toList, Loop.isPathChar c = true

theorem variableOf_append_tailOf (item : String) :
    (variableOf item).toList ++ tailOf item = item.toList := by
  rw [variableOf, String.toList_ofList]
  exact List.takeWhile_append_dropWhile

theorem head?_tailOf {item : String} {c : Char} (h : c ∈ (tailOf item).head?) :
    c = '.' ∨ c = '[' := by
  have hstop := List.not_of_mem_head?_dropWhile h
  rwa [Bool.not_eq_false', Bool.or_eq_true, beq_iff_eq, beq_iff_eq] at hstop

theorem isPathChar_of_continuesName {c : Char} (h : LoopScope.continuesName c = true) :
    isPathChar c = true := by
  have hclose := (LoopScope.ne_of_continuesName_false (k := '}') (by decide) h).symm
  have hescape := (LoopScope.ne_of_continuesName_false (k := '\\') (by decide) h).symm
  simp [isPathChar, LoopScope.not_isBlank_of_continuesName h,
    LoopScope.not_isPadding_of_continuesName h, LoopScope.endsPath_of_continuesName h, hclose, hescape]

end Loop

section
variable {x : String} (hx : IsName x)
include hx

theorem Loop.tailOf_name : tailOf x = [] := by
  refine hx.dropWhile_eq_nil fun c hc => ?_
  have hdot := (LoopScope.ne_of_continuesName_false (k := '.') (by decide) hc).symm
  have hbracket := (LoopScope.ne_of_continuesName_false (k := '[') (by decide) hc).symm
  simp [hdot, hbracket]

theorem Loop.variableOf_name : variableOf x = x := by
  have happend := variableOf_append_tailOf x
  rw [tailOf_name hx, List.append_nil] at happend
  exact String.toList_inj.mp happend

theorem Loop.itemPath_name (number : Nat) : itemPath x number = numbered x number := by
  rw [itemPath, tailOf_name hx, variableOf_name hx]
  exact String.append_empty

theorem Loop.isItem_name : IsItem x where
  isName := by rwa [variableOf_name hx]
  isPathChar c hc := isPathChar_of_continuesName (hx.continues c hc)

end

/-! ## Items in a round -/

namespace Loop.IsItem

variable {item : String} (h : IsItem item) (number : Nat)
include h

theorem isPathChar_itemPath : ∀ c ∈ (itemPath item number).toList, Loop.isPathChar c = true := by
  intro c hc
  rw [itemPath, String.toList_append, String.toList_ofList, List.mem_append] at hc
  rcases hc with hc | hc
  · exact isPathChar_of_continuesName ((h.isName.numbered number).continues c hc)
  · refine h.isPathChar c ?_
    rw [← variableOf_append_tailOf]
    exact List.mem_append_right _ hc

theorem isPlainPath_itemPath : Reference.IsPlainPath (itemPath item number) := by
  have hplain (c : Char) (hc : c ∈ (itemPath item number).toList) :
      Text.isPadding c = false ∧ Reference.endsPath c = false := by
    have hpath := h.isPathChar_itemPath number c hc
    simp only [Loop.isPathChar, Bool.not_eq_true', Bool.or_eq_false_iff] at hpath
    exact ⟨hpath.1.1.1.2, hpath.1.1.2⟩
  refine ⟨?_, ?_, fun c hc => (hplain c hc).1, fun c hc => (hplain c hc).2⟩
  · simp [itemPath, toList_numbered, marker]
  · simp [itemPath, toList_numbered, marker]

omit h number in
theorem stable_of_isPathChar {content : String} (h : ∀ c ∈ content.toList, Loop.isPathChar c = true) :
    '}' ∉ content.toList ∧ Delimiters.escapes content.toList = false :=
  ⟨fun hclose => absurd (h _ hclose) (by decide),
    Delimiters.escapes_eq_false fun hescape => absurd (h _ hescape) (by decide)⟩

theorem rename_item (index : Option String) :
    (LoopScope.mk (some (variableOf item)) index number).rename item = itemPath item number := by
  have hrefers : LoopScope.Refers (variableOf item) item (tailOf item) := by
    refine ⟨⟨[], (variableOf_append_tailOf item).symm, by simp⟩, ?_⟩
    cases hhead : (tailOf item).head? with
    | none => rfl
    | some c =>
      rcases head?_tailOf hhead with rfl | rfl
      · decide
      · decide
  have hrename := LoopScope.rename?_of_refers h.isName.ne_nil h.isName.continues number hrefers
  simp [LoopScope.rename, hrename, itemPath]

theorem renameTokens_inListBody :
    (LoopScope.mk (some (variableOf item)) none number).renameTokens (inListBody item) =
      inListBody (itemPath item number) := by
  have hstable := stable_of_isPathChar h.isPathChar
  have houtline : Delimiters.hash.outline (inListBody item).toList = .token [] item.toList (.text []) :=
    Delimiters.hash.outline_wrap Delimiters.braced_hash hstable.1 hstable.2
  apply String.toList_inj.mp
  unfold LoopScope.renameTokens
  rw [Delimiters.toList_replace, houtline]
  simp [Outline.render, h.rename_item, inListBody]

end Loop.IsItem

/-! ## Following the steps behind a name -/

theorem Step.ofText_append {name : String} (h : '[' ∉ name.toList) {u : List Char}
    (hu : ∀ c ∈ u.head?, c = '[') :
    (ofText (name.toList ++ u)).name = name ∧
      (ofText (name.toList ++ u)).index = (ofText u).index := by
  have hname : ∀ c ∈ name.toList, decide (c ≠ '[') = true := fun c hc =>
    decide_eq_true fun hbracket => h (hbracket ▸ hc)
  have hstop : ∀ c ∈ u.head?, decide (c ≠ '[') = false := fun c hc => by simp [hu c hc]
  constructor
  · simp only [ofText]
    rw [List.takeWhile_append_of_head? hname hstop, String.ofList_toList]
  · simp only [ofText]
    rw [List.dropWhile_append_of_pos hname]

section
variable {name : String} (h : IsName name) {tail : List Char}
  (htail : ∀ c ∈ tail.head?, c = '.' ∨ c = '[')
include h htail

theorem Path.ofText_append :
    (ofText (name ++ String.ofList tail)).root.name = name ∧
      (ofText (name ++ String.ofList tail)).root.index = (ofText (String.ofList tail)).root.index ∧
      (ofText (name ++ String.ofList tail)).rest = (ofText (String.ofList tail)).rest := by
  have hdots : ∀ c ∈ name.toList, (c == '.') = false := fun c hc =>
    beq_false_of_ne (LoopScope.ne_of_continuesName_false (by decide) (h.continues c hc)).symm
  have hsplit := Text.splitWhere_append hdots tail
  have hfirst : ∀ c ∈ (Text.splitWhere (· == '.') tail).1.head?, c = '[' := by
    intro c hc
    obtain ⟨hmem, hdot⟩ := Text.mem_head?_of_splitWhere hc
    exact (htail c hmem).resolve_left (by simpa using hdot)
  have hroot := Step.ofText_append (h.not_mem (by decide)) hfirst
  simp only [ofText, String.toList_append, String.toList_ofList, hsplit]
  exact ⟨hroot.1, hroot.2, trivial⟩

theorem rootName_append : rootName (name ++ String.ofList tail) = name :=
  (Path.ofText_append h htail).1

theorem Value.follow_append (v : Value) :
    v.follow (Path.ofText (name ++ String.ofList tail)) =
      v.follow (Path.ofText (String.ofList tail)) := by
  obtain ⟨_, hindex, hrest⟩ := Path.ofText_append h htail
  unfold follow enter
  rw [hindex, hrest]

end

/-- In every round the steps of an item lead to the same part of a value. -/
theorem Value.follow_itemPath {item : String} (h : Loop.IsItem item) (v : Value) (number : Nat) :
    v.follow (Path.ofText (Loop.itemPath item number)) = v.follow (Path.ofText item) := by
  have hitem : item = Loop.variableOf item ++ String.ofList (Loop.tailOf item) := by
    apply String.toList_inj.mp
    rw [String.toList_append, String.toList_ofList, Loop.variableOf_append_tailOf]
  have htail := fun c => @Loop.head?_tailOf item c
  conv => rhs; rw [hitem]
  rw [Loop.itemPath, follow_append (h.isName.numbered number) htail,
    follow_append h.isName htail]

/-! ## Steps from a scalar -/

section
variable {v : Value} (hv : v.isSimple = true)
include hv

theorem Value.index_of_isSimple (i : String) : v.index i = none := by
  cases v <;> first | rfl | cases hv

theorem Value.property_of_isSimple (name : String) : v.property name = none := by
  cases v <;> first | rfl | cases hv

theorem Value.enter_ofText_of_isSimple {s : List Char} (hs : ∀ c ∈ s.head?, c = '[') :
    v.enter (Step.ofText s) = if s = [] then some v else none := by
  cases s with
  | nil => rfl
  | cons c s =>
    obtain rfl := hs c rfl
    exact index_of_isSimple hv _

theorem Value.walk_ofText_of_isSimple (s : List Char) :
    v.walk (Step.ofText s) = if s = [] then some v else none := by
  by_cases hname : (Step.ofText s).name = ""
  · have hhead : ∀ c ∈ s.head?, c = '[' := by
      intro c hc
      cases s with
      | nil => cases hc
      | cons d s =>
        cases hc
        simpa [Step.ofText] using hname
    have hwalk : v.walk (Step.ofText s) = v.enter (Step.ofText s) := if_pos hname
    rw [hwalk, enter_ofText_of_isSimple hv hhead]
  · have hne : s ≠ [] := by
      rintro rfl
      exact hname rfl
    have hwalk : v.walk (Step.ofText s) = (v.property (Step.ofText s).name).bind _ := if_neg hname
    rw [hwalk, property_of_isSimple hv, if_neg hne]
    rfl

theorem Value.walkAll_of_isSimple (pieces : List (List Char)) :
    v.walkAll (pieces.map Step.ofText) = if pieces.all List.isEmpty then some v else none := by
  induction pieces with
  | nil => simp [walkAll]
  | cons piece pieces ih =>
    have hstep : v.walkAll ((piece :: pieces).map Step.ofText) =
        (v.walk (Step.ofText piece)).bind (·.walkAll (pieces.map Step.ofText)) := rfl
    rw [hstep, walk_ofText_of_isSimple hv]
    by_cases hpiece : piece = []
    · simp [hpiece, ih]
    · simp [hpiece]

/-- From a scalar the steps of an item lead to itself if they are dots only, and else nowhere. -/
theorem Value.follow_of_isSimple {item : String} (h : Loop.IsItem item) :
    v.follow (Path.ofText item) = if (Loop.tailOf item).all (· == '.') then some v else none := by
  have hitem : item = Loop.variableOf item ++ String.ofList (Loop.tailOf item) := by
    apply String.toList_inj.mp
    rw [String.toList_append, String.toList_ofList, Loop.variableOf_append_tailOf]
  have htail := fun c => @Loop.head?_tailOf item c
  have hfirst : ∀ c ∈ (Text.splitWhere (· == '.') (Loop.tailOf item)).1.head?, c = '[' := by
    intro c hc
    obtain ⟨hmem, hdot⟩ := Text.mem_head?_of_splitWhere hc
    exact (Loop.head?_tailOf hmem).resolve_left (by simpa using hdot)
  conv => lhs; rw [hitem]
  rw [follow_append h.isName htail]
  simp only [follow, Path.ofText, String.toList_ofList, enter_ofText_of_isSimple hv hfirst,
    Text.all_eq_splitWhere]
  by_cases hroot : (Text.splitWhere (· == '.') (Loop.tailOf item)).1 = []
  · simp [hroot, walkAll_of_isSimple hv]
  · simp [hroot]

end

end SqlTemplate
