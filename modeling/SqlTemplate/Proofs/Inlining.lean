import SqlTemplate.Proofs.Inlined

/-!
# Inlining and binding

With literals an `in` list writes its elements, without them it binds what the item leads to from each
of them (`values_inListItem`). The two agree exactly if the item has no steps behind its variable, but
for dots: the literals never follow these steps (`inlined_agrees_bound`).
-/

namespace SqlTemplate

/-! ## Blanks between the tokens of a list -/

namespace Text

theorem words_append_blank {k : Char} (hk : isBlank k = true) (a b : List Char) :
    words (a ++ k :: b) = words a ++ words b := by
  rw [words, pieces_append hk, List.filter_append]
  rfl

theorem words_of_free {s : List Char} (hne : s ≠ []) (h : ∀ c ∈ s, isBlank c = false) :
    words s = [s] := by
  rw [words, pieces_of_free h]
  simp [hne]

theorem words_intercalate {t : List Char} {ts : List (List Char)}
    (h : ∀ u ∈ t :: ts, u ≠ [] ∧ ∀ c ∈ u, isBlank c = false) :
    words (" , ".toList.intercalate (t :: ts)) = t :: ts.flatMap ([[','], ·]) := by
  induction ts generalizing t with
  | nil =>
    have ht := h t List.mem_cons_self
    simpa using words_of_free ht.1 ht.2
  | cons u ts ih =>
    have ht := h t List.mem_cons_self
    have hcomma : words ([','] ++ ' ' :: " , ".toList.intercalate (u :: ts)) =
        [','] :: u :: ts.flatMap ([[','], ·]) := by
      rw [words_append_blank (by decide), ih fun v hv => h v (List.mem_cons_of_mem t hv)]
      rfl
    have hsplit : " , ".toList.intercalate (t :: u :: ts) =
        t ++ ' ' :: ([','] ++ ' ' :: " , ".toList.intercalate (u :: ts)) := by
      rw [List.intercalate_cons_cons, List.append_assoc]
      rfl
    rw [hsplit, words_append_blank (by decide), words_of_free ht.1 ht.2, hcomma]
    rfl

end Text

theorem Text.collapseBlanks_list {text : String} {rest : List String}
    (h : ∀ t ∈ text :: rest, t ≠ "" ∧ ∀ c ∈ t.toList, isBlank c = false) :
    collapseBlanks ("(  " ++ " , ".intercalate (text :: rest) ++ " )") =
      "( " ++ " , ".intercalate (text :: rest) ++ " )" := by
  have hlist : ("(  " ++ " , ".intercalate (text :: rest) ++ " )").toList =
      ['('] ++ ' ' :: ([] ++ ' ' ::
        (" , ".toList.intercalate (text.toList :: rest.map String.toList) ++ ' ' :: [')'])) := by
    simp [String.toList_intercalate]
  have htexts : ∀ u ∈ text.toList :: rest.map String.toList, u ≠ [] ∧ ∀ c ∈ u, isBlank c = false := by
    rw [← List.map_cons]
    intro u hu
    obtain ⟨t, ht, rfl⟩ := List.mem_map.mp hu
    exact ⟨fun he => (h t ht).1 (String.toList_eq_nil_iff.mp he), (h t ht).2⟩
  have hwords : words ("(  " ++ " , ".intercalate (text :: rest) ++ " )").toList =
      ['('] :: text.toList :: ((rest.map String.toList).flatMap ([[','], ·]) ++ [[')']]) := by
    rw [hlist, words_append_blank (by decide), words_append_blank (by decide),
      words_append_blank (by decide), words_intercalate htexts]
    rfl
  have hmap : (((rest.map String.toList).flatMap ([[','], ·]) ++ [[')']]).map String.ofList) =
      rest.flatMap ([",", ·]) ++ [")"] := by
    rw [List.map_append, List.map_flatMap, List.flatMap_map]
    simp
  have hspaced := Loop.intercalate_flatMap "," ")" text rest
  rw [collapseBlanks, hwords, List.map_cons, List.map_cons, hmap, String.intercalate_cons_cons,
    String.ofList_toList, hspaced]
  simp [String.append_assoc]

/-- The final pass finds the same tokens in a list whether or not it collapses the blanks. -/
theorem Statement.tokens_prepare_list (config : Configuration) {paths : List String}
    (hne : paths ≠ []) (hpaths : ∀ t ∈ paths, ∀ c ∈ t.toList, Loop.isPathChar c = true) :
    Delimiters.hash.tokens
        (prepare config ("(  " ++ " , ".intercalate (paths.map Loop.inListBody) ++ " )")) = paths := by
  obtain ⟨path, rest, rfl⟩ := List.exists_cons_of_ne_nil hne
  have hstable : ∀ t ∈ path :: rest, '}' ∉ t.toList ∧ Delimiters.escapes t.toList = false :=
    fun t ht => Loop.IsItem.stable_of_isPathChar (hpaths t ht)
  have htokens (before : String)
      (hbefore : ¬ Delimiters.hash.opening <:+: before.toList ∧
        Delimiters.escapes before.toList = false) :
      Delimiters.hash.tokens
        (before ++ " , ".intercalate ((path :: rest).map Loop.inListBody) ++ " )") = path :: rest := by
    rw [Delimiters.tokens_eq, Delimiters.outline_list before hbefore hstable, Outline.contents_row]
    simp [Function.comp_def]
  have hfree : ∀ t ∈ (path :: rest).map Loop.inListBody,
      t ≠ "" ∧ ∀ c ∈ t.toList, Text.isBlank c = false := by
    intro t ht
    obtain ⟨u, hu, rfl⟩ := List.mem_map.mp ht
    have hbody : (Loop.inListBody u).toList = ['#', '{'] ++ u.toList ++ ['}'] := by
      simp [Loop.inListBody, Delimiters.wrap, Delimiters.hash]
    constructor
    · intro he
      rw [he] at hbody
      simp at hbody
    · intro c hc
      rw [hbody, List.mem_append, List.mem_append] at hc
      rcases hc with (hc | hc) | hc
      · rw [List.mem_pair] at hc
        rcases hc with rfl | rfl <;> rfl
      · have hpath := hpaths u hu c hc
        simp only [Loop.isPathChar, Bool.not_eq_true', Bool.or_eq_false_iff] at hpath
        exact hpath.1.1.1.1
      · rw [List.mem_singleton.mp hc]
        rfl
  unfold prepare
  split
  · rw [List.map_cons] at hfree ⊢
    rw [Text.collapseBlanks_list hfree]
    exact htokens "( " (by decide)
  · exact htokens "(  " (by decide)

theorem Statement.tokens_inListItem {item : String} (h : Loop.IsItem item) (config : Configuration)
    {n : Nat} (hn : n ≠ 0) :
    Delimiters.hash.tokens (prepare config ("(  " ++ " , ".intercalate
        (((List.range' 0 n).map (Loop.itemPath item)).map Loop.inListBody) ++ " )")) =
      (List.range' 0 n).map (Loop.itemPath item) := by
  refine tokens_prepare_list config (by simpa using hn) fun t ht => ?_
  obtain ⟨i, _, rfl⟩ := List.mem_map.mp ht
  exact h.isPathChar_itemPath i

/-! ## What the list binds -/

theorem Parameter.ofContent_plain {config : Configuration} {kind : Kind} {bindings : Bindings}
    {path : String} {q : Parameter} (h : Reference.IsPlainPath path)
    (hq : ofContent config kind bindings path = .ok q) : q.property = path ∧ q.mode = .input := by
  obtain ⟨reference, property, columnType, d, hr, ht, _, hd, hp⟩ := ofContent_eq_ok hq
  rw [Reference.parse_path h] at hr
  cases hr
  cases ht
  cases hd
  rw [hp]
  exact ⟨rfl, rfl⟩

theorem Loop.isSimple_of_inlined {vs : List Value}
    (h : (vs.all isNumber || vs.all isText) = true) : ∀ v ∈ vs, v.isSimple = true := by
  intro v hv
  rw [Bool.or_eq_true, List.all_eq_true, List.all_eq_true] at h
  rcases h with h | h
  · have hnumber := h v hv
    cases v <;> first | rfl | cases hnumber
  · have htext := h v hv
    cases v <;> first | rfl | cases htext

section
variable {ev : Evaluator} {config : Configuration} {collection item : String} {nullable : Bool}
  {p : Value} {items : List Item} (h : Loop.IsItem item) (hne : items ≠ [])
  (hitems : ev.collection collection nullable (config.startBindings p) = .ok (some items))
include h hne hitems

/-- An `in` list binds for each element what the steps of the item lead to from it, or null. -/
theorem values_inListItem {bound : BoundStatement}
    (hbound : (Source.bindDynamic ev config
      (.inList { Loop.inList collection item with nullable } item) p).result = .ok bound) :
    bound.values config =
      items.map fun element => (element.value.follow (Path.ofText item)).getD .null := by
  obtain ⟨b, he, hget⟩ := Node.evaluate_inListItem h hne hitems
  obtain ⟨sql, b', statement, he', hs, rfl⟩ := Source.bindDynamic_eq_ok.mp hbound
  rw [he] at he'
  cases he'
  have hparameters := Statement.forall₂_of_ofSql hs
  rw [Statement.tokens_inListItem h config (mt List.length_eq_zero_iff.mp hne)] at hparameters
  have hlength := hparameters.length_eq
  rw [List.length_map, List.length_range'] at hlength
  refine List.ext_getElem (by simp [BoundStatement.values, hlength]) fun i hi hi' => ?_
  rw [List.length_map] at hi'
  have hparameter := hparameters.get (i := i) (by simpa using hi') (hlength ▸ hi')
  simp only [List.get_eq_getElem, List.getElem_map, List.getElem_range', Nat.zero_add,
    Nat.one_mul] at hparameter
  obtain ⟨hproperty, hmode⟩ := Parameter.ofContent_plain (h.isPlainPath_itemPath i) hparameter
  have hvalue : b.locals.get? (rootName (Loop.itemPath item i)) = some items[i].value := by
    rw [Loop.itemPath, rootName_append (h.isName.numbered i) fun c => Loop.head?_tailOf]
    exact hget i _ (List.getElem?_eq_getElem hi')
  simp only [BoundStatement.values, List.getElem_map, BoundStatement.valueOf, hmode]
  rw [if_neg (by decide), hproperty, BoundStatement.valueAt_of_get? _ config hvalue,
    Value.follow_itemPath h]

theorem exists_bound_inListItem (hhandlers : config.handlers = .standard)
    (hscalar : ∀ element ∈ items, element.value.isSimple = true) :
    ∃ bound, (Source.bindDynamic ev config
      (.inList { Loop.inList collection item with nullable } item) p).result = .ok bound := by
  obtain ⟨b, he, hget⟩ := Node.evaluate_inListItem h hne hitems
  have hparameters : ∃ parameters, ((List.range' 0 items.length).map (Loop.itemPath item)).mapM
      (Parameter.ofContent config b.parameter.kind b) = .ok parameters := by
    refine Except.exists_mapM_eq_ok fun t ht => ?_
    obtain ⟨i, hi, rfl⟩ := List.mem_map.mp ht
    have hi : i < items.length := by simpa using hi
    have hsimple := hscalar _ (List.getElem_mem hi)
    have hlocal : b.localPath (Loop.itemPath item i) =
        some ((items[i].value.follow (Path.ofText item)).getD .null) := by
      rw [Bindings.localPath_eq_follow, Loop.itemPath,
        rootName_append (h.isName.numbered i) fun c => Loop.head?_tailOf,
        hget i _ (List.getElem?_eq_getElem hi), Option.map_some, ← Loop.itemPath,
        Value.follow_itemPath h]
    refine ⟨_, Parameter.ofContent_path (h.isPlainPath_itemPath i) hlocal hhandlers ?_⟩
    rw [Value.follow_of_isSimple hsimple h]
    split
    · exact Or.inr hsimple
    · exact Or.inl rfl
  obtain ⟨parameters, hparameters⟩ := hparameters
  have hstatement (sql : String) (hsql : Delimiters.hash.tokens (Statement.prepare config sql) =
      (List.range' 0 items.length).map (Loop.itemPath item)) :
      ∃ statement, Statement.ofSql config sql b.parameter.kind b = .ok statement := by
    rw [Statement.ofSql_eq, hsql, hparameters]
    exact ⟨_, rfl⟩
  obtain ⟨statement, hs⟩ := hstatement _
    (Statement.tokens_inListItem h config (mt List.length_eq_zero_iff.mp hne))
  exact ⟨_, Source.bindDynamic_eq_ok.mpr ⟨_, b, statement, he, hs, rfl⟩⟩

/-- Over numbers or texts the literals are the elements, whatever the item is. The same list without
literals binds the elements if the steps of the item are dots only, and else null for each. -/
theorem inlined_agrees_bound
    (hinline : ((items.map Item.value).all Loop.isNumber ||
      (items.map Item.value).all Loop.isText) = true) :
    let header := { Loop.inList collection item with nullable }
    let c := Context.start (config.startBindings p)
    let values := items.map Item.value
    let bindings := (Source.bindDynamic ev config (.inList header item) p).result
    Build.Emits ((Node.inList { header with inlineLiterals := true } item).apply ev) c true
        ["(" ++ ",".intercalate (values.map Loop.literal) ++ ")"]
        (c.noted (.evaluated collection)) ∧
      (∀ bound, bindings = .ok bound → bound.values config =
        if (Loop.tailOf item).all (· == '.') then values else values.map fun _ => .null) ∧
      (config.handlers = .standard → ∃ bound, bindings = .ok bound) := by
  intro header c values bindings
  have hscalar : ∀ element ∈ items, element.value.isSimple = true := by
    intro element hmem
    exact Loop.isSimple_of_inlined hinline _ (List.mem_map_of_mem hmem)
  refine ⟨Node.emits_inlined item none none hitems hne hinline, fun bound hbound => ?_,
    fun hhandlers => exists_bound_inListItem h hne hitems hhandlers hscalar⟩
  have hfollow : ∀ element ∈ items, (element.value.follow (Path.ofText item)).getD .null =
      if (Loop.tailOf item).all (· == '.') then element.value else .null := by
    intro element hmem
    rw [Value.follow_of_isSimple (hscalar element hmem) h]
    split <;> rfl
  rw [values_inListItem h hne hitems hbound, List.map_congr_left hfollow]
  split
  · rfl
  · rw [List.map_map]
    rfl

end

theorem inlined_agrees_bound_dot :
    let header := Loop.inList "xs" "x."
    let values : List Value := [.int 7, .int (-12)]
    let p : Value := .map [("xs", .list values)]
    let c := Context.start (Configuration.standard.startBindings p)
    Loop.IsItem "x." ∧
      Evaluator.paths.collection "xs" false c.bindings = .ok (some (Evaluator.byPosition values)) ∧
      Build.Emits ((Node.inList { header with inlineLiterals := true } "x.").apply .paths) c true
        ["(7,-12)"] (c.noted (.evaluated "xs")) ∧
      ∃ bound, (Source.bindDynamic .paths .standard (.inList header "x.") p).result = .ok bound ∧
        bound.values .standard = values := by
  intro header values p c
  have hitem : Loop.IsItem "x." := ⟨⟨by decide, List.all_eq_true.mp (by decide)⟩, List.all_eq_true.mp (by decide)⟩
  obtain ⟨hemits, hvalues, hexists⟩ := @inlined_agrees_bound .paths .standard "xs" "x." false p
    (Evaluator.byPosition values) hitem (List.cons_ne_nil _ _) rfl rfl
  obtain ⟨bound, hbound⟩ := hexists rfl
  have hsql : "(" ++ ",".intercalate (values.map Loop.literal) ++ ")" = "(7,-12)" := by decide +kernel
  rw [← hsql]
  exact ⟨hitem, rfl, hemits, bound, hbound, (hvalues bound hbound).trans (if_pos (by decide))⟩

/-- Under an item with a step behind its variable the element is written, and null is bound. -/
theorem inlined_disagrees_bound :
    let header := Loop.inList "xs" "a.id"
    let p : Value := .map [("xs", .list [.int 1])]
    let bound (header : Loop) :=
      (Source.bindDynamic .paths .standard (.inList header "a.id") p).result.toOption
    Loop.IsItem "a.id" ∧
      (bound { header with inlineLiterals := true }).map (·.statement.sql) = some "(1)" ∧
      (bound header).map (fun b => (b.values .standard).map Loop.literal) = some ["null"] :=
  ⟨⟨⟨by decide, List.all_eq_true.mp (by decide)⟩, List.all_eq_true.mp (by decide)⟩, by decide +kernel, by decide +kernel⟩

end SqlTemplate
