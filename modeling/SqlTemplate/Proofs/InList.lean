import SqlTemplate.Proofs.Emission
import SqlTemplate.Proofs.ItemPath

/-!
# In lists

An `in` list binds each element of a collection to a placeholder of its own, in order
(`bindDynamic_inList`). Every round writes one token with the numbered name of its element, and the
final pass reads the row of these tokens.
-/

namespace SqlTemplate

/-! ## Tokens in a row -/

namespace Outline

def row (before separator after : List Char) : List Char → List (List Char) → Outline
  | content, [] => .token before content (.text after)
  | content, next :: rest => .token before content (row separator separator after next rest)

theorem contents_row (before separator after content : List Char) (rest : List (List Char)) :
    (row before separator after content rest).contents = content :: rest := by
  induction rest generalizing before content with
  | nil => rfl
  | cons next rest ih => rw [row, contents, ih]

theorem render_row (f : List Char → List Char) (before separator after content : List Char)
    (rest : List (List Char)) :
    (row before separator after content rest).render f =
      before ++ separator.intercalate ((content :: rest).map f) ++ after := by
  induction rest generalizing before content with
  | nil => simp [row, render]
  | cons next rest ih =>
    rw [row, render, ih, List.map_cons, List.map_cons, List.map_cons, List.intercalate_cons_cons]
    simp

theorem stable_row {d : Delimiters} {before separator after content : List Char}
    {rest : List (List Char)}
    (hbefore : ¬ d.opening <:+: before ∧ Delimiters.escapes before = false)
    (hseparator : ¬ d.opening <:+: separator ∧ Delimiters.escapes separator = false)
    (hafter : d.Inert after)
    (hcontents : ∀ c ∈ content :: rest, '}' ∉ c ∧ Delimiters.escapes c = false) :
    (row before separator after content rest).Stable d := by
  induction rest generalizing before content with
  | nil =>
    have hc := hcontents content List.mem_cons_self
    exact ⟨hbefore.1, hbefore.2, hc.1, hc.2, hafter⟩
  | cons next rest ih =>
    have hc := hcontents content List.mem_cons_self
    exact ⟨hbefore.1, hbefore.2, hc.1, hc.2,
      ih hseparator fun c hm => hcontents c (List.mem_cons_of_mem _ hm)⟩

end Outline

/-! ## Fragments in a row -/

theorem Text.trim_parenthesized (s : String) : trim ("(" ++ s ++ ")") = "(" ++ s ++ ")" := by
  have hl : ("(" ++ s ++ ")").toList = ('(' :: s.toList) ++ [')'] := by simp
  unfold trim
  rw [trimBoth_eq_self, String.ofList_toList]
  · rw [hl]
    simp [isBlank]
  · rw [hl, List.getLast?_concat]
    simp [isBlank]

namespace Loop

theorem joinRounds_texts (separator : String) {texts : List String}
    (hblank : ∀ t ∈ texts, Text.allBlank t = false) :
    joinRounds separator false (texts.map ([·])) = texts.flatMap ([separator, ·]) := by
  induction texts with
  | nil => rfl
  | cons t texts ih =>
    rw [List.map_cons, joinRounds, List.flatMap_cons, ← ih fun u hu => hblank u (by simp [hu])]
    simp [Sink.leadIn, hblank t List.mem_cons_self]

theorem intercalate_flatMap (separator closing text : String) (rest : List String) :
    " ".intercalate (text :: (rest.flatMap ([separator, ·]) ++ [closing])) =
      (" " ++ separator ++ " ").intercalate (text :: rest) ++ " " ++ closing := by
  induction rest generalizing text with
  | nil => simp [String.intercalate_cons_cons]
  | cons next rest ih =>
    simp only [List.flatMap_cons, List.cons_append, List.nil_append, String.intercalate_cons_cons,
      ih, String.append_assoc]

theorem intercalate_joinRounds (opening separator closing text : String) (rest : List String)
    (hblank : ∀ t ∈ text :: rest, Text.allBlank t = false) :
    " ".intercalate (opening :: (joinRounds separator true ((text :: rest).map ([·])) ++ [closing])) =
      opening ++ "  " ++ (" " ++ separator ++ " ").intercalate (text :: rest) ++ " " ++ closing := by
  have hfirst : joinRounds separator true ((text :: rest).map ([·])) =
      "" :: text :: rest.flatMap ([separator, ·]) := by
    rw [← joinRounds_texts separator fun t ht => hblank t (List.mem_cons_of_mem _ ht),
      List.map_cons, joinRounds]
    simp [Sink.leadIn, hblank text List.mem_cons_self]
  have hspaces : "  " = " " ++ " " := rfl
  rw [hfirst, List.cons_append, List.cons_append, String.intercalate_cons_cons,
    String.intercalate_cons_cons, intercalate_flatMap, hspaces]
  simp only [String.append_assoc, String.empty_append]

end Loop

/-! ## The values of the rounds -/

namespace Context

variable {loop : Loop} {x : String} (hitem : loop.item = some x) (hindex : loop.index = none)
include hitem hindex

theorem get?_enter (c : Context) (item : Item) (name : String) :
    (c.enter loop item).bindings.locals.get? name =
      if x = name then some item.value
      else if Loop.numbered x c.counter = name then some item.value
      else c.bindings.locals.get? name := by
  unfold enter
  rw [hitem, hindex]
  change (((c.bindings.bind _ _).bind _ _).locals.get? name) = _
  rw [Bindings.get?_bind, Bindings.get?_bind]

/-- The rounds that follow leave the numbered name of an earlier round alone. -/
theorem get?_enterAll_of_lt (items : List Item) (c : Context) {number : Nat} (h : number < c.counter) :
    (c.enterAll loop items).bindings.locals.get? (Loop.numbered x number) =
      c.bindings.locals.get? (Loop.numbered x number) := by
  induction items generalizing c with
  | nil => rfl
  | cons item items ih =>
    have hne : Loop.numbered x c.counter ≠ Loop.numbered x number := by
      intro he
      have := (Loop.numbered_inj he).2
      omega
    change ((c.enter loop item).enterAll loop items).bindings.locals.get? _ = _
    rw [ih (c.enter loop item) (Nat.lt_succ_of_lt h), get?_enter hitem hindex,
      if_neg (Loop.numbered_ne_self x number).symm, if_neg hne]

theorem get?_enterAll {items : List Item} {i : Nat} {item : Item} (h : items[i]? = some item)
    (c : Context) :
    (c.enterAll loop items).bindings.locals.get? (Loop.numbered x (c.counter + i)) =
      some item.value := by
  induction items generalizing c i with
  | nil => cases h
  | cons first items ih =>
    change ((c.enter loop first).enterAll loop items).bindings.locals.get? _ = _
    cases i with
    | zero =>
      cases h
      rw [Nat.add_zero, get?_enterAll_of_lt hitem hindex _ _ (Nat.lt_succ_self _),
        get?_enter hitem hindex, if_neg (Loop.numbered_ne_self x _).symm, if_pos rfl]
    | succ i =>
      rw [← ih h (c.enter loop first)]
      congr 2
      change c.counter + (i + 1) = c.counter + 1 + i
      omega

end Context

theorem Bindings.get?_leave {loop : Loop} {x : String} (hitem : loop.item = some x)
    (hindex : loop.index = none) (c : Context) (number : Nat) :
    (c.leave loop).bindings.locals.get? (Loop.numbered x number) =
      c.bindings.locals.get? (Loop.numbered x number) := by
  unfold Context.leave
  rw [hitem, hindex]
  change (c.bindings.release x).locals.get? _ = _
  rw [get?_release, if_neg (Loop.numbered_ne_self x number).symm]

/-! ## Lists that are bound -/

theorem Loop.allBlank_inListBody (name : String) : Text.allBlank (inListBody name) = false := by
  simp [Text.allBlank, inListBody, Delimiters.wrap, Delimiters.hash, Text.isBlank]

theorem Delimiters.outline_list (before : String) {path : String} {rest : List String}
    (hbefore : ¬ hash.opening <:+: before.toList ∧ escapes before.toList = false)
    (hpaths : ∀ t ∈ path :: rest, '}' ∉ t.toList ∧ escapes t.toList = false) :
    hash.outline (before ++ " , ".intercalate ((path :: rest).map Loop.inListBody) ++ " )").toList =
      .row before.toList " , ".toList " )".toList path.toList (rest.map String.toList) := by
  have hstable : (Outline.row before.toList " , ".toList " )".toList path.toList
      (rest.map String.toList)).Stable hash := by
    refine Outline.stable_row hbefore (by decide) (inert_of_free (by decide)) ?_
    rw [← List.map_cons]
    intro c hc
    obtain ⟨t, ht, rfl⟩ := List.mem_map.mp hc
    exact hpaths t ht
  rw [← (outline_written_iff braced_hash _).mpr hstable]
  unfold Outline.written
  rw [Outline.render_row, ← List.map_cons, List.map_map, String.toList_append, String.toList_append,
    String.toList_intercalate, List.map_map]
  congr 5
  funext t
  simp [Loop.inListBody, wrap]

theorem Statement.ofSql_list {config : Configuration} {kind : Kind} {bindings : Bindings}
    {name : String} {rest : List String} {parameters : List Parameter}
    (hshrink : config.settings.shrinkBlanks = false) (hnames : ∀ t ∈ name :: rest, IsName t)
    (hparameters : (name :: rest).mapM (Parameter.ofContent config kind bindings) = .ok parameters) :
    ofSql config ("(  " ++ " , ".intercalate ((name :: rest).map Loop.inListBody) ++ " )") kind
        bindings =
      .ok ⟨"(  " ++ " , ".intercalate (List.replicate (name :: rest).length placeholder) ++ " )",
        parameters⟩ := by
  have houtline := Delimiters.outline_list "(  " (by decide) fun t ht => (hnames t ht).stable
  rw [ofSql_of_outline hshrink houtline, Outline.contents_row,
    Outline.render_row, ← List.map_cons, List.map_map, List.map_map]
  have hcontents : (name :: rest).map (String.ofList ∘ String.toList) = name :: rest := by
    simp [Function.comp_def]
  have hsql : String.ofList ("(  ".toList ++ " , ".toList.intercalate
      ((name :: rest).map ((fun _ => placeholder.toList) ∘ String.toList)) ++ " )".toList) =
      "(  " ++ " , ".intercalate (List.replicate (name :: rest).length placeholder) ++ " )" := by
    apply String.toList_inj.mp
    rw [String.toList_ofList, String.toList_append, String.toList_append, String.toList_intercalate,
      List.map_replicate]
    congr 3
    exact List.map_const'
  rw [hcontents, hparameters, hsql]
  rfl

theorem Loop.sql_list (texts : List String) (hne : texts ≠ [])
    (hblank : ∀ t ∈ texts, Text.allBlank t = false) :
    (Sink.empty.feed ("(" :: (joinRounds "," true (texts.map ([·])) ++ [")"]))).sql =
      "(  " ++ " , ".intercalate texts ++ " )" := by
  obtain ⟨text, rest, rfl⟩ := List.exists_cons_of_ne_nil hne
  have hseparator : " " ++ "," ++ " " = " , " := rfl
  have hopening : "(  " = "(" ++ "  " := rfl
  have hclosing : " )" = " " ++ ")" := rfl
  rw [Sink.sql_feed_empty, intercalate_joinRounds "(" "," ")" text rest hblank, hseparator, hopening,
    hclosing]
  have htrim := Text.trim_parenthesized ("  " ++ " , ".intercalate (text :: rest) ++ " ")
  simp only [String.append_assoc] at htrim ⊢
  exact htrim

/-- What an `in` list leaves behind. -/
theorem Node.evaluate_inListItem {ev : Evaluator} {collection item : String} {nullable : Bool}
    {b : Bindings} {items : List Item} (h : Loop.IsItem item) (hne : items ≠ [])
    (hitems : ev.collection collection nullable b = .ok (some items)) :
    ∃ b', ((Node.inList { Loop.inList collection item with nullable } item).evaluate ev b).result =
        .ok ("(  " ++ " , ".intercalate (((List.range' 0 items.length).map
          (Loop.itemPath item)).map Loop.inListBody) ++ " )", b') ∧
      ∀ i element, items[i]? = some element →
        b'.locals.get? (Loop.numbered (Loop.variableOf item) i) = some element.value := by
  let header := { Loop.inList collection item with nullable }
  let body := (Node.text (Loop.inListBody item)).apply ev
  let c := (Context.start b).noted (.evaluated collection)
  let texts := ((List.range' 0 items.length).map (Loop.itemPath item)).map Loop.inListBody
  have hitem : header.item = some (Loop.variableOf item) := rfl
  have hindex : header.index = none := rfl
  have hrounds : Loop.Rounds header body c items (texts.map ([·])) (c.enterAll header items) := by
    have hall := Loop.rounds_text ev header (Loop.inListBody item) c items
    have htexts : texts.map ([·]) = (List.range' c.counter items.length).map fun number =>
        [LoopScope.renameTokens ⟨header.item, header.index, number⟩ (Loop.inListBody item)] := by
      rw [List.map_map, List.map_map]
      refine List.map_congr_left fun number _ => ?_
      exact congrArg ([·]) (h.renameTokens_inListBody number).symm
    rw [htexts]
    exact hall
  have hloop : Build.Emits (header.run ev body) (Context.start b) ()
      ("(" :: (Loop.joinRounds "," true (texts.map ([·])) ++ [")"]))
      ((c.enterAll header items).leave header) := Loop.emits_run hitems hne rfl hrounds
  have happly : Build.Emits ((Node.inList header item).apply ev) (Context.start b) true _ _ :=
    hloop.bind (.pure true _)
  refine ⟨((c.enterAll header items).leave header).bindings, ?_, ?_⟩
  · rw [evaluate_of_emits happly, List.append_nil, Loop.sql_list texts]
    · have : items.length ≠ 0 := by simpa using hne
      simpa [texts] using this
    · intro t ht
      obtain ⟨name, _, rfl⟩ := List.mem_map.mp ht
      exact Loop.allBlank_inListBody name
  · intro i element hi
    have hget := Context.get?_enterAll hitem hindex hi c
    have hcounter : c.counter + i = i := Nat.zero_add i
    rw [hcounter] at hget
    exact (Bindings.get?_leave hitem hindex _ i).trans hget

theorem Node.evaluate_inList {ev : Evaluator} {collection x : String} {b : Bindings}
    {items : List Item} (hx : IsName x) (hne : items ≠ [])
    (hitems : ev.collection collection false b = .ok (some items)) :
    ∃ b', ((Node.inList (.inList collection x) x).evaluate ev b).result =
        .ok ("(  " ++ " , ".intercalate (((List.range' 0 items.length).map
          (Loop.numbered x)).map Loop.inListBody) ++ " )", b') ∧
      ∀ i item, items[i]? = some item →
        b'.locals.get? (Loop.numbered x i) = some item.value := by
  have hevaluate := evaluate_inListItem (Loop.isItem_name hx) hne hitems
  rwa [funext (Loop.itemPath_name hx), Loop.variableOf_name hx] at hevaluate

section
variable {config : Configuration} {x : String} {xs : List Value} {b : Bindings} (hx : IsName x)
  (hbound : ∀ (i : Nat) (hi : i < xs.length), b.locals.get? (Loop.numbered x i) = some xs[i])
include hx hbound

theorem Parameter.mapM_ofContent_numbered (kind : Kind) (hhandlers : config.handlers = .standard)
    (hscalar : ∀ v ∈ xs, v.isNull = true ∨ v.isSimple = true) :
    ((List.range' 0 xs.length).map (Loop.numbered x)).mapM (ofContent config kind b) =
      .ok (xs.mapIdx fun i v => .ofValue (Loop.numbered x i) v) := by
  refine Except.mapM_eq_ok.mpr (List.forall₂_of_length_eq_of_get (by simp) fun i _ hi => ?_)
  have hi : i < xs.length := by simpa using hi
  simp only [List.get_eq_getElem, List.getElem_map, List.getElem_range', List.getElem_mapIdx,
    Nat.zero_add, Nat.one_mul]
  exact ofContent_name (hx.numbered i) (hbound i hi) hhandlers (hscalar _ (List.getElem_mem hi))

theorem BoundStatement.values_numbered (sql : String) (p : Value) :
    (BoundStatement.mk ⟨sql, xs.mapIdx fun i v => .ofValue (Loop.numbered x i) v⟩ p
      b.locals).values config = xs := by
  refine List.ext_getElem (by simp [values]) fun i _ hi => ?_
  have hvalue : b.locals.get? (rootName (Loop.numbered x i)) = some xs[i] := by
    rw [rootName_name (hx.numbered i), hbound i hi]
  simp only [values, List.getElem_map, List.getElem_mapIdx, valueOf, Parameter.ofValue]
  rw [if_neg (by decide), valueAt_of_get? _ config hvalue, Value.follow_name (hx.numbered i),
    Option.getD_some]

end

/-- A list of scalars and nulls in an `in` list over a name is bound value by value, in order, each
value as its own kind. -/
theorem bindDynamic_inList {ev : Evaluator} {config : Configuration} {collection x : String}
    {p : Value} {items : List Item} {xs : List Value}
    (hhandlers : config.handlers = .standard) (hshrink : config.settings.shrinkBlanks = false)
    (hx : IsName x)
    (hitems : ev.collection collection false (config.startBindings p) = .ok (some items))
    (hxs : items.map Item.value = xs) (hne : xs ≠ [])
    (hscalar : ∀ v ∈ xs, v.isNull = true ∨ v.isSimple = true) :
    ∃ bound,
      (Source.bindDynamic ev config (.inList (.inList collection x) x) p).result = .ok bound ∧
      bound.statement.sql = "(  " ++ " , ".intercalate (List.replicate xs.length "?") ++ " )" ∧
      bound.statement.parameters = xs.mapIdx (fun i v => .ofValue (Loop.numbered x i) v) ∧
      bound.values config = xs := by
  obtain ⟨b, he, hget⟩ := Node.evaluate_inList hx (by rintro rfl; exact hne hxs.symm) hitems
  have hbound : ∀ (i : Nat) (hi : i < xs.length),
      b.locals.get? (Loop.numbered x i) = some xs[i] := by
    subst hxs
    intro i hi
    rw [List.length_map] at hi
    rw [hget i items[i] (List.getElem?_eq_getElem hi), List.getElem_map]
  have hlength : items.length = xs.length := by rw [← hxs, List.length_map]
  rw [hlength] at he
  have hparameters := Parameter.mapM_ofContent_numbered hx hbound b.parameter.kind hhandlers hscalar
  have hname : ∀ t ∈ (List.range' 0 xs.length).map (Loop.numbered x), IsName t := by
    intro t ht
    obtain ⟨i, _, rfl⟩ := List.mem_map.mp ht
    exact hx.numbered i
  have hcount : ((List.range' 0 xs.length).map (Loop.numbered x)).length = xs.length := by simp
  generalize (List.range' 0 xs.length).map (Loop.numbered x) = names at he hparameters hname hcount
  cases names with
  | nil => exact absurd (List.length_eq_zero_iff.mp hcount.symm) hne
  | cons name rest =>
    have hs := Statement.ofSql_list hshrink hname hparameters
    rw [hcount] at hs
    exact ⟨_, Source.bindDynamic_eq_ok.mpr ⟨_, b, _, he, hs, rfl⟩, rfl, rfl,
      BoundStatement.values_numbered hx hbound _ _⟩

theorem bindDynamic_inList_parameter :
    let xs : List Value := [.int 1, .null, .text "#\x7by\x7d", .bytes [255]]
    let p : Value := .map [("ids", .list xs)]
    let x := Bindings.parameterName
    IsName x ∧
      Evaluator.paths.collection "ids" false (Configuration.standard.startBindings p) =
        .ok (some (Evaluator.byPosition xs)) ∧
      (Evaluator.byPosition xs).map Item.value = xs ∧
      (∀ v ∈ xs, v.isNull = true ∨ v.isSimple = true) ∧
      ∃ bound, (Source.bindDynamic .paths .standard (.inList (.inList "ids" x) x) p).result =
          .ok bound ∧
        bound.statement.sql = "(  ? , ? , ? , ? )" ∧
        bound.statement.parameters.map (fun q => (q.property, q.kind)) =
          [("__frch__parameter_0", .int), ("__frch__parameter_1", .object),
            ("__frch__parameter_2", .text), ("__frch__parameter_3", .bytes)] ∧
        bound.values .standard = xs := by
  intro xs p x
  have hx : IsName x := ⟨by decide, List.all_eq_true.mp (by decide)⟩
  have hitems : Evaluator.paths.collection "ids" false (Configuration.standard.startBindings p) =
      .ok (some (Evaluator.byPosition xs)) := rfl
  have hscalar : ∀ v ∈ xs, v.isNull = true ∨ v.isSimple = true := by decide
  obtain ⟨bound, hbound, hsql, hparameters, hvalues⟩ :=
    bindDynamic_inList rfl rfl hx hitems rfl (List.cons_ne_nil _ _) hscalar
  refine ⟨hx, hitems, rfl, hscalar, bound, hbound, hsql.trans (by decide +kernel), ?_, hvalues⟩
  rw [hparameters]
  decide +kernel

end SqlTemplate
