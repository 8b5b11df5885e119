import SqlTemplate.Proofs.InList

/-!
# In lists that are written as literals

With literals an `in` list writes its elements into the SQL, and the final pass reads them there.
Quotation marks keep texts apart from each other, but not from that pass:
`bindDynamic_inList_texts` says when it finds nothing in them.
-/

namespace SqlTemplate

/-! ## Texts between quotation marks -/

theorem Text.head?_replaceChar (q : Char) (s : List Char) :
    (replaceChar q [q, q] s).head? = s.head? := by
  cases s with
  | nil => rfl
  | cons c s =>
    by_cases hc : c = q
    · simp [replaceChar, hc]
    · simp [replaceChar, hc]

theorem Text.pair_infix_replaceChar {k l q : Char} (hk : k ≠ q) {s : List Char}
    (h : [k, l] <:+: replaceChar q [q, q] s) : [k, l] <:+: s := by
  induction s with
  | nil => exact h
  | cons c s ih =>
    have hcons : replaceChar q [q, q] (c :: s) =
        (if c = q then [q, q] else [c]) ++ replaceChar q [q, q] s := by simp [replaceChar]
    rw [hcons] at h
    split at h
    · simp only [List.cons_append, List.nil_append, pair_infix_cons_iff, hk.symm, false_and,
        false_or] at h
      exact pair_infix_cons_iff.mpr (Or.inr (ih h))
    · rw [List.singleton_append, pair_infix_cons_iff, head?_replaceChar] at h
      exact pair_infix_cons_iff.mpr (h.imp_right ih)

theorem Text.pair_infix_intercalate {k l separator : Char} (hk : separator ≠ k)
    (hl : separator ≠ l) {ts : List (List Char)} (h : [k, l] <:+: [separator].intercalate ts) :
    ∃ t ∈ ts, [k, l] <:+: t := by
  induction ts with
  | nil => simp at h
  | cons t ts ih =>
    cases ts with
    | nil => exact ⟨t, List.mem_cons_self, by simpa using h⟩
    | cons u ts =>
      rw [List.intercalate_cons_cons, List.append_assoc] at h
      rcases pair_infix_append h with h | h | h
      · exact ⟨t, List.mem_cons_self, h⟩
      · rw [List.singleton_append, pair_infix_cons_iff] at h
        obtain ⟨v, hv, hi⟩ := ih (h.resolve_left fun hc => hk hc.1)
        exact ⟨v, List.mem_cons_of_mem _ hv, hi⟩
      · exact absurd (Option.some.inj h) hl

theorem Loop.pair_infix_quote {k l : Char} (hk : k ≠ '\'') (hl : l ≠ '\'') {s : String}
    (h : [k, l] <:+: (quote s).toList) : [k, l] <:+: s.toList := by
  have hquote : (quote s).toList =
      '\'' :: (Text.replaceChar '\'' ['\'', '\''] s.toList ++ ['\'']) := by simp [quote]
  rw [hquote, Text.pair_infix_cons_iff] at h
  rcases Text.pair_infix_append (h.resolve_left fun hc => hk hc.1.symm) with h | h | h
  · exact Text.pair_infix_replaceChar hk h
  · simp [Text.pair_infix_cons_iff] at h
  · exact absurd (Option.some.inj h).symm hl

/-- Quotation marks and commas keep the elements of a list apart, so that no opening delimiter
comes about that no element holds. -/
theorem Loop.free_of_quoted {ss : List String} (h : ∀ s ∈ ss, ¬ ['#', '{'] <:+: s.toList) :
    ¬ ['#', '{'] <:+: ("(" ++ ",".intercalate (ss.map quote) ++ ")").toList := by
  intro hi
  rw [String.toList_append, String.toList_append, String.toList_intercalate] at hi
  rcases Text.pair_infix_append hi with hi | hi | hi
  · change ['#', '{'] <:+: '(' :: [','].intercalate _ at hi
    rw [Text.pair_infix_cons_iff] at hi
    obtain ⟨t, ht, hi⟩ := Text.pair_infix_intercalate (by decide) (by decide)
      (hi.resolve_left fun hc => absurd hc.1 (by decide))
    rw [List.map_map] at ht
    obtain ⟨s, hs, rfl⟩ := List.mem_map.mp ht
    exact h s hs (pair_infix_quote (by decide) (by decide) hi)
  · exact absurd hi (by decide)
  · cases hi

/-! ## Literals in a row -/

theorem Loop.inlined?_inList {vs : List Value} (h : (vs.all isNumber || vs.all isText) = true)
    (collection item : String) (nullable : Bool) (index column : Option String) :
    { inList collection item with nullable, index, column, inlineLiterals := true }.inlined? vs =
      some ("(" ++ ",".intercalate (vs.map literal) ++ ")") := by
  unfold inlined?
  rw [if_pos h]
  rfl

theorem Node.emits_inlined {ev : Evaluator} {c : Context} {collection : String} {nullable : Bool}
    {items : List Item} (item : String) (index column : Option String)
    (hitems : ev.collection collection nullable c.bindings = .ok (some items)) (hne : items ≠ [])
    (hinline : ((items.map Item.value).all Loop.isNumber ||
      (items.map Item.value).all Loop.isText) = true) :
    Build.Emits ((Node.inList { Loop.inList collection item with
        nullable, index, column, inlineLiterals := true } item).apply ev) c true
      ((column.map (· ++ " IN")).toList ++
        ["(" ++ ",".intercalate ((items.map Item.value).map Loop.literal) ++ ")"])
      (c.noted (.evaluated collection)) := by
  let header := { Loop.inList collection item with nullable, index, column, inlineLiterals := true }
  have hloop : Build.Emits (header.run ev ((Node.text (Loop.inListBody item)).apply ev)) c () _ _ :=
    Loop.emits_run_inlined hitems hne (Loop.inlined?_inList hinline collection item nullable index column)
  have happly : Build.Emits ((Node.inList header item).apply ev) c true _ _ :=
    hloop.bind (.pure true _)
  rw [List.append_nil] at happly
  exact happly

/-! ## Lists of texts -/

theorem Loop.inlined?_texts (collection x : String) (nullable : Bool) (index : Option String)
    (ss : List String) :
    { inList collection x with nullable, index, inlineLiterals := true }.inlined?
        (ss.map Value.text) =
      some ("(" ++ ",".intercalate (ss.map quote) ++ ")") := by
  have htexts : (ss.map Value.text).all isText = true := by simp [isText]
  have hliterals : (ss.map Value.text).map literal = ss.map quote := by simp [literal]
  rw [← hliterals]
  exact inlined?_inList (by rw [htexts, Bool.or_true]) collection x nullable index none

/-- A list of texts that is written as literals is the whole SQL, each text between quotation marks
with its own doubled. The final pass reads that SQL like any other: the texts stay data exactly if
it finds no token and no escape in them, as it does if none of them holds `#{`. -/
theorem bindDynamic_inList_texts {ev : Evaluator} {config : Configuration}
    {collection x : String} {nullable : Bool} {index : Option String} {p : Value}
    {items : List Item} {ss : List String}
    (hshrink : config.settings.shrinkBlanks = false)
    (hitems : ev.collection collection nullable (config.startBindings p) = .ok (some items))
    (hss : items.map Item.value = ss.map Value.text) (hne : ss ≠ []) :
    let header := { Loop.inList collection x with nullable, index, inlineLiterals := true }
    let sql := "(" ++ ",".intercalate (ss.map Loop.quote) ++ ")"
    let b := config.startBindings p
    let result := (Source.bindDynamic ev config (.inList header x) p).result
    result = (Statement.ofSql config sql p.kind b).map (fun s => ⟨s, p, b.locals⟩) ∧
    (result = .ok ⟨⟨sql, []⟩, p, b.locals⟩ ↔ Delimiters.hash.Inert sql.toList) ∧
    ((∀ s ∈ ss, ¬ ['#', '{'] <:+: s.toList) → result = .ok ⟨⟨sql, []⟩, p, b.locals⟩) := by
  intro header sql b result
  have hitems_ne : items ≠ [] := by
    rintro rfl
    exact hne (List.map_eq_nil_iff.mp hss.symm)
  have hloop : Build.Emits (header.run ev ((Node.text (Loop.inListBody x)).apply ev))
      (Context.start b) () [sql] ((Context.start b).noted (.evaluated collection)) := by
    refine Loop.emits_run_inlined hitems hitems_ne ?_
    rw [hss]
    exact Loop.inlined?_texts collection x nullable index ss
  have happly : Build.Emits ((Node.inList header x).apply ev) (Context.start b) true _ _ :=
    hloop.bind (.pure true _)
  have heval : ((Node.inList header x).evaluate ev b).result = .ok (sql, b) := by
    rw [Node.evaluate_of_emits happly, List.append_nil, Sink.sql_feed_empty,
      String.intercalate_singleton, Text.trim_parenthesized]
    rfl
  have hresult : result = (Statement.ofSql config sql p.kind b).map fun s => ⟨s, p, b.locals⟩ := by
    have hbind : result = ((Node.inList header x).evaluate ev b).result >>= fun r =>
        Source.bindResult config r.1 r.2 := rfl
    rw [hbind, heval]
    rfl
  have hinert : result = .ok ⟨⟨sql, []⟩, p, b.locals⟩ ↔ Delimiters.hash.Inert sql.toList := by
    have hpass : Statement.ofSql config sql p.kind b = .ok ⟨sql, []⟩ ↔ _ :=
      Statement.ofSql_eq_text_iff hshrink
    rw [← hpass, hresult, Except.map_eq_ok]
    constructor
    · rintro ⟨s, hs, he⟩
      cases he
      exact hs
    · exact fun hs => ⟨_, hs, rfl⟩
  exact ⟨hresult, hinert, fun hfree => hinert.mpr (Delimiters.inert_of_free (Loop.free_of_quoted hfree))⟩

theorem bindDynamic_inList_texts_parts :
    let ss := ["#", "\x7bo'k\x7d\\", ""]
    let p : Value := .map [("names", .list (ss.map Value.text))]
    let b := Configuration.standard.startBindings p
    let header := { Loop.inList "names" "item" with inlineLiterals := true }
    Evaluator.paths.collection "names" false b = .ok (some (Evaluator.byPosition (ss.map Value.text))) ∧
      (Evaluator.byPosition (ss.map Value.text)).map Item.value = ss.map Value.text ∧
      (∀ s ∈ ss, ¬ ['#', '\x7b'] <:+: s.toList) ∧
      (Source.bindDynamic .paths .standard (.inList header "item") p).result =
        .ok ⟨⟨"('#','\x7bo''k\x7d\\','')", []⟩, p, b.locals⟩ := by
  intro ss p b header
  have hfree : ∀ s ∈ ss, ¬ ['#', '\x7b'] <:+: s.toList := by decide
  obtain ⟨_, _, hdata⟩ := @bindDynamic_inList_texts .paths .standard "names" "item" false none p _ ss
    rfl rfl rfl (List.cons_ne_nil _ _)
  have hsql : "(" ++ ",".intercalate (ss.map Loop.quote) ++ ")" =
      "('#','\x7bo''k\x7d\\','')" := by decide +kernel
  rw [← hsql]
  exact ⟨rfl, rfl, hfree, hdata hfree⟩

/-- A text that is a token binds a parameter of its own, and one with an escaped opening delimiter
loses the backslash. -/
theorem bindDynamic_inList_texts_token :
    let header := { Loop.inList "names" "item" with inlineLiterals := true }
    let bound (s : String) :=
      (Source.bindDynamic .paths .standard (.inList header "item")
        (.map [("names", .list [.text s])])).result.toOption.map fun bound =>
          (bound.statement.sql, bound.statement.parameters.map Parameter.property)
    bound "#\x7bid\x7d" = some ("('?')", ["id"]) ∧
      bound "a\\#\x7bb" = some ("('a#\x7bb')", []) := by
  decide +kernel

end SqlTemplate
