import SqlTemplate.Proofs.Expression
import SqlTemplate.Proofs.Inlined

/-!
# Reading inlined lists back

What an `in` list writes as literals can be read as SQL again. `Literal.readList?` reads literals in
parentheses, and a literal is read in front of anything that does not go on with it
(`Literal.readLiteral?_append`), so the delimiters stay apart from whatever the texts hold, and a
list of texts or of integers is all that its fragment stands for (`Node.inlined_readable`).
-/

namespace SqlTemplate

namespace Literal

open Loop (literal quote)

/-! ## The reader -/

def readQuoted? : List Char → Option (List Char × List Char)
  | [] => none
  | '\'' :: '\'' :: s => do
    let (t, rest) ← readQuoted? s
    some ('\'' :: t, rest)
  | '\'' :: s => some ([], s)
  | c :: s => do
    let (t, rest) ← readQuoted? s
    some (c :: t, rest)

def isNumeral (c : Char) : Bool := c == '-' || c.isDigit

def readLiteral? : List Char → Option (Value × List Char)
  | '\'' :: s => do
    let (t, rest) ← readQuoted? s
    some (.text (String.ofList t), rest)
  | s => do
    let n ← Number.readInt? (s.takeWhile isNumeral)
    some (.int n, s.dropWhile isNumeral)

def readLiterals? : Nat → List Char → Option (List Value × List Char)
  | 0, _ => none
  | fuel + 1, s => do
    let (v, s) ← readLiteral? s
    match s with
    | ',' :: s => do
      let (vs, s) ← readLiterals? fuel s
      some (v :: vs, s)
    | ')' :: s => some ([v], s)
    | _ => none

def readList? : List Char → Option (List Value)
  | '(' :: s => do
    let (vs, rest) ← readLiterals? (s.length + 1) s
    if rest.isEmpty then some vs else none
  | _ => none

/-! ## Texts -/

theorem readQuoted?_replaceChar (s : List Char) {rest : List Char} (h : rest.head? ≠ some '\'') :
    readQuoted? (Text.replaceChar '\'' ['\'', '\''] s ++ '\'' :: rest) = some (s, rest) := by
  induction s with
  | nil =>
    cases rest with
    | nil => rfl
    | cons c rest =>
      have hc : c ≠ '\'' := fun hc => h (congrArg some hc)
      simp [Text.replaceChar, readQuoted?, hc]
  | cons c s ih =>
    have hcons : Text.replaceChar '\'' ['\'', '\''] (c :: s) =
        (if c = '\'' then ['\'', '\''] else [c]) ++ Text.replaceChar '\'' ['\'', '\''] s := by
      simp [Text.replaceChar]
    rw [hcons, List.append_assoc]
    by_cases hc : c = '\''
    · subst hc
      simp [readQuoted?, ih]
    · simp [readQuoted?, hc, ih]

/-! ## Integers -/

theorem isDigits_toDigits (n : Nat) : Number.IsDigits (Nat.toDigits 10 n) where
  ne_nil := Nat.toDigits_ne_nil
  isDigit _ h := Nat.isDigit_of_mem_toDigits (by decide) (by decide) h

theorem ofDigits_toDigits (n : Nat) : Number.ofDigits (Nat.toDigits 10 n) = n :=
  Nat.ofDigitChars_ten_toDigits

theorem toList_toString (n : Nat) : (toString n).toList = Nat.toDigits 10 n := by
  rw [Nat.toString_eq_ofList_toDigits, String.toList_ofList]

theorem writesInteger_toString (n : Int) : Number.WritesInteger (toString n).toList n := by
  cases n with
  | ofNat m =>
    have h := Number.WritesInteger.natural (isDigits_toDigits m)
    rw [ofDigits_toDigits, ← toList_toString] at h
    exact h
  | negSucc m =>
    have h := Number.WritesInteger.negative (isDigits_toDigits (m + 1))
    have hminus : (toString (Int.negSucc m)).toList = '-' :: Nat.toDigits 10 (m + 1) := by
      rw [← toList_toString]
      exact String.toList_append
    rw [ofDigits_toDigits, ← hminus] at h
    exact h

theorem isNumeral_of_writesInteger {s : List Char} {n : Int} (h : Number.WritesInteger s n) :
    ∀ c ∈ s, isNumeral c = true := by
  cases h with
  | natural h => exact fun c hc => by simp [isNumeral, h.isDigit c hc]
  | negative h =>
    intro c hc
    rcases List.mem_cons.mp hc with rfl | hc
    · rfl
    · simp [isNumeral, h.isDigit c hc]

theorem head?_of_writesInteger {s : List Char} {n : Int} (h : Number.WritesInteger s n) :
    ∃ c t, s = c :: t ∧ isNumeral c = true := by
  obtain ⟨c, t, rfl⟩ : ∃ c t, s = c :: t := by
    cases h with
    | natural h => exact List.exists_cons_of_ne_nil h.ne_nil
    | negative h => exact ⟨_, _, rfl⟩
  exact ⟨c, t, rfl, isNumeral_of_writesInteger h c List.mem_cons_self⟩

/-! ## Lists -/

def IsReadable : Value → Prop
  | .text _ | .int _ => True
  | _ => False

/-- A literal is read as what it stands for if neither a mark nor a digit follows. -/
theorem readLiteral?_append {v : Value} (hv : IsReadable v) (rest : List Char)
    (hmark : rest.head? ≠ some '\'') (hnumeral : ∀ c ∈ rest.head?, isNumeral c = false) :
    readLiteral? ((literal v).toList ++ rest) = some (v, rest) := by
  match v, hv with
  | .text s, _ =>
    have hquote : (quote s).toList ++ rest =
        '\'' :: (Text.replaceChar '\'' ['\'', '\''] s.toList ++ '\'' :: rest) := by
      simp [quote]
    simp only [literal, hquote, readLiteral?, readQuoted?_replaceChar _ hmark]
    simp
  | .int n, _ =>
    have hwrites := writesInteger_toString n
    obtain ⟨c, t, hs, hc⟩ := head?_of_writesInteger hwrites
    have hliteral : literal (.int n) = toString n := by simp [literal, Value.display]
    have hplus : (toString n).toList.head? ≠ some '+' := by
      rw [hs]
      rintro ⟨⟩
      cases hc
    have hread : Number.readInt? (toString n).toList = some n :=
      (Number.readInt?_eq_some_iff hplus).mpr hwrites
    have hstop : rest.takeWhile isNumeral = [] ∧ rest.dropWhile isNumeral = rest := by
      cases rest with
      | nil => exact ⟨rfl, rfl⟩
      | cons d rest => simp [hnumeral d rfl]
    have hall := isNumeral_of_writesInteger hwrites
    have htake : ((toString n).toList ++ rest).takeWhile isNumeral = (toString n).toList := by
      rw [List.takeWhile_append_of_pos hall, hstop.1, List.append_nil]
    have hdrop : ((toString n).toList ++ rest).dropWhile isNumeral = rest := by
      rw [List.dropWhile_append_of_pos hall, hstop.2]
    have hstart : ∀ s, (toString n).toList ++ rest ≠ '\'' :: s := by
      rw [hs]
      rintro s h
      cases h
      cases hc
    rw [hliteral]
    unfold readLiteral?
    split
    · rename_i s heq
      exact absurd heq (hstart s)
    · rw [htake, hread, hdrop]
      rfl

theorem readLiterals?_intercalate {vs : List Value} (hne : vs ≠ [])
    (hvs : ∀ v ∈ vs, IsReadable v) {fuel : Nat} (hfuel : vs.length ≤ fuel) (rest : List Char) :
    readLiterals? fuel ([','].intercalate (vs.map fun v => (literal v).toList) ++ ')' :: rest) =
      some (vs, rest) := by
  induction vs generalizing fuel with
  | nil => exact absurd rfl hne
  | cons v vs ih =>
    obtain ⟨fuel, rfl⟩ : ∃ n, fuel = n + 1 := ⟨fuel - 1, by simp at hfuel; omega⟩
    have hv := hvs v List.mem_cons_self
    cases vs with
    | nil =>
      have hread := readLiteral?_append hv (')' :: rest) (by simp) (by simp [isNumeral])
      simp [readLiterals?, hread]
    | cons w vs =>
      have hlength : (w :: vs).length ≤ fuel := by simpa using hfuel
      have hrest := ih (List.cons_ne_nil w vs) (fun u hu => hvs u (List.mem_cons_of_mem v hu)) hlength
      have hread := readLiteral?_append hv
        (',' :: ([','].intercalate ((w :: vs).map fun v => (literal v).toList) ++ ')' :: rest))
        (by simp) (by simp [isNumeral])
      have hcons : [','].intercalate ((v :: w :: vs).map fun v => (literal v).toList) ++
          ')' :: rest = (literal v).toList ++
            ',' :: ([','].intercalate ((w :: vs).map fun v => (literal v).toList) ++ ')' :: rest) := by
        simp [List.intercalate_cons_cons]
      rw [hcons, readLiterals?, hread]
      simp only [Option.bind_eq_bind, Option.bind_some, hrest]

theorem length_le_intercalate (ts : List (List Char)) :
    ts.length ≤ ([','].intercalate ts).length + 1 := by
  induction ts with
  | nil => simp
  | cons t ts ih =>
    cases ts with
    | nil => simp
    | cons u ts =>
      rw [List.intercalate_cons_cons]
      simp only [List.length_cons, List.length_append] at ih ⊢
      omega

/-- Literals between parentheses are read as the values that they stand for. -/
theorem readList?_intercalate {vs : List Value} (hne : vs ≠ []) (hvs : ∀ v ∈ vs, IsReadable v) :
    readList? ("(" ++ ",".intercalate (vs.map literal) ++ ")").toList = some vs := by
  have hsql : ("(" ++ ",".intercalate (vs.map literal) ++ ")").toList =
      '(' :: ([','].intercalate (vs.map fun v => (literal v).toList) ++ [')']) := by
    simp [String.toList_intercalate, Function.comp_def]
  have hfuel : vs.length ≤
      ([','].intercalate (vs.map fun v => (literal v).toList) ++ [')']).length + 1 := by
    have := length_le_intercalate (vs.map fun v => (literal v).toList)
    simp only [List.length_map, List.length_append, List.length_singleton] at this ⊢
    omega
  rw [hsql]
  simp only [readList?, readLiterals?_intercalate hne hvs hfuel []]
  rfl

def IsReadableList (vs : List Value) : Prop :=
  (∃ ss : List String, vs = ss.map .text) ∨ ∃ ns : List Int, vs = ns.map .int

theorem isReadable_of_mem {vs : List Value} (h : IsReadableList vs) : ∀ v ∈ vs, IsReadable v := by
  rcases h with ⟨ss, rfl⟩ | ⟨ns, rfl⟩
  · simp [IsReadable]
  · simp [IsReadable]

theorem all_of_isReadableList {vs : List Value} (h : IsReadableList vs) :
    (vs.all Loop.isNumber || vs.all Loop.isText) = true := by
  rcases h with ⟨ss, rfl⟩ | ⟨ns, rfl⟩
  · simp [Loop.isText]
  · simp [Loop.isNumber]

end Literal

/-! ## In lists -/

open Literal in
/-- An `in` list that writes its elements as literals emits one fragment for them, which is read
as the list of the elements and comes from no other list. -/
theorem Node.inlined_readable {ev : Evaluator} {c : Context} {collection : String}
    {nullable : Bool} {items : List Item} (item : String) (index column : Option String)
    (hitems : ev.collection collection nullable c.bindings = .ok (some items)) (hne : items ≠ [])
    (hreadable : IsReadableList (items.map Item.value)) :
    let header :=
      { Loop.inList collection item with nullable, index, column, inlineLiterals := true }
    ∃ sql, header.inlined? (items.map Item.value) = some sql ∧
      Build.Emits ((Node.inList header item).apply ev) c true
        ((column.map (· ++ " IN")).toList ++ [sql]) (c.noted (.evaluated collection)) ∧
      readList? sql.toList = some (items.map Item.value) ∧
      ∀ vs, IsReadableList vs → header.inlined? vs = some sql → vs = items.map Item.value := by
  intro header
  have hinlined (vs : List Value) (hvs : IsReadableList vs) :
      header.inlined? vs = some ("(" ++ ",".intercalate (vs.map Loop.literal) ++ ")") :=
    Loop.inlined?_inList (all_of_isReadableList hvs) collection item nullable index column
  have hvalues : items.map Item.value ≠ [] := by simpa using hne
  have hread := readList?_intercalate hvalues (isReadable_of_mem hreadable)
  refine ⟨_, hinlined _ hreadable, emits_inlined item index column hitems hne
    (all_of_isReadableList hreadable), hread, fun vs hvs hsame => ?_⟩
  rw [hinlined vs hvs, Option.some.injEq] at hsame
  rw [← hsame] at hread
  by_cases hempty : vs = []
  · rw [hempty] at hread
    cases hread
  · exact Option.some.inj ((readList?_intercalate hempty (isReadable_of_mem hvs)).symm.trans hread)

theorem Node.inlined_readable_marks :
    let values : List Value := [.text "','", .text "", .text "o'k", .text "')"]
    let p : Value := .map [("names", .list values)]
    let c := Context.start (Bindings.start p none false)
    let header := { Loop.inList "names" "n" with column := some "name", inlineLiterals := true }
    let sql := "(''',''','','o''k',''')')"
    Evaluator.paths.collection "names" false c.bindings = .ok (some (Evaluator.byPosition values)) ∧
      Literal.IsReadableList ((Evaluator.byPosition values).map Item.value) ∧
      Build.Emits ((Node.inList header "n").apply .paths) c true ["name IN", sql]
        (c.noted (.evaluated "names")) ∧
      Literal.readList? sql.toList = some values := by
  intro values p c header sql
  have hreadable : Literal.IsReadableList ((Evaluator.byPosition values).map Item.value) :=
    Or.inl ⟨["','", "", "o'k", "')"], rfl⟩
  obtain ⟨_, hinline, hemits, hread, -⟩ := @Node.inlined_readable .paths c "names" false _ "n" none
    (some "name") rfl (List.cons_ne_nil _ _) hreadable
  have hsql : header.inlined? values = some sql := by decide +kernel
  obtain rfl := Option.some.inj (hinline.symm.trans hsql)
  exact ⟨rfl, hreadable, hemits, hread⟩

end SqlTemplate
