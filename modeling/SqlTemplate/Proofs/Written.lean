import SqlTemplate.Proofs.Entries
import SqlTemplate.Proofs.Grammar

/-!
# Written references

A reference can be written with any padding around its parts. Reading removes the padding and
nothing else: `parse_written` gives the parts back, whatever their number and their texts, as long as
no part holds the delimiter that would end it.
-/

namespace SqlTemplate

namespace Reference

open Text

/-! ## Parts with padding around them -/

def isBare (s : List Char) : Bool :=
  s.head?.all (!isPadding ·) && s.getLast?.all (!isPadding ·)

structure Padded where
  before : List Char
  text : String
  after : List Char
  before_padding : before.all isPadding = true
  after_padding : after.all isPadding = true
  text_bare : isBare text.toList = true

namespace Padded

variable (p : Padded)

def chars : List Char := p.before ++ p.text.toList ++ p.after

def tail : List Char := p.chars.dropWhile isPadding

theorem head_bare : ∀ c ∈ p.text.toList.head?, isPadding c = false := by
  intro c hc
  have h := (Bool.and_eq_true_iff.mp p.text_bare).1
  rw [Option.mem_def.mp hc] at h
  simpa using h

theorem last_bare : ∀ c ∈ p.text.toList.getLast?, isPadding c = false := by
  intro c hc
  have h := (Bool.and_eq_true_iff.mp p.text_bare).2
  rw [Option.mem_def.mp hc] at h
  simpa using h

theorem unpad_chars : unpad p.chars = p.text := by
  unfold unpad chars
  rw [trimBoth_append (List.all_eq_true.mp p.before_padding) (List.all_eq_true.mp p.after_padding),
    trimBoth_eq_self p.head_bare p.last_bare, String.ofList_toList]

theorem unpad_tail : unpad p.tail = p.text := by
  have htail : trimBoth isPadding p.tail = trimBoth isPadding p.chars := by
    unfold trimBoth tail
    rw [List.dropWhile_idempotent]
  unfold unpad
  rw [htail]
  exact p.unpad_chars

variable {p}

theorem of_mem_chars {q : Char → Bool} (htext : ∀ c ∈ p.text.toList, q c = true)
    (hpadding : ∀ c, isPadding c = true → q c = true) : ∀ c ∈ p.chars, q c = true := by
  intro c hc
  unfold chars at hc
  rcases List.mem_append.mp hc with hc | hc
  · rcases List.mem_append.mp hc with hc | hc
    · exact hpadding c (List.all_eq_true.mp p.before_padding c hc)
    · exact htext c hc
  · exact hpadding c (List.all_eq_true.mp p.after_padding c hc)

theorem of_mem_tail {q : Char → Bool} (htext : ∀ c ∈ p.text.toList, q c = true)
    (hpadding : ∀ c, isPadding c = true → q c = true) : ∀ c ∈ p.tail, q c = true :=
  fun c hc => of_mem_chars htext hpadding c ((List.dropWhile_sublist _).subset hc)

theorem exists_chars_eq (p : Padded) : ∃ pad, (∀ c ∈ pad, isPadding c = true) ∧
    (∀ c ∈ p.tail.head?, isPadding c = false) ∧ p.chars = pad ++ p.tail :=
  ⟨p.chars.takeWhile isPadding, fun _ => List.mem_takeWhile_imp,
    fun _ => List.not_of_mem_head?_dropWhile, List.takeWhile_append_dropWhile.symm⟩

theorem not_mem_chars {k : Char} (hk : isPadding k = false)
    (htext : p.text.toList.all (· != k) = true) : k ∉ p.chars := by
  intro h
  have hne := of_mem_chars (q := (· != k)) (List.all_eq_true.mp htext)
    (fun c hc => bne_iff_ne.mpr (ne_of_isPadding hc hk)) k h
  simp at hne

theorem not_mem_tail {k : Char} (hk : isPadding k = false)
    (htext : p.text.toList.all (· != k) = true) : k ∉ p.tail :=
  fun h => not_mem_chars hk htext ((List.dropWhile_sublist _).subset h)

theorem tail_eq (hne : p.text.toList ≠ []) : p.tail = p.text.toList ++ p.after := by
  unfold tail chars
  rw [List.append_assoc, List.dropWhile_append_of_all (List.all_eq_true.mp p.before_padding)]
  rw [List.head?_append_of_ne_nil _ hne]
  exact p.head_bare

end Padded

/-! ## Options -/

/-- An option as it is written. A comma may stand in a name, but not in a value. -/
structure WrittenOption where
  name : Padded
  value : Padded
  name_free : name.text.toList.all (· != '=') = true
  value_free : value.text.toList.all (· != ',') = true

namespace WrittenOption

def chars (o : WrittenOption) : List Char := o.name.chars ++ '=' :: o.value.chars

def pair (o : WrittenOption) : String × String := (o.name.text, o.value.text)

def charsOfAll (options : List WrittenOption) : List Char :=
  options.flatMap fun o => ',' :: o.chars

theorem head?_charsOfAll {options : List WrittenOption} {c : Char}
    (h : c ∈ (charsOfAll options).head?) : c = ',' := by
  cases options with
  | nil => cases h
  | cons o options => exact (Option.some.inj h).symm

end WrittenOption

theorem optionsRead_written (options : List WrittenOption) :
    OptionsRead ((WrittenOption.charsOfAll options).drop 1) (.ok (options.map WrittenOption.pair)) := by
  induction options with
  | nil => exact .done (by simp [WrittenOption.charsOfAll])
  | cons o options ih =>
    obtain ⟨pad, hpad, hbegin, hname⟩ := o.name.exists_chars_eq
    have hchars : (WrittenOption.charsOfAll (o :: options)).drop 1 =
        pad ++ (o.name.tail ++ '=' :: (o.value.chars ++ WrittenOption.charsOfAll options)) := by
      simp [WrittenOption.charsOfAll, WrittenOption.chars, hname]
    have hread := OptionsRead.option hpad hbegin (Padded.not_mem_tail (by decide) o.name_free)
      (Padded.not_mem_chars (by decide) o.value_free) (fun c hc => WrittenOption.head?_charsOfAll hc) ih
    rw [Padded.unpad_tail, Padded.unpad_chars] at hread
    rw [hchars]
    exact hread

/-! ## Column types -/

structure WrittenType where
  type : Padded
  type_ne : type.text ≠ ""
  type_free : type.text.toList.all (· != ',') = true

namespace WrittenType

def charsOf : Option WrittenType → List Char
  | none => []
  | some t => ':' :: t.type.chars

theorem text_ne_nil (t : WrittenType) : t.type.text.toList ≠ [] :=
  fun h => t.type_ne (String.toList_eq_nil_iff.mp h)

end WrittenType

theorem typeRead_written (t : WrittenType) (options : List WrittenOption) :
    TypeRead (t.type.chars ++ WrittenOption.charsOfAll options)
      (.ok (t.type.text, options.map WrittenOption.pair)) := by
  obtain ⟨pad, hpad, hbegin, htype⟩ := t.type.exists_chars_eq
  have hne : t.type.tail ≠ [] := by
    rw [Padded.tail_eq t.text_ne_nil]
    simp [t.text_ne_nil]
  have hread := TypeRead.type hpad hne hbegin (Padded.not_mem_tail (by decide) t.type_free)
    (fun c hc => WrittenOption.head?_charsOfAll hc) (optionsRead_written options)
  rw [Padded.unpad_tail] at hread
  rw [htype, List.append_assoc]
  exact hread

/-! ## References -/

/-- How targets are written: a path holds no delimiter and does not look like an expression, and an
expression has its parentheses in pairs. -/
inductive TargetText : Target → String → Prop
  | property {path : String} (hne : path ≠ "") (hfree : ∀ c ∈ path.toList, endsPath c = false)
    (hopen : path.toList.head? ≠ some '(') : TargetText (.property path) path
  | expression {text : String} (h : Balanced text.toList) :
    TargetText (.expression text) ("(" ++ text ++ ")")

section
variable {item : Padded} (hne : item.text.toList ≠ [])
  (hfree : ∀ c ∈ item.text.toList, endsPath c = false) (hopen : item.text.toList.head? ≠ some '(')
include hne hfree hopen

theorem exists_path_eq : ∃ pad, (∀ c ∈ pad, isPadding c = true) ∧ item.tail ≠ [] ∧
    (∀ c ∈ item.tail.head?, isPadding c = false ∧ c ≠ '(') ∧
    (∀ c ∈ item.tail, endsPath c = false) ∧ item.chars = pad ++ item.tail := by
  obtain ⟨pad, hpad, hbegin, hchars⟩ := item.exists_chars_eq
  have htail := Padded.tail_eq hne
  refine ⟨pad, hpad, by simp [htail, hne], fun c hc => ⟨hbegin c hc, ?_⟩, fun c hc => ?_, hchars⟩
  · rintro rfl
    rw [htail, List.head?_append_of_ne_nil _ hne] at hc
    exact hopen hc
  · have hpath := Padded.of_mem_tail (q := (!endsPath ·)) (fun c hc => by simp [hfree c hc])
      (fun c hc => by simp [endsPath_of_isPadding hc]) c hc
    simpa using hpath

theorem readTarget_property {rest : List Char} (hrest : ∀ c ∈ rest.head?, endsPath c = true) :
    readTarget (item.chars ++ rest) = .ok (.property item.text, rest) := by
  obtain ⟨pad, hpad, htail, hbegin, hpath, hchars⟩ := exists_path_eq hne hfree hopen
  rw [hchars, List.append_assoc, readTarget_path hpad (by simp [htail]) hbegin hpath hrest,
    Padded.unpad_tail]

end

structure Written where
  target : Target
  item : Padded
  type : Option WrittenType
  options : List WrittenOption
  item_text : TargetText target item.text

namespace Written

variable (w : Written)

def rest : List Char := WrittenType.charsOf w.type ++ WrittenOption.charsOfAll w.options

def text : String := String.ofList (w.item.chars ++ w.rest)

def pairs : List (String × String) := w.options.map WrittenOption.pair

def typeText : Option String := w.type.map (·.type.text)

theorem endsPath_of_mem_head?_rest {c : Char} (h : c ∈ w.rest.head?) : endsPath c = true := by
  unfold rest at h
  cases htype : w.type with
  | none =>
    rw [htype] at h
    rw [WrittenOption.head?_charsOfAll h]
    rfl
  | some t =>
    rw [htype] at h
    rw [← Option.some.inj h]
    rfl

theorem tailRead_rest {gap : List Char} (hgap : ∀ c ∈ gap, isPadding c = true) :
    TailRead (gap ++ w.rest) (.ok (w.typeText, w.pairs)) := by
  unfold rest typeText pairs
  cases w.type with
  | some t => exact .type hgap (typeRead_written t w.options)
  | none =>
    cases w.options with
    | nil =>
      rw [show WrittenType.charsOf none ++ WrittenOption.charsOfAll [] = [] from rfl, List.append_nil]
      exact .done hgap
    | cons o options => exact .options hgap (optionsRead_written (o :: options))

theorem contentRead_text :
    ContentRead (w.item.chars ++ w.rest) (.ok (assemble w.target (w.typeText, w.pairs))) := by
  have htext := w.item_text
  generalize w.target = target at htext ⊢
  generalize hitem : w.item.text = item at htext
  cases htext with
  | property hne hfree hopen =>
    subst hitem
    have hnil : w.item.text.toList ≠ [] := fun h => hne (String.toList_eq_nil_iff.mp h)
    obtain ⟨pad, hpad, htail, hbegin, hpath, hchars⟩ := exists_path_eq hnil hfree hopen
    have hread := ContentRead.property hpad (by simp [htail]) hbegin hpath
      (fun c hc => w.endsPath_of_mem_head?_rest hc) (@tailRead_rest w [] (by simp))
    rw [Padded.unpad_tail] at hread
    rw [hchars, List.append_assoc]
    exact hread
  | @expression text h =>
    obtain ⟨pad, hpad, -, hchars⟩ := w.item.exists_chars_eq
    have htail : w.item.tail = '(' :: (text.toList ++ ')' :: w.item.after) := by
      rw [Padded.tail_eq (by simp [hitem]), hitem]
      simp
    have hread := ContentRead.expression hpad h
      (w.tailRead_rest (List.all_eq_true.mp w.item.after_padding))
    rw [String.ofList_toList] at hread
    rw [hchars, htail, List.append_assoc, List.cons_append, List.append_assoc, List.cons_append]
    exact hread

theorem parse_text : parse w.text =
    .ok ⟨w.target, typeOption w.pairs <|> w.typeText, Entries.ofList w.pairs⟩ := by
  rw [parse_eq_ok_iff, text, String.toList_ofList]
  exact w.contentRead_text

end Written

theorem typeOption_eq (options : List (String × String)) :
    typeOption options = options.lastValue? "jdbcType" := by
  unfold typeOption List.lastValue?
  rw [← List.head?_filter, List.filter_reverse, List.head?_reverse, List.getLast?_map]

/-- A reference is read back from everything it can be written as: the target as it stands, the
options as a map in which of two with one name the later stays, and for the column type the last
`jdbcType` option or else what stands after the colon. -/
theorem parse_written (w : Written) :
    ∃ reference, parse w.text = .ok reference ∧ reference.target = w.target ∧
      reference.options.Sorted ∧
      (∀ name, reference.options.get? name = w.pairs.lastValue? name) ∧
      reference.columnType = (w.pairs.lastValue? "jdbcType" <|> w.typeText) := by
  refine ⟨_, w.parse_text, rfl, Entries.sorted_ofList _, fun name => Entries.get?_ofList _ name, ?_⟩
  rw [← typeOption_eq]

/-- An expression with parentheses inside it, both ways to give a column type, and a name that occurs
twice. -/
theorem parse_written_expression :
    ∃ w : Written, w.text = "\t(f(a:b)) : INT ,jdbcType= X , a=1, a =" ∧
      ∃ reference, parse w.text = .ok reference ∧ reference.target = .expression "f(a:b)" ∧
        reference.options.get? "a" = some "" ∧ reference.columnType = some "X" := by
  let part (before text after : String)
      (h : before.toList.all isPadding && after.toList.all isPadding && isBare text.toList) :
      Padded :=
    ⟨before.toList, text, after.toList, by simp_all, by simp_all, by simp_all⟩
  let w : Written :=
    { target := .expression "f(a:b)"
      item := part "\t" "(f(a:b))" " " (by decide +kernel)
      type := some ⟨part " " "INT" " " (by decide +kernel), by decide, by decide +kernel⟩
      options :=
        [⟨part "" "jdbcType" "" (by decide +kernel), part " " "X" " " (by decide +kernel),
          by decide +kernel, by decide +kernel⟩,
         ⟨part " " "a" "" (by decide +kernel), part "" "1" "" (by decide +kernel),
          by decide +kernel, by decide +kernel⟩,
         ⟨part " " "a" " " (by decide +kernel), part "" "" "" (by decide +kernel),
          by decide +kernel, by decide +kernel⟩]
      item_text := .expression (.char (by decide) (by decide)
        (.nested (s := ['a', ':', 'b']) (.char (by decide) (by decide) (.char (by decide) (by decide)
          (.char (by decide) (by decide) .nil))) .nil)) }
  obtain ⟨reference, hr, htarget, _, hoptions, htype⟩ := parse_written w
  refine ⟨w, by decide +kernel, reference, hr, htarget, ?_, ?_⟩
  · rw [hoptions]
    decide +kernel
  · rw [htype]
    decide +kernel

end Reference

end SqlTemplate
