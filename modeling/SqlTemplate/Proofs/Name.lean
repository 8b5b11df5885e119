import Mathlib.Data.List.TakeWhile
import SqlTemplate.Proofs.Lookup
import SqlTemplate.Proofs.Parameter
import SqlTemplate.Proofs.Scope
import SqlTemplate.Proofs.Written

/-!
# Names

A name is a path of one step (`Path.ofText_name`). A plain path is a reference to a property without a
column type or options (`Reference.parse_path`), and a name is one (`IsName.isPlainPath`). A numbered
name is a name too, so that a token with a loop variable for its content refers to the value of its round
(`Parameter.ofContent_name`).
-/

namespace SqlTemplate

structure IsName (name : String) : Prop where
  ne_nil : name.toList ≠ []
  continues : ∀ c ∈ name.toList, LoopScope.continuesName c = true

theorem Loop.numbered_ne_self (name : String) (number : Nat) : numbered name number ≠ name := by
  intro he
  have hl := congrArg (fun s => s.toList.length) he
  simp only [toList_numbered, List.length_append, List.length_cons] at hl
  omega

namespace IsName

open LoopScope

variable {name : String} (h : IsName name)
include h

theorem numbered (number : Nat) : IsName (Loop.numbered name number) where
  ne_nil := by simp [Loop.toList_numbered, Loop.marker]
  continues := by
    intro c hc
    rw [Loop.toList_numbered] at hc
    simp only [List.mem_append, List.mem_cons] at hc
    rcases hc with hc | hc | rfl | hc
    · exact continuesName_of_mem_marker hc
    · exact h.continues c hc
    · decide
    · exact continuesName_of_mem_digits hc

theorem not_mem {k : Char} (hk : continuesName k = false) : k ∉ name.toList := by
  intro hm
  rw [h.continues k hm] at hk
  cases hk

theorem takeWhile_eq {p : Char → Bool} (hp : ∀ c, continuesName c = true → p c = true) :
    name.toList.takeWhile p = name.toList :=
  List.takeWhile_eq_self_iff.mpr fun c hc => hp c (h.continues c hc)

theorem dropWhile_eq_nil {p : Char → Bool} (hp : ∀ c, continuesName c = true → p c = true) :
    name.toList.dropWhile p = [] :=
  List.dropWhile_eq_nil_iff.mpr fun c hc => hp c (h.continues c hc)

end IsName

namespace LoopScope

variable {c : Char} (h : continuesName c = true)
include h

theorem not_isPadding_of_continuesName : Text.isPadding c = false := by
  have hn := (toNat_of_continuesName h).1
  unfold Text.isPadding
  simp only [decide_eq_false_iff_not]
  omega

theorem endsPath_of_continuesName : Reference.endsPath c = false := by
  have hcomma := ne_of_continuesName_false (k := ',') (by decide) h
  have hcolon := ne_of_continuesName_false (k := ':') (by decide) h
  simp [Reference.endsPath, hcomma.symm, hcolon.symm]

end LoopScope

/-! ## Tokens -/

theorem Delimiters.outline_wrap (d : Delimiters) {lead : Char} (hd : d.Braced lead) {content : String}
    (hclose : '}' ∉ content.toList) (hescape : escapes content.toList = false) :
    d.outline (d.wrap content).toList = .token [] content.toList (.text []) := by
  have hfree : ¬ d.opening <:+: [] := fun hopen => d.opening_ne_nil (List.infix_nil.mp hopen)
  have hstable : (Outline.token [] content.toList (.text [])).Stable d :=
    ⟨hfree, rfl, hclose, hescape, inert_of_free hfree⟩
  rw [← (outline_written_iff hd _).mpr hstable]
  simp [wrap, Outline.written, Outline.render]

namespace IsName

variable {name : String} (h : IsName name)
include h

theorem stable : '}' ∉ name.toList ∧ Delimiters.escapes name.toList = false :=
  ⟨h.not_mem (by decide), Delimiters.escapes_eq_false (h.not_mem (by decide))⟩

theorem outline_wrap {d : Delimiters} {lead : Char} (hd : d.Braced lead) :
    d.outline (d.wrap name).toList = .token [] name.toList (.text []) :=
  d.outline_wrap hd h.stable.1 h.stable.2

end IsName

section
variable {name : String} (h : IsName name)
include h

open LoopScope

/-! ## Paths -/

theorem Path.ofText_name : Path.ofText name = ⟨⟨name, name, none⟩, []⟩ := by
  have hdots : ∀ c ∈ name.toList, (c == '.') = false := fun c hc =>
    beq_false_of_ne fun hdot => h.not_mem (by decide) (hdot ▸ hc)
  have hbracket : ∀ c, continuesName c = true → decide (c ≠ '[') = true := by
    intro c hc
    exact decide_eq_true (ne_of_continuesName_false (k := '[') (by decide) hc).symm
  unfold Path.ofText
  rw [Text.splitWhere_of_free hdots]
  simp only [Step.ofText, h.takeWhile_eq hbracket, h.dropWhile_eq_nil hbracket, List.map_nil,
    String.ofList_toList]

theorem rootName_name : rootName name = name := by
  rw [rootName, Path.ofText_name h]

theorem Value.follow_name (v : Value) : v.follow (Path.ofText name) = some v := by
  rw [Path.ofText_name h]
  rfl

end

/-! ## References -/

/-- A path that is the whole of a reference: no character of it is padding or ends a path, and it is
not taken for an expression. -/
structure Reference.IsPlainPath (path : String) : Prop where
  ne_nil : path.toList ≠ []
  not_open : '(' ∉ path.toList.head?
  not_padding : ∀ c ∈ path.toList, Text.isPadding c = false
  not_end : ∀ c ∈ path.toList, endsPath c = false

namespace Reference

variable {path : String} (h : IsPlainPath path)

def Written.ofPath : Written where
  target := .property path
  item :=
    { before := []
      text := path
      after := []
      before_padding := rfl
      after_padding := rfl
      text_bare := by
        unfold isBare
        rw [Bool.and_eq_true, Option.all_eq_true, Option.all_eq_true]
        constructor
        · intro c hc
          rw [h.not_padding c (List.mem_of_head? hc)]
          rfl
        · intro c hc
          rw [h.not_padding c (List.mem_of_getLast? hc)]
          rfl }
  type := none
  options := []
  item_text :=
    .property (fun he => h.ne_nil (String.toList_eq_nil_iff.mpr he)) h.not_end h.not_open

include h

theorem parse_path : parse path = .ok ⟨.property path, none, []⟩ := by
  have htext : (Written.ofPath h).text = path := by
    simp [Written.text, Written.ofPath, Padded.chars, Written.rest, WrittenType.charsOf,
      WrittenOption.charsOfAll]
  have hparse := (Written.ofPath h).parse_text
  rw [htext] at hparse
  exact hparse

end Reference

theorem IsName.isPlainPath {name : String} (h : IsName name) : Reference.IsPlainPath name where
  ne_nil := h.ne_nil
  not_open hopen := h.not_mem (k := '(') (by decide) (List.mem_of_head? hopen)
  not_padding c hc := LoopScope.not_isPadding_of_continuesName (h.continues c hc)
  not_end c hc := LoopScope.endsPath_of_continuesName (h.continues c hc)

/-! ## Parameters -/

theorem Handlers.isSome_lookup_standard {v : Value} (hv : v.isNull = true ∨ v.isSimple = true) :
    (standard.lookup v.kind none).isSome = true := by
  have hkind : v.kind = .object ∨ v.kind.isSimple = true := by
    rcases hv with hv | hv
    · cases v with
      | null => exact Or.inl rfl
      | _ => cases hv
    · exact Or.inr hv
  generalize v.kind = kind at hkind
  rcases hkind with rfl | hkind
  · decide
  · cases kind with
    | bool | int | float | text | bytes => decide
    | _ => cases hkind

def Parameter.ofValue (name : String) (v : Value) : Parameter where
  property := name
  kind := v.kind
  handler := Handlers.standard.lookup v.kind none

theorem Parameter.ofContent_path {config : Configuration} {kind : Kind} {bindings : Bindings}
    {path : String} {v : Value} (h : Reference.IsPlainPath path)
    (hlocal : bindings.localPath path = some v) (hhandlers : config.handlers = .standard)
    (hv : v.isNull = true ∨ v.isSimple = true) :
    ofContent config kind bindings path = .ok (.ofValue path v) := by
  have hcursor : v.kind ≠ .resultSet := by
    cases v <;> simp [Value.kind]
  obtain ⟨handler, hhandler⟩ := Option.isSome_iff_exists.mp (Handlers.isSome_lookup_standard hv)
  unfold ofContent
  rw [Reference.parse_path h]
  change complete config path { property := path, kind := propertyKind config kind bindings none path } = _
  unfold propertyKind complete isCursor
  rw [hlocal, hhandlers]
  simp [hcursor, hhandler, ofValue]

theorem Parameter.ofContent_name {config : Configuration} {kind : Kind} {bindings : Bindings}
    {name : String} {v : Value} (h : IsName name) (hbound : bindings.locals.get? name = some v)
    (hhandlers : config.handlers = .standard) (hv : v.isNull = true ∨ v.isSimple = true) :
    ofContent config kind bindings name = .ok (.ofValue name v) := by
  refine ofContent_path h.isPlainPath ?_ hhandlers hv
  rw [Bindings.localPath_eq_follow, rootName_name h, hbound, Option.map_some,
    Value.follow_name h, Option.getD_some]

end SqlTemplate
