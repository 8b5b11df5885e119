import SqlTemplate.Document.Basic
import SqlTemplate.Proofs.Entries
import SqlTemplate.Proofs.ItemPath
import SqlTemplate.Proofs.Navigation
import SqlTemplate.Proofs.Readback

/-!
# Locations in documents

Every part of a document has a location: the members and items on the way to it. A location is written as
a path, and following this path in the value of the document leads to the value of the part
(`Value.getPath_ofDocument`). A path writes a position behind the name in front of it; where there is
none, as in an array right inside an array, the step has no name and only the index counts.
-/

namespace SqlTemplate

inductive Place where
  | member (name : String)
  | item (position : Nat)
deriving DecidableEq, Repr

namespace Place

def bracketed (position : Nat) : String :=
  "[" ++ toString position ++ "]"

/-- The texts of the steps through these places: a position belongs to the name in front of it, and is a
step of its own where there is none. -/
def stepTexts : List Place → List String
  | [] => []
  | .member name :: .item i :: location => (name ++ bracketed i) :: stepTexts location
  | .member name :: location => name :: stepTexts location
  | .item i :: location => bracketed i :: stepTexts location

def pathOf (location : List Place) : String :=
  ".".intercalate (stepTexts location)

structure IsKey (name : String) : Prop where
  ne_empty : name ≠ ""
  no_dot : '.' ∉ name.toList
  no_bracket : '[' ∉ name.toList

end Place

/-! ## Positions -/

theorem isName_toString (n : Nat) : IsName (toString n) where
  ne_nil := by
    rw [Literal.toList_toString]
    exact Nat.toDigits_ne_nil
  continues := by
    rw [Literal.toList_toString]
    exact fun c => LoopScope.continuesName_of_mem_digits

theorem Number.readNat?_toString (n : Nat) : readNat? (toString n).toList = some n := by
  have hdigits := Literal.isDigits_toDigits n
  have hread : readDigits? (Nat.toDigits 10 n) = some n :=
    readDigits?_eq_some_iff.mpr ⟨hdigits, Literal.ofDigits_toDigits n⟩
  rw [Literal.toList_toString]
  unfold readNat?
  split
  · rename_i s heq
    exact absurd (congrArg List.head? heq) (hdigits.head?_ne (by decide))
  · exact hread

theorem Value.index_toString (items : List Value) (i : Nat) :
    (Value.list items).index (toString i) = items[i]? := by
  have hblank : ∀ c ∈ (toString i).toList, Text.isBlank c = false := fun c hc =>
    LoopScope.not_isBlank_of_continuesName ((isName_toString i).continues c hc)
  have htrim : Text.trimBoth Text.isBlank (toString i).toList = (toString i).toList :=
    Text.trimBoth_eq_self (fun c hc => hblank c (List.mem_of_head? hc))
      fun c hc => hblank c (List.mem_of_getLast? hc)
  unfold index
  rw [htrim, Number.readNat?_toString]
  rfl

namespace Place

theorem toList_bracketed (i : Nat) :
    (bracketed i).toList = '[' :: ((toString i).toList ++ [']']) := by
  simp [bracketed]

theorem no_dot_bracketed (i : Nat) : '.' ∉ (bracketed i).toList := by
  have hdigits : '.' ∉ (toString i).toList := (isName_toString i).not_mem (by decide)
  rw [toList_bracketed]
  simp only [List.mem_cons, List.mem_append, hdigits]
  decide

theorem index_bracketed (i : Nat) :
    (Step.ofText (bracketed i).toList).index = some (toString i) := by
  rw [toList_bracketed]
  generalize toString i = digits
  simp [Step.ofText, Step.closeIndex]

theorem stepTexts_ne_nil {location : List Place} (h : location ≠ []) : stepTexts location ≠ [] := by
  unfold stepTexts
  split
  · exact absurd rfl h
  · exact List.cons_ne_nil _ _
  · exact List.cons_ne_nil _ _
  · exact List.cons_ne_nil _ _

end Place

/-! ## The way through places -/

namespace Value

open Place

def at? (v : Value) : Place → Option Value
  | .member name => v.property name
  | .item i => v.index (toString i)

theorem walk_bracketed (v : Value) (i : Nat) :
    v.walk (Step.ofText (bracketed i).toList) = v.at? (.item i) := by
  have hname : (Step.ofText (bracketed i).toList).name = "" := by
    simp [toList_bracketed, Step.ofText]
  have hwalk : v.walk (Step.ofText (bracketed i).toList) =
      v.enter (Step.ofText (bracketed i).toList) := if_pos hname
  rw [hwalk, enter, index_bracketed]
  rfl

section
variable {name : String} (h : IsKey name)
include h

theorem walk_key (v : Value) {u : List Char} (hu : ∀ c ∈ u.head?, c = '[') :
    v.walk (Step.ofText (name.toList ++ u)) =
      (v.property name).bind (·.enter (Step.ofText u)) := by
  obtain ⟨hname, hindex⟩ := Step.ofText_append h.no_bracket hu
  have hne : (Step.ofText (name.toList ++ u)).name ≠ "" := by
    rw [hname]
    exact h.ne_empty
  have hwalk : v.walk (Step.ofText (name.toList ++ u)) =
      (v.property (Step.ofText (name.toList ++ u)).name).bind
        (·.enter (Step.ofText (name.toList ++ u))) := if_neg hne
  rw [hwalk, hname]
  unfold enter
  rw [hindex]

theorem walk_member (v : Value) : v.walk (Step.ofText name.toList) = v.at? (.member name) := by
  have hwalk := walk_key h v (u := []) (by simp)
  rw [List.append_nil] at hwalk
  rw [hwalk]
  exact Option.bind_fun_some _

theorem walk_member_item (v : Value) (i : Nat) : v.walk (Step.ofText (name ++ bracketed i).toList) =
    (v.at? (.member name)).bind (·.at? (.item i)) := by
  have hhead : ∀ c ∈ (bracketed i).toList.head?, c = '[' := by simp [toList_bracketed]
  rw [String.toList_append, walk_key h v hhead]
  unfold enter
  rw [index_bracketed]
  rfl

end

section
variable {location : List Place} (h : ∀ name, .member name ∈ location → IsKey name)
include h

theorem no_dot_stepTexts : ∀ t ∈ stepTexts location, '.' ∉ t.toList := by
  fun_induction stepTexts location with
  | case1 => simp
  | case2 name i location ih =>
    have hname := (h name List.mem_cons_self).no_dot
    refine List.forall_mem_cons.mpr ⟨?_, ih fun n hn => h n (by simp [hn])⟩
    rw [String.toList_append, List.mem_append]
    exact not_or.mpr ⟨hname, no_dot_bracketed i⟩
  | case3 name location _ ih =>
    exact List.forall_mem_cons.mpr
      ⟨(h name List.mem_cons_self).no_dot, ih fun n hn => h n (List.mem_cons_of_mem _ hn)⟩
  | case4 i location ih =>
    exact List.forall_mem_cons.mpr
      ⟨no_dot_bracketed i, ih fun n hn => h n (List.mem_cons_of_mem _ hn)⟩

theorem walkAll_stepTexts (v : Value) :
    v.walkAll ((stepTexts location).map fun t => Step.ofText t.toList) = location.foldlM at? v := by
  have hcons : ∀ (v : Value) (t : String) (texts : List String),
      v.walkAll ((t :: texts).map fun t => Step.ofText t.toList) =
        (v.walk (Step.ofText t.toList)).bind
          (·.walkAll (texts.map fun t => Step.ofText t.toList)) := fun _ _ _ => rfl
  -- the cases are the groups of places that make one step: a name and its position, a name, a position
  fun_induction stepTexts location generalizing v with
  | case1 => rfl
  | case2 name i location ih =>
    have hrest := ih fun n hn => h n (by simp [hn])
    rw [hcons, walk_member_item (h name List.mem_cons_self), Option.bind_assoc]
    simp only [hrest]
    rfl
  | case3 name location _ ih =>
    have hrest := ih fun n hn => h n (List.mem_cons_of_mem _ hn)
    rw [hcons, walk_member (h name List.mem_cons_self)]
    simp only [hrest]
    rfl
  | case4 i location ih =>
    have hrest := ih fun n hn => h n (List.mem_cons_of_mem _ hn)
    rw [hcons, walk_bracketed]
    simp only [hrest]
    rfl

/-- The path through some places leads from place to place. -/
theorem getPath_pathOf (hne : location ≠ []) (v : Value) :
    v.getPath (pathOf location) = location.foldlM at? v := by
  obtain ⟨text, texts, htexts⟩ := List.exists_cons_of_ne_nil (stepTexts_ne_nil hne)
  have hdots := no_dot_stepTexts h
  rw [htexts] at hdots
  rw [← walkAll_stepTexts h, getPath, pathOf, htexts, Path.steps_intercalate hdots]

end

end Value

/-! ## Documents -/

namespace Document

inductive At : Document → List Place → Document → Prop
  | here (d : Document) : At d [] d
  | member {members : List (String × Document)} {name : String} {d part : Document}
    {location : List Place} (mem : (name, d) ∈ members) (inside : At d location part) :
    At (.object members) (.member name :: location) part
  | item {items : List Document} {i : Nat} {d part : Document} {location : List Place}
    (get : items[i]? = some d) (inside : At d location part) :
    At (.array items) (.item i :: location) part

def HasDistinctNames (d : Document) : Prop :=
  ∀ location members, d.At location (.object members) → (members.map (·.1)).Nodup

variable {d part : Document}

theorem At.exists_array {front back : List Place} {i : Nat}
    (h : d.At (front ++ .item i :: back) part) : ∃ items, d.At front (.array items) := by
  induction front generalizing d with
  | nil =>
    cases h with
    | item get inside => exact ⟨_, .here _⟩
  | cons place front ih =>
    cases h with
    | member mem inside =>
      obtain ⟨items, hitems⟩ := ih inside
      exact ⟨items, .member mem hitems⟩
    | item get inside =>
      obtain ⟨items, hitems⟩ := ih inside
      exact ⟨items, .item get hitems⟩

end Document

namespace Value

open Place

theorem ofItems_eq_map (items : List Document) : ofItems items = items.map ofDocument := by
  induction items with
  | nil => rfl
  | cons d items ih => rw [ofItems, ih, List.map_cons]

theorem ofMembers_eq_map (members : List (String × Document)) :
    ofMembers members = members.map fun m => (m.1, ofDocument m.2) := by
  induction members with
  | nil => rfl
  | cons m members ih => rw [ofMembers, ih, List.map_cons]

variable {d part : Document}

theorem at?_item (items : List Document) (i : Nat) :
    (ofDocument (.array items)).at? (.item i) = items[i]?.map ofDocument := by
  rw [ofDocument, at?, index_toString, ofItems_eq_map, List.getElem?_map]

theorem at?_member {members : List (String × Document)} {name : String}
    (hmembers : (members.map (·.1)).Nodup) (hmem : (name, d) ∈ members) :
    (ofDocument (.object members)).at? (.member name) = some (ofDocument d) := by
  have hnodup : ((ofMembers members).map (·.1)).Nodup := by
    rw [ofMembers_eq_map, List.map_map]
    exact hmembers
  have hvalue : (name, ofDocument d) ∈ ofMembers members := by
    rw [ofMembers_eq_map]
    exact List.mem_map.mpr ⟨_, hmem, rfl⟩
  rw [ofDocument]
  exact (Entries.get?_ofList _ _).trans (Entries.lastValue?_of_mem hnodup hvalue)

/-- From place to place the value of a document has the values of its parts. -/
theorem foldlM_at?_ofDocument (hd : d.HasDistinctNames) {location : List Place}
    (h : d.At location part) : location.foldlM at? (ofDocument d) = some (ofDocument part) := by
  -- the parts of a part are parts of the document, so the names in them are distinct too
  induction h with
  | here d => rfl
  | member mem inside ih =>
    have hinside := ih fun location members h => hd _ members (.member mem h)
    rw [List.foldlM_cons, at?_member (hd [] _ (.here _)) mem]
    exact hinside
  | item get inside ih =>
    have hinside := ih fun location members h => hd _ members (.item get h)
    rw [List.foldlM_cons, at?_item, get]
    exact hinside

/-- The path that writes a location leads to the value of the part at this location, and to nothing where
one of its positions is behind the end of the array. -/
theorem getPath_ofDocument (hd : d.HasDistinctNames) {location : List Place} (hne : location ≠ [])
    (hkeys : ∀ name, .member name ∈ location → IsKey name) (h : d.At location part) :
    (ofDocument d).getPath (pathOf location) = some (ofDocument part) ∧
    ∀ front i back, location = front ++ .item i :: back →
      ∃ items, d.At front (.array items) ∧ ∀ j, items.length ≤ j →
        (ofDocument d).getPath (pathOf (front ++ .item j :: back)) = none := by
  refine ⟨?_, ?_⟩
  · rw [getPath_pathOf hkeys hne, foldlM_at?_ofDocument hd h]
  -- the places in front lead to an array, and the position is behind its end
  · rintro front i back rfl
    obtain ⟨items, hitems⟩ := h.exists_array
    refine ⟨items, hitems, fun j hj => ?_⟩
    have hkeys' : ∀ name, .member name ∈ front ++ .item j :: back → IsKey name := by
      intro name hname
      apply hkeys name
      simpa using hname
    rw [getPath_pathOf hkeys' (by simp), List.foldlM_append, foldlM_at?_ofDocument hd hitems]
    have hnone : (ofDocument (.array items)).at? (.item j) = none := by
      rw [at?_item, List.getElem?_eq_none hj]
      rfl
    simp [hnone]

theorem getPath_ofDocument_nested :
    let d : Document := .object
      [("id", .null), ("grid", .array [.array [.object [("k]", .integer 7), ("", .null)]]])]
    let location : List Place := [.member "grid", .item 0, .item 0, .member "k]"]
    d.HasDistinctNames ∧ location ≠ [] ∧ (∀ name, .member name ∈ location → IsKey name) ∧
      d.At location (.integer 7) ∧ pathOf location = "grid[0].[0].k]" ∧
      (ofDocument d).getPath "grid[0].[0].k]" = some (ofDocument (.integer 7)) ∧
      ∃ items, d.At [.member "grid", .item 0] (.array items) ∧ ∀ j, items.length ≤ j →
        (ofDocument d).getPath (pathOf [.member "grid", .item 0, .item j, .member "k]"]) = none := by
  intro d location
  have hd : d.HasDistinctNames := by
    intro location members h
    change (Document.object _).At _ _ at h
    cases h with
    | here => decide
    | member mem inside =>
      rcases List.mem_cons.mp mem with he | mem
      · cases he
        cases inside
      · cases List.mem_singleton.mp mem
        cases inside with
        | item get inside =>
          cases List.mem_singleton.mp (List.mem_of_getElem? get)
          cases inside with
          | item get inside =>
            cases List.mem_singleton.mp (List.mem_of_getElem? get)
            cases inside with
            | here => decide
            | member mem inside =>
              rcases List.mem_cons.mp mem with he | mem
              · cases he
                cases inside
              · cases List.mem_singleton.mp mem
                cases inside
  have hkeys : ∀ name, .member name ∈ location → IsKey name := by
    intro name hname
    simp only [location, List.mem_cons, Place.member.injEq, reduceCtorEq, List.not_mem_nil, or_false,
      false_or] at hname
    rcases hname with rfl | rfl
    · exact ⟨by decide, by decide, by decide⟩
    · exact ⟨by decide, by decide, by decide⟩
  have hat : d.At location (.integer 7) :=
    .member (List.mem_cons_of_mem _ List.mem_cons_self) (.item rfl (.item rfl
      (.member List.mem_cons_self (.here _))))
  have hpath : pathOf location = "grid[0].[0].k]" := by decide +kernel
  obtain ⟨hvalue, hend⟩ := getPath_ofDocument hd (List.cons_ne_nil _ _) hkeys hat
  exact ⟨hd, List.cons_ne_nil _ _, hkeys, hat, hpath, hpath ▸ hvalue,
    hend [.member "grid", .item 0] 0 [.member "k]"] rfl⟩

end Value

end SqlTemplate
