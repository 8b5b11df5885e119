import SqlTemplate.Proofs.Pass

/-!
# Parameters under different bindings

The content of a token has a parameter that depends on the bindings in one way: through the value at
the path that the content refers to. That value decides the kind, and the kind the handler;
whatever it is, all else stays (`ofContent_alike`).
-/

namespace SqlTemplate.Parameter

variable {config : Configuration} {kind kind' : Kind} {bindings bindings' : Bindings}
  {content property : String} {columnType : Option ColumnType} {p p' : Parameter}

def rootOf? (content : String) : Option String :=
  match Reference.parse content with
  | .ok reference =>
    match reference.target with
    | .property property => some (rootName property)
    | .expression _ => none
  | .error _ => none

def AlikeButKind (p p' : Parameter) : Prop :=
  { p with kind := p'.kind, handler := p'.handler } = p'

namespace AlikeButKind

theorem mode_eq (h : p.AlikeButKind p') : p.mode = p'.mode := by
  unfold AlikeButKind at h
  rw [← h]

theorem property_eq (h : p.AlikeButKind p') : p.property = p'.property := by
  unfold AlikeButKind at h
  rw [← h]

theorem columnType_eq (h : p.AlikeButKind p') : p.columnType = p'.columnType := by
  unfold AlikeButKind at h
  rw [← h]

end AlikeButKind

theorem propertyKind_congr (h : bindings.localPath property = bindings'.localPath property) :
    propertyKind config kind bindings columnType property =
      propertyKind config kind bindings' columnType property := by
  unfold propertyKind
  rw [h]

theorem ofContent_congr
    (h : ∀ property, rootOf? content = some (rootName property) →
      bindings.localPath property = bindings'.localPath property) :
    ofContent config kind bindings content = ofContent config kind bindings' content := by
  unfold ofContent
  cases hr : Reference.parse content with
  | error e => rfl
  | ok reference =>
    cases ht : reference.target with
    | expression inner => simp only [bind, Except.bind, ht]
    | property property =>
      have hp := h property (by simp only [rootOf?, hr, ht])
      simp only [bind, Except.bind, ht, ofProperty, propertyKind_congr hp]

/-! ## Drafts of different kinds -/

def Draft.withKind (d : Draft) (kind : Kind) : Draft :=
  { d with parameter.kind := kind }

theorem Draft.setOption_withKind {d e : Draft} {name value : String} (kind : Kind)
    (h : d.setOption config content name value = .ok e) :
    ∃ kind', (d.withKind kind).setOption config content name value = .ok (e.withKind kind') := by
  unfold setOption at h
  split at h
  · obtain ⟨named, hn, h⟩ := Except.bind_eq_ok.mp h
    cases h
    exact ⟨named, Except.bind_eq_ok.mpr ⟨named, hn, rfl⟩⟩
  · cases h; exact ⟨kind, rfl⟩
  · cases h; exact ⟨kind, rfl⟩
  · obtain ⟨mode, hm, h⟩ := Except.bind_eq_ok.mp h
    cases h
    exact ⟨kind, Except.bind_eq_ok.mpr ⟨mode, hm, rfl⟩⟩
  · split at h
    · rename_i scale hs
      cases h
      exact ⟨kind, by simp only [setOption, hs]; rfl⟩
    · cases h
  · cases h; exact ⟨kind, rfl⟩
  · cases h; exact ⟨kind, rfl⟩
  · cases h; exact ⟨kind, rfl⟩
  · cases h
  · cases h

theorem Draft.setOptions_withKind {d e : Draft} {options : List (String × String)} (kind : Kind)
    (h : d.setOptions config content options = .ok e) :
    ∃ kind', (d.withKind kind).setOptions config content options = .ok (e.withKind kind') := by
  induction options generalizing d kind with
  | nil =>
    cases h
    exact ⟨kind, rfl⟩
  | cons option options ih =>
    obtain ⟨name, value⟩ := option
    obtain ⟨d', hd, h⟩ := Except.bind_eq_ok.mp h
    obtain ⟨kind', hd'⟩ := setOption_withKind kind hd
    obtain ⟨kind'', h'⟩ := ih kind' h
    exact ⟨kind'', Except.bind_eq_ok.mpr ⟨_, hd', h'⟩⟩

theorem Draft.setOption_kept {d e : Draft} {name value : String}
    (h : d.setOption config content name value = .ok e) :
    e.parameter.property = d.parameter.property ∧
      (name ≠ "javaType" → e.parameter.kind = d.parameter.kind) := by
  unfold setOption at h
  split at h
  · obtain ⟨_, _, h⟩ := Except.bind_eq_ok.mp h
    cases h
    exact ⟨rfl, fun hname => absurd rfl hname⟩
  · cases h; exact ⟨rfl, fun _ => rfl⟩
  · cases h; exact ⟨rfl, fun _ => rfl⟩
  · obtain ⟨_, _, h⟩ := Except.bind_eq_ok.mp h
    cases h; exact ⟨rfl, fun _ => rfl⟩
  · split at h
    · cases h; exact ⟨rfl, fun _ => rfl⟩
    · cases h
  · cases h; exact ⟨rfl, fun _ => rfl⟩
  · cases h; exact ⟨rfl, fun _ => rfl⟩
  · cases h; exact ⟨rfl, fun _ => rfl⟩
  · cases h
  · cases h

/-- Options leave the property as it is, and the kind unless one of them states it. -/
theorem Draft.setOptions_kept {d e : Draft} {options : List (String × String)}
    (h : d.setOptions config content options = .ok e) :
    e.parameter.property = d.parameter.property ∧
      ((∀ option ∈ options, option.1 ≠ "javaType") → e.parameter.kind = d.parameter.kind) := by
  induction options generalizing d with
  | nil =>
    cases h
    exact ⟨rfl, fun _ => rfl⟩
  | cons option options ih =>
    obtain ⟨d', hd, h⟩ := Except.bind_eq_ok.mp h
    obtain ⟨hproperty, hkind⟩ := setOption_kept hd
    obtain ⟨hproperty', hkind'⟩ := ih h
    refine ⟨hproperty'.trans hproperty, fun hnone => ?_⟩
    obtain ⟨hhead, hrest⟩ := List.forall_mem_cons.mp hnone
    exact (hkind' hrest).trans (hkind hhead)

/-! ## Finished parameters -/

def finish (config : Configuration) (content : String) (columnType : Option ColumnType) (d : Draft) :
    Except Fault Parameter := do
  let p := { d.parameter with columnType }
  let handler ← match d.handlerName with
    | none => pure none
    | some name => some <$> (config.namedHandler p.kind name).mapError (Fault.within content)
  complete config content { p with handler }

theorem ofProperty_eq (options : Entries String) :
    ofProperty config kind bindings content property columnType options =
      Draft.setOptions config content
        ⟨{ property, kind := propertyKind config kind bindings columnType property }, none⟩ options >>=
      finish config content columnType := rfl

theorem complete_eq_ok (h : complete config content p = .ok p') :
    p' = { p with handler := p'.handler } := by
  unfold complete at h
  split at h
  · split at h
    · cases h; rfl
    · cases h
  · split at h
    · cases h; rfl
    · cases h

theorem finish_eq_ok {d : Draft} (h : finish config content columnType d = .ok p) :
    p = { d.parameter with columnType, handler := p.handler } := by
  unfold finish at h
  split at h
  · exact complete_eq_ok h
  · obtain ⟨handler, _, h⟩ := Except.bind_eq_ok.mp h
    exact complete_eq_ok h

/-- The parameter of a content comes from the draft that the options leave. -/
theorem ofContent_eq_ok (h : ofContent config kind bindings content = .ok p) :
    ∃ reference property columnType d, Reference.parse content = .ok reference ∧
      reference.target = .property property ∧
      columnTypeOf content reference = .ok columnType ∧
      Draft.setOptions config content
        ⟨{ property, kind := propertyKind config kind bindings columnType property }, none⟩
        reference.options = .ok d ∧
      p = { d.parameter with columnType, handler := p.handler } := by
  unfold ofContent at h
  obtain ⟨reference, hr, h⟩ := Except.bind_eq_ok.mp h
  cases ht : reference.target with
  | expression inner => rw [ht] at h; cases h
  | property property =>
    rw [ht] at h
    obtain ⟨columnType, hc, h⟩ := Except.bind_eq_ok.mp h
    obtain ⟨d, hd, h⟩ := Except.bind_eq_ok.mp h
    exact ⟨reference, property, columnType, d, hr, ht, hc, hd, finish_eq_ok h⟩

theorem target_of_ofContent (h : ofContent config kind bindings content = .ok p) :
    ∃ reference, Reference.parse content = .ok reference ∧
      reference.target = .property p.property := by
  obtain ⟨reference, property, columnType, d, hr, ht, _, hd, hp⟩ := ofContent_eq_ok h
  have hproperty : p.property = property := by
    rw [hp]
    exact (Draft.setOptions_kept hd).1
  exact ⟨reference, hr, by rw [ht, hproperty]⟩

theorem rootOf?_eq (h : ofContent config kind bindings content = .ok p) :
    rootOf? content = some (rootName p.property) := by
  obtain ⟨reference, hr, ht⟩ := target_of_ofContent h
  unfold rootOf?
  rw [hr]
  simp only [ht]

theorem ofContent_alike (h : ofContent config kind bindings content = .ok p)
    (h' : ofContent config kind' bindings' content = .ok p') : p.AlikeButKind p' := by
  obtain ⟨reference, property, columnType, d, hr, ht, hc, hd, hp⟩ := ofContent_eq_ok h
  obtain ⟨reference', property', columnType', d', hr', ht', hc', hd', hp'⟩ := ofContent_eq_ok h'
  rw [hr] at hr'
  cases hr'
  rw [ht] at ht'
  cases ht'
  rw [hc] at hc'
  cases hc'
  obtain ⟨k, hk⟩ := Draft.setOptions_withKind
    (propertyKind config kind' bindings' columnType property) hd
  change Draft.setOptions config content ⟨{ property, kind := _ }, none⟩ _ = _ at hk
  rw [hd'] at hk
  cases hk
  unfold AlikeButKind
  rw [hp, hp']
  rfl

end SqlTemplate.Parameter
