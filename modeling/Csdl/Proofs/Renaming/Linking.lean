import Csdl.Proofs.Renaming.Content

/-! Filling and linking among renamed places. The contents of all structures may stand in any order:
each place is filled once, and what links add to a structure comes from its own navigations. -/
namespace Csdl

open Query (bind_eq_ok)

variable {σ : Equiv.Perm TypeId} {contents contents' : List Content}

namespace Content

variable {r r' : Registry}

/-- A content that is renamed somewhere, and the other way round. -/
theorem mem_rename_iff (hPerm : contents'.Perm (contents.map (rename σ))) {content : Content} :
    content ∈ contents' ↔ ∃ old ∈ contents, old.rename σ = content := by
  rw [hPerm.mem_iff, List.mem_map]

/-- Different structures stay at different places. -/
theorem nodup_ids_rename (hNodup : (contents.map (·.declaration.id)).Nodup)
    (hPerm : contents'.Perm (contents.map (rename σ))) :
    (contents'.map (·.declaration.id)).Nodup := by
  have hIds := hNodup.map σ.injective
  rw [(hPerm.map _).nodup_iff, List.map_map]
  rwa [List.map_map] at hIds

/-- Registries that are filled with renamed contents in any order are renamed as they were
before. -/
theorem Fills.rename {filled filled' : Registry} (hRenamed : r.Renamed σ r')
    (hPerm : contents'.Perm (contents.map (rename σ))) (h : Fills r contents filled)
    (h' : Fills r' contents' filled') : filled.Renamed σ filled' where
  size_eq := by
    rw [← Registry.length_outline, h'.outline_eq, ← Registry.length_outline filled, h.outline_eq,
      Registry.length_outline, Registry.length_outline, hRenamed.size_eq]
  fixed id hSize := by
    rw [← Registry.length_outline, h.outline_eq, Registry.length_outline] at hSize
    exact hRenamed.fixed id hSize
  get?_eq id := by
    by_cases hDeclared : ∃ content ∈ contents, content.declaration.id = id
    · obtain ⟨content, hContent, rfl⟩ := hDeclared
      obtain ⟨s, hStub, hFilled⟩ := h.here content hContent
      obtain ⟨s', hStub', hFilled'⟩ := h'.here _ ((mem_rename_iff hPerm).2 ⟨content, hContent, rfl⟩)
      change r'.structure? (σ content.declaration.id) = some s' at hStub'
      rw [hRenamed.structure?_eq, hStub, Option.map_some, Option.some.injEq] at hStub'
      change filled'.structure? (σ content.declaration.id) = _ at hFilled'
      rw [Registry.structure?_eq_some.1 hFilled, Registry.structure?_eq_some.1 hFilled', ← hStub']
      rfl
    · push Not at hDeclared
      rw [h.elsewhere id hDeclared, h'.elsewhere, hRenamed.get?_eq]
      intro content hContent hSame
      obtain ⟨old, hOld, rfl⟩ := (mem_rename_iff hPerm).1 hContent
      exact hDeclared old hOld (σ.injective hSame)

theorem any_uses_rename (hPerm : contents'.Perm (contents.map (rename σ))) (id : TypeId) :
    contents'.any (·.uses (σ id)) = contents.any (·.uses id) := by
  rw [hPerm.any_eq, List.any_map]
  exact congrArg (List.any contents) (funext fun content => uses_rename σ content id)

/-- All contents can be put in place in both registries. -/
theorem exists_fillAll_rename {completed : Registry} (hRenamed : r.Renamed σ r')
    (hDistinct : r.Distinct) (hNodup : (contents.map (·.declaration.id)).Nodup)
    (hPerm : contents'.Perm (contents.map (rename σ)))
    (h : fillAll r contents = .ok completed) :
    ∃ completed', fillAll r' contents' = .ok completed' ∧ completed.Renamed σ completed' := by
  obtain ⟨filled, hFill, rfl⟩ := fillAll_eq_ok.1 h
  have hFills := fills_of_foldlM hNodup hFill
  have hStubs : ∀ content ∈ contents', (r'.structure? content.declaration.id).isSome := by
    intro content hContent
    obtain ⟨old, hOld, rfl⟩ := (mem_rename_iff hPerm).1 hContent
    obtain ⟨s, hStub, _⟩ := hFills.here old hOld
    refine Option.isSome_iff_exists.2 ⟨s.rename σ, ?_⟩
    change r'.structure? (σ old.declaration.id) = _
    rw [hRenamed.structure?_eq, hStub]
    rfl
  have hNodup' := nodup_ids_rename hNodup hPerm
  obtain ⟨filled', hFill'⟩ := exists_foldlM_fill hStubs
  have hFilled := hFills.rename hRenamed hPerm (fills_of_foldlM hNodup' hFill')
  refine ⟨_, fillAll_eq_ok.2 ⟨filled', hFill', rfl⟩, ?_⟩
  rw [hRenamed.pointId_eq hDistinct, any_uses_rename hPerm]
  split
  · refine hFilled.withPoint (Registry.distinct_iff_nodup.2 ?_)
    rw [hFills.outline_eq]
    exact Registry.distinct_iff_nodup.1 hDistinct
  · exact hFilled

end Content

namespace Link

variable {completed completed' : Registry}

/-- The field that a renamed navigation is linked through is the renamed field. -/
theorem field?_rename (hRenamed : completed.Renamed σ completed') (n : Navigation) :
    field? completed' (n.rename σ) = (field? completed n).map (Field.rename σ) := by
  have hTarget : (n.rename σ).target? = n.target?.map σ := by
    unfold Navigation.target?
    rw [Navigation.rename, Field.rename]
    cases n.field.type <;> rfl
  unfold field?
  rw [hTarget]
  cases n.target? with
  | none => rfl
  | some target =>
      simp only [Option.map_some, Option.bind_eq_bind, Option.bind_some, hRenamed.structure?_eq,
        hRenamed.primaryKey?_eq]
      cases completed.structure? target with
      | none => rfl
      | some keyed => cases completed.primaryKey? target <;> rfl

/-- The field of a navigation that is noted is renamed with it. -/
theorem notedField?_rename (hRenamed : completed.Renamed σ completed')
    (noted : Bool × Navigation) :
    notedField? completed' (noted.1, noted.2.rename σ) =
      (notedField? completed noted).map (Field.rename σ) := by
  rw [notedField?, notedField?]
  split
  · rfl
  · exact field?_rename hRenamed noted.2

section Owners

variable (hOwners : ∀ c ∈ contents, ∀ relation ∈ c.relations,
    relation.navigation.owner = c.declaration.id)
  (hNodup : (contents.map (·.declaration.id)).Nodup)
  (hPerm : contents'.Perm (contents.map (Content.rename σ)))

include hOwners hPerm

theorem owners_rename : ∀ c ∈ contents', ∀ relation ∈ c.relations,
    relation.navigation.owner = c.declaration.id := by
  intro c hc relation hRelation
  obtain ⟨old, hOld, rfl⟩ := (Content.mem_rename_iff hPerm).1 hc
  obtain ⟨before, hBefore, rfl⟩ := List.mem_map.1 hRelation
  exact congrArg σ (hOwners old hOld before hBefore)

include hNodup

/-- Each owner has the same navigations, in the same order. -/
theorem notedOf_rename (id : TypeId) :
    notedOf contents' (σ id) =
      (notedOf contents id).map fun noted => (noted.1, noted.2.rename σ) := by
  have hOwners' := owners_rename hOwners hPerm
  by_cases hDeclared : ∃ content ∈ contents, content.declaration.id = id
  · obtain ⟨content, hContent, rfl⟩ := hDeclared
    have hThere := notedOf_of_mem hOwners' (Content.nodup_ids_rename hNodup hPerm)
      ((Content.mem_rename_iff hPerm).2 ⟨content, hContent, rfl⟩)
    change notedOf contents' (σ content.declaration.id) = _ at hThere
    rw [hThere, notedOf_of_mem hOwners hNodup hContent, Content.rename, List.map_map, List.map_map]
    apply List.map_congr_left
    intro relation _
    exact congrArg (·, relation.navigation.rename σ) (Content.isReferenced_rename σ content relation)
  · push Not at hDeclared
    rw [notedOf_eq_nil hOwners hDeclared, notedOf_eq_nil hOwners']
    · rfl
    · intro content hContent hSame
      obtain ⟨old, hOld, rfl⟩ := (Content.mem_rename_iff hPerm).1 hContent
      exact hDeclared old hOld (σ.injective hSame)

theorem fieldsOf_rename (hRenamed : completed.Renamed σ completed') (id : TypeId) :
    fieldsOf (attachments completed' contents') (σ id) =
      (fieldsOf (attachments completed contents) id).map (Field.rename σ) := by
  rw [fieldsOf_attachments, fieldsOf_attachments, notedOf_rename hOwners hNodup hPerm,
    List.filterMap_map, List.map_filterMap]
  exact List.filterMap_congr fun noted _ => notedField?_rename hRenamed noted

/-- All links can be made in both registries. -/
theorem exists_attached_rename {linked : Registry} (hRenamed : completed.Renamed σ completed')
    (hStructured : ∀ c ∈ contents, (completed.structure? c.declaration.id).isSome)
    (h : (attachments completed contents).foldlM attach completed = .ok linked) :
    ∃ linked', (attachments completed' contents').foldlM attach completed' = .ok linked' ∧
      linked.Renamed σ linked' := by
  have hStructured' : ∀ a ∈ attachments completed' contents',
      (completed'.structure? a.1).isSome := by
    intro a ha
    obtain ⟨c, hc, hOwner⟩ := owner_of_mem_attachments (owners_rename hOwners hPerm) ha
    obtain ⟨old, hOld, rfl⟩ := (Content.mem_rename_iff hPerm).1 hc
    rw [hOwner]
    change (completed'.structure? (σ old.declaration.id)).isSome
    rw [hRenamed.structure?_eq, Option.isSome_map]
    exact hStructured old hOld
  obtain ⟨linked', hLinked'⟩ := exists_foldlM_attach hStructured'
  have hOutline := outline_of_foldlM_attach h
  have hOutline' := outline_of_foldlM_attach hLinked'
  refine ⟨linked', hLinked', ?_, fun id hSize => hRenamed.fixed id ?_, fun id => ?_⟩
  · rw [← Registry.length_outline, hOutline', ← Registry.length_outline linked, hOutline,
      Registry.length_outline, Registry.length_outline, hRenamed.size_eq]
  · rwa [← Registry.length_outline, hOutline, Registry.length_outline] at hSize
  · rw [get?_of_foldlM_attach h, get?_of_foldlM_attach hLinked', hRenamed.get?_eq,
      fieldsOf_rename hOwners hNodup hPerm hRenamed]
    cases completed.get? id with
    | none => rfl
    | some type =>
        cases type <;> simp [NamedType.rename, NamedType.mapStructure, Structure.addAll,
          Structure.rename]

end Owners

end Link

end Csdl
