import Csdl.Proofs.Metadata.Filling

/-! The registry once all links have been made. A link is an index into the list of navigations, and
the index leads back to the navigation that the link was made for, so each owner gets the fields of
its own navigations, in their order. -/
namespace Csdl

open Query (bind_eq_ok)

/-- Of lists put together, what is empty for all places but one comes from there. -/
theorem flatMap_eq_of_nodup {α β ι : Type} {place : α → ι} {xs : List α}
    (hNodup : (xs.map place).Nodup) {x : α} (hMem : x ∈ xs) {f : α → List β}
    (hOther : ∀ y ∈ xs, place y ≠ place x → f y = []) : xs.flatMap f = f x := by
  induction xs with
  | nil => cases hMem
  | cons y ys ih =>
      rw [List.map_cons, List.nodup_cons] at hNodup
      rw [List.flatMap_cons]
      rcases List.mem_cons.1 hMem with rfl | hRest
      · rw [List.flatMap_eq_nil_iff.2, List.append_nil]
        intro z hz
        refine hOther z (List.mem_cons_of_mem _ hz) fun hSame => hNodup.1 ?_
        exact hSame ▸ List.mem_map_of_mem hz
      · have hNe : place y ≠ place x := fun hSame => hNodup.1 (hSame ▸ List.mem_map_of_mem hRest)
        rw [hOther y List.mem_cons_self hNe, List.nil_append]
        exact ih hNodup.2 hRest fun z hz => hOther z (List.mem_cons_of_mem _ hz)

/-- A structure with more fields at its end. -/
def Structure.addAll (fields : List Field) (s : Structure) : Structure :=
  { s with fields := s.fields ++ fields }

namespace Link

/-- The owner of a navigation and the field it gets, unless the navigation has marked a property. -/
def attachment? (registry : Registry) (noted : Bool × Navigation) : Option (TypeId × Field) :=
  if noted.1 then none
  else (field? registry noted.2).map fun field => (noted.2.owner, field)

/-- The fields that the navigations of some structures add, with their owners. -/
def attachments (registry : Registry) (contents : List Content) : List (TypeId × Field) :=
  (Content.notedNavigations contents).filterMap (attachment? registry)

/-- The fields among attachments that go to one place. -/
def fieldsOf (attached : List (TypeId × Field)) (id : TypeId) : List Field :=
  (attached.filter (·.1 = id)).map (·.2)

/-- The field of a navigation whose target has a primary key. -/
def keyField (navigation : Navigation) (keyed : Structure) (key : Field) : Field :=
  { key with
    name := fieldName navigation
    required := false
    cardinality := navigation.field.cardinality
    primaryKey := false
    wireName := none
    foreignKey := some ⟨keyed.id, key.name, navigation.name⟩ }

/-- A navigation has a field to be linked through exactly if its target has a primary key. -/
theorem field?_eq_some {registry : Registry} {navigation : Navigation} {field : Field} :
    field? registry navigation = some field ↔
      ∃ target keyed key, navigation.target? = some target ∧
        registry.structure? target = some keyed ∧ registry.primaryKey? target = some key ∧
        field = keyField navigation keyed key := by
  simp only [field?, Option.bind_eq_bind, Option.bind_eq_some_iff, Option.pure_def,
    Option.some.injEq]
  constructor
  · rintro ⟨target, hTarget, keyed, hKeyed, key, hKey, rfl⟩
    exact ⟨target, keyed, key, hTarget, hKeyed, hKey, rfl⟩
  · rintro ⟨target, keyed, key, hTarget, hKeyed, hKey, rfl⟩
    exact ⟨target, hTarget, keyed, hKeyed, key, hKey, rfl⟩

/-- What is noted of the navigations of one owner. -/
def notedOf (contents : List Content) (id : TypeId) : List (Bool × Navigation) :=
  (Content.notedNavigations contents).filter (·.2.owner = id)

/-- The navigations of an owner are those that something is noted of. -/
theorem filter_navigations (contents : List Content) (id : TypeId) :
    (Content.navigations contents).filter (·.owner = id) = (notedOf contents id).map (·.2) := by
  rw [Content.navigations, List.filter_map]
  rfl

/-- The field that a noted navigation gives its owner, if it gives one. -/
def notedField? (registry : Registry) (noted : Bool × Navigation) : Option Field :=
  if noted.1 then none else field? registry noted.2

/-- The fields that links add at a place are those of the navigations of its owner. -/
theorem fieldsOf_attachments (registry : Registry) (contents : List Content) (id : TypeId) :
    fieldsOf (attachments registry contents) id =
      (notedOf contents id).filterMap (notedField? registry) := by
  rw [attachments, fieldsOf, notedOf]
  induction Content.notedNavigations contents with
  | nil => rfl
  | cons noted rest ih =>
      obtain ⟨referenced, n⟩ := noted
      rw [List.filterMap_cons, List.filter_cons]
      cases hField : field? registry n with
      | none =>
          by_cases hOwner : n.owner = id
          · cases referenced <;> simp [attachment?, notedField?, hOwner, hField, ih]
          · cases referenced <;> simp [attachment?, hOwner, hField, ih]
      | some field =>
          by_cases hOwner : n.owner = id
          · cases referenced <;> simp [attachment?, notedField?, hOwner, hField, ih]
          · cases referenced <;> simp [attachment?, hOwner, hField, ih]

/-- The fields that a structure gets by links are those of its own navigations that mark nothing. -/
theorem mem_fieldsOf_attachments {registry : Registry} {contents : List Content} {id : TypeId}
    {field : Field} :
    field ∈ fieldsOf (attachments registry contents) id ↔
      ∃ noted ∈ Content.notedNavigations contents, noted.1 = false ∧ noted.2.owner = id ∧
        field? registry noted.2 = some field := by
  rw [fieldsOf_attachments, List.mem_filterMap]
  apply exists_congr
  intro noted
  rw [notedOf, List.mem_filter, notedField?]
  cases noted.1 <;> simp [and_assoc]

section Owners

variable {contents : List Content}
  (hOwners : ∀ c ∈ contents, ∀ relation ∈ c.relations,
    relation.navigation.owner = c.declaration.id)

include hOwners

/-- Fields are attached to structures that have contents. -/
theorem owner_of_mem_attachments {registry : Registry} {attached : TypeId × Field}
    (h : attached ∈ attachments registry contents) :
    ∃ c ∈ contents, attached.1 = c.declaration.id := by
  obtain ⟨noted, hNoted, hAttached⟩ := List.mem_filterMap.1 h
  obtain ⟨c, hc, hRelations⟩ := List.mem_flatMap.1 hNoted
  obtain ⟨relation, hRelation, rfl⟩ := List.mem_map.1 hRelations
  unfold attachment? at hAttached
  split at hAttached
  · cases hAttached
  · obtain ⟨_, _, rfl⟩ := Option.map_eq_some_iff.1 hAttached
    exact ⟨c, hc, hOwners c hc relation hRelation⟩

/-- The navigations of an owner come from its own relations, in their order. -/
theorem notedOf_of_mem (hNodup : (contents.map (·.declaration.id)).Nodup) {content : Content}
    (hContent : content ∈ contents) :
    notedOf contents content.declaration.id =
      content.relations.map fun relation =>
        (content.isReferenced relation, relation.navigation) := by
  have hFilter : ∀ c ∈ contents, (c.relations.map fun relation =>
      (c.isReferenced relation, relation.navigation)).filter
        (·.2.owner = content.declaration.id) =
      if c.declaration.id = content.declaration.id then
        c.relations.map fun relation => (c.isReferenced relation, relation.navigation)
      else [] := by
    intro c hc
    split
    · next hSame =>
        apply List.filter_eq_self.2
        intro noted hNoted
        obtain ⟨relation, hRelation, rfl⟩ := List.mem_map.1 hNoted
        exact decide_eq_true ((hOwners c hc relation hRelation).trans hSame)
    · next hOther =>
        apply List.filter_eq_nil_iff.2
        intro noted hNoted hOwner
        obtain ⟨relation, hRelation, rfl⟩ := List.mem_map.1 hNoted
        exact hOther ((hOwners c hc relation hRelation).symm.trans (of_decide_eq_true hOwner))
  rw [notedOf, Content.notedNavigations, List.filter_flatMap,
    flatMap_eq_of_nodup hNodup hContent]
  · exact (hFilter content hContent).trans (if_pos rfl)
  · intro c hc hOther
    exact (hFilter c hc).trans (if_neg hOther)

theorem notedOf_eq_nil {id : TypeId} (hId : ∀ content ∈ contents, content.declaration.id ≠ id) :
    notedOf contents id = [] := by
  apply List.filter_eq_nil_iff.2
  intro noted hNoted hOwner
  obtain ⟨c, hc, hRelations⟩ := List.mem_flatMap.1 hNoted
  obtain ⟨relation, hRelation, rfl⟩ := List.mem_map.1 hRelations
  exact hId c hc ((hOwners c hc relation hRelation).symm.trans (of_decide_eq_true hOwner))

end Owners

/-- Each index leads to the navigation it was noted for. `offset` counts what stands before. -/
theorem mapM_resolve (registry : Registry) (all : List Navigation)
    (noted : List (Bool × Navigation)) (offset : Nat)
    (hAll : ∀ i, i < noted.length → all[offset + i]? = (noted.map (·.2))[i]?) :
    ∃ resolved, ((noted.zipIdx offset).filterMap fun ((referenced, navigation), index) =>
        if referenced then none else some (Link.mk navigation.owner index)).mapM
          (resolve registry all) = .ok resolved ∧
      resolved.filterMap id = noted.filterMap (attachment? registry) := by
  induction noted generalizing offset with
  | nil => exact ⟨[], rfl, rfl⟩
  | cons first noted ih =>
      obtain ⟨referenced, navigation⟩ := first
      obtain ⟨rest, hRest, hFields⟩ := ih (offset + 1) fun i hi => by
        have := hAll (i + 1) (by simpa using hi)
        simpa [Nat.add_assoc, Nat.add_comm 1 i] using this
      cases referenced with
      | true => exact ⟨rest, hRest, by simpa [attachment?] using hFields⟩
      | false =>
          have hHere : all[offset]? = some navigation := by simpa using hAll 0 (by simp)
          have hResolve : resolve registry all ⟨navigation.owner, offset⟩ =
              .ok ((field? registry navigation).map fun field => (navigation.owner, field)) := by
            simp only [resolve, hHere]
          refine ⟨(field? registry navigation).map (navigation.owner, ·) :: rest, ?_, ?_⟩
          · simp only [List.zipIdx_cons, Bool.false_eq_true, if_false, List.filterMap_cons,
              List.mapM_cons, bind_eq_ok]
            exact ⟨_, hResolve, _, hRest, rfl⟩
          · rw [List.filterMap_cons, List.filterMap_cons, hFields]
            rfl

/-- Making the links of some structures adds their attachments, one after the other. -/
theorem attachAll_eq_ok {registry linked : Registry} {contents : List Content} :
    (attachAll registry (Content.navigations contents) (Content.links contents)).result =
        .ok linked ↔
      (attachments registry contents).foldlM attach registry = .ok linked := by
  obtain ⟨resolved, hResolved, hFields⟩ := mapM_resolve registry (Content.navigations contents)
    (Content.notedNavigations contents) 0 fun i _ => by rw [Nat.zero_add]; rfl
  simp only [attachAll, Logged.result_bind, Logged.result_ofExcept, Logged.result_tell,
    Logged.result_pure, bind_eq_ok]
  constructor
  · rintro ⟨found, hFound, later, hLater, _, _, hEq⟩
    have hSame : found = resolved := Except.ok.inj (hFound.symm.trans hResolved)
    rw [hSame, hFields] at hLater
    exact hLater.trans hEq
  · intro h
    refine ⟨resolved, hResolved, linked, ?_, (), trivial, rfl⟩
    rw [hFields]
    exact h

theorem outline_of_attach {r r' : Registry} {attached : TypeId × Field}
    (h : attach r attached = .ok r') : r'.outline = r.outline :=
  Registry.outline_of_edit h fun _ => rfl

/-- Each structure gets the fields that go to its place, behind its own. -/
theorem get?_of_foldlM_attach {attached : List (TypeId × Field)} {r r' : Registry}
    (h : attached.foldlM attach r = .ok r') (id : TypeId) :
    r'.get? id = (r.get? id).map (.mapStructure (.addAll (fieldsOf attached id))) := by
  induction attached generalizing r with
  | nil =>
      rw [← Except.ok.inj h]
      cases r.get? id with
      | none => rfl
      | some type => cases type <;> simp [NamedType.mapStructure, Structure.addAll, fieldsOf]
  | cons first attached ih =>
      rw [List.foldlM_cons] at h
      obtain ⟨middle, hHead, hTail⟩ := bind_eq_ok.1 h
      obtain ⟨s, hOwner, hGet⟩ := Registry.get?_of_edit hHead
      rw [ih hTail, hGet]
      by_cases hId : id = first.1
      · have hHere := Registry.structure?_eq_some.1 hOwner
        subst hId
        simp [hHere, NamedType.mapStructure, Structure.addAll, Structure.add, fieldsOf]
      · have hSkip : fieldsOf (first :: attached) id = fieldsOf attached id := by
          simp [fieldsOf, Ne.symm hId]
        rw [if_neg hId, hSkip]

theorem outline_of_foldlM_attach {attached : List (TypeId × Field)} {r r' : Registry}
    (h : attached.foldlM attach r = .ok r') : r'.outline = r.outline :=
  foldlM_preserves (P := fun later => later.outline = r.outline)
    (fun _ _ _ _ hSame hStep => (outline_of_attach hStep).trans hSame) rfl h

/-- Owners that are structures suffice for adding fields to them. -/
theorem exists_foldlM_attach {attached : List (TypeId × Field)} {r : Registry}
    (h : ∀ a ∈ attached, (r.structure? a.1).isSome) :
    ∃ r', attached.foldlM attach r = .ok r' := by
  induction attached generalizing r with
  | nil => exact ⟨r, rfl⟩
  | cons first attached ih =>
      obtain ⟨s, hOwner⟩ := Option.isSome_iff_exists.1 (h first List.mem_cons_self)
      obtain ⟨middle, hHead⟩ := Registry.exists_edit_of_structure? hOwner (·.add first.2)
      obtain ⟨r', hTail⟩ := ih (r := middle) fun a ha =>
        Registry.isSome_structure?_of_outline_eq (outline_of_attach hHead)
          (h a (List.mem_cons_of_mem _ ha))
      exact ⟨r', by rw [List.foldlM_cons]; exact bind_eq_ok.2 ⟨middle, hHead, hTail⟩⟩

end Link

end Csdl
