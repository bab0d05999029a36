import Csdl.Proofs.Commutation
import Csdl.Proofs.Metadata.Attachment
import Csdl.Proofs.View.Registry

/-! Content seen through a view that shows the fields of structures. Whatever the element of a
declaration is read to in a registry, it is read to the same in what is seen of it, up to the marks
of foreign keys; filling structures and linking them to keys can be seen as well. -/
namespace Csdl

/-- A view that shows all fields of structures. -/
structure View.ShowsFields (view : View) : Prop where
  fields_eq : ∀ s, (view.ofStructure s).fields = s.fields.map view.ofField
  content_eq : ∀ s base fields, view.ofStructure { s with base, fields } =
    { view.ofStructure s with base, fields := fields.map view.ofField }

namespace View

variable (view : View)

/-- A relation through a view. -/
def ofRelation (relation : Relation) : Relation :=
  { relation with marks := relation.marks.map fun mark => (mark.1, view.ofKey mark.2) }

/-- A content through a view. -/
def ofContent (content : Content) : Content :=
  { content with
    fields := content.fields.map view.ofField
    relations := content.relations.map view.ofRelation }

/-- What references are resolved among, through a view. -/
def ofScope (scope : Scope) : Scope :=
  { scope with registry := view.ofRegistry scope.registry }

theorem isNamed_ofField (fields : List Field) (name : String) :
    Field.isNamed (fields.map view.ofField) name = Field.isNamed fields name := by
  rw [Field.isNamed, Field.isNamed, List.any_map]
  rfl

end View

namespace Content

variable (view : View)

section Reading

variable (scope : Scope)

/-- The structure that a type denotes is found at the same place, and is the one seen there. -/
theorem structure?_view (type : TypeRef) : (view.ofScope scope).structure? type =
    (scope.structure? type).map fun found => (found.1, view.ofStructure found.2) := by
  cases type with
  | primitive kind => rfl
  | named id =>
      have hPoint : (view.ofScope scope).registry.withPoint =
          view.ofRegistry scope.registry.withPoint := view.withPoint_ofRegistry scope.registry
      simp only [Scope.structure?, hPoint, view.structure?_ofRegistry, Option.map_map]
      rfl

theorem refer_view (reference : String) :
    (view.ofScope scope).refer reference = scope.refer reference :=
  view.refer_ofRegistry scope.registry scope.aliases reference

theorem readField_view (node : Xml.Node) :
    readField (view.ofScope scope) node = readField scope node := by
  simp only [readField, refer_view]

/-- The same base is read of an element in what is seen, since a view keeps which types are
structures. -/
theorem readBase_view (declaration : Declaration) :
    readBase (view.ofScope scope) declaration = readBase scope declaration := by
  unfold readBase
  cases declaration.node.attribute? "BaseType" with
  | none => rfl
  | some reference =>
      simp only [refer_view, structure?_view]
      refine bind_congr fun type => ?_
      cases scope.structure? type <;> rfl

/-- The relation that is read of an element in what is seen is the relation as it is seen. -/
theorem readRelation_view (declaration : Declaration) (node : Xml.Node) :
    (readRelation (view.ofScope scope) declaration node).result =
      view.ofRelation <$> (readRelation scope declaration node).result := by
  simp only [readRelation, readField_view, structure?_view, Logged.result_bind, map_bind]
  refine bind_congr fun field => ?_
  cases scope.structure? field.type with
  | none => rfl
  | some found =>
      simp only [Option.map_some, Logged.result_bind, Logged.result_pure, map_bind]
      refine bind_congr fun constraints => congrArg Except.ok ?_
      simp only [View.ofRelation, List.map_map, Function.comp_def, view.ofKey_eq]

end Reading

/-- Foreign keys are marked in what is seen of the fields as they are in the fields, mark by
mark. -/
theorem markForeignKeys_view (fields : List Field) (relation : Relation) :
    markForeignKeys (fields.map view.ofField) (view.ofRelation relation) =
      (markForeignKeys fields relation).map view.ofField := by
  rw [markForeignKeys, markForeignKeys, View.ofRelation]
  induction relation.marks generalizing fields with
  | nil => rfl
  | cons mark marks ih =>
      have hMark : Field.modifyFirst mark.1 (fun field =>
          { field with foreignKey := some (view.ofKey mark.2) }) (fields.map view.ofField) =
            (Field.modifyFirst mark.1 (fun field =>
              { field with foreignKey := some mark.2 }) fields).map view.ofField := by
        refine modifyFirst_map view.ofField (fun _ => rfl) ?_ mark.1 fields
        intro field
        rfl
      rw [List.map_cons, List.foldl_cons, List.foldl_cons, ← ih]
      exact congrArg (List.foldl _ · _) hMark

theorem foldl_markForeignKeys_view (fields : List Field) (relations : List Relation) :
    (relations.map view.ofRelation).foldl markForeignKeys (fields.map view.ofField) =
      (relations.foldl markForeignKeys fields).map view.ofField := by
  induction relations generalizing fields with
  | nil => rfl
  | cons relation relations ih =>
      rw [List.map_cons, List.foldl_cons, List.foldl_cons, markForeignKeys_view, ih]

/-- The key is marked in what is seen of the fields as it is in the fields. -/
theorem markKey_view (keys : List String) (fields : List Field) :
    markKey keys (fields.map view.ofField) = (markKey keys fields).map view.ofField := by
  unfold markKey
  split
  · refine modifyFirst_map view.ofField (fun _ => rfl) ?_ _ fields
    intro field
    rfl
  · rfl

/-- The element of a declaration is read to what is seen of its content. -/
theorem read_view (scope : Scope) (declaration : Declaration) :
    (read (view.ofScope scope) declaration).result =
      view.ofContent <$> (read scope declaration).result := by
  have hRelations : ∀ nodes : List Xml.Node,
      nodes.mapM (fun node => (readRelation (view.ofScope scope) declaration node).result) =
        List.map view.ofRelation <$>
          nodes.mapM fun node => (readRelation scope declaration node).result :=
    fun nodes => mapM_comm fun node _ => readRelation_view view scope declaration node
  simp only [read, Logged.result_bind, Logged.result_ofExcept, Logged.result_tell,
    Logged.result_pure, Logged.result_mapM, result_markPrimaryKey, readBase_view, readField_view,
    hRelations, bind_map_left, map_bind]
  refine bind_congr fun _ => bind_congr fun base => bind_congr_ok fun properties hRead =>
    bind_congr fun relations => bind_congr fun keys => ?_
  -- no property has a mark before the relations are gone through
  have hProperties : properties.map view.ofField = properties := by
    refine (List.map_congr_left fun property hMem => ?_).trans properties.map_id
    obtain ⟨node, _, hNode⟩ := exists_input_of_mapM hRead hMem
    obtain ⟨_, _, _, _, _, _, _, _, _, rfl⟩ := readField_eq_ok.1 hNode
    rfl
  have hFields : markKey keys ((relations.map view.ofRelation).foldl markForeignKeys properties) =
      (markKey keys (relations.foldl markForeignKeys properties)).map view.ofField := by
    rw [← markKey_view, ← foldl_markForeignKeys_view, hProperties]
  exact congrArg (fun fields => (Except.ok ⟨declaration, base, fields,
    relations.map view.ofRelation⟩ : Except Error Content)) hFields

section Filling

variable {view}

theorem uses_view (content : Content) (id : TypeId) :
    (view.ofContent content).uses id = content.uses id := by
  simp only [uses, View.ofContent, List.any_map]
  rfl

/-- Structures are filled with what is seen of their content. -/
theorem fillAll_view (hView : view.ShowsFields) (stubs : Registry) (contents : List Content) :
    fillAll (view.ofRegistry stubs) (contents.map view.ofContent) =
      view.ofRegistry <$> fillAll stubs contents := by
  have hFill : ∀ r, ∀ content ∈ contents, fill (view.ofRegistry r) (view.ofContent content) =
      view.ofRegistry <$> fill r content := fun r content _ =>
    view.edit_ofRegistry r _ fun s => (hView.content_eq s _ _).symm
  have hUses : (contents.map view.ofContent).any (·.uses stubs.pointId) =
      contents.any (·.uses stubs.pointId) := by
    rw [List.any_map]
    exact congrArg contents.any (funext fun content => content.uses_view stubs.pointId)
  simp only [fillAll, foldlM_map_comm hFill, bind_map_left, map_bind, view.pointId_ofRegistry, hUses,
    view.withPoint_ofRegistry, map_pure]
  refine bind_congr fun filled => congrArg Except.ok ?_
  exact (apply_ite view.ofRegistry _ _ _).symm

/-- What is noted for later does not depend on the view, as it tells names only. -/
theorem notedNavigations_view (contents : List Content) :
    notedNavigations (contents.map view.ofContent) = notedNavigations contents := by
  have hReferenced : ∀ (content : Content) (relation : Relation),
      (view.ofContent content).isReferenced (view.ofRelation relation) =
        content.isReferenced relation := by
    intro content relation
    simp only [isReferenced, View.ofContent, View.ofRelation, List.any_map, Function.comp_def,
      view.isNamed_ofField]
  rw [notedNavigations, List.flatMap_map, notedNavigations]
  refine congrArg (contents.flatMap ·) (funext fun content => ?_)
  show (content.relations.map view.ofRelation).map _ = _
  rw [List.map_map]
  exact List.map_congr_left fun relation _ => Prod.ext (hReferenced content relation) rfl

end Filling

end Content

namespace Link

variable {view : View}

/-- The field that a navigation is linked through is found in what is seen at the same place. -/
theorem field?_view (r : Registry) (navigation : Navigation) :
    field? (view.ofRegistry r) navigation = (field? r navigation).map view.ofField := by
  unfold field?
  cases navigation.target? with
  | none => rfl
  | some target =>
      simp only [Option.bind_eq_bind, Option.bind_some, view.structure?_ofRegistry,
        view.primaryKey?_ofRegistry]
      cases r.structure? target with
      | none => rfl
      | some keyed =>
          cases r.primaryKey? target with
          | none => rfl
          | some key =>
              refine congrArg some ?_
              simp only [View.ofField, Option.map_some, view.ofKey_eq]

/-- A link is resolved in what is seen as in the registry, to the same owner and the field as it is
seen. -/
theorem resolve_view (r : Registry) (navigations : List Navigation) (link : Link) :
    resolve (view.ofRegistry r) navigations link =
      Option.map (fun found => (found.1, view.ofField found.2)) <$> resolve r navigations link := by
  unfold resolve
  cases navigations[link.navigation]? with
  | none => rfl
  | some navigation =>
      refine congrArg Except.ok ?_
      rw [field?_view, Option.map_map, Option.map_map]
      rfl

/-- A field is attached to its owner in what is seen as it is in the registry, under a view that
shows all fields. -/
theorem attach_view (hView : view.ShowsFields) (r : Registry) (resolved : TypeId × Field) :
    attach (view.ofRegistry r) (resolved.1, view.ofField resolved.2) =
      view.ofRegistry <$> attach r resolved := by
  refine view.edit_ofRegistry r resolved.1 fun s => ?_
  have hBase : (view.ofStructure s).base = s.base := congrArg Prod.fst (view.keyPart_eq s)
  calc (view.ofStructure s).add (view.ofField resolved.2)
      = { view.ofStructure s with
          base := s.base
          fields := (s.fields ++ [resolved.2]).map view.ofField } := by
        rw [List.map_append, ← hView.fields_eq, ← hBase]
        rfl
    _ = view.ofStructure (s.add resolved.2) := (hView.content_eq s s.base _).symm

/-- Links add to what is seen of a registry what is seen of their fields. -/
theorem attachAll_view (hView : view.ShowsFields) (r : Registry) (navigations : List Navigation)
    (links : List Link) :
    (attachAll (view.ofRegistry r) navigations links).result =
      view.ofRegistry <$> (attachAll r navigations links).result := by
  have hResolved : links.mapM (resolve (view.ofRegistry r) navigations) =
      List.map (Option.map fun found => (found.1, view.ofField found.2)) <$>
        links.mapM (resolve r navigations) :=
    mapM_comm fun link _ => resolve_view r navigations link
  have hAttached : ∀ fields : List (TypeId × Field),
      (fields.map fun found => (found.1, view.ofField found.2)).foldlM attach (view.ofRegistry r) =
        view.ofRegistry <$> fields.foldlM attach r := fun fields =>
    foldlM_map_comm (fun r found _ => attach_view hView r found) r
  simp only [attachAll, Logged.result_bind, Logged.result_ofExcept, Logged.result_tell,
    Logged.result_pure, hResolved, bind_map_left, map_bind]
  refine bind_congr fun resolved => ?_
  have hFound : (resolved.map (Option.map fun found => (found.1, view.ofField found.2))).filterMap
      id = (resolved.filterMap id).map fun found => (found.1, view.ofField found.2) := by
    rw [List.filterMap_map, List.map_filterMap]
    rfl
  rw [hFound, hAttached, bind_map_left]
  rfl

end Link

end Csdl
