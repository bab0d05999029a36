import Csdl.Proofs.Metadata.Announcement
import Csdl.Proofs.Registry.Reference

/-! What reading the element of a structure takes and gives, and what the registry holds once all
structures have their content. Each structure is filled once, so each place holds the content of
its own declaration or what it held before. -/
namespace Csdl

open Query (bind_eq_ok)

theorem Markup.required_eq_ok {node : Xml.Node} {label value : String} :
    required node label = .ok value ↔ node.attribute? label = some value := by
  unfold required
  cases node.attribute? label <;> simp

/-- A type denotes a structure exactly if it is the place of one in the registry with its point
record. -/
theorem Scope.structure?_eq_some {scope : Scope} {type : TypeRef} {id : TypeId} {s : Structure} :
    scope.structure? type = some (id, s) ↔
      type = .named id ∧ scope.registry.withPoint.structure? id = some s := by
  cases type with
  | primitive kind => simp [structure?]
  | named found =>
      simp only [structure?, Option.map_eq_some_iff, Prod.mk.injEq, TypeRef.named.injEq]
      constructor
      · rintro ⟨_, hStructure, rfl, rfl⟩
        exact ⟨rfl, hStructure⟩
      · rintro ⟨rfl, hStructure⟩
        exact ⟨s, hStructure, rfl, rfl⟩

namespace Content

/-- The field that an element declares, given its name and what its type denotes. -/
def declaredField (node : Xml.Node) (name : String) (cardinality : Cardinality)
    (type : TypeRef) : Field :=
  let nillable := (node.attribute? "Nullable").all (· = "true")
  { name, type, cardinality, nillable, required := !nillable, format := formatOf type }

/-- The relation that an element declares, given its field, its target and its constraints. -/
def declaredRelation (declaration : Declaration) (node : Xml.Node) (field : Field)
    (target : Structure) (constraints : List (String × String)) : Relation where
  navigation := {
    qualifiedName := declaration.namespaceName ++ "." ++ declaration.name
    owner := declaration.id
    field
    updateMapping := mappingOf field.name constraints
    containsTarget := node.attribute? "ContainsTarget" = some "true" }
  marks := constraints.map fun (property, referenced) =>
    (property, ⟨target.id, referenced, field.name⟩)

/-- Marks the first field that the only key names. -/
def markKey (keys : List String) (fields : List Field) : List Field :=
  match keys with
  | [key] => Field.modifyFirst key (fun field => { field with primaryKey := true }) fields
  | _ => fields

/-- A field is read exactly if its element has a name and a type, the type has a name inside all
wrappers, and this name denotes something. -/
theorem readField_eq_ok {scope : Scope} {node : Xml.Node} {field : Field} :
    (readField scope node).result = .ok field ↔
      ∃ name reference inner cardinality type,
        Markup.required node "Name" = .ok name ∧ Markup.required node "Type" = .ok reference ∧
        Cardinality.unwrap reference = .ok (inner, cardinality) ∧
        scope.refer inner = .ok type ∧ field = declaredField node name cardinality type := by
  simp only [readField, Logged.result_bind, Logged.result_ofExcept, Logged.result_tell,
    Logged.result_pure, bind_eq_ok]
  constructor
  · rintro ⟨name, hName, reference, hReference, ⟨inner, cardinality⟩, hUnwrap, _, _, type, hType,
      hEq⟩
    cases hEq
    exact ⟨name, reference, inner, cardinality, type, hName, hReference, hUnwrap, hType, rfl⟩
  · rintro ⟨name, reference, inner, cardinality, type, hName, hReference, hUnwrap, hType, rfl⟩
    exact ⟨name, hName, reference, hReference, (inner, cardinality), hUnwrap, (), trivial, type,
      hType, rfl⟩

/-- A base is read exactly if there is none to be read, or if the reference to it denotes a
structure. -/
theorem readBase_eq_ok {scope : Scope} {declaration : Declaration} {base : Option TypeId} :
    readBase scope declaration = .ok base ↔
      (declaration.node.attribute? "BaseType" = none ∧ base = none) ∨
      ∃ reference id s, declaration.node.attribute? "BaseType" = some reference ∧
        scope.refer reference = .ok (.named id) ∧
        scope.registry.withPoint.structure? id = some s ∧ base = some id := by
  unfold readBase
  cases hAttribute : declaration.node.attribute? "BaseType" with
  | none => simp [eq_comm]
  | some reference =>
      simp only [bind_eq_ok, reduceCtorEq, false_and, false_or, Option.some.injEq]
      constructor
      · rintro ⟨type, hType, h⟩
        cases hFound : scope.structure? type with
        | none =>
            simp only [hFound] at h
            cases h
        | some found =>
            simp only [hFound] at h
            cases h
            obtain ⟨rfl, hStructure⟩ := Scope.structure?_eq_some.1 hFound
            exact ⟨reference, found.1, found.2, rfl, hType, hStructure, rfl⟩
      · rintro ⟨_, id, s, rfl, hType, hStructure, rfl⟩
        refine ⟨.named id, hType, ?_⟩
        rw [Scope.structure?_eq_some.2 ⟨rfl, hStructure⟩]
        rfl

/-- A relation is read exactly if its field is, the type of the field is a structure, and all
constraints have both of their names. -/
theorem readRelation_eq_ok {scope : Scope} {declaration : Declaration} {node : Xml.Node}
    {relation : Relation} :
    (readRelation scope declaration node).result = .ok relation ↔
      ∃ field id target constraints, (readField scope node).result = .ok field ∧
        field.type = .named id ∧ scope.registry.withPoint.structure? id = some target ∧
        (Markup.children node "ReferentialConstraint").mapM readConstraint = .ok constraints ∧
        relation = declaredRelation declaration node field target constraints := by
  simp only [readRelation, Logged.result_bind, bind_eq_ok]
  constructor
  · rintro ⟨field, hField, h⟩
    cases hFound : scope.structure? field.type with
    | none =>
        simp only [hFound] at h
        cases h
    | some found =>
        simp only [hFound, Logged.result_bind, Logged.result_ofExcept, bind_eq_ok] at h
        obtain ⟨constraints, hConstraints, hEq⟩ := h
        cases hEq
        obtain ⟨hType, hTarget⟩ := Scope.structure?_eq_some.1 hFound
        exact ⟨field, found.1, found.2, constraints, hField, hType, hTarget, hConstraints, rfl⟩
  · rintro ⟨field, id, target, constraints, hField, hType, hTarget, hConstraints, rfl⟩
    refine ⟨field, hField, ?_⟩
    simp only [Scope.structure?_eq_some.2 ⟨hType, hTarget⟩, Logged.result_bind,
      Logged.result_ofExcept, bind_eq_ok]
    exact ⟨constraints, hConstraints, rfl⟩

/-- Marking the primary key never fails, also if the key names no field. -/
theorem result_markPrimaryKey (owner : String) (keys : List String) (fields : List Field) :
    (markPrimaryKey owner keys fields).result = .ok (markKey keys fields) := by
  match keys with
  | [] => rfl
  | [key] =>
      cases hNamed : Field.isNamed fields key with
      | true =>
          simp only [markPrimaryKey, hNamed, if_true]
          rfl
      | false =>
          rw [markKey, Field.modifyFirst_of_not_named hNamed]
          simp only [markPrimaryKey, hNamed, Bool.false_eq_true, if_false]
          rfl
  | _ :: _ :: _ => rfl

/-- What has been read of the element of a declaration. -/
structure Reads (scope : Scope) (declaration : Declaration) (properties : List Field)
    (keys : List String) (content : Content) : Prop where
  declaration_eq : content.declaration = declaration
  base_read : readBase scope declaration = .ok content.base
  properties_read :
    (Markup.children declaration.node "Property").mapM (fun node => (readField scope node).result) =
      .ok properties
  relations_read :
    (Markup.children declaration.node "NavigationProperty").mapM
      (fun node => (readRelation scope declaration node).result) = .ok content.relations
  keys_read :
    Markup.requiredOfAll ((Markup.children declaration.node "Key").flatMap
      (Markup.children · "PropertyRef")) "Name" = .ok keys
  fields_eq : content.fields = markKey keys (content.relations.foldl markForeignKeys properties)

/-- The content of a structure is read exactly if all of its parts are. -/
theorem read_eq_ok {scope : Scope} {declaration : Declaration} {content : Content} :
    (read scope declaration).result = .ok content ↔
      ∃ properties keys, Reads scope declaration properties keys content := by
  simp only [read, Logged.result_bind, Logged.result_ofExcept, Logged.result_tell,
    Logged.result_pure, Logged.result_mapM, result_markPrimaryKey, bind_eq_ok]
  constructor
  · rintro ⟨_, _, base, hBase, properties, hProperties, relations, hRelations, keys, hKeys, fields,
      hFields, hEq⟩
    cases hEq
    cases hFields
    exact ⟨properties, keys, rfl, hBase, hProperties, hRelations, hKeys, rfl⟩
  · rintro ⟨properties, keys, rfl, hBase, hProperties, hRelations, hKeys, hFields⟩
    refine ⟨(), trivial, content.base, hBase, properties, hProperties, content.relations,
      hRelations, keys, hKeys, _, rfl, ?_⟩
    rw [← hFields]

/-- A structure owns its navigations. -/
theorem Reads.owner_eq {scope : Scope} {declaration : Declaration} {properties : List Field}
    {keys : List String} {content : Content} (h : Reads scope declaration properties keys content)
    {relation : Relation} (hRelation : relation ∈ content.relations) :
    relation.navigation.owner = content.declaration.id := by
  obtain ⟨_, _, hRead⟩ := exists_input_of_mapM h.relations_read hRelation
  obtain ⟨_, _, _, _, _, _, _, _, rfl⟩ := readRelation_eq_ok.1 hRead
  rw [h.declaration_eq]
  rfl

/-- The first field of a name is changed before all fields are seen in another way or behind that. -/
theorem modifyFirst_map (view : Field → Field) {change change' : Field → Field}
    (hName : ∀ field, (view field).name = field.name)
    (hChange : ∀ field, change' (view field) = view (change field)) (name : String)
    (fields : List Field) :
    Field.modifyFirst name change' (fields.map view) =
      (Field.modifyFirst name change fields).map view := by
  induction fields with
  | nil => rfl
  | cons field fields ih =>
      rw [List.map_cons, Field.modifyFirst, Field.modifyFirst, ih, hChange, hName]
      by_cases hHere : field.name = name
      · rw [if_pos hHere, if_pos hHere, List.map_cons]
      · rw [if_neg hHere, if_neg hHere, List.map_cons]

/-- A change that a view does not see leaves the view of all fields as it is. -/
theorem map_modifyFirst {β : Type} {view : Field → β} {change : Field → Field}
    (h : ∀ field, view (change field) = view field) (name : String) (fields : List Field) :
    (Field.modifyFirst name change fields).map view = fields.map view := by
  induction fields with
  | nil => rfl
  | cons field fields ih =>
      rw [Field.modifyFirst]
      split
      · rw [List.map_cons, List.map_cons, h]
      · rw [List.map_cons, List.map_cons, ih]

/-- What does not look at foreign keys sees the same fields after they are marked. -/
theorem map_markForeignKeys {β : Type} {view : Field → β}
    (h : ∀ field key, view { field with foreignKey := some key } = view field)
    (fields : List Field) (relation : Relation) :
    (markForeignKeys fields relation).map view = fields.map view := by
  rw [markForeignKeys]
  induction relation.marks generalizing fields with
  | nil => rfl
  | cons mark marks ih =>
      rw [List.foldl_cons, ih, map_modifyFirst fun field => h field mark.2]

theorem map_foldl_markForeignKeys {β : Type} {view : Field → β}
    (h : ∀ field key, view { field with foreignKey := some key } = view field)
    (fields : List Field) (relations : List Relation) :
    (relations.foldl markForeignKeys fields).map view = fields.map view := by
  induction relations generalizing fields with
  | nil => rfl
  | cons relation relations ih => rw [List.foldl_cons, ih, map_markForeignKeys h]

/-- What does not look at the primary key sees the same fields after it is marked. -/
theorem map_markKey {β : Type} {view : Field → β}
    (h : ∀ field, view { field with primaryKey := true } = view field)
    (keys : List String) (fields : List Field) :
    (markKey keys fields).map view = fields.map view := by
  unfold markKey
  split
  · exact map_modifyFirst h _ _
  · rfl

/-- Marks apart, the fields of a structure are its properties. -/
theorem Reads.map_fields {scope : Scope} {declaration : Declaration} {properties : List Field}
    {keys : List String} {content : Content} (h : Reads scope declaration properties keys content)
    {β : Type} {view : Field → β}
    (hForeign : ∀ field key, view { field with foreignKey := some key } = view field)
    (hPrimary : ∀ field, view { field with primaryKey := true } = view field) :
    content.fields.map view = properties.map view := by
  rw [h.fields_eq, map_markKey hPrimary, map_foldl_markForeignKeys hForeign]

/-- The reference in the type of a property or a navigation: what is inside the wrappers. -/
def fieldReference? (node : Xml.Node) : Option String := do
  let type ← node.attribute? "Type"
  let (inner, _) ← (Cardinality.unwrap type).toOption
  return inner

/-- The references in a declaration: to its base, and to the types of its properties and
navigations. -/
def references (node : Xml.Node) : List String :=
  (node.attribute? "BaseType").toList ++
    (Markup.children node "Property" ++ Markup.children node "NavigationProperty").filterMap
      fieldReference?

theorem uses_iff {content : Content} {id : TypeId} :
    content.uses id = true ↔ content.base = some id ∨
      (∃ field ∈ content.fields, field.type = .named id) ∨
      ∃ relation ∈ content.relations, relation.navigation.field.type = .named id := by
  simp [uses, or_assoc]

/-- A field has the type that the reference in its element denotes. -/
theorem refer_of_readField {scope : Scope} {node : Xml.Node} {field : Field}
    (h : (readField scope node).result = .ok field) :
    ∃ reference, fieldReference? node = some reference ∧ scope.refer reference = .ok field.type := by
  obtain ⟨name, written, inner, cardinality, type, _, hWritten, hUnwrap, hType, rfl⟩ :=
    readField_eq_ok.1 h
  refine ⟨inner, ?_, hType⟩
  simp [fieldReference?, Markup.required_eq_ok.1 hWritten, hUnwrap, Except.toOption]

/-- A structure uses what the references in its declaration denote. -/
theorem Reads.uses_iff_refer {scope : Scope} {declaration : Declaration} {properties : List Field}
    {keys : List String} {content : Content} (h : Reads scope declaration properties keys content)
    {id : TypeId} :
    content.uses id = true ↔
      ∃ reference ∈ references declaration.node, scope.refer reference = .ok (.named id) := by
  have hTypes : content.fields.map (·.type) = properties.map (·.type) :=
    h.map_fields (fun _ _ => rfl) fun _ => rfl
  have hFields : (∃ field ∈ content.fields, field.type = .named id) ↔
      ∃ field ∈ properties, field.type = .named id := by
    simpa using congrArg (TypeRef.named id ∈ ·) hTypes
  -- a content uses its base, the types of its fields and the targets of its relations
  rw [uses_iff, hFields]
  simp only [references, List.mem_append, Option.mem_toList, List.mem_filterMap]
  constructor
  · rintro (hBase | ⟨field, hField, hType⟩ | ⟨relation, hRelation, hType⟩)
    · rcases readBase_eq_ok.1 h.base_read with
        ⟨_, hNone⟩ | ⟨reference, found, _, hRef, hType, _, hSome⟩
      · rw [hNone] at hBase
        cases hBase
      · rw [hBase, Option.some.injEq] at hSome
        exact ⟨reference, .inl hRef, hSome ▸ hType⟩
    · obtain ⟨node, hNode, hRead⟩ := exists_input_of_mapM h.properties_read hField
      obtain ⟨reference, hRef, hRefer⟩ := refer_of_readField hRead
      exact ⟨reference, .inr ⟨node, .inl hNode, hRef⟩, hType ▸ hRefer⟩
    · obtain ⟨node, hNode, hRead⟩ := exists_input_of_mapM h.relations_read hRelation
      obtain ⟨field, _, _, _, hField, _, _, _, rfl⟩ := readRelation_eq_ok.1 hRead
      obtain ⟨reference, hRef, hRefer⟩ := refer_of_readField hField
      exact ⟨reference, .inr ⟨node, .inr hNode, hRef⟩, hType ▸ hRefer⟩
  · rintro ⟨reference, hBase | ⟨node, hProperty | hNavigation, hRef⟩, hRefer⟩
    · rcases readBase_eq_ok.1 h.base_read with ⟨hNone, _⟩ | ⟨_, found, _, hSome, hType, _, hEq⟩
      · rw [hNone] at hBase
        cases hBase
      · rw [hBase, Option.some.injEq] at hSome
        rw [hSome, hType, Except.ok.injEq, TypeRef.named.injEq] at hRefer
        exact .inl (hRefer ▸ hEq)
    · obtain ⟨field, hField, hRead⟩ := exists_answer_of_mapM h.properties_read hProperty
      obtain ⟨_, hSame, hType⟩ := refer_of_readField hRead
      rw [hRef, Option.some.injEq] at hSame
      rw [hSame, hType, Except.ok.injEq] at hRefer
      exact .inr (.inl ⟨field, hField, hRefer⟩)
    · obtain ⟨relation, hRelation, hRead⟩ := exists_answer_of_mapM h.relations_read hNavigation
      obtain ⟨field, _, _, _, hField, _, _, _, rfl⟩ := readRelation_eq_ok.1 hRead
      obtain ⟨_, hSame, hType⟩ := refer_of_readField hField
      rw [hRef, Option.some.injEq] at hSame
      rw [hSame, hType, Except.ok.injEq] at hRefer
      exact .inr (.inr ⟨_, hRelation, hRefer⟩)

end Content

end Csdl
