import Csdl.Proofs.Metadata.Attachment
import Csdl.Proofs.Renaming.Registry

/-! Content among renamed places. Whatever the element of a declaration is read to in one registry,
it is read to in the other with the places renamed. -/
namespace Csdl

section Rename

variable (σ : Equiv.Perm TypeId)

/-- The relation with all places renamed. -/
def Relation.rename (relation : Relation) : Relation :=
  { relation with navigation := relation.navigation.rename σ }

theorem Relation.marks_rename (relation : Relation) : (relation.rename σ).marks = relation.marks :=
  rfl

/-- The declaration with its place renamed. -/
def Declaration.rename (declaration : Declaration) : Declaration :=
  { declaration with id := σ declaration.id }

/-- The content with all places renamed. -/
def Content.rename (content : Content) : Content where
  declaration := content.declaration.rename σ
  base := content.base.map σ
  fields := content.fields.map (Field.rename σ)
  relations := content.relations.map (Relation.rename σ)

theorem TypeRef.rename_eq_named {type : TypeRef} {id : TypeId} :
    type.rename σ = .named (σ id) ↔ type = .named id := by
  cases type with
  | primitive kind => constructor <;> intro hEq <;> cases hEq
  | named found => simp [rename]

theorem Field.isNamed_rename (fields : List Field) (name : String) :
    isNamed (fields.map (rename σ)) name = isNamed fields name := by
  rw [isNamed, isNamed, List.any_map]
  rfl

theorem Field.modifyFirst_rename {change : Field → Field}
    (hChange : ∀ field, change (field.rename σ) = (change field).rename σ) (name : String)
    (fields : List Field) :
    modifyFirst name change (fields.map (rename σ)) =
      (modifyFirst name change fields).map (rename σ) :=
  Content.modifyFirst_map (rename σ) (fun _ => rfl) hChange name fields

namespace Content

theorem formatOf_rename (type : TypeRef) : formatOf (type.rename σ) = formatOf type := by
  cases type <;> rfl

/-- Foreign keys are marked in renamed fields as they are in the fields, mark by mark. -/
theorem markForeignKeys_rename (fields : List Field) (relation : Relation) :
    markForeignKeys (fields.map (Field.rename σ)) (relation.rename σ) =
      (markForeignKeys fields relation).map (Field.rename σ) := by
  rw [markForeignKeys, markForeignKeys, Relation.marks_rename]
  induction relation.marks generalizing fields with
  | nil => rfl
  | cons mark marks ih =>
      obtain ⟨property, key⟩ := mark
      rw [List.foldl_cons, List.foldl_cons, ← ih]
      dsimp only
      rw [Field.modifyFirst_rename]
      intro field
      rfl

/-- The foreign keys of all relations are marked in renamed fields as they are in the fields. -/
theorem foldl_markForeignKeys_rename (fields : List Field) (relations : List Relation) :
    (relations.map (Relation.rename σ)).foldl markForeignKeys (fields.map (Field.rename σ)) =
      (relations.foldl markForeignKeys fields).map (Field.rename σ) := by
  induction relations generalizing fields with
  | nil => rfl
  | cons relation relations ih =>
      rw [List.map_cons, List.foldl_cons, List.foldl_cons, markForeignKeys_rename, ih]

/-- The key is marked in renamed fields as it is in the fields. -/
theorem markKey_rename (keys : List String) (fields : List Field) :
    markKey keys (fields.map (Field.rename σ)) = (markKey keys fields).map (Field.rename σ) := by
  unfold markKey
  split
  · rw [Field.modifyFirst_rename]
    intro field
    rfl
  · rfl

/-- A renamed content uses the renamed places of what the content uses. -/
theorem uses_rename (content : Content) (id : TypeId) :
    (content.rename σ).uses (σ id) = content.uses id := by
  rw [Bool.eq_iff_iff, uses_iff, uses_iff]
  refine or_congr ?_ (or_congr ?_ ?_)
  · exact Option.map_eq_some_iff.trans ⟨fun ⟨_, hBase, hSame⟩ => hBase.trans
      (congrArg some (σ.injective hSame)), fun hBase => ⟨id, hBase, rfl⟩⟩
  · simp only [rename, List.mem_map, exists_exists_and_eq_and]
    exact exists_congr fun field => and_congr_right fun _ => TypeRef.rename_eq_named σ
  · simp only [rename, List.mem_map, exists_exists_and_eq_and]
    exact exists_congr fun relation => and_congr_right fun _ => TypeRef.rename_eq_named σ

/-- Mappings are between properties, which have no places. -/
theorem mappingOf_rename (navigation : String) (constraints : List (String × String)) :
    (mappingOf navigation constraints).map (Structure.rename σ) =
      mappingOf navigation constraints := by
  unfold mappingOf
  split
  · rfl
  · simp [Structure.rename, Structure.anonymous, Field.rename, Field.scalar, TypeRef.rename,
      Field.withWireName]

/-- A relation marks a field of a renamed content exactly if it marks one of the content. -/
theorem isReferenced_rename (content : Content) (relation : Relation) :
    (content.rename σ).isReferenced (relation.rename σ) = content.isReferenced relation := by
  rw [isReferenced, isReferenced]
  apply congrArg (List.any relation.marks)
  funext mark
  exact Field.isNamed_rename σ content.fields mark.1

end Content

end Rename

namespace Content

section Read

variable {σ : Equiv.Perm TypeId} {r r' : Registry} {aliases : AliasTable}
  (hRenamed : r.Renamed σ r') (hDistinct : r.Distinct)

include hRenamed hDistinct

/-- A reference that denotes a type in one registry denotes the renamed one in the renamed
registry. -/
theorem refer_rename {reference : String} {type : TypeRef}
    (h : (Scope.mk aliases r).refer reference = .ok type) :
    (Scope.mk aliases r').refer reference = .ok (type.rename σ) :=
  (hRenamed.refer_eq hDistinct aliases reference).trans (map_eq_ok.2 ⟨type, h, rfl⟩)

/-- A field that is read in one registry is read in the renamed one with the place of its type
renamed. -/
theorem readField_rename {node : Xml.Node} {field : Field}
    (h : (readField ⟨aliases, r⟩ node).result = .ok field) :
    (readField ⟨aliases, r'⟩ node).result = .ok (field.rename σ) := by
  obtain ⟨name, written, inner, cardinality, type, hName, hWritten, hUnwrap, hType, rfl⟩ :=
    readField_eq_ok.1 h
  refine readField_eq_ok.2 ⟨name, written, inner, cardinality, type.rename σ, hName, hWritten,
    hUnwrap, refer_rename hRenamed hDistinct hType, ?_⟩
  simp only [declaredField, formatOf_rename, Field.rename]

theorem structure?_withPoint_rename {id : TypeId} {s : Structure}
    (h : r.withPoint.structure? id = some s) :
    r'.withPoint.structure? (σ id) = some (s.rename σ) := by
  rw [(hRenamed.withPoint hDistinct).structure?_eq, h]
  rfl

/-- A base that is read in one registry is read in the renamed one at its renamed place. -/
theorem readBase_rename {declaration : Declaration} {base : Option TypeId}
    (h : readBase ⟨aliases, r⟩ declaration = .ok base) :
    readBase ⟨aliases, r'⟩ (declaration.rename σ) = .ok (base.map σ) := by
  rcases readBase_eq_ok.1 h with ⟨hNone, rfl⟩ | ⟨reference, id, s, hSome, hType, hStructure, rfl⟩
  · exact readBase_eq_ok.2 (.inl ⟨hNone, rfl⟩)
  · exact readBase_eq_ok.2 (.inr ⟨reference, σ id, s.rename σ, hSome,
      refer_rename hRenamed hDistinct hType,
      structure?_withPoint_rename hRenamed hDistinct hStructure, rfl⟩)

/-- A relation that is read in one registry is read in the renamed one with all of its places
renamed. -/
theorem readRelation_rename {declaration : Declaration} {node : Xml.Node} {relation : Relation}
    (h : (readRelation ⟨aliases, r⟩ declaration node).result = .ok relation) :
    (readRelation ⟨aliases, r'⟩ (declaration.rename σ) node).result =
      .ok (relation.rename σ) := by
  obtain ⟨field, id, target, constraints, hField, hType, hTarget, hConstraints, rfl⟩ :=
    readRelation_eq_ok.1 h
  refine readRelation_eq_ok.2 ⟨field.rename σ, σ id, target.rename σ, constraints,
    readField_rename hRenamed hDistinct hField, congrArg (TypeRef.rename σ) hType,
    structure?_withPoint_rename hRenamed hDistinct hTarget, hConstraints, ?_⟩
  simp only [declaredRelation, Relation.rename, Navigation.rename, mappingOf_rename]
  rfl

/-- The element of a declaration is read to the same content, with the places renamed. -/
theorem Reads.rename {declaration : Declaration} {properties : List Field} {keys : List String}
    {content : Content} (h : Reads ⟨aliases, r⟩ declaration properties keys content) :
    Reads ⟨aliases, r'⟩ (declaration.rename σ) (properties.map (Field.rename σ)) keys
      (content.rename σ) where
  declaration_eq := congrArg (Declaration.rename σ) h.declaration_eq
  base_read := readBase_rename hRenamed hDistinct h.base_read
  properties_read :=
    mapM_eq_ok_map (fun _ _ => readField_rename hRenamed hDistinct) h.properties_read
  relations_read :=
    mapM_eq_ok_map (fun _ _ => readRelation_rename hRenamed hDistinct) h.relations_read
  keys_read := h.keys_read
  fields_eq := by
    change content.fields.map (Field.rename σ) = _
    rw [h.fields_eq, ← markKey_rename, ← foldl_markForeignKeys_rename]
    rfl

end Read

end Content

end Csdl
