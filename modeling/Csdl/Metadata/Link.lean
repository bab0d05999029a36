import Csdl.Metadata.Content
import Csdl.Types.Inheritance

/-!
Links to keys. A navigation that makes no property a foreign key gets a field of its own on its
owner, which holds the primary key of the target. The key may be declared anywhere, so links are
made when all structures have their content.
-/

namespace Csdl

/-- A navigation that is to get a field on its owner, by its index among all navigations. -/
structure Link where
  owner : TypeId
  navigation : Nat
  deriving DecidableEq, Repr

namespace Content

/-- Whether a relation makes a property of its owner a foreign key. -/
def isReferenced (content : Content) (relation : Relation) : Bool :=
  relation.marks.any fun (property, _) => Field.isNamed content.fields property

/-- The relations of all structures with a note which of them make foreign keys. -/
def notedNavigations (contents : List Content) : List (Bool × Navigation) :=
  contents.flatMap fun content =>
    content.relations.map fun relation => (content.isReferenced relation, relation.navigation)

/-- The navigations of all structures. -/
def navigations (contents : List Content) : List Navigation :=
  (notedNavigations contents).map (·.2)

/-- The links of all structures. -/
def links (contents : List Content) : List Link :=
  (notedNavigations contents).zipIdx.filterMap fun ((referenced, navigation), index) =>
    if referenced then none else some ⟨navigation.owner, index⟩

end Content

namespace Link

/-- The name of the field that a navigation gets. -/
def fieldName (navigation : Navigation) : String :=
  navigation.name ++ "@odata.id"

/-- The field that holds the primary key of the target of a navigation. There is none if the
target has no primary key. -/
def field? (registry : Registry) (navigation : Navigation) : Option Field := do
  let target ← navigation.target?
  let keyed ← registry.structure? target
  let key ← registry.primaryKey? target
  return { key with
    name := fieldName navigation
    required := false
    cardinality := navigation.field.cardinality
    primaryKey := false
    wireName := none
    foreignKey := some ⟨keyed.id, key.name, navigation.name⟩ }

/-- The owner of a link and the field it gets, if it gets one. -/
def resolve (registry : Registry) (navigations : List Navigation) (link : Link) :
    Except Error (Option (TypeId × Field)) :=
  match navigations[link.navigation]? with
  | none => .error (.format (.unknownNavigation link.navigation))
  | some navigation => .ok ((field? registry navigation).map fun field => (link.owner, field))

/-- Adds the field of a link to its owner. -/
def attach (registry : Registry) (resolved : TypeId × Field) : Except Error Registry :=
  registry.edit resolved.1 (·.add resolved.2)

/-- Adds the fields of all links. Each is made of the keys as they were before any was added. -/
def attachAll (registry : Registry) (navigations : List Navigation) (links : List Link) :
    Logged Registry := do
  let resolved ← .ofExcept (links.mapM (resolve registry navigations))
  let fields := resolved.filterMap id
  let linked ← .ofExcept (fields.foldlM attach registry)
  .tell (.linked fields.length)
  return linked

end Link

end Csdl
