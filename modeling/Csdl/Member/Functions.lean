import Csdl.Member.Extension
import Csdl.Operation

/-!
The functions of a member of a container. Which ones there are depends on its capabilities and on
whether its entities have a primary key; they come in the order of the operations.
-/

namespace Csdl.Member

/-- A function on a member with the fields it takes and gives. -/
def function (member : Member) (operation : Operation) (input output : List Field) :
    ServiceFunction where
  context := member.name
  operation
  input := .anonymous "input" input
  output := .anonymous "output" output

/-- Takes an entity to insert and gives its key. -/
def createFunction (member : Member) (insert : TypeId) (key : Option Field) : ServiceFunction :=
  member.function .create [(Field.ofType "create" insert).asRequired] key.toList

/-- The options of a list, with the flag that each depends on. -/
def listOptions (flags : CapabilityFlags) : List (Bool × Field) := [
  (flags.searchable, .scalar "search" .string),
  (flags.filterable, .scalar "filter" .string),
  (flags.sortable, (Field.scalar "orderBy" .string).asUnbounded),
  (flags.topSupported, .scalar "limit" .int32),
  (flags.skipSupported, .scalar "offset" .int64),
  (flags.countSupported, .scalar "totalCount" .boolean)]

/-- The fields whose flag is set. -/
def supported (options : List (Bool × Field)) : List Field :=
  (options.filter (·.1)).map (·.2)

/-- Takes the supported options and gives entities, and their number if that is supported. -/
def listFunction (member : Member) (select : TypeId) (flags : CapabilityFlags) : ServiceFunction :=
  member.function .list (supported (listOptions flags))
    (((Field.ofType "results" select).asUnbounded.withWireName "value") ::
      supported [(flags.countSupported, (Field.scalar "count" .int64).withWireName "@odata.count")])

/-- Takes a key and gives the entity. -/
def getFunction (member : Member) (select : TypeId) (key : Field) : ServiceFunction :=
  member.function .get [key.asRequired] [.ofType "result" select]

/-- Takes a key. -/
def deleteFunction (member : Member) (key : Field) : ServiceFunction :=
  member.function .delete [key.asRequired] []

/-- Takes a key and an entity to put in place. -/
def updateFunction (member : Member) (update : TypeId) (key : Field) : ServiceFunction :=
  member.function .update [key.asRequired, (Field.ofType "update" update).asRequired] []

/-- The entity type of a member. -/
def entityType (member : Member) (registry : Registry) : Except Error Structure :=
  match registry.structure? member.entity with
  | some entity => .ok entity
  | none => .error (.format (.noEntityType member.name))

/-- Registers an extension if it is wanted, and makes a function of its place. -/
def derive (wanted : Bool) (registry : Registry) (extension : Structure)
    (make : TypeId → ServiceFunction) : Logged (List ServiceFunction × Registry) :=
  if wanted then do
    let (id, registry) ← registry.register (.structured extension)
    return ([make id], registry)
  else pure ([], registry)

/-- The functions that need only a key. -/
def keyFunctions (member : Member) (flags : CapabilityFlags) (select : TypeId) (key : Field) :
    List ServiceFunction :=
  (if flags.gettable then [member.getFunction select key] else []) ++
    if flags.deletable then [member.deleteFunction key] else []

/-- Derives the functions that need a key: none without one. -/
def deriveKeyed (member : Member) (flags : CapabilityFlags) (registry : Registry)
    (select : TypeId) (update : Structure) : Option Field →
    Logged (List ServiceFunction × Registry)
  | none => pure ([], registry)
  | some key => do
    let (updated, registry) ← derive flags.updatable registry update fun update =>
      member.updateFunction update key
    return (member.keyFunctions flags select key ++ updated, registry)

/-- Registers the extensions of a member and gives its functions. -/
def generate (registry : Registry) (navigations : List Navigation) (expansions : List Expansion)
    (member : Member) (capabilities : Capabilities) : Logged (List ServiceFunction × Registry) := do
  let flags := capabilities.flags
  let key := registry.primaryKey? member.entity
  let entity ← .ofExcept (member.entityType registry)
  let (created, registry) ← derive flags.insertable registry
    (insertExtension navigations capabilities member entity) fun insert =>
      member.createFunction insert key
  let (select, registry) ← registry.register
    (.structured (selectExtension navigations expansions member entity))
  let listed := if flags.listable then [member.listFunction select flags] else []
  let (keyed, registry) ← member.deriveKeyed flags registry select
    (updateExtension navigations capabilities member entity) key
  let functions := created ++ listed ++ keyed
  .tell (.derivedMember member.name (functions.map (·.name)))
  return (functions, registry)

end Csdl.Member
