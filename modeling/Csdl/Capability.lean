import Csdl.Query.Cache

/-!
What can be done with an entity set or a singleton, as the annotations of the vocabulary
`Org.OData.Capabilities.V1` say it. What no annotation speaks of is allowed.
-/

namespace Csdl

/-- A member of a container is a set of entities or a single one. -/
inductive MemberKind where
  | entitySet
  | singleton
  deriving DecidableEq, Repr

/-- What is supported. -/
structure CapabilityFlags where
  insertable : Bool := true
  searchable : Bool := true
  filterable : Bool := true
  sortable : Bool := true
  skipSupported : Bool := true
  topSupported : Bool := true
  countSupported : Bool := true
  deletable : Bool := true
  updatable : Bool := true
  listable : Bool := true
  gettable : Bool := true
  deriving DecidableEq, Repr

/-- What is supported, what may not be written, and which sets navigations lead to. -/
structure Capabilities where
  flags : CapabilityFlags := {}
  nonInsertableProperties : List String := []
  nonInsertableNavigations : List String := []
  nonUpdatableProperties : List String := []
  nonUpdatableNavigations : List String := []
  bindings : List (String × String) := []
  deriving DecidableEq, Repr

namespace Capabilities

/-- The set that a navigation leads to, by its first binding. -/
def bindingTarget? (capabilities : Capabilities) (navigation : String) : Option String :=
  capabilities.bindings.lookup navigation

/-- The query for an annotation. -/
def annotation (term : String) : String :=
  s!"edm:Annotation[@Term='Org.OData.Capabilities.V1.{term}']"

/-- The query for a property in the record of an annotation. -/
def property (term name : String) : String :=
  annotation term ++ s!"/edm:Record/edm:PropertyValue[@Property='{name}']"

/-- The query for a truth value that an annotation itself has. -/
def ownFlag (term : String) : String :=
  annotation term ++ "/@Bool"

/-- The query for a truth value in the record of an annotation. -/
def recordFlag (term name : String) : String :=
  property term name ++ "/@Bool"

/-- The query for a list of paths in the record of an annotation. -/
def pathList (term name kind : String) : String :=
  property term name ++ "/edm:Collection/edm:" ++ kind

/-- The query for the bindings of navigations. -/
def bindingQuery : String := "edm:NavigationPropertyBinding"

/-- Whether nothing or the truth is selected first. -/
def isAllowed (start : Query.Cursor) (source : String) : Query.Evaluation Bool := do
  return (← Query.Evaluation.stringOr start source "true") = "true"

/-- Whether each source allows. The sources behind the first that does not are not asked. -/
def allAllow (start : Query.Cursor) : List String → Query.Evaluation Bool
  | [] => pure true
  | source :: sources => do
    if ← isAllowed start source then allAllow start sources else pure false

/-- What a set allows by its sources. A singleton does not allow it, and no source is asked. -/
def allowedOnSet (start : Query.Cursor) (kind : MemberKind) (sources : List String) :
    Query.Evaluation Bool :=
  match kind with
  | .entitySet => allAllow start sources
  | .singleton => pure false

/-- Reads the flags of a member. Search, skip, top and count have a term of their own beside their
place in the support for selection. -/
def readFlags (start : Query.Cursor) (kind : MemberKind) : Query.Evaluation CapabilityFlags := do
  let insertable ← allowedOnSet start kind [recordFlag "InsertRestrictions" "Insertable"]
  let searchable ← allowedOnSet start kind
    [recordFlag "SearchRestrictions" "Searchable", recordFlag "SelectSupport" "Searchable"]
  let filterable ← allowedOnSet start kind [recordFlag "SelectSupport" "Filterable"]
  let sortable ← allowedOnSet start kind [recordFlag "SelectSupport" "Sortable"]
  let skipSupported ← allowedOnSet start kind
    [ownFlag "SkipSupported", recordFlag "SelectSupport" "SkipSupported"]
  let topSupported ← allowedOnSet start kind
    [ownFlag "TopSupported", recordFlag "SelectSupport" "TopSupported"]
  let countSupported ← allowedOnSet start kind
    [recordFlag "CountRestrictions" "Countable", recordFlag "SelectSupport" "CountSupported"]
  let deletable ← allowedOnSet start kind [recordFlag "DeleteRestrictions" "Deletable"]
  let updatable ← allAllow start [recordFlag "UpdateRestrictions" "Updatable"]
  return {
    insertable, searchable, filterable, sortable, skipSupported, topSupported, countSupported
    deletable, updatable
    listable := kind = .entitySet
    gettable := true }

/-- The path and the target of a binding, if it has both. -/
def binding? (node : Xml.Node) : Option (String × String) := do
  let path ← node.attribute? "Path"
  let target ← node.attribute? "Target"
  return (path, target)

/-- Reads the capabilities of a member of a container. -/
def read (start : Query.Cursor) (kind : MemberKind) : Query.Evaluation Capabilities := do
  let flags ← readFlags start kind
  let bindings ← Query.Evaluation.elements start bindingQuery
  let nonInsertableProperties ← Query.Evaluation.strings start
    (pathList "InsertRestrictions" "NonInsertableProperties" "PropertyPath")
  let nonInsertableNavigations ← Query.Evaluation.strings start
    (pathList "InsertRestrictions" "NonInsertableNavigationProperties" "NavigationPropertyPath")
  let nonUpdatableProperties ← Query.Evaluation.strings start
    (pathList "UpdateRestrictions" "NonUpdatableProperties" "PropertyPath")
  let nonUpdatableNavigations ← Query.Evaluation.strings start
    (pathList "UpdateRestrictions" "NonUpdatableNavigationProperties" "NavigationPropertyPath")
  return {
    flags, nonInsertableProperties, nonInsertableNavigations
    nonUpdatableProperties, nonUpdatableNavigations
    bindings := bindings.filterMap fun cursor => binding? cursor.node }

end Capabilities

end Csdl
