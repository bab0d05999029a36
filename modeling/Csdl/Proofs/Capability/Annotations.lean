import Csdl.Proofs.Query.Requests

/-! What the annotations of a member say, read off the tree. Each ability has its sources, and a
member has it if all of them allow it. Lists of paths are the texts in the annotations, in document
order. The queries say the same of every member and through every cache. Sources behind one that
refuses are not asked, which shows in the cache alone. -/
namespace Csdl

open Query Query.Evaluation

namespace Annotations

/-- The annotations of a term of the vocabulary. -/
def ofTerm (node : Xml.Node) (term : String) : List Xml.Node :=
  (node.childrenLabelled "Annotation").filter
    (·.anyAttribute? "Term" = some ("Org.OData.Capabilities.V1." ++ term))

/-- The properties of a name in the records of the annotations of a term. -/
def properties (node : Xml.Node) (term name : String) : List Xml.Node :=
  (((ofTerm node term).flatMap (·.childrenLabelled "Record")).flatMap
    (·.childrenLabelled "PropertyValue")).filter (·.anyAttribute? "Property" = some name)

/-- The paths of a kind in the collections of a property, without the blanks around them. -/
def paths (node : Xml.Node) (term name kind : String) : List String :=
  (((properties node term name).flatMap (·.childrenLabelled "Collection")).flatMap
    (·.childrenLabelled kind)).map fun path => Text.trim path.innerText

/-- The path and the target of each binding that has both. -/
def bindings (node : Xml.Node) : List (String × String) :=
  (node.childrenLabelled "NavigationPropertyBinding").filterMap fun child =>
    match child.attribute? "Path", child.attribute? "Target" with
    | some path, some target => some (path, target)
    | _, _ => none

end Annotations

/-- Where a truth value stands: on the annotations of a term, or on a property in their records. -/
inductive FlagSource where
  | onTerm (term : String)
  | property (term name : String)
  deriving DecidableEq, Repr

namespace FlagSource

/-- The truth values of a source, in document order. -/
def values (node : Xml.Node) : FlagSource → List String
  | onTerm term => (Annotations.ofTerm node term).filterMap (·.anyAttribute? "Bool")
  | property term name => (Annotations.properties node term name).filterMap (·.anyAttribute? "Bool")

/-- A source allows if it has no value, or if its first one is the truth. -/
def Allows (node : Xml.Node) (source : FlagSource) : Prop :=
  source.values node = [] ∨
    ∃ value, (source.values node).head? = some value ∧ Text.trim value = "true"

instance (node : Xml.Node) (source : FlagSource) : Decidable (source.Allows node) :=
  decidable_of_iff ((source.values node).head?.all (Text.trim · = "true") = true) <| by
    unfold Allows
    cases source.values node <;> simp

/-- The text of the query for a source. -/
def text : FlagSource → String
  | onTerm term => Capabilities.ownFlag term
  | property term name => Capabilities.recordFlag term name

/-- The query for a source. -/
def query : FlagSource → Query
  | onTerm term => Capabilities.ownQuery term
  | property term name => Capabilities.recordQuery term name

/-- The sources that are asked in turn. The first that does not allow ends the turn. -/
def asked (node : Xml.Node) : List FlagSource → List FlagSource
  | [] => []
  | source :: sources => source :: if source.Allows node then asked node sources else []

end FlagSource

/-- What a member may be able to do. -/
inductive Ability where
  | insert
  | search
  | filter
  | sort
  | skip
  | top
  | count
  | delete
  | update
  | list
  | get
  deriving DecidableEq, Repr

/-- Whether flags grant an ability. -/
def CapabilityFlags.grants (flags : CapabilityFlags) : Ability → Bool
  | .insert => flags.insertable
  | .search => flags.searchable
  | .filter => flags.filterable
  | .sort => flags.sortable
  | .skip => flags.skipSupported
  | .top => flags.topSupported
  | .count => flags.countSupported
  | .delete => flags.deletable
  | .update => flags.updatable
  | .list => flags.listable
  | .get => flags.gettable

namespace Ability

/-- All abilities. -/
def all : List Ability :=
  [insert, search, filter, sort, skip, top, count, delete, update, list, get]

/-- The sources that speak of an ability. -/
def sources : Ability → List FlagSource
  | insert => [.property "InsertRestrictions" "Insertable"]
  | search =>
    [.property "SearchRestrictions" "Searchable", .property "SelectSupport" "Searchable"]
  | filter => [.property "SelectSupport" "Filterable"]
  | sort => [.property "SelectSupport" "Sortable"]
  | skip => [.onTerm "SkipSupported", .property "SelectSupport" "SkipSupported"]
  | top => [.onTerm "TopSupported", .property "SelectSupport" "TopSupported"]
  | count =>
    [.property "CountRestrictions" "Countable", .property "SelectSupport" "CountSupported"]
  | delete => [.property "DeleteRestrictions" "Deletable"]
  | update => [.property "UpdateRestrictions" "Updatable"]
  | list => []
  | get => []

/-- Whether members of a kind may have an ability at all. A single entity can only be read and
updated. -/
def Suits (kind : MemberKind) (ability : Ability) : Prop :=
  kind = .entitySet ∨ ability = update ∨ ability = get

instance (kind : MemberKind) (ability : Ability) : Decidable (ability.Suits kind) :=
  inferInstanceAs (Decidable (_ ∨ _ ∨ _))

/-- The texts that are asked for an ability. -/
def asked (node : Xml.Node) (kind : MemberKind) (ability : Ability) : List String :=
  if ability.Suits kind then (FlagSource.asked node ability.sources).map FlagSource.text else []

end Ability

/-- The capabilities of a member are what its annotations and bindings say. -/
structure Capabilities.ReadFrom (node : Xml.Node) (kind : MemberKind)
    (capabilities : Capabilities) : Prop where
  grants_iff : ∀ ability, capabilities.flags.grants ability = true ↔
    ability.Suits kind ∧ ∀ source ∈ ability.sources, source.Allows node
  nonInsertableProperties_eq : capabilities.nonInsertableProperties =
    Annotations.paths node "InsertRestrictions" "NonInsertableProperties" "PropertyPath"
  nonInsertableNavigations_eq : capabilities.nonInsertableNavigations =
    Annotations.paths node "InsertRestrictions" "NonInsertableNavigationProperties"
      "NavigationPropertyPath"
  nonUpdatableProperties_eq : capabilities.nonUpdatableProperties =
    Annotations.paths node "UpdateRestrictions" "NonUpdatableProperties" "PropertyPath"
  nonUpdatableNavigations_eq : capabilities.nonUpdatableNavigations =
    Annotations.paths node "UpdateRestrictions" "NonUpdatableNavigationProperties"
      "NavigationPropertyPath"
  bindings_eq : capabilities.bindings = Annotations.bindings node
  bindingTarget?_eq : ∀ navigation, capabilities.bindingTarget? navigation =
    (capabilities.bindings.find? (·.1 = navigation)).map (·.2)

/-- The texts that are asked of a member, in turn. -/
def Annotations.asked (node : Xml.Node) (kind : MemberKind) : List String :=
  Ability.all.flatMap (·.asked node kind) ++ [
    Capabilities.bindingQuery,
    Capabilities.pathList "InsertRestrictions" "NonInsertableProperties" "PropertyPath",
    Capabilities.pathList "InsertRestrictions" "NonInsertableNavigationProperties"
      "NavigationPropertyPath",
    Capabilities.pathList "UpdateRestrictions" "NonUpdatableProperties" "PropertyPath",
    Capabilities.pathList "UpdateRestrictions" "NonUpdatableNavigationProperties"
      "NavigationPropertyPath"]

namespace Query

/-- A step leads from nodes to the child elements of them that it admits. -/
theorem Step.map_node_follow (step : Step) (current : List Cursor) :
    (step.follow current).map (·.node) =
      (current.map (·.node)).flatMap fun node => node.childElements.filter step.admits := by
  have hChildren : ∀ cursor : Cursor,
      cursor.children.map (·.node) = cursor.node.childElements := by
    intro cursor
    rw [Cursor.children, List.map_map]
    exact List.zipIdx_map_fst _ _
  induction current with
  | nil => rfl
  | cons cursor current ih =>
      rw [Step.follow, List.flatMap_cons, List.filter_append, List.map_append, List.map_cons,
        List.flatMap_cons, ← ih, ← hChildren, List.filter_map]
      rfl

/-- The nodes that steps lead to, level by level. -/
theorem map_node_foldl_follow (steps : List Step) (current : List Cursor) :
    (steps.foldl (fun current step => step.follow current) current).map (·.node) =
      steps.foldl (fun nodes step => nodes.flatMap fun node =>
        node.childElements.filter step.admits) (current.map (·.node)) := by
  induction steps generalizing current with
  | nil => rfl
  | cons step steps ih => rw [List.foldl_cons, List.foldl_cons, ih, Step.map_node_follow]

theorem Step.filter_admits_plain (label : String) (node : Xml.Node) :
    node.childElements.filter (Step.mk label []).admits = node.childrenLabelled label :=
  List.filter_congr fun child _ => by simp [Step.admits]

theorem Step.filter_admits_ofAttribute (label key literal : String) (node : Xml.Node) :
    node.childElements.filter (Step.mk label [⟨.ofAttribute key, literal⟩]).admits =
      (node.childrenLabelled label).filter (·.anyAttribute? key = some literal) := by
  rw [Xml.Node.childrenLabelled, List.filter_filter]
  exact List.filter_congr fun child _ => by simp [Step.admits, Predicate.holds, Bool.and_comm]

/-- What a query for values says of the nodes at the end of its steps. -/
theorem strings_evaluate_values (steps : List Step) (label : String) (start : Cursor) :
    ((Query.mk steps (some label)).evaluate start).strings =
      ((((Query.mk steps (some label)).reach start).map (·.node)).filterMap
        (·.anyAttribute? label)).map Text.trim := by
  rw [List.filterMap_map]
  rfl

/-- What a query for elements says of the nodes at the end of its steps. -/
theorem strings_evaluate_elements (steps : List Step) (start : Cursor) :
    ((Query.mk steps none).evaluate start).strings =
      (((Query.mk steps none).reach start).map (·.node)).map fun node =>
        Text.trim node.innerText := by
  rw [List.map_map]
  rfl

end Query

namespace Capabilities

/-- The steps to a property lead to the properties in the annotations. -/
theorem map_node_propertySteps (term name : String) (start : Cursor) :
    ((propertySteps term name).foldl (fun current step => step.follow current) [start]).map
      (·.node) = Annotations.properties start.node term name := by
  rw [map_node_foldl_follow, Annotations.properties, List.filter_flatMap]
  simp only [propertySteps, annotationStep, List.foldl_cons, List.foldl_nil, List.map_cons,
    List.map_nil, List.flatMap_singleton, Step.filter_admits_plain, Step.filter_admits_ofAttribute]
  rfl

theorem strings_pathQuery (term name kind : String) (start : Cursor) :
    ((pathQuery term name kind).evaluate start).strings =
      Annotations.paths start.node term name kind := by
  rw [pathQuery, strings_evaluate_elements, reach, List.foldl_append, map_node_foldl_follow,
    map_node_propertySteps, Annotations.paths]
  simp only [List.foldl_cons, List.foldl_nil, Step.filter_admits_plain]

end Capabilities

/-- The query for a source selects its values. -/
theorem FlagSource.strings_query (source : FlagSource) (start : Cursor) :
    (source.query.evaluate start).strings = (source.values start.node).map Text.trim := by
  cases source with
  | onTerm term =>
      rw [query, Capabilities.ownQuery, strings_evaluate_values, reach, map_node_foldl_follow,
        values, Annotations.ofTerm]
      simp only [Capabilities.annotationStep, List.foldl_cons, List.foldl_nil, List.map_cons,
        List.map_nil, List.flatMap_singleton, Step.filter_admits_ofAttribute]
  | property term name =>
      rw [query, Capabilities.recordQuery, strings_evaluate_values, reach,
        Capabilities.map_node_propertySteps, values]

theorem FlagSource.allows_iff {source : FlagSource} {start : Cursor} :
    Capabilities.allows start source.query = true ↔ source.Allows start.node := by
  rw [Capabilities.allows, strings_query, FlagSource.Allows, decide_eq_true_eq]
  cases source.values start.node <;> simp

/-- A source whose names can stand in quotes. -/
def FlagSource.IsQuotable : FlagSource → Prop
  | onTerm term => '\'' ∉ term.toList
  | property term name => '\'' ∉ term.toList ∧ '\'' ∉ name.toList

theorem FlagSource.parse_text {source : FlagSource} (h : source.IsQuotable) :
    parse source.text = .ok source.query := by
  cases source with
  | onTerm term => exact Capabilities.parse_ownFlag h
  | property term name => exact Capabilities.parse_recordFlag h.1 h.2

theorem Ability.parse_sources (ability : Ability) :
    ∀ source ∈ ability.sources, parse source.text = .ok source.query := by
  have hQuotable : ∀ source ∈ ability.sources, source.IsQuotable := by
    cases ability <;> simp [sources, FlagSource.IsQuotable]
  exact fun source hSource => FlagSource.parse_text (hQuotable source hSource)

namespace Capabilities

variable (start : Cursor) (kind : MemberKind)

theorem grants_flagsOf (ability : Ability) :
    (flagsOf start kind).grants ability = true ↔
      ability.Suits kind ∧ ∀ source ∈ ability.sources, source.Allows start.node := by
  simp only [← FlagSource.allows_iff]
  cases ability <;>
    simp [flagsOf, CapabilityFlags.grants, Ability.Suits, Ability.sources, FlagSource.query]

/-- The capabilities of an annotated member are those that its annotations tell, flag by flag and
list by list. -/
theorem readFrom_capabilitiesOf : (capabilitiesOf start kind).ReadFrom start.node kind where
  grants_iff := grants_flagsOf start kind
  nonInsertableProperties_eq := by simp only [capabilitiesOf, strings_pathQuery]
  nonInsertableNavigations_eq := by simp only [capabilitiesOf, strings_pathQuery]
  nonUpdatableProperties_eq := by simp only [capabilitiesOf, strings_pathQuery]
  nonUpdatableNavigations_eq := by simp only [capabilitiesOf, strings_pathQuery]
  bindings_eq := by
    have hReach : ((Query.mk [⟨"NavigationPropertyBinding", []⟩] none).reach start).map (·.node) =
        start.node.childrenLabelled "NavigationPropertyBinding" := by
      rw [reach, map_node_foldl_follow]
      simp only [List.foldl_cons, List.foldl_nil, List.map_cons, List.map_nil,
        List.flatMap_singleton, Step.filter_admits_plain]
    have hBinding : ∀ child : Xml.Node, binding? child =
        match child.attribute? "Path", child.attribute? "Target" with
        | some path, some target => some (path, target)
        | _, _ => none := by
      intro child
      unfold binding?
      cases child.attribute? "Path" <;> cases child.attribute? "Target" <;> rfl
    simp only [capabilitiesOf, Annotations.bindings, ← hReach, List.filterMap_map, ← hBinding]
    rfl
  bindingTarget?_eq navigation := by
    rw [bindingTarget?]
    induction (capabilitiesOf start kind).bindings with
    | nil => rfl
    | cons binding bindings ih =>
        rw [List.lookup_cons, List.find?_cons]
        by_cases hPath : binding.1 = navigation
        · simp [hPath]
        · have hOther : (navigation == binding.1) = false := beq_false_of_ne (Ne.symm hPath)
          simp [hPath, hOther, ih]

/-- Sources are asked until one of them does not allow. -/
theorem compiles_allAllow {sources : List FlagSource}
    (h : ∀ source ∈ sources, parse source.text = .ok source.query) :
    Compiles (allAllow start (sources.map FlagSource.text))
      ((FlagSource.asked start.node sources).map FlagSource.text) := by
  induction sources with
  | nil => exact compiles_pure true
  | cons source sources ih =>
      obtain ⟨hSource, hRest⟩ := List.forall_mem_cons.1 h
      have hAsked : Compiles (isAllowed start source.text) [source.text] :=
        (compiles_stringOr start source.text "true").bind_nil fun _ => compiles_pure _
      refine hAsked.bind (gives_isAllowed hSource) ?_
      rintro _ rfl
      by_cases hAllows : source.Allows start.node
      · rw [FlagSource.allows_iff.2 hAllows, if_pos hAllows]
        exact ih hRest
      · rw [eq_false_of_ne_true (mt FlagSource.allows_iff.1 hAllows), if_neg hAllows]
        exact compiles_pure false

/-- Flags that only entity sets have are computed from the queries for them. -/
theorem compiles_allowedOnSet {ability : Ability} (hUpdate : ability ≠ .update)
    (hGet : ability ≠ .get) :
    Compiles (allowedOnSet start kind (ability.sources.map FlagSource.text))
      (ability.asked start.node kind) := by
  cases kind with
  | entitySet => exact compiles_allAllow start ability.parse_sources
  | singleton =>
      have hUnsuited : ¬ ability.Suits .singleton := by simp [Ability.Suits, hUpdate, hGet]
      rw [Ability.asked, if_neg hUnsuited]
      exact compiles_pure false

/-- The flags are asked for one after the other. -/
theorem compiles_readFlags :
    Compiles (readFlags start kind) (Ability.all.flatMap (·.asked start.node kind)) := by
  have hParse : ∀ ability : Ability, List.Forall₂ (fun source query => parse source = .ok query)
      (ability.sources.map FlagSource.text) (ability.sources.map FlagSource.query) := by
    intro ability
    rw [List.forall₂_map_left_iff, List.forall₂_map_right_iff, List.forall₂_same]
    exact ability.parse_sources
  have hNext : ∀ (ability : Ability) {f : Bool → Evaluation CapabilityFlags} {more : List String},
      ability ≠ .update → ability ≠ .get → (∀ allowed, Compiles (f allowed) more) →
      Compiles (allowedOnSet start kind (ability.sources.map FlagSource.text) >>= f)
        (ability.asked start.node kind ++ more) :=
    fun ability _ _ hUpdate hGet hRest => (compiles_allowedOnSet start kind hUpdate hGet).bind
      (gives_allowedOnSet (hParse ability) kind) fun allowed _ => hRest allowed
  have hUpdate : Compiles (allAllow start (Ability.update.sources.map FlagSource.text))
      (Ability.update.asked start.node kind) := by
    rw [Ability.asked, if_pos (.inr (.inl rfl))]
    exact compiles_allAllow start Ability.update.parse_sources
  -- nothing is asked for the last two abilities, which have no sources
  have hList : Ability.list.asked start.node kind = [] := ite_self _
  have hGet : Ability.get.asked start.node kind = [] := ite_self _
  simp only [Ability.all, List.flatMap_cons, List.flatMap_nil, hList, hGet, List.append_nil]
  refine hNext .insert nofun nofun fun insertable => ?_
  refine hNext .search nofun nofun fun searchable => ?_
  refine hNext .filter nofun nofun fun filterable => ?_
  refine hNext .sort nofun nofun fun sortable => ?_
  refine hNext .skip nofun nofun fun skipSupported => ?_
  refine hNext .top nofun nofun fun topSupported => ?_
  refine hNext .count nofun nofun fun countSupported => ?_
  refine hNext .delete nofun nofun fun deletable => ?_
  exact hUpdate.bind_nil fun updatable => compiles_pure _

/-- The flags come first, then the bindings and the lists of paths. -/
theorem compiles_read : Compiles (read start kind) (Annotations.asked start.node kind) := by
  have hPaths : ∀ {term name kind : String} {f : List String → Evaluation Capabilities}
      {more : List String}, '\'' ∉ term.toList → '\'' ∉ name.toList →
      Spells ("edm:" ++ kind).toList kind → (∀ found, Compiles (f found) more) →
      Compiles (strings start (pathList term name kind) >>= f)
        (pathList term name kind :: more) :=
    fun hTerm hName hKind hRest => (compiles_strings start _).bind
      (gives_strings (parse_pathList hTerm hName hKind)) fun found _ => hRest found
  refine (compiles_readFlags start kind).bind (gives_readFlags start kind) fun flags _ => ?_
  refine (compiles_elements start bindingQuery).bind (gives_elements parse_bindingQuery rfl)
    fun bindings _ => ?_
  refine hPaths (by decide) (by decide) spells_propertyPath fun inserted => ?_
  refine hPaths (by decide) (by decide) spells_navigationPropertyPath fun insertedTo => ?_
  refine hPaths (by decide) (by decide) spells_propertyPath fun updated => ?_
  refine hPaths (by decide) (by decide) spells_navigationPropertyPath fun updatedTo => ?_
  exact compiles_pure _

/-- The capabilities of a member can be read through every cache, and they are what its annotations
and bindings say: an ability is granted if all of its sources allow it, and where a source does not,
the others are asked or not, which only the cache tells. -/
theorem read_through_cache (cache : Cache) :
    ∃ capabilities, read start kind cache =
        (.ok capabilities, cache.afterAll (Annotations.asked start.node kind)) ∧
      capabilities.ReadFrom start.node kind := by
  obtain ⟨_, hAnswer, rfl⟩ := gives_read start kind cache
  exact ⟨_, Prod.ext hAnswer (compiles_read start kind cache), readFrom_capabilitiesOf start kind⟩

/-- Of the eighteen queries all but one are asked of a set that refuses to skip, and six of a single
entity. -/
example :
    let node := Xml.Node.element ⟨none, "Member"⟩ [] [.element ⟨none, "Annotation"⟩
      [⟨⟨none, "Term"⟩, "Org.OData.Capabilities.V1.SkipSupported"⟩, ⟨⟨none, "Bool"⟩, "false"⟩] []]
    ( Annotations.asked node .entitySet).length = 17 ∧
      ( Annotations.asked node .singleton).length = 6 := by
  decide +kernel

end Capabilities

end Csdl
