import Csdl.Proofs.Metadata.Census

/-! Functions by their contexts. Two members of one namespace never have the same name, because the
structures that are read for them would have; so a context that stands for one namespace alone has
at most one function for each operation. Contexts do not tell namespaces apart. -/
namespace Csdl

/-- The parts are all there, with the point record or without it. -/
theorem sublist_placePoint (known : Bool) (parts : List (Bool × List NamedType)) :
    (parts.flatMap (·.2)).Sublist (placePoint known parts) := by
  have hParts := List.takeWhile_append_dropWhile (p := fun part : Bool × List NamedType => !part.1)
    (l := parts)
  rw [placePoint, ← congrArg (List.flatMap (·.2)) hParts, List.flatMap_append]
  exact (List.sublist_append_left _ _).append (List.Sublist.refl _)

namespace Member

theorem context_of_mem_functionsAt {member : Member} {flags : CapabilityFlags}
    {key : Option Field} {place : Nat} {f : ServiceFunction}
    (h : f ∈ member.functionsAt flags key place) : f.context = member.name := by
  rcases mem_functionsAt.1 h with
    ⟨_, rfl⟩ | ⟨_, rfl⟩ | ⟨_, _, ⟨_, rfl⟩ | ⟨_, rfl⟩ | ⟨_, rfl⟩⟩ <;> rfl

end Member

/-- The functions of a member have its name as context, and different operations in their order. -/
structure MemberOutcome.Ordered (outcome : MemberOutcome) : Prop where
  context_eq : ∀ f ∈ outcome.functions, f.context = outcome.member.name
  operations_sublist : (outcome.functions.map (·.operation)).Sublist Operation.all

/-- The functions of a member come in the order of operations, whichever of them there are. -/
theorem Derivation.Derives.ordered {settings : Settings} {aliases : AliasTable}
    {navigations : List Navigation} {state next : Derivation} {node : MemberNode}
    {outcome : MemberOutcome}
    (h : Derives settings aliases navigations state node outcome next)
    (hDistinct : state.registry.Distinct) : outcome.Ordered := by
  obtain ⟨_, _, _, _, hFunctions⟩ := h.exists_entity hDistinct
  constructor
  · intro f hMem
    rw [hFunctions] at hMem
    exact Member.context_of_mem_functionsAt hMem
  · rw [hFunctions, Member.map_operation_functionsAt]
    exact List.filter_sublist

/-- No two members have both their namespaces and their names in common. -/
theorem Definition.Lists.nodup_members {settings : Settings} {schemas : List Schema}
    {enumerations : List Enumeration} {announcements : List Announcement}
    {outcomes : List MemberOutcome} {definition : Definition}
    (h : definition.Lists settings schemas enumerations announcements outcomes)
    (hDistinct : definition.registry.Distinct) :
    (outcomes.map fun outcome => (outcome.member.namespaceName, outcome.member.name)).Nodup := by
  have hKeys := Registry.distinct_iff_nodup.1 hDistinct
  rw [h.registry_eq, List.map_append] at hKeys
  have hExtensions := (List.nodup_append.1 hKeys).2.1.sublist
    ((sublist_placePoint _ _).map NamedType.key)
  rw [List.flatMap_cons, List.nil_append, List.flatMap_map, List.map_flatMap,
    List.nodup_flatMap] at hExtensions
  -- each member has a structure that is read
  have hSelect : ∀ outcome : MemberOutcome,
      (outcome.member.namespaceName, outcome.member.name ++ "Select") ∈
        (outcome.outlines definition.registry).map NamedType.key := by
    intro outcome
    have hMem : ∀ id, outcome.member.outlineOf id "Select" ∈
        outcome.member.outlines outcome.capabilities.flags id
          (definition.registry.primaryKey? outcome.member.entity).isSome := by
      intro id
      simp [Member.outlines]
    exact List.mem_map_of_mem (hMem _)
  rw [List.Nodup, List.pairwise_map]
  refine hExtensions.2.imp fun {outcome outcome'} hDisjoint hSame => ?_
  have hHere := hSelect outcome
  rw [(Prod.mk.inj hSame).1, (Prod.mk.inj hSame).2] at hHere
  exact hDisjoint hHere (hSelect outcome')

namespace Definition

variable {definition : Definition} {outcomes : List MemberOutcome}

/-- The functions of a context are those of the members of its name. -/
theorem functionsFor_eq (h : definition.functions = outcomes.flatMap (·.functions))
    (hOrdered : ∀ outcome ∈ outcomes, outcome.Ordered) (context : String) :
    definition.functionsFor context =
      (outcomes.filter (·.member.name = context)).flatMap (·.functions) := by
  rw [functionsFor, h]
  clear h
  induction outcomes with
  | nil => rfl
  | cons outcome outcomes ih =>
      have hRest := ih fun other hMem => hOrdered other (List.mem_cons_of_mem _ hMem)
      have hContext := (hOrdered outcome List.mem_cons_self).context_eq
      rw [List.flatMap_cons, List.filter_append, hRest, List.filter_cons]
      by_cases hName : outcome.member.name = context
      · rw [if_pos (decide_eq_true hName), List.flatMap_cons]
        refine congrArg (· ++ _) (List.filter_eq_self.2 fun f hMem => ?_)
        exact decide_eq_true ((hContext f hMem).trans hName)
      · rw [if_neg (by simpa using hName)]
        refine (congrArg (· ++ _) (List.filter_eq_nil_iff.2 fun f hMem => ?_)).trans
          (List.nil_append _)
        simpa [hContext f hMem] using hName

/-- The functions of at most one member have different operations, in their order. -/
theorem operations_sublist_of_length_le_one {members : List MemberOutcome}
    (hOrdered : ∀ outcome ∈ members, outcome.Ordered) (hOne : members.length ≤ 1) :
    ((members.flatMap (·.functions)).map (·.operation)).Sublist Operation.all := by
  cases members with
  | nil => exact List.nil_sublist _
  | cons outcome rest =>
      have hRest : rest = [] := List.length_eq_zero_iff.1 (by simpa using hOne)
      rw [hRest, List.flatMap_singleton]
      exact (hOrdered outcome List.mem_cons_self).operations_sublist

/-- Where the operations of a context differ, each leads to its one function. -/
theorem function?_eq_some_iff {context : String}
    (h : ((definition.functionsFor context).map (·.operation)).Nodup) {operation : Operation}
    {f : ServiceFunction} :
    definition.function? context operation = some f ↔
      f ∈ definition.functionsFor context ∧ f.operation = operation := by
  have hFind : definition.function? context operation =
      (definition.functionsFor context).find? (·.operation = operation) := by
    rw [function?, functionsFor, List.find?_filter]
    simp
  rw [hFind]
  constructor
  · intro hFound
    exact ⟨List.mem_of_find?_eq_some hFound, by simpa using List.find?_some hFound⟩
  · rintro ⟨hMem, rfl⟩
    cases hFound : (definition.functionsFor context).find? (·.operation = f.operation) with
    | none =>
        have hOther := List.find?_eq_none.1 hFound f hMem
        exact absurd (decide_eq_true rfl) hOther
    | some other =>
        have hOther := List.mem_of_find?_eq_some hFound
        have hSame : other.operation = f.operation := by simpa using List.find?_some hFound
        rw [List.inj_on_of_nodup_map h hOther hMem hSame]

end Definition

/-- A list whose keys differ although all are the same has at most one element. -/
theorem length_le_one_of_nodup {α κ : Type} {key : α → κ} {xs : List α}
    (hNodup : (xs.map key).Nodup) (hSame : ∀ x ∈ xs, ∀ y ∈ xs, key x = key y) :
    xs.length ≤ 1 := by
  match xs with
  | [] => exact Nat.zero_le 1
  | [_] => exact Nat.le_refl 1
  | x :: y :: rest =>
      have hEq : key x = key y := hSame x List.mem_cons_self y (by simp)
      simp [hEq] at hNodup

/-- Members are in the namespace of their schema. -/
theorem Schema.namespaceName_of_mem_members {schema : Schema} {node : MemberNode}
    (h : node ∈ schema.members) : node.namespaceName = schema.namespaceName := by
  obtain ⟨_, _, hMember⟩ := List.mem_flatMap.1 h
  obtain ⟨_, _, hKind⟩ := List.mem_filterMap.1 hMember
  obtain ⟨_, _, rfl⟩ := Option.map_eq_some_iff.1 hKind
  rfl

namespace Metadata

variable {settings : Settings} {location : Location} {document : Xml.Document}

theorem Reading.ordered (reading : Reading settings document) :
    ∀ outcome ∈ reading.outcomes, outcome.Ordered := by
  intro outcome hMem
  obtain ⟨_, _, _, _, hDerives, hDistinct, _⟩ :=
    exists_left_of_forall₂ (reading.derives.forall₂ reading.distinct_linked) hMem
  exact hDerives.ordered hDistinct

/-- At most one member has a name that is given in one namespace only. -/
theorem Reading.length_members_le_one (reading : Reading settings document) {context : String}
    (hSpace : ∀ node ∈ reading.schemas.flatMap Schema.members,
      ∀ node' ∈ reading.schemas.flatMap Schema.members,
        node.node.attribute? "Name" = some context →
        node'.node.attribute? "Name" = some context →
        node.namespaceName = node'.namespaceName) :
    (reading.outcomes.filter (·.member.name = context)).length ≤ 1 := by
  have hDescribes := reading.describes ⟨"", "", ""⟩
  have hNodup := (reading.lists ⟨"", "", ""⟩).nodup_members reading.distinct_final
  refine length_le_one_of_nodup (hNodup.sublist (List.filter_sublist.map _)) ?_
  intro outcome hMem outcome' hMem'
  obtain ⟨hOutcome, hName⟩ := List.mem_filter.1 hMem
  obtain ⟨hOutcome', hName'⟩ := List.mem_filter.1 hMem'
  have hName : outcome.member.name = context := of_decide_eq_true hName
  have hName' : outcome'.member.name = context := of_decide_eq_true hName'
  obtain ⟨node, hNode, hHere⟩ := exists_left_of_forall₂ hDescribes hOutcome
  obtain ⟨node', hNode', hThere⟩ := exists_left_of_forall₂ hDescribes hOutcome'
  have hSpaces := hSpace node hNode node' hNode' (hName ▸ hHere.name_eq) (hName' ▸ hThere.name_eq)
  rw [hHere.namespace_eq, hThere.namespace_eq, hSpaces, hName, hName']

/-- In what a document defines, a name that is given to members of one namespace only has at most
one function for each operation, in the order of the operations; and asking for the function of an
operation gives the one that there is. -/
theorem functions_of_walk {definition : Definition}
    (h : (walk settings location document).result = .ok definition) :
    ∃ schemas, Metadata.schemas document.root = .ok schemas ∧ ∀ context,
      (∀ node ∈ schemas.flatMap Schema.members, ∀ node' ∈ schemas.flatMap Schema.members,
        node.node.attribute? "Name" = some context →
        node'.node.attribute? "Name" = some context →
        node.namespaceName = node'.namespaceName) →
      ((definition.functionsFor context).map (·.operation)).Sublist Operation.all ∧
      ∀ operation f, definition.function? context operation = some f ↔
        f ∈ definition.functionsFor context ∧ f.operation = operation := by
  obtain ⟨reading, rfl⟩ := walk_eq_ok.1 h
  refine ⟨reading.schemas, reading.schemas_read, fun context hSpace => ?_⟩
  have hFunctions : (reading.definition location).functions =
      reading.outcomes.flatMap (·.functions) :=
    reading.derives.functions_eq
  have hOperations : (((reading.definition location).functionsFor context).map
      (·.operation)).Sublist Operation.all := by
    rw [Definition.functionsFor_eq hFunctions reading.ordered]
    exact Definition.operations_sublist_of_length_le_one
      (fun outcome hMem => reading.ordered outcome (List.mem_of_mem_filter hMem))
      (reading.length_members_le_one hSpace)
  have hDiffer : Operation.all.Nodup := by decide
  refine ⟨hOperations, fun operation f => ?_⟩
  exact Definition.function?_eq_some_iff (hDiffer.sublist hOperations)

/-- The latest order of the sample can be got and updated, by one function each. -/
theorem functions_of_sample :
    ∃ definition, (walk {} ⟨"https", "localhost", "/"⟩ sample).result = .ok definition ∧
      ((definition.functionsFor "Latest").map (·.operation)).Sublist Operation.all ∧
      ∀ operation f, definition.function? "Latest" operation = some f ↔
        f ∈ definition.functionsFor "Latest" ∧ f.operation = operation := by
  obtain ⟨definition, hDefinition, _⟩ := walk_sample
  obtain ⟨schemas, hSchemas, hUnique⟩ := functions_of_walk hDefinition
  -- there is one schema, so there is one namespace
  obtain ⟨schema, rfl⟩ : ∃ schema, schemas = [schema] :=
    ⟨_, Except.ok.inj (hSchemas.symm.trans rfl)⟩
  refine ⟨definition, hDefinition, hUnique "Latest" fun node hNode node' hNode' _ _ => ?_⟩
  rw [List.flatMap_singleton] at hNode hNode'
  rw [Schema.namespaceName_of_mem_members hNode, Schema.namespaceName_of_mem_members hNode']

/-- Two schemas whose containers have a set of one name. -/
def shops : Xml.Document where
  before := []
  root := .element ⟨some Markup.edmx, "Edmx"⟩ [⟨⟨none, "Version"⟩, "4.0"⟩]
    [.element ⟨some Markup.edmx, "DataServices"⟩ [] (["East", "West"].map fun space =>
      sampleElement "Schema" [("Namespace", space)] [
        sampleElement "EntityType" [("Name", "Product")] [],
        sampleElement "EntityContainer" [("Name", "Service")] [
          sampleElement "EntitySet" [("Name", "Products"), ("EntityType", space ++ ".Product")]
            []]])]
  after := []

/-- A name in two namespaces has two functions for an operation. -/
theorem functions_of_shops :
    ∃ definition, (walk {} ⟨"https", "localhost", "/"⟩ shops).result = .ok definition ∧
      ¬ ((definition.functionsFor "Products").map (·.operation)).Sublist Operation.all := by
  have hOperations : (walk {} ⟨"https", "localhost", "/"⟩ shops).result.toOption.map
      (fun definition => (definition.functionsFor "Products").map (·.operation)) =
        some [.create, .list, .create, .list] := by
    rw [result_walk]
    decide +kernel
  obtain ⟨definition, hDefinition, hEq⟩ := Option.map_eq_some_iff.1 hOperations
  refine ⟨definition, toOption_eq_some.1 hDefinition, ?_⟩
  rw [hEq]
  decide

end Metadata

end Csdl
