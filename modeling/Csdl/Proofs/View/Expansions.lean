import Csdl.Proofs.Metadata.Acceptance
import Csdl.Proofs.Registry.Tables
import Csdl.Proofs.View.Preparation

/-! Expansions show nowhere but in the structures that are read. A view hides what expansions put
into them: fields that are not primary keys, and the notes of duplicates. What is seen through it is
derived alike under all expansions, so no key, function, name or error depends on them. -/
namespace Csdl

/-- A structure without what expansions put into it, if its name is among some names. -/
def Structure.unexpanded (names : List (String × String)) (s : Structure) : Structure :=
  if (s.namespaceName, s.name) ∈ names then
    { s with fields := s.fields.filter (·.primaryKey), duplicates := [] }
  else s

/-- The names of the structures that are read. -/
def Schema.readNames (schemas : List Schema) : List (String × String) :=
  (schemas.flatMap Schema.members).filterMap fun node =>
    (node.node.attribute? "Name").map fun name => (node.namespaceName, name ++ "Select")

namespace Structure

variable {names : List (String × String)} {s : Structure}

theorem unexpanded_of_mem (h : (s.namespaceName, s.name) ∈ names) :
    s.unexpanded names = { s with fields := s.fields.filter (·.primaryKey), duplicates := [] } :=
  if_pos h

theorem unexpanded_of_notMem (h : (s.namespaceName, s.name) ∉ names) : s.unexpanded names = s :=
  if_neg h

end Structure

theorem Schema.mem_readNames {schemas : List Schema} {key : String × String} :
    key ∈ readNames schemas ↔ ∃ node ∈ schemas.flatMap Schema.members, ∃ name,
      node.node.attribute? "Name" = some name ∧ key = (node.namespaceName, name ++ "Select") := by
  simp only [readNames, List.mem_filterMap, Option.map_eq_some_iff, @eq_comm _ key]

/-- Only structures that are read have a name that ends like theirs. -/
theorem Schema.notMem_readNames {schemas : List Schema} {namespaceName name suffix : String}
    (hSuffix : suffix ∈ ["Insert", "Update"]) :
    (namespaceName, name ++ suffix) ∉ readNames schemas := by
  intro hMem
  obtain ⟨_, _, other, _, hEq⟩ := mem_readNames.1 hMem
  have hAll : suffix ∈ ["Insert", "Select", "Update"] := by
    revert hSuffix
    simp only [List.mem_cons, List.not_mem_nil, or_false]
    tauto
  have hSame := (Member.eq_of_append_eq hAll (by simp) (Prod.mk.inj hEq).2).2
  rw [hSame] at hSuffix
  revert hSuffix
  decide

/-- The view that hides what expansions put into the structures that are read. -/
def View.unexpanded (schemas : List Schema) : View where
  ofKey := id
  ofStructure := Structure.unexpanded (Schema.readNames schemas)
  ofKey_eq s _ _ := by unfold Structure.unexpanded; split <;> rfl
  name_eq s := by unfold Structure.unexpanded; split <;> rfl
  namespaceName_eq s := by unfold Structure.unexpanded; split <;> rfl
  keyPart_eq s := by
    have hFields : s.fields.filter (·.primaryKey) = (s.fields.filter (·.primaryKey)).map
        fun field => { field with foreignKey := field.foreignKey.map id } := by simp
    rw [← hFields]
    unfold Structure.unexpanded
    split <;> simp [Structure.keyPart]
  collectionName_eq s name := by unfold Structure.unexpanded; dsimp only; split <;> rfl
  pointRecord_eq := Structure.unexpanded_of_notMem fun hMem => by
    obtain ⟨_, _, name, _, hEq⟩ := Schema.mem_readNames.1 hMem
    exact Member.append_ne_pointName name (by simp) (Prod.mk.inj hEq).2.symm

namespace View

variable {schemas : List Schema}

theorem ofField_unexpanded (field : Field) : (unexpanded schemas).ofField field = field := by
  have hKey : field.foreignKey.map (unexpanded schemas).ofKey = field.foreignKey :=
    congrFun Option.map_id field.foreignKey
  rw [ofField, hKey]

theorem ofFunction_unexpanded (f : ServiceFunction) : (unexpanded schemas).ofFunction f = f := by
  have hFields : ∀ fields : List Field, fields.map (unexpanded schemas).ofField = fields :=
    fun fields => (List.map_congr_left fun field _ => ofField_unexpanded field).trans fields.map_id
  simp only [ofFunction, ofWrapper, hFields]

theorem id_unexpanded (s : Structure) : ((unexpanded schemas).ofStructure s).id = s.id := by
  show (s.unexpanded _).id = _
  unfold Structure.unexpanded
  split <;> rfl

/-- Without expansions, what is seen of a member's type is extended to what is seen of the
extensions. -/
theorem fits_unexpanded {navigations : List Navigation} (expansions : List Expansion)
    (hUnmarked : ∀ n ∈ navigations, n.field.primaryKey = false) {member : Member}
    (hMember : (member.namespaceName, member.name ++ "Select") ∈ Schema.readNames schemas) :
    (unexpanded schemas).Fits navigations navigations expansions [] member := by
  have hWritten : ∀ capabilities entity suffix properties names, suffix ∈ ["Insert", "Update"] →
      Member.payloadExtension navigations capabilities member
          ((unexpanded schemas).ofStructure entity) suffix properties names =
        (unexpanded schemas).ofStructure (Member.payloadExtension navigations capabilities member
          entity suffix properties names) := by
    intro capabilities entity suffix properties names hSuffix
    refine Eq.trans ?_ (Structure.unexpanded_of_notMem (Schema.notMem_readNames hSuffix)).symm
    simp only [Member.payloadExtension, Member.extension, id_unexpanded]
  constructor
  · intro capabilities entity
    exact hWritten capabilities entity "Insert" _ _ (by simp)
  · intro entity
    have hFields : (Member.expandedFields navigations expansions member entity).filter
        (·.primaryKey) = [] := by
      refine List.filter_eq_nil_iff.2 fun field hField => ?_
      obtain ⟨n, hMem, rfl⟩ := Member.exists_navigation_of_mem_expandedFields hField
      simp [hUnmarked n hMem]
    have hCollection : ((unexpanded schemas).ofStructure entity).collectionName =
        entity.collectionName := by
      show (entity.unexpanded _).collectionName = _
      unfold Structure.unexpanded
      split <;> rfl
    refine Eq.trans ?_ (Structure.unexpanded_of_mem hMember).symm
    simp only [Member.selectExtension, Member.extension, id_unexpanded, Member.expandedFields_nil,
      hFields, hCollection, List.map_nil]
  · intro capabilities entity
    exact hWritten capabilities entity "Update" _ _ (by simp)

/-- What registration fixes is seen as it is. -/
theorem outline_unexpanded (r : Registry) : ((unexpanded schemas).ofRegistry r).outline = r.outline := by
  simp only [Registry.outline, ofRegistry, Array.toList_map, List.map_map]
  refine List.map_congr_left fun type _ => ?_
  cases type with
  | enumeration value => rfl
  | structured value =>
      have hName := (unexpanded schemas).name_eq value
      have hNamespace := (unexpanded schemas).namespaceName_eq value
      simp only [Function.comp_apply, ofType, NamedType.mapStructure, NamedType.outline, hName,
        hNamespace, id_unexpanded]

theorem primaryKey?_unexpanded (r : Registry) (id : TypeId) :
    ((unexpanded schemas).ofRegistry r).primaryKey? id = r.primaryKey? id := by
  rw [primaryKey?_ofRegistry, funext ofField_unexpanded]
  exact congrFun Option.map_id _

/-- Structures that look alike are the same, or they are read and differ in fields and duplicates. -/
theorem eq_or_of_unexpanded_eq {s s' : Structure}
    (h : (unexpanded schemas).ofStructure s' = (unexpanded schemas).ofStructure s) :
    s' = s ∨ (s.namespaceName, s.name) ∈ Schema.readNames schemas ∧
      s' = { s with fields := s'.fields, duplicates := s'.duplicates } := by
  have hName : (s'.namespaceName, s'.name) = (s.namespaceName, s.name) := by
    rw [← (unexpanded schemas).name_eq s', h, (unexpanded schemas).name_eq s,
      ← (unexpanded schemas).namespaceName_eq s', h, (unexpanded schemas).namespaceName_eq s]
  change s'.unexpanded (Schema.readNames schemas) = s.unexpanded (Schema.readNames schemas) at h
  by_cases hMem : (s.namespaceName, s.name) ∈ Schema.readNames schemas
  · rw [Structure.unexpanded_of_mem hMem, Structure.unexpanded_of_mem (hName ▸ hMem)] at h
    cases s
    cases s'
    simp only [Structure.mk.injEq] at h
    obtain ⟨rfl, rfl, rfl, rfl, rfl, _, rfl, _⟩ := h
    exact .inr ⟨hMem, rfl⟩
  · rw [Structure.unexpanded_of_notMem hMem, Structure.unexpanded_of_notMem (hName ▸ hMem)] at h
    exact .inl h

end View

/-- Definitions that are the same but for what is expanded: all is the same in both, except for the
fields and the duplicates of structures that are read for members. -/
structure Definition.SameButExpanded (schemas : List Schema) (definition definition' : Definition) :
    Prop where
  version_eq : definition'.version = definition.version
  location_eq : definition'.location = definition.location
  functions_eq : definition'.functions = definition.functions
  navigations_eq : definition'.navigations = definition.navigations
  size_eq : definition'.registry.size = definition.registry.size
  lookup_eq : ∀ namespaceName name,
    definition'.registry.lookup namespaceName name = definition.registry.lookup namespaceName name
  lookupId_eq : ∀ id, definition'.registry.lookupId id = definition.registry.lookupId id
  primaryKey?_eq : ∀ id, definition'.registry.primaryKey? id = definition.registry.primaryKey? id
  get?_eq : ∀ id, definition'.registry.get? id = definition.registry.get? id ∨
    ∃ node ∈ schemas.flatMap Schema.members, ∃ name s s',
      node.node.attribute? "Name" = some name ∧
      definition.registry.lookup node.namespaceName (name ++ "Select") = some id ∧
      definition.registry.structure? id = some s ∧ definition'.registry.structure? id = some s' ∧
      s' = { s with fields := s'.fields, duplicates := s'.duplicates }

/-- Registries that look alike differ at most in structures that are read. -/
theorem Registry.get?_eq_or_of_unexpanded {schemas : List Schema} {r r' : Registry}
    (hDistinct : r.Distinct)
    (h : (View.unexpanded schemas).ofRegistry r' = (View.unexpanded schemas).ofRegistry r)
    (id : TypeId) : r'.get? id = r.get? id ∨
      ∃ node ∈ schemas.flatMap Schema.members, ∃ name s s',
        node.node.attribute? "Name" = some name ∧
        r.lookup node.namespaceName (name ++ "Select") = some id ∧
        r.structure? id = some s ∧ r'.structure? id = some s' ∧
        s' = { s with fields := s'.fields, duplicates := s'.duplicates } := by
  have hTypes := congrArg (fun seen : Registry => seen.get? id) h
  simp only [View.get?_ofRegistry] at hTypes
  cases hHere : r.get? id with
  | none =>
      rw [hHere, Option.map_none, Option.map_eq_none_iff] at hTypes
      exact .inl hTypes
  | some type =>
      rw [hHere, Option.map_some, Option.map_eq_some_iff] at hTypes
      obtain ⟨type', hThere, hSame⟩ := hTypes
      cases type with
      | enumeration value =>
          cases type' with
          | enumeration value' => exact .inl (hThere.trans (congrArg some hSame))
          | structured s' => cases hSame
      | structured s =>
          cases type' with
          | enumeration value' => cases hSame
          | structured s' =>
              rcases View.eq_or_of_unexpanded_eq (NamedType.structured.inj hSame) with
                hEq | ⟨hMem, hEq⟩
              · exact .inl (hThere.trans (by rw [hEq]))
              · obtain ⟨node, hNode, name, hName, hKey⟩ := Schema.mem_readNames.1 hMem
                have hLookup : r.lookup node.namespaceName (name ++ "Select") = some id :=
                  hDistinct.lookup_eq_some_iff.2 ⟨_, hHere, hKey⟩
                exact .inr ⟨node, hNode, name, s, s', hName, hLookup,
                  structure?_eq_some.2 hHere, structure?_eq_some.2 hThere, hEq⟩

namespace Metadata

variable (baseId : Option String)

/-- What is derived looks the same whatever is expanded. -/
theorem derived_unexpanded (schemas : List Schema) {navigations : List Navigation}
    (hUnmarked : ∀ n ∈ navigations, n.field.primaryKey = false) (aliases : AliasTable)
    (expansions : List Expansion) (registry : Registry) :
    (View.unexpanded schemas).ofDerived <$> (schemas.flatMap Schema.members).foldlM
        (Derivation.evaluate ⟨baseId, expansions⟩ aliases navigations) (registry, []) =
      (schemas.flatMap Schema.members).foldlM
        (Derivation.evaluate ⟨baseId, []⟩ aliases navigations)
        ((View.unexpanded schemas).ofRegistry registry, []) := by
  have hStep : ∀ state, ∀ node ∈ schemas.flatMap Schema.members,
      Derivation.evaluate ⟨baseId, []⟩ aliases navigations
          ((View.unexpanded schemas).ofDerived state) node =
        (View.unexpanded schemas).ofDerived <$>
          Derivation.evaluate ⟨baseId, expansions⟩ aliases navigations state node := by
    intro state node hNode
    refine Derivation.evaluate_view _ aliases (fun name entity hName => ?_) state
    exact View.fits_unexpanded expansions hUnmarked
      (Schema.mem_readNames.2 ⟨node, hNode, name, hName, rfl⟩)
  exact (foldlM_comm hStep (registry, [])).symm

/-- Definitions of what looks the same are the same but for what is expanded. -/
theorem sameButExpanded_of_derived {settings : Settings} {location : Location}
    {document : Xml.Document} {schemas : List Schema} {navigations : List Navigation}
    {derived derived' : Registry × List ServiceFunction}
    (hWalk : (walk settings location document).result =
      .ok (assemble location document navigations derived))
    (h : (View.unexpanded schemas).ofDerived derived' = (View.unexpanded schemas).ofDerived derived) :
    (assemble location document navigations derived).SameButExpanded schemas
      (assemble location document navigations derived') := by
  have hRegistry : (View.unexpanded schemas).ofRegistry derived'.1 =
      (View.unexpanded schemas).ofRegistry derived.1 := congrArg Prod.fst h
  have hDistinct : derived.1.Distinct := by
    obtain ⟨reading, hEq⟩ := walk_eq_ok.1 hWalk
    rw [show derived.1 = reading.final.registry from congrArg Definition.registry hEq]
    exact reading.distinct_final
  have hOutline : derived'.1.outline = derived.1.outline := by
    rw [← View.outline_unexpanded derived'.1, hRegistry, View.outline_unexpanded]
  exact {
    version_eq := rfl
    location_eq := rfl
    functions_eq := by
      have hFunctions := congrArg Prod.snd h
      simp only [View.ofDerived, funext View.ofFunction_unexpanded, List.map_id'] at hFunctions
      exact hFunctions
    navigations_eq := rfl
    size_eq := by
      show derived'.1.size = derived.1.size
      rw [← (View.unexpanded schemas).size_ofRegistry derived'.1, hRegistry, View.size_ofRegistry]
    lookup_eq := Registry.lookup_eq_of_outline_eq hOutline
    lookupId_eq := Registry.lookupId_eq_of_outline_eq hOutline
    primaryKey?_eq := fun id => by
      show derived'.1.primaryKey? id = derived.1.primaryKey? id
      rw [← View.primaryKey?_unexpanded derived'.1, hRegistry, View.primaryKey?_unexpanded]
    get?_eq := Registry.get?_eq_or_of_unexpanded hDistinct hRegistry }

/-- Under two lists of expansions a document fails with the same error, or it defines the same but
for what is expanded. -/
theorem walk_expansions (expansions expansions' : List Expansion) (location : Location)
    (document : Xml.Document) :
    (∃ error, (walk ⟨baseId, expansions⟩ location document).result = .error error ∧
      (walk ⟨baseId, expansions'⟩ location document).result = .error error) ∨
    ∃ schemas definition definition',
      Metadata.schemas document.root = .ok schemas ∧
      (walk ⟨baseId, expansions⟩ location document).result = .ok definition ∧
      (walk ⟨baseId, expansions'⟩ location document).result = .ok definition' ∧
      definition.SameButExpanded schemas definition' := by
  -- expansions are not looked at before members are derived
  have hPrepare : ∀ expansions, prepare ⟨baseId, expansions⟩ document =
      prepare ⟨baseId, []⟩ document := fun _ => rfl
  cases hPrepared : prepare ⟨baseId, []⟩ document with
  | error error =>
      have hWalk : ∀ expansions,
          (walk ⟨baseId, expansions⟩ location document).result = .error error := by
        intro expansions
        rw [result_walk, evaluate_eq_prepare, hPrepare, hPrepared]
        rfl
      exact .inl ⟨error, hWalk expansions, hWalk expansions'⟩
  | ok prepared =>
      obtain ⟨schemas, registry, navigations⟩ := prepared
      obtain ⟨_, hSchemas, _, _, _, hCompleted⟩ := prepare_eq_ok.1 hPrepared
      have hWalk : ∀ expansions, (walk ⟨baseId, expansions⟩ location document).result =
          assemble location document navigations <$> (schemas.flatMap Schema.members).foldlM
            (Derivation.evaluate ⟨baseId, expansions⟩ (Schema.aliases schemas) navigations)
            (registry, []) := by
        intro expansions
        rw [result_walk, evaluate_eq_prepare, hPrepare, hPrepared]
        rfl
      have hDerived := fun expansions => derived_unexpanded baseId schemas
        (unmarked_of_complete hCompleted) (Schema.aliases schemas) expansions registry
      rcases map_eq_map_cases ((hDerived expansions').trans (hDerived expansions).symm) with
        ⟨error, hThere, hHere⟩ | ⟨derived', derived, hThere, hHere, hSame⟩
      · exact .inl ⟨error, by rw [hWalk, hHere]; rfl, by rw [hWalk, hThere]; rfl⟩
      · have hDefinition : (walk ⟨baseId, expansions⟩ location document).result =
            .ok (assemble location document navigations derived) := by
          rw [hWalk, hHere]
          rfl
        have hDefinition' : (walk ⟨baseId, expansions'⟩ location document).result =
            .ok (assemble location document navigations derived') := by
          rw [hWalk, hThere]
          rfl
        exact .inr ⟨schemas, _, _, hSchemas, hDefinition, hDefinition',
          sameButExpanded_of_derived hDefinition hSame⟩

end Metadata

end Csdl
