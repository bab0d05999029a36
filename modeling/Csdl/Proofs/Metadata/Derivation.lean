import Csdl.Metadata.Container
import Csdl.Proofs.Member.Generation
import Csdl.Proofs.Query.Totality
import Csdl.Proofs.Registry.Reference

/-! Deriving the members of containers, one after the other. A member finds its type, gives it its
own name as collection name, and adds its extensions and functions. Nothing else changes. -/
namespace Csdl

open Query (bind_eq_ok)

/-- What deriving a member has found and made. `bound` is the registry in which the extensions are
generated. -/
structure MemberOutcome where
  member : Member
  reference : String
  capabilities : Capabilities
  bound : Registry
  functions : List ServiceFunction

namespace Registry

/-- Only a reference to a point record that is not registered yet adds a type. -/
theorem extendFor_cases {r : Registry} {aliases : AliasTable} {reference : String} {id : TypeId}
    (h : r.refer aliases reference = .ok (.named id)) :
    (id.index < r.size ∧ r.extendFor (.named id) = r) ∨
    (aliases.denotesPoint reference = true ∧
      r.lookup EdmType.edmNamespace EdmType.pointName = none ∧ id = r.nextId ∧
      r.extendFor (.named id) = r.push (.structured pointRecord)) := by
  by_cases hNext : id = r.nextId
  · right
    rcases refer_eq_named.1 h with ⟨hDenotes, hPoint⟩ | ⟨_, _, _, _, hFound⟩
    · rcases r.withPoint_cases with ⟨found, hFound, hId, _⟩ | ⟨hFresh, _, hEq⟩
      · obtain ⟨_, hType, _⟩ := get?_of_lookup hFound
        have hLt := lt_size_of_get? hType
        rw [← hId, ← hPoint, hNext] at hLt
        exact absurd hLt (Nat.lt_irrefl _)
      · exact ⟨hDenotes, hFresh, hNext, by rw [extendFor, if_pos (congrArg TypeRef.named hNext), hEq]⟩
    · obtain ⟨_, hType, _⟩ := get?_of_lookup hFound
      have hLt := lt_size_of_get? hType
      rw [hNext] at hLt
      exact absurd hLt (Nat.lt_irrefl _)
  · left
    have hNe : TypeRef.named id ≠ .named r.nextId := fun hEq => hNext (TypeRef.named.inj hEq)
    refine ⟨?_, by rw [extendFor, if_neg hNe]⟩
    rcases lt_size_or_eq_pointId h with hLt | hPoint
    · exact hLt
    · rcases r.withPoint_cases with ⟨found, hFound, hId, _⟩ | ⟨_, hId, _⟩
      · obtain ⟨_, hType, _⟩ := get?_of_lookup hFound
        exact hPoint ▸ hId ▸ lt_size_of_get? hType
      · exact absurd (hPoint.trans hId) hNext

theorem keeps_extendFor (r : Registry) (type : TypeRef) : r.Keeps (r.extendFor type) := by
  unfold extendFor
  split
  · exact keeps_withPoint r
  · exact Keeps.refl r

theorem Distinct.extendFor {r : Registry} (h : r.Distinct) (type : TypeRef) :
    (r.extendFor type).Distinct := by
  unfold Registry.extendFor
  split
  · exact h.withPoint
  · exact h

end Registry

namespace Derivation

/-- The capabilities of a member, read without a cache. -/
def ownCapabilities (node : MemberNode) : Except Error Capabilities :=
  (capabilities {} node).1

theorem fst_capabilities (cache : Query.Cache) (node : MemberNode) :
    (capabilities cache node).1 = ownCapabilities node :=
  Capabilities.transparent_read ⟨[], node.node⟩ node.kind cache {}

/-- The capabilities of a member can always be read. -/
theorem ownCapabilities_eq (node : MemberNode) :
    ownCapabilities node = .ok (Capabilities.capabilitiesOf ⟨[], node.node⟩ node.kind) := by
  obtain ⟨_, hRead, rfl⟩ := Capabilities.gives_read ⟨[], node.node⟩ node.kind {}
  exact hRead

/-- A structure with a collection name. -/
def nameCollection (name : String) (s : Structure) : Structure :=
  { s with collectionName := some name }

/-- Deriving a member takes one state to the next with an outcome. -/
structure Derives (settings : Settings) (aliases : AliasTable) (navigations : List Navigation)
    (state : Derivation) (node : MemberNode) (outcome : MemberOutcome) (next : Derivation) :
    Prop where
  name_read : Markup.required node.node "Name" = .ok outcome.member.name
  reference_read : Markup.required node.node node.kind.typeAttribute = .ok outcome.reference
  namespace_eq : outcome.member.namespaceName = node.namespaceName
  kind_eq : outcome.member.kind = node.kind
  refer_eq : state.registry.refer aliases outcome.reference = .ok (.named outcome.member.entity)
  bound_eq : (state.registry.extendFor (.named outcome.member.entity)).edit outcome.member.entity
    (nameCollection outcome.member.name) = .ok outcome.bound
  capabilities_read : ownCapabilities node = .ok outcome.capabilities
  generated : (Member.generate outcome.bound navigations settings.expansions outcome.member
    outcome.capabilities).result = .ok (outcome.functions, next.registry)
  functions_eq : next.functions = state.functions ++ outcome.functions
  cache_eq : next.cache = (capabilities state.cache node).2

/-- A member is bound exactly if its reference denotes a structure. Nothing but the point record is
added for it. -/
theorem bind_eq_ok_iff {r r' : Registry} {aliases : AliasTable} {name reference : String}
    {id : TypeId} :
    bind r aliases name reference = .ok (id, r') ↔
      r.refer aliases reference = .ok (.named id) ∧ r' = r.extendFor (.named id) ∧
        (r'.structure? id).isSome := by
  simp only [bind, Registry.resolve, bind_eq_ok, map_eq_ok]
  constructor
  · rintro ⟨_, ⟨type, hType, rfl⟩, h⟩
    cases type with
    | primitive kind => cases h
    | named found =>
        dsimp only at h
        split at h
        · next hSome =>
            cases h
            exact ⟨hType, rfl, hSome⟩
        · cases h
  · rintro ⟨hType, rfl, hSome⟩
    refine ⟨_, ⟨_, hType, rfl⟩, ?_⟩
    dsimp only
    rw [if_pos hSome]
    rfl

/-- A step succeeds exactly if all that it reads is there and its extensions can be registered. -/
theorem step_eq_ok {settings : Settings} {aliases : AliasTable} {navigations : List Navigation}
    {state next : Derivation} {node : MemberNode} :
    (step settings aliases navigations state node).result = .ok next ↔
      ∃ outcome, Derives settings aliases navigations state node outcome next := by
  simp only [step, Logged.result_bind, Logged.result_ofExcept, Logged.result_pure, bind_eq_ok,
    fst_capabilities]
  constructor
  · rintro ⟨name, hName, reference, hReference, ⟨entity, admitted⟩, hBind, bound, hEdit,
      capabilities, hCapabilities, ⟨functions, registry⟩, hGenerate, hEq⟩
    cases hEq
    obtain ⟨hType, rfl, _⟩ := bind_eq_ok_iff.1 hBind
    exact ⟨⟨⟨name, node.namespaceName, entity, node.kind⟩, reference, capabilities, bound,
      functions⟩, hName, hReference, rfl, rfl, hType, hEdit, hCapabilities, hGenerate, rfl, rfl⟩
  · rintro ⟨⟨⟨name, space, entity, kind⟩, reference, capabilities, bound, functions⟩, h⟩
    obtain ⟨hName, hReference, hSpace, hKind, hType, hEdit, hCapabilities, hGenerate, hFunctions,
      hCache⟩ := h
    dsimp only at hSpace hKind
    subst hSpace hKind
    obtain ⟨s, hEntity, _⟩ := Registry.get?_of_edit hEdit
    refine ⟨name, hName, reference, hReference, (entity, _), bind_eq_ok_iff.2 ⟨hType, rfl, ?_⟩,
      bound, hEdit, capabilities, hCapabilities, (functions, next.registry), hGenerate, ?_⟩
    · rw [hEntity]
      rfl
    · rw [← hFunctions, ← hCache]

/-- Deriving a list of members, with the outcome of each. -/
inductive DerivesAll (settings : Settings) (aliases : AliasTable)
    (navigations : List Navigation) :
    Derivation → List MemberNode → List MemberOutcome → Derivation → Prop where
  | nil (state : Derivation) : DerivesAll settings aliases navigations state [] [] state
  | cons {state middle last : Derivation} {node : MemberNode} {nodes : List MemberNode}
      {outcome : MemberOutcome} {outcomes : List MemberOutcome}
      (first : Derives settings aliases navigations state node outcome middle)
      (rest : DerivesAll settings aliases navigations middle nodes outcomes last) :
      DerivesAll settings aliases navigations state (node :: nodes) (outcome :: outcomes) last

/-- The functions of all members stand one member after the other behind those that were there. -/
theorem DerivesAll.functions_eq {settings : Settings} {aliases : AliasTable}
    {navigations : List Navigation} {state last : Derivation} {nodes : List MemberNode}
    {outcomes : List MemberOutcome}
    (h : DerivesAll settings aliases navigations state nodes outcomes last) :
    last.functions = state.functions ++ outcomes.flatMap (·.functions) := by
  induction h with
  | nil state => simp
  | cons first rest ih => rw [ih, first.functions_eq, List.flatMap_cons, List.append_assoc]

/-- Members are derived one after the other exactly if each of them can be, where the one before it
left off. -/
theorem foldlM_step_eq_ok {settings : Settings} {aliases : AliasTable}
    {navigations : List Navigation} {state last : Derivation} {nodes : List MemberNode} :
    (nodes.foldlM (step settings aliases navigations) state).result = .ok last ↔
      ∃ outcomes, DerivesAll settings aliases navigations state nodes outcomes last := by
  rw [Logged.result_foldlM]
  induction nodes generalizing state with
  | nil =>
      constructor
      · intro h
        cases h
        exact ⟨[], .nil _⟩
      · rintro ⟨_, h⟩
        cases h
        rfl
  | cons node nodes ih =>
      simp only [List.foldlM_cons, bind_eq_ok, step_eq_ok, ih]
      constructor
      · rintro ⟨middle, ⟨outcome, hFirst⟩, outcomes, hRest⟩
        exact ⟨outcome :: outcomes, .cons hFirst hRest⟩
      · rintro ⟨_, h⟩
        cases h with
        | cons first rest => exact ⟨_, ⟨_, first⟩, _, rest⟩

end Derivation

end Csdl
