import Csdl.Proofs.Exchange.Blocks
import Csdl.Proofs.Exchange.Dependence
import Csdl.Proofs.Exchange.Resemblance
import Csdl.Proofs.Exchange.Trace

/-! Members that change places. What a bound member adds depends on the types it was bound among
alone, so two neighbours of which none depends on the other add the same, in blocks that change
places; and what is behind them goes on as before. -/
namespace Csdl

namespace MemberNode

/-- What has been made for a bound member whose extensions begin at a place. -/
def madeAt (node : MemberNode) (start : Registry) (name : String) (entity : TypeId)
    (place : Nat) : Member × List ServiceFunction :=
  (node.member name entity,
    (node.member name entity).functionsAt node.capabilities.flags (start.primaryKey? entity) place)

/-- The types that a bound member adds. -/
def added (node : MemberNode) (navigations : List Navigation) (expansions : List Expansion)
    (start : Registry) (name : String) (entity : TypeId) (s : Structure) : List NamedType :=
  (Member.extensions navigations expansions node.capabilities (node.member name entity)
    (Derivation.nameCollection name s) (start.primaryKey? entity)).map .structured

section Fixed

variable {node : MemberNode} {aliases : AliasTable} {navigations : List Navigation}
  {start : Registry} {name : String} {entity : TypeId} {σ : Equiv.Perm TypeId}

/-- What a bound member adds refers to nothing behind the types it was bound among. -/
theorem Bound.rename_added (hBound : node.Bound start aliases name entity)
    (hSound : start.Sound navigations) (hFixed : start.FixedBy σ) (expansions : List Expansion)
    (s : Structure) :
    ∀ type ∈ node.added navigations expansions start name entity s, type.rename σ = type := by
  intro type hType
  obtain ⟨extension, hExtension, rfl⟩ := List.mem_map.1 hType
  exact congrArg NamedType.structured ((Member.extension_soundIn hSound.navigations
    hBound.structured hExtension ⟨0⟩).rename_eq hFixed)

/-- The functions of a bound member move with its extensions. -/
theorem Bound.renameMade_madeAt (hBound : node.Bound start aliases name entity)
    (hSound : start.Sound navigations) (hFixed : start.FixedBy σ) (expansions : List Expansion)
    (s : Structure) {place place' : Nat}
    (hPlaces : ∀ i, i < (node.added navigations expansions start name entity s).length →
      σ ⟨place + i⟩ = ⟨place' + i⟩) :
    renameMade σ (node.madeAt start name entity place) = node.madeAt start name entity place' := by
  have hMember : (node.member name entity).rename σ = node.member name entity := by
    rw [Member.rename, member, hFixed entity hBound.lt_size]
  have hKey : (start.primaryKey? entity).map (Field.rename σ) = start.primaryKey? entity := by
    cases hSome : start.primaryKey? entity with
    | none => rfl
    | some key => exact congrArg some (key.rename_eq (hSound.primaryKey_valid hSome) hFixed)
  have hFunctions : ((node.member name entity).rename σ).functionsAt node.capabilities.flags
      ((start.primaryKey? entity).map (Field.rename σ)) place' =
        ((node.member name entity).functionsAt node.capabilities.flags (start.primaryKey? entity)
          place).map (ServiceFunction.rename σ) := by
    refine Member.functionsAt_rename σ _ _ _ fun i hi => hPlaces i ?_
    rwa [added, List.length_map, Member.length_extensions]
  rw [hMember, hKey] at hFunctions
  rw [madeAt, madeAt, renameMade, hMember, hFunctions]

end Fixed

end MemberNode

namespace Derivation

section Explicit

variable {settings : Settings} {aliases : AliasTable} {navigations : List Navigation}
  {start : Registry} {state next : Derivation} {node : MemberNode} {outcome : MemberOutcome}
  {name : String} {entity : TypeId}

/-- Deriving a bound member gives its type a collection name and adds its extensions. -/
theorem Derives.registry_eq (h : Derives settings aliases navigations state node outcome next)
    (hBound : node.Bound start aliases name entity) (hSound : start.Sound navigations)
    (hFollows : start.Follows state.registry) {s : Structure}
    (hStructure : start.structure? entity = some s) :
    ∃ bound, state.registry.edit entity (nameCollection name) = .ok bound ∧
      next.registry =
        bound.append (node.added navigations settings.expansions start name entity s) := by
  obtain ⟨hMember, hCapabilities⟩ := h.of_bound hBound hFollows
  obtain ⟨t, hEntity, hNext, _⟩ := h.exists_entity hFollows.distinct
  have hSize := Nat.lt_of_lt_of_le hBound.lt_size hFollows.keeps.size_le
  have hEdit : state.registry.edit entity (nameCollection name) = .ok outcome.bound := by
    have hHere := h.bound_eq
    rwa [hMember, MemberNode.member, Registry.extendFor_of_lt hSize] at hHere
  have hNamed : t = nameCollection name s := by
    obtain ⟨old, hOld, hGet⟩ := Registry.get?_of_edit hEdit
    obtain ⟨collection, hLater⟩ := hFollows.retains.structure? hStructure
    obtain rfl := Option.some.inj (hOld.symm.trans hLater)
    rw [hMember, MemberNode.member, Registry.structure?_eq_some, hGet, if_pos rfl] at hEntity
    cases hEntity
    rfl
  have hKey : outcome.bound.primaryKey? entity = start.primaryKey? entity :=
    (hFollows.retains.trans h.retains_bound).primaryKey? hSound.base_lt_size hBound.lt_size
  refine ⟨outcome.bound, hEdit, ?_⟩
  rw [hNext, MemberOutcome.extensions, hMember, hCapabilities, hNamed, MemberNode.added, ← hKey]
  rfl

/-- What has been made for a bound member depends on the next place alone. -/
theorem Derives.made_eq (h : Derives settings aliases navigations state node outcome next)
    (hBound : node.Bound start aliases name entity) (hSound : start.Sound navigations)
    (hFollows : start.Follows state.registry) :
    outcome.made = node.madeAt start name entity state.registry.size := by
  obtain ⟨hMember, hCapabilities⟩ := h.of_bound hBound hFollows
  obtain ⟨_, _, _, _, hFunctions⟩ := h.exists_entity hFollows.distinct
  have hSize := Nat.lt_of_lt_of_le hBound.lt_size hFollows.keeps.size_le
  have hKey : outcome.bound.primaryKey? entity = start.primaryKey? entity :=
    (hFollows.retains.trans h.retains_bound).primaryKey? hSound.base_lt_size hBound.lt_size
  have hPlace : outcome.bound.size = state.registry.size := by
    rw [Registry.size_of_edit h.bound_eq, hMember, MemberNode.member,
      Registry.extendFor_of_lt hSize]
  rw [MemberOutcome.made, MemberNode.madeAt, hFunctions, hMember, hCapabilities, hPlace, ← hKey]
  rfl

end Explicit

section Exchange

variable {settings : Settings} {aliases : AliasTable} {navigations : List Navigation}
  {state : Derivation} {node other : MemberNode} {name name' : String} {entity entity' : TypeId}

/-- Two bound members can be derived in either order. -/
theorem exists_derives_swap (hDistinct : state.registry.Distinct)
    (hSound : state.registry.Sound navigations)
    (hBound : node.Bound state.registry aliases name entity)
    (hBound' : other.Bound state.registry aliases name' entity')
    {middle next : Derivation} {outcome outcome' : MemberOutcome}
    (first : Derives settings aliases navigations state node outcome middle)
    (second : Derives settings aliases navigations middle other outcome' next) :
    ∃ before outcome₁ outcome₂ after,
      Derives settings aliases navigations state other outcome₁ before ∧
        Derives settings aliases navigations before node outcome₂ after := by
  have hIff : ∀ nodes : List MemberNode, (∀ n ∈ nodes, n = node ∨ n = other) →
      ((∃ outcomes last, DerivesAll settings aliases navigations state nodes outcomes last) ↔
        (state.registry.outline.map NamedType.key ++
          nodes.flatMap (·.extensionKeys state.registry aliases)).Nodup) := by
    intro nodes hNodes
    refine exists_derivesAll_iff (fun n hn => ?_) hSound hDistinct.follows
    rcases hNodes n hn with rfl | rfl
    · exact ⟨_, _, hBound⟩
    · exact ⟨_, _, hBound'⟩
  have hNodup := (hIff [node, other] (by simp)).1 ⟨_, _, .cons first (.cons second (.nil _))⟩
  obtain ⟨_, _, hDerives⟩ := (hIff [other, node] (by simp)).2
    ((List.Perm.append_left _ ((List.Perm.swap other node []).flatMap_right _)).nodup_iff.1 hNodup)
  cases hDerives with
  | cons first' rest =>
      cases rest with
      | cons second' _ => exact ⟨_, _, _, _, first', second'⟩

/-- Of two bound members both names are given, and their extensions are added in two blocks. -/
theorem Derives.blocks {middle next : Derivation} {outcome outcome' : MemberOutcome}
    (first : Derives settings aliases navigations state node outcome middle)
    (second : Derives settings aliases navigations middle other outcome' next)
    (hDistinct : state.registry.Distinct) (hSound : state.registry.Sound navigations)
    (hBound : node.Bound state.registry aliases name entity)
    (hBound' : other.Bound state.registry aliases name' entity') {s s' : Structure}
    (hStructure : state.registry.structure? entity = some s)
    (hStructure' : state.registry.structure? entity' = some s') {types types' : List NamedType}
    (hTypes : node.added navigations settings.expansions state.registry name entity s = types)
    (hTypes' : other.added navigations settings.expansions state.registry name' entity' s' =
      types') :
    ∃ named both, state.registry.edit entity (nameCollection name) = .ok named ∧
      named.edit entity' (nameCollection name') = .ok both ∧
      next.registry = both.append (types ++ types') ∧
      outcome.made = node.madeAt state.registry name entity both.size ∧
      outcome'.made = other.madeAt state.registry name' entity' (both.size + types.length) := by
  have hMiddle := first.follows hDistinct.follows
  obtain ⟨named, hNamed, hAdded⟩ := first.registry_eq hBound hSound hDistinct.follows hStructure
  obtain ⟨_, hLater, hNext⟩ := second.registry_eq hBound' hSound hMiddle hStructure'
  rw [hTypes] at hAdded
  rw [hAdded] at hLater
  have hSize : named.size = state.registry.size := Registry.size_of_edit hNamed
  obtain ⟨both, hBoth, rfl⟩ := Registry.exists_edit_of_append (hSize ▸ hBound'.lt_size) hLater
  have hSizeBoth : both.size = state.registry.size := (Registry.size_of_edit hBoth).trans hSize
  refine ⟨named, both, hNamed, hBoth, ?_, ?_, ?_⟩
  · rw [hNext, hTypes', Registry.append_append]
  · rw [first.made_eq hBound hSound hDistinct.follows, hSizeBoth]
  · rw [second.made_eq hBound' hSound hMiddle, hAdded, Registry.size_append, hSize, hSizeBoth]

/-- The two orders lead to registries that differ in the places of the extensions, and in the
collection name of a type that both members are bound to. -/
theorem Derives.exchange {middle next before after : Derivation}
    {outcome outcome' swapped swapped' : MemberOutcome} (hDistinct : state.registry.Distinct)
    (hSound : state.registry.Sound navigations)
    (hBound : node.Bound state.registry aliases name entity)
    (hBound' : other.Bound state.registry aliases name' entity')
    (first : Derives settings aliases navigations state node outcome middle)
    (second : Derives settings aliases navigations middle other outcome' next)
    (first' : Derives settings aliases navigations state other swapped' before)
    (second' : Derives settings aliases navigations before node swapped after) :
    ∃ σ moved, state.registry.FixedBy σ ∧ next.registry.Renamed σ moved ∧
      moved.Recollected (fun place => place = entity ∧ entity = entity') after.registry ∧
      swapped.made = renameMade σ outcome.made ∧ swapped'.made = renameMade σ outcome'.made := by
  obtain ⟨s, hStructure⟩ := Option.isSome_iff_exists.1 hBound.structured
  obtain ⟨s', hStructure'⟩ := Option.isSome_iff_exists.1 hBound'.structured
  generalize hTypes : node.added navigations settings.expansions state.registry name entity s =
    types
  generalize hTypes' : other.added navigations settings.expansions state.registry name' entity'
    s' = types'
  obtain ⟨named, both, hNamed, hBoth, hNext, hMade, hMade'⟩ := first.blocks second hDistinct
    hSound hBound hBound' hStructure hStructure' hTypes hTypes'
  obtain ⟨named', both', hNamed', hBoth', hAfter, hSwapped', hSwapped⟩ := first'.blocks second'
    hDistinct hSound hBound' hBound hStructure' hStructure hTypes' hTypes
  have hSize : both.size = state.registry.size :=
    (Registry.size_of_edit hBoth).trans (Registry.size_of_edit hNamed)
  have hSame : both'.size = both.size :=
    ((Registry.size_of_edit hBoth').trans (Registry.size_of_edit hNamed')).trans hSize.symm
  have hFixed := both.fixedBy_exchange types.length types'.length
  have hStart := hFixed.of_size_le (Nat.le_of_eq hSize.symm)
  -- the two blocks of types change places, and nothing before them moves
  refine ⟨both.exchange types.length types'.length, both.append (types' ++ types), hStart, ?_, ?_,
    ?_, ?_⟩
  · rw [hNext]
    refine Registry.renamed_exchange _ _ (fun id type hType => ?_) fun type hType => ?_
    · exact ((hSound.named hNamed).named hBoth).rename_eq hFixed hType
    · rcases List.mem_append.1 hType with hHere | hThere
      · exact hBound.rename_added hSound hStart _ _ type (hTypes ▸ hHere)
      · exact hBound'.rename_added hSound hStart _ _ type (hTypes' ▸ hThere)
  · rw [hAfter]
    exact (Registry.recollected_of_edits hNamed hBoth hNamed' hBoth').append _
  · rw [hSwapped, hMade, hSame]
    refine (hBound.renameMade_madeAt hSound hStart settings.expansions s fun i hi => ?_).symm
    exact both.exchange_first (hTypes ▸ hi)
  · rw [hSwapped', hMade', hSame]
    refine (hBound'.renameMade_madeAt hSound hStart settings.expansions s' fun i hi => ?_).symm
    exact both.exchange_second (hTypes' ▸ hi)

end Exchange

end Derivation

/-- A registry to derive members in: all in it is sound, it has the known names, and navigations
stay the same wherever later types are put. -/
structure Registry.Ready (navigations : List Navigation) (known : List (String × String))
    (r : Registry) : Prop where
  distinct : r.Distinct
  sound : r.Sound navigations
  navigations_same : ∀ σ, r.FixedBy σ → SameNavigations σ navigations navigations
  knows : ∀ key ∈ known, (r.lookup key.1 key.2).isSome

namespace Derivation

variable {settings : Settings} {aliases : AliasTable} {navigations : List Navigation}
  {known : List (String × String)}

/-- A registry stays ready while a member is derived. -/
theorem Derives.ready {state next : Derivation} {node : MemberNode} {outcome : MemberOutcome}
    (h : Derives settings aliases navigations state node outcome next)
    (hReady : state.registry.Ready navigations known) : next.registry.Ready navigations known where
  distinct := h.distinct hReady.distinct
  sound := (h.sound hReady.distinct hReady.sound).1
  navigations_same σ hFixed :=
    hReady.navigations_same σ (hFixed.of_size_le (h.keeps hReady.distinct).size_le)
  knows key hKey :=
    (h.keeps hReady.distinct).isSome_lookup (h.distinct hReady.distinct) (hReady.knows key hKey)

/-- Members that can be derived can be derived where types are in other places, and some of them
have other collection names. -/
theorem DerivesAll.exists_resembling {state state' last : Derivation} {nodes : List MemberNode}
    {outcomes : List MemberOutcome} {σ : Equiv.Perm TypeId} {moved : Registry}
    {Differs : TypeId → Prop} (hNavigations : SameNavigations σ navigations navigations)
    (hRenamed : state.registry.Renamed σ moved) (hDistinct : state.registry.Distinct)
    (hRecollected : moved.Recollected Differs state'.registry)
    (hSound : state'.registry.Sound navigations)
    (h : DerivesAll settings aliases navigations state nodes outcomes last) :
    ∃ outcomes' last', DerivesAll settings aliases navigations state' nodes outcomes' last' ∧
      last.registry.Resembles σ (fun id => Differs (σ id)) last'.registry ∧
      outcomes'.map MemberOutcome.made = (outcomes.map MemberOutcome.made).map (renameMade σ) := by
  obtain ⟨outcomes₁, last₁, hDerives₁, hLast₁, hMade₁⟩ := h.rename hNavigations
    (show state.registry.Renamed σ (Derivation.mk moved [] {}).registry from hRenamed) hDistinct
  obtain ⟨outcomes₂, last₂, hDerives₂, hLast₂, hMade₂⟩ := hDerives₁.recollect hRecollected
    (hRenamed.distinct hDistinct) (hRecollected.symm.sound hSound)
  have hBack : ∀ id, Differs id → Differs (σ (σ.symm id)) := fun id hId => by
    rwa [σ.apply_symm_apply]
  exact ⟨outcomes₂, last₂, hDerives₂, hLast₁.resembles.recollect (hLast₂.imp hBack),
    hMade₂.trans hMade₁⟩

/-- Two neighbours that may pass each other change places, and the others go on as before. -/
theorem DerivesAll.exists_swapped {state last : Derivation} {node other : MemberNode}
    {nodes : List MemberNode} {outcomes : List MemberOutcome}
    (hPass : node.MayPass aliases known other) (hReady : state.registry.Ready navigations known)
    (hPoint : ∀ n ∈ node :: other :: nodes, n.DenotesPoint aliases →
      (state.registry.lookup EdmType.edmNamespace EdmType.pointName).isSome)
    (h : DerivesAll settings aliases navigations state (node :: other :: nodes) outcomes last) :
    ∃ outcomes' last' σ,
      DerivesAll settings aliases navigations state (other :: node :: nodes) outcomes' last' ∧
      state.registry.FixedBy σ ∧
      last.registry.Resembles σ (2 ≤ boundTimes outcomes ·) last'.registry ∧
      (outcomes'.map MemberOutcome.made).Perm
        ((outcomes.map MemberOutcome.made).map (renameMade σ)) := by
  cases h with
  | @cons _ middle _ _ _ outcome _ first rest =>
  cases rest with
  | @cons _ next _ _ _ outcome' outcomes second rest =>
  have hDistinct := hReady.distinct
  have hBound := first.bound_of_found hDistinct.follows
    (first.found (hPoint node List.mem_cons_self))
  have hBound' := second.bound_of_found (first.follows hDistinct.follows)
    (first.found_before second hDistinct hReady.sound hBound hReady.knows
      (hPoint other (List.mem_cons_of_mem _ List.mem_cons_self)) hPass.2)
  obtain ⟨before, swapped', swapped, after, first', second'⟩ :=
    exists_derives_swap hDistinct hReady.sound hBound hBound' first second
  obtain ⟨σ, moved, hFixed, hRenamed, hRecollected, hMade, hMade'⟩ :=
    first.exchange hDistinct hReady.sound hBound hBound' second first' second'
  -- only a type that both members are bound to has got another collection name
  have hTwice : ∀ id, σ id = outcome.member.entity ∧
      outcome.member.entity = outcome'.member.entity →
        2 ≤ boundTimes (outcome :: outcome' :: outcomes) id := by
    rintro id ⟨hPlace, hSame⟩
    obtain rfl : id = outcome.member.entity :=
      σ.injective (hPlace.trans (hFixed _ hBound.lt_size).symm)
    rw [boundTimes, List.map_cons, List.map_cons, ← hSame, List.count_cons_self,
      List.count_cons_self]
    omega
  obtain ⟨outcomes', last', hRest, hLast, hAll⟩ := rest.exists_resembling
    (hReady.navigations_same σ hFixed) hRenamed (second.ready (first.ready hReady)).distinct
    hRecollected (second'.ready (first'.ready hReady)).sound
  refine ⟨swapped' :: swapped :: outcomes', last', σ, .cons first' (.cons second' hRest), hFixed,
    hLast.imp hTwice, ?_⟩
  simp only [List.map_cons, hMade, hMade', hAll]
  exact .swap ..

/-- Members that can be derived can be derived in another order, if none is moved past another one
that it depends on. All that differs is where the extensions are, and the collection names of types
that several members are bound to. -/
theorem DerivesAll.exists_reordered {state last : Derivation} {nodes nodes' : List MemberNode}
    {outcomes : List MemberOutcome}
    (hReorders : Reorders (MemberNode.MayPass aliases known) nodes nodes')
    (hReady : state.registry.Ready navigations known)
    (hPoint : ∀ n ∈ nodes, n.DenotesPoint aliases →
      (state.registry.lookup EdmType.edmNamespace EdmType.pointName).isSome)
    (h : DerivesAll settings aliases navigations state nodes outcomes last) :
    ∃ outcomes' last' σ, DerivesAll settings aliases navigations state nodes' outcomes' last' ∧
      state.registry.FixedBy σ ∧
      last.registry.Resembles σ (2 ≤ boundTimes outcomes ·) last'.registry ∧
      (outcomes'.map MemberOutcome.made).Perm
        ((outcomes.map MemberOutcome.made).map (renameMade σ)) := by
  -- by induction on the moves, from any ready registry
  induction hReorders generalizing state outcomes last with
  | nil =>
      cases h
      exact ⟨[], state, Equiv.refl TypeId, .nil state, fun _ _ => rfl,
        (Registry.Renamed.refl _).resembles, .nil⟩
  | cons node _ ih =>
      cases h with
      | cons first rest =>
          have hKeeps := first.keeps hReady.distinct
          obtain ⟨outcomes', last', σ, hRest, hFixed, hLast, hMade⟩ :=
            ih (first.ready hReady) (fun n hn hDenotes => hKeeps.isSome_lookup
              (first.distinct hReady.distinct) (hPoint n (List.mem_cons_of_mem _ hn) hDenotes)) rest
          refine ⟨_ :: outcomes', last', σ, .cons first hRest, hFixed.of_size_le hKeeps.size_le,
            hLast.imp fun id hTwice => Nat.le_trans hTwice (List.count_le_count_cons ..), ?_⟩
          rw [List.map_cons, List.map_cons, List.map_cons,
            first.renameMade_eq hReady.distinct hReady.sound hFixed]
          exact hMade.cons _
  | swap pass nodes => exact h.exists_swapped pass hReady hPoint
  | trans first second ih ih' =>
      obtain ⟨outcomes₁, last₁, σ, hDerives₁, hFixed₁, hLast₁, hMade₁⟩ := ih hReady hPoint h
      obtain ⟨outcomes₂, last₂, τ, hDerives₂, hFixed₂, hLast₂, hMade₂⟩ :=
        ih' hReady (fun n hn => hPoint n (first.perm.mem_iff.1 hn)) hDerives₁
      refine ⟨outcomes₂, last₂, σ.trans τ, hDerives₂, hFixed₁.trans hFixed₂,
        hLast₁.trans (hLast₂.imp fun id hTwice => ?_), ?_⟩
      · rwa [← boundTimes_eq_of_perm hMade₁, Equiv.apply_symm_apply]
      · refine hMade₂.trans ((hMade₁.map _).trans (.of_eq ?_))
        rw [List.map_map]
        exact List.map_congr_left fun made _ => (renameMade_trans σ τ made).symm

end Derivation

end Csdl
