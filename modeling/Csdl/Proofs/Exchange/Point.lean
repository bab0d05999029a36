import Csdl.Proofs.Exchange.Members

/-! The point record among members. The first member that denotes it registers it, so which one that
is depends on their order. It makes no difference if it is registered in front of all members: only
its place is another one. -/
namespace Csdl

namespace Registry

variable {r : Registry}

theorem withPoint_eq_self (h : (r.lookup EdmType.edmNamespace EdmType.pointName).isSome) :
    r.withPoint = r := by
  rcases r.withPoint_cases with ⟨_, _, _, hEq⟩ | ⟨hNone, _⟩
  · exact hEq
  · rw [hNone] at h
    cases h

theorem lookup_withPoint (hDistinct : r.Distinct) :
    r.withPoint.lookup EdmType.edmNamespace EdmType.pointName = some r.pointId :=
  hDistinct.withPoint.lookup_eq_some_iff.2 r.get?_withPoint_pointId

theorem pointId_withPoint (hDistinct : r.Distinct) : r.withPoint.pointId = r.pointId :=
  pointId_of_lookup (lookup_withPoint hDistinct)

theorem withPoint_withPoint (hDistinct : r.Distinct) : r.withPoint.withPoint = r.withPoint :=
  withPoint_eq_self (by rw [lookup_withPoint hDistinct]; rfl)

theorem withPoint_eq_append (h : r.lookup EdmType.edmNamespace EdmType.pointName = none) :
    r.withPoint = r.append [.structured pointRecord] := by
  rcases r.withPoint_cases with ⟨_, hSome, _⟩ | ⟨_, _, hEq⟩
  · rw [h] at hSome
    cases hSome
  · rw [hEq, append_singleton]

/-- The name of the point record denotes its place, whether it is registered or not. -/
theorem refer_of_target_eq_point {aliases : AliasTable} {reference : String}
    (hTarget : aliases.target? reference = some (EdmType.edmNamespace, EdmType.pointName)) :
    r.refer aliases reference = .ok (.named r.pointId) := by
  obtain ⟨⟨space, leaf⟩, hSplit, hKey⟩ := Option.map_eq_some_iff.1 hTarget
  obtain ⟨hSpace, hLeaf⟩ := Prod.mk.inj hKey
  refine refer_eq_named.2 (.inl ⟨?_, rfl⟩)
  rw [denotesPoint_of_split hSplit, hSpace, hLeaf]
  decide

theorem follows_withPoint (hDistinct : r.Distinct) : r.Follows r.withPoint :=
  ⟨keeps_withPoint r, retains_withPoint r, hDistinct.withPoint⟩

/-- A registry stays ready with the point record in it. -/
theorem Ready.withPoint {navigations : List Navigation} {known : List (String × String)}
    (h : r.Ready navigations known) : r.withPoint.Ready navigations known where
  distinct := h.distinct.withPoint
  sound := h.sound.withPoint
  navigations_same σ hFixed :=
    h.navigations_same σ (hFixed.of_size_le (keeps_withPoint r).size_le)
  knows key hKey := (keeps_withPoint r).isSome_lookup h.distinct.withPoint (h.knows key hKey)

end Registry

namespace Derivation

/-- A state with the point record in its registry. -/
def addPoint (state : Derivation) : Derivation :=
  { state with registry := state.registry.withPoint }

section Step

variable {settings : Settings} {aliases : AliasTable} {navigations : List Navigation}
  {state next : Derivation} {node : MemberNode} {outcome : MemberOutcome}

theorem Derives.refer_eq_point (h : Derives settings aliases navigations state node outcome next)
    (hDenotes : node.DenotesPoint aliases) (r : Registry) :
    r.refer aliases outcome.reference = .ok (.named r.pointId) :=
  Registry.refer_of_target_eq_point (h.target?_eq.symm.trans hDenotes)

theorem Derives.entity_eq_point (h : Derives settings aliases navigations state node outcome next)
    (hDenotes : node.DenotesPoint aliases) : outcome.member.entity = state.registry.pointId :=
  TypeRef.named.inj (Except.ok.inj (h.refer_eq.symm.trans (h.refer_eq_point hDenotes _)))

/-- A member that denotes the point record is derived alike with and without it. -/
theorem derives_addPoint_iff (hDistinct : state.registry.Distinct)
    (hDenotes : node.DenotesPoint aliases) :
    Derives settings aliases navigations state.addPoint node outcome next ↔
      Derives settings aliases navigations state node outcome next := by
  have hPoint : state.addPoint.registry.pointId = state.registry.pointId :=
    Registry.pointId_withPoint hDistinct
  have hExtended : state.addPoint.registry.extendFor (.named state.registry.pointId) =
      state.registry.extendFor (.named state.registry.pointId) := by
    rw [← hPoint, Registry.extendFor_pointId, hPoint, Registry.extendFor_pointId]
    exact Registry.withPoint_withPoint hDistinct
  constructor
  · intro h
    have hEntity := (h.entity_eq_point hDenotes).trans hPoint
    have hBound := h.bound_eq
    rw [hEntity, hExtended, ← hEntity] at hBound
    exact ⟨h.name_read, h.reference_read, h.namespace_eq, h.kind_eq,
      hEntity ▸ h.refer_eq_point hDenotes _, hBound, h.capabilities_read, h.generated,
      h.functions_eq, h.cache_eq⟩
  · intro h
    have hEntity := h.entity_eq_point hDenotes
    have hBound := h.bound_eq
    rw [hEntity, ← hExtended, ← hEntity] at hBound
    exact ⟨h.name_read, h.reference_read, h.namespace_eq, h.kind_eq,
      (hEntity.trans hPoint.symm) ▸ h.refer_eq_point hDenotes _, hBound, h.capabilities_read,
      h.generated, h.functions_eq, h.cache_eq⟩

theorem Derives.isSome_point (h : Derives settings aliases navigations state node outcome next)
    (hDistinct : state.registry.Distinct) (hDenotes : node.DenotesPoint aliases) :
    (next.registry.lookup EdmType.edmNamespace EdmType.pointName).isSome := by
  have h' := (derives_addPoint_iff hDistinct hDenotes).2 h
  rw [(h'.keeps hDistinct.withPoint).lookup (h.distinct hDistinct)
    (Registry.lookup_withPoint hDistinct)]
  rfl

end Step

/-- Where the point record is not registered, neither a type nor an extension has its name. -/
theorem point_notMem_keys {r : Registry}
    (hFresh : r.lookup EdmType.edmNamespace EdmType.pointName = none) (aliases : AliasTable)
    (node : MemberNode) : (EdmType.edmNamespace, EdmType.pointName) ∉
      r.outline.map NamedType.key ++ node.extensionKeys r aliases := by
  rw [List.mem_append]
  rintro (hOld | hNew)
  · have hHere := Registry.isSome_lookup_iff.2 hOld
    rw [hFresh] at hHere
    cases hHere
  · exact MemberNode.ne_point_of_mem_extensionKeys hNew rfl

section Bound

variable {settings : Settings} {aliases : AliasTable} {navigations : List Navigation}
  {state next next' : Derivation} {node : MemberNode} {outcome outcome' : MemberOutcome}
  {name : String} {entity : TypeId} (hDistinct : state.registry.Distinct)
  (hSound : state.registry.Sound navigations)
  (hFresh : state.registry.lookup EdmType.edmNamespace EdmType.pointName = none)
  (hBound : node.Bound state.registry aliases name entity)

include hDistinct hSound hFresh hBound

/-- A member that is bound to another type does not add the point record. -/
theorem Derives.lookup_point_eq_none
    (h : Derives settings aliases navigations state node outcome next) :
    next.registry.lookup EdmType.edmNamespace EdmType.pointName = none := by
  have hFree := point_notMem_keys hFresh aliases node
  rw [← h.map_key_outline hBound hSound hDistinct.follows, ← Registry.isSome_lookup_iff] at hFree
  exact Option.not_isSome_iff_eq_none.1 hFree

/-- A bound member can be derived with the point record in front of it as well as without it. -/
theorem exists_derives_addPoint_iff :
    (∃ outcome next, Derives settings aliases navigations state.addPoint node outcome next) ↔
      ∃ outcome next, Derives settings aliases navigations state node outcome next := by
  have hKeys : state.addPoint.registry.outline.map NamedType.key =
      state.registry.outline.map NamedType.key ++ [(EdmType.edmNamespace, EdmType.pointName)] := by
    rw [addPoint, Registry.withPoint_eq_append hFresh, Registry.outline_append, List.map_append]
    rfl
  have hFollows : state.registry.Follows state.addPoint.registry :=
    Registry.follows_withPoint hDistinct
  rw [exists_derives_iff hBound hSound hDistinct.follows, exists_derives_iff hBound hSound hFollows,
    hKeys, List.append_assoc, List.singleton_append, List.nodup_middle, List.nodup_cons]
  exact and_iff_right (point_notMem_keys hFresh aliases node)

/-- With the point record in front of it, a bound member adds its extensions one place later. -/
theorem Derives.renamed_addPoint
    (h : Derives settings aliases navigations state node outcome next)
    (h' : Derives settings aliases navigations state.addPoint node outcome' next') :
    ∃ σ, state.registry.FixedBy σ ∧ next.registry.withPoint.Renamed σ next'.registry ∧
      outcome'.made = renameMade σ outcome.made := by
  have hFollows : state.registry.Follows state.addPoint.registry :=
    Registry.follows_withPoint hDistinct
  have hAdded : state.addPoint.registry =
      state.registry.append [.structured Registry.pointRecord] :=
    Registry.withPoint_eq_append hFresh
  obtain ⟨s, hStructure⟩ := Option.isSome_iff_exists.1 hBound.structured
  obtain ⟨named, hNamed, hNext⟩ := h.registry_eq hBound hSound hDistinct.follows hStructure
  obtain ⟨_, hLater, hNext'⟩ := h'.registry_eq hBound hSound hFollows hStructure
  rw [hAdded, Registry.edit_append hNamed] at hLater
  cases hLater
  rw [Registry.append_append] at hNext'
  have hSize := Registry.size_of_edit hNamed
  generalize hTypes : node.added navigations settings.expansions state.registry name entity s =
    types at *
  have hFixed := named.fixedBy_exchange types.length 1
  have hStart : state.registry.FixedBy (named.exchange types.length 1) :=
    hFixed.of_size_le (Nat.le_of_eq hSize.symm)
  refine ⟨named.exchange types.length 1, hStart, ?_, ?_⟩
  · rw [Registry.withPoint_eq_append (h.lookup_point_eq_none hDistinct hSound hFresh hBound), hNext,
      Registry.append_append, hNext']
    refine Registry.renamed_exchange types [.structured Registry.pointRecord]
      (fun id type hType => ?_) fun type hType => ?_
    · exact (hSound.named hNamed).rename_eq hFixed hType
    · rcases List.mem_append.1 hType with hHere | hThere
      · exact hBound.rename_added hSound hStart _ _ type (hTypes ▸ hHere)
      · rw [List.mem_singleton.1 hThere]
        rfl
  · rw [h.made_eq hBound hSound hDistinct.follows, h'.made_eq hBound hSound hFollows]
    refine (hBound.renameMade_madeAt hSound hStart settings.expansions s fun i hi => ?_).symm
    rw [hTypes] at hi
    rw [hAdded, Registry.size_append, ← hSize]
    exact named.exchange_first hi

end Bound

/-- What deriving members gives without the point record, and what it gives with the record in front
of them: the same, once the record is added and places are renamed. -/
structure PointMoved (σ : Equiv.Perm TypeId) (start : Registry) (outcomes : List MemberOutcome)
    (last : Registry) (outcomes' : List MemberOutcome) (last' : Registry) : Prop where
  fixed : start.FixedBy σ
  renamed : last.withPoint.Renamed σ last'
  made_eq : outcomes'.map MemberOutcome.made = (outcomes.map MemberOutcome.made).map (renameMade σ)

/-- Nothing moves where the point record is known anyway. -/
theorem PointMoved.refl (start : Registry) (outcomes : List MemberOutcome) {last : Registry}
    (h : (last.lookup EdmType.edmNamespace EdmType.pointName).isSome) :
    PointMoved (Equiv.refl TypeId) start outcomes last outcomes last where
  fixed _ _ := rfl
  renamed := by
    rw [Registry.withPoint_eq_self h]
    exact .refl last
  made_eq :=
    ((List.map_congr_left fun made _ => renameMade_refl made).trans (List.map_id _)).symm

section Run

variable {settings : Settings} {aliases : AliasTable} {navigations : List Navigation}
  {known : List (String × String)} {state last last' : Derivation} {nodes : List MemberNode}
  {outcomes outcomes' : List MemberOutcome}

/-- One member more in front of others. -/
theorem PointMoved.cons {σ τ : Equiv.Perm TypeId} {middle : Derivation} {node : MemberNode}
    {outcome outcome' : MemberOutcome} {moved : List MemberOutcome} {next : Registry}
    (hReady : state.registry.Ready navigations known)
    (first : Derives settings aliases navigations state node outcome middle)
    (hFixed : state.registry.FixedBy τ) (hMade : outcome'.made = renameMade τ outcome.made)
    (rest : PointMoved σ middle.registry outcomes last.registry moved next)
    (hRenamed : next.Renamed τ last'.registry)
    (hAll : outcomes'.map MemberOutcome.made = (moved.map MemberOutcome.made).map (renameMade τ)) :
    PointMoved (σ.trans τ) state.registry (outcome :: outcomes) last.registry
      (outcome' :: outcomes') last'.registry where
  fixed := (rest.fixed.of_size_le (first.keeps hReady.distinct).size_le).trans hFixed
  renamed := rest.renamed.trans hRenamed
  made_eq := by
    have hFirst := first.renameMade_eq hReady.distinct hReady.sound rest.fixed
    rw [List.map_cons, List.map_cons, List.map_cons, hAll, rest.made_eq, List.map_map, hMade,
      renameMade_trans, hFirst]
    exact congrArg _ (List.map_congr_left fun made _ => (renameMade_trans σ τ made).symm)

/-- A member that is bound to another type than the point record is bound without the record. -/
theorem Derives.bound_of_addPoint {next : Derivation} {node : MemberNode}
    {outcome : MemberOutcome} (hDistinct : state.registry.Distinct)
    (h : Derives settings aliases navigations state.addPoint node outcome next)
    (hOther : ¬ node.DenotesPoint aliases) :
    node.Bound state.registry aliases outcome.member.name outcome.member.entity := by
  refine h.bound_of_found (Registry.follows_withPoint hDistinct) fun key hKey => ?_
  have hFound := h.found (fun hDenotes => absurd hDenotes hOther) key hKey
  rcases state.registry.withPoint_cases with ⟨_, _, _, hEq⟩ | ⟨_, _, hEq⟩
  · rwa [addPoint, hEq] at hFound
  · rw [addPoint, hEq, Registry.isSome_lookup_iff, Registry.outline_push, List.map_append] at hFound
    rcases List.mem_append.1 hFound with hOld | hNew
    · exact Registry.isSome_lookup_iff.2 hOld
    · obtain rfl : key = (EdmType.edmNamespace, EdmType.pointName) := List.mem_singleton.1 hNew
      exact absurd hKey hOther

/-- Members that denote the point record leave it registered. -/
theorem DerivesAll.isSome_point
    (h : DerivesAll settings aliases navigations state nodes outcomes last)
    (hDistinct : state.registry.Distinct) (hDenotes : ∃ node ∈ nodes, node.DenotesPoint aliases) :
    (last.registry.lookup EdmType.edmNamespace EdmType.pointName).isSome := by
  induction h with
  | nil state => simp at hDenotes
  | cons first rest ih =>
      have hMiddle := first.distinct hDistinct
      obtain ⟨node, hNode, hHere⟩ := hDenotes
      rcases List.mem_cons.1 hNode with rfl | hLater
      · exact (rest.keeps hMiddle).isSome_lookup (rest.distinct hMiddle)
          (first.isSome_point hDistinct hHere)
      · exact ih hMiddle ⟨node, hLater, hHere⟩

/-- Members that can be derived can also be derived with the point record in front of them. -/
theorem DerivesAll.exists_addPoint (hReady : state.registry.Ready navigations known)
    (hFresh : state.registry.lookup EdmType.edmNamespace EdmType.pointName = none)
    (h : DerivesAll settings aliases navigations state nodes outcomes last) :
    ∃ outcomes' last' σ,
      DerivesAll settings aliases navigations state.addPoint nodes outcomes' last' ∧
      PointMoved σ state.registry outcomes last.registry outcomes' last'.registry := by
  induction h with
  | nil state =>
      exact ⟨[], state.addPoint, Equiv.refl TypeId, .nil _, fun _ _ => rfl, .refl _, rfl⟩
  | @cons state middle last node nodes outcome outcomes first rest ih =>
      have hMiddle := first.ready hReady
      by_cases hDenotes : node.DenotesPoint aliases
      · -- from here on both are the same
        exact ⟨_, _, Equiv.refl TypeId,
          .cons ((derives_addPoint_iff hReady.distinct hDenotes).2 first) rest,
          .refl _ _ ((DerivesAll.cons first rest).isSome_point hReady.distinct
            ⟨node, List.mem_cons_self, hDenotes⟩)⟩
      · have hBound := first.bound_of_found hReady.distinct.follows
          (first.found fun hHere => absurd hHere hDenotes)
        obtain ⟨outcome', middle', first'⟩ := (exists_derives_addPoint_iff hReady.distinct
          hReady.sound hFresh hBound).2 ⟨_, _, first⟩
        obtain ⟨τ, hFixed, hRenamed, hMade⟩ :=
          first.renamed_addPoint hReady.distinct hReady.sound hFresh hBound first'
        obtain ⟨moved, next, σ, hRest, hMoved⟩ := ih hMiddle
          (first.lookup_point_eq_none hReady.distinct hReady.sound hFresh hBound)
        obtain ⟨outcomes', last', hRest', hLast, hAll⟩ := hRest.rename
          (hReady.navigations_same τ hFixed)
          (show middle.addPoint.registry.Renamed τ middle'.registry from hRenamed)
          hMiddle.withPoint.distinct
        exact ⟨_, _, σ.trans τ, .cons first' hRest',
          hMoved.cons hReady first hFixed hMade hLast hAll⟩

/-- Members that can be derived with the point record in front of them can be derived without. -/
theorem DerivesAll.exists_removePoint (hReady : state.registry.Ready navigations known)
    (hFresh : state.registry.lookup EdmType.edmNamespace EdmType.pointName = none)
    (h : DerivesAll settings aliases navigations state.addPoint nodes outcomes' last') :
    ∃ outcomes last σ, DerivesAll settings aliases navigations state nodes outcomes last ∧
      PointMoved σ state.registry outcomes last.registry outcomes' last'.registry := by
  induction nodes generalizing state outcomes' last' with
  | nil =>
      cases h
      exact ⟨[], state, Equiv.refl TypeId, .nil _, fun _ _ => rfl, .refl _, rfl⟩
  | cons node nodes ih =>
      cases h with
      | @cons _ middle' _ _ _ outcome' outcomes' first' rest' =>
      by_cases hDenotes : node.DenotesPoint aliases
      · have first := (derives_addPoint_iff hReady.distinct hDenotes).1 first'
        exact ⟨_, _, Equiv.refl TypeId, .cons first rest',
          .refl _ _ ((DerivesAll.cons first rest').isSome_point hReady.distinct
            ⟨node, List.mem_cons_self, hDenotes⟩)⟩
      · have hBound := first'.bound_of_addPoint hReady.distinct hDenotes
        obtain ⟨outcome, middle, first⟩ := (exists_derives_addPoint_iff hReady.distinct
          hReady.sound hFresh hBound).1 ⟨_, _, first'⟩
        obtain ⟨τ, hFixed, hRenamed, hMade⟩ :=
          first.renamed_addPoint hReady.distinct hReady.sound hFresh hBound first'
        have hMiddle := first.ready hReady
        -- the rest is first derived in the registry where the point record has just been added
        obtain ⟨moved, next, hRest, hNext, hAll⟩ := rest'.rename
          (hReady.navigations_same τ.symm hFixed.symm)
          (show middle'.registry.Renamed τ.symm middle.addPoint.registry from hRenamed.symm)
          (first'.distinct hReady.withPoint.distinct)
        obtain ⟨outcomes, last, σ, hDerives, hMoved⟩ := ih hMiddle
          (first.lookup_point_eq_none hReady.distinct hReady.sound hFresh hBound) hRest
        exact ⟨_, _, σ.trans τ, .cons first hDerives,
          hMoved.cons hReady first hFixed hMade hNext.symm (map_renameMade_symm τ hAll)⟩

/-- Members can be derived in any order in which none is moved past another one that it depends on,
whether one of them denotes the point record or not. -/
theorem DerivesAll.exists_exchanged {nodes' : List MemberNode}
    (hReorders : Reorders (MemberNode.MayPass aliases known) nodes nodes')
    (hReady : state.registry.Ready navigations known)
    (h : DerivesAll settings aliases navigations state nodes outcomes last) :
    ∃ outcomes' last' σ, DerivesAll settings aliases navigations state nodes' outcomes' last' ∧
      state.registry.FixedBy σ ∧
      last.registry.Resembles σ (2 ≤ boundTimes outcomes ·) last'.registry ∧
      (outcomes'.map MemberOutcome.made).Perm
        ((outcomes.map MemberOutcome.made).map (renameMade σ)) := by
  by_cases hPoint : ∀ node ∈ nodes, node.DenotesPoint aliases →
      (state.registry.lookup EdmType.edmNamespace EdmType.pointName).isSome
  · exact h.exists_reordered hReorders hReady hPoint
  · push Not at hPoint
    obtain ⟨node, hNode, hDenotes, hNone⟩ := hPoint
    have hFresh := Option.not_isSome_iff_eq_none.1 hNone
    -- the point record is put in front, the members are reordered, and it is taken back
    obtain ⟨outcomes₁, last₁, σ₁, hDerives₁, hMoved₁⟩ := h.exists_addPoint hReady hFresh
    obtain ⟨outcomes₂, last₂, σ₂, hDerives₂, hFixed, hResembles, hMade⟩ :=
      hDerives₁.exists_reordered hReorders hReady.withPoint fun _ _ _ => by
        rw [addPoint, Registry.lookup_withPoint hReady.distinct]
        rfl
    obtain ⟨outcomes₃, last₃, σ₃, hDerives₃, hMoved₃⟩ :=
      hDerives₂.exists_removePoint hReady hFresh
    have hLast := hMoved₁.renamed
    have hLast₃ := hMoved₃.renamed
    rw [Registry.withPoint_eq_self
      (h.isSome_point hReady.distinct ⟨node, hNode, hDenotes⟩)] at hLast
    rw [Registry.withPoint_eq_self (hDerives₃.isSome_point hReady.distinct
      ⟨node, hReorders.perm.mem_iff.2 hNode, hDenotes⟩)] at hLast₃
    have hTimes := boundTimes_eq_of_perm (.of_eq hMoved₁.made_eq)
    refine ⟨outcomes₃, last₃, (σ₁.trans σ₂).trans σ₃.symm, hDerives₃,
      (hMoved₁.fixed.trans (hFixed.of_size_le (Registry.keeps_withPoint _).size_le)).trans
        hMoved₃.fixed.symm,
      (hLast.resembles.trans (hResembles.imp fun id hTwice => ?_)).trans hLast₃.symm.resembles, ?_⟩
    · rwa [← hTimes, Equiv.apply_symm_apply]
    · rw [map_renameMade_symm σ₃.symm hMoved₃.made_eq]
      refine (hMade.map _).trans (.of_eq ?_)
      rw [hMoved₁.made_eq, List.map_map, List.map_map]
      refine List.map_congr_left fun made _ => ?_
      rw [renameMade_trans, renameMade_trans]
      rfl

end Run

end Derivation

end Csdl
