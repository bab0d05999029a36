import Csdl.Metadata.Document
import Csdl.Proofs.Registry.Growth
import Mathlib.Data.Option.Basic

/-! What the first two stages leave behind: all enumerations, then the stubs of all structures, in
the order of the document, and one declaration for each structure. The place in a declaration is
where the name of the structure leads to. -/
namespace Csdl

open Query (bind_eq_ok)

/-- A structure declared in a namespace, whose name has been read. -/
structure Announcement where
  namespaceName : String
  kind : StructureKind
  node : Xml.Node
  name : String

namespace Announcement

/-- Reads the name of a structure declared in a namespace. -/
def read (declared : String × StructureKind × Xml.Node) : Except Error Announcement :=
  (Markup.required declared.2.2 "Name").map fun name =>
    ⟨declared.1, declared.2.1, declared.2.2, name⟩

/-- The structure without content that is registered for an announcement. -/
def stub (settings : Settings) (a : Announcement) : Structure :=
  Schema.stub ⟨a.namespaceName, a.node⟩ settings a.kind a.name

/-- The declaration of an announced structure, at the place that its name leads to. -/
def declarationIn (registry : Registry) (a : Announcement) : Declaration where
  id := (registry.lookup a.namespaceName a.name).getD registry.nextId
  namespaceName := a.namespaceName
  name := a.name
  node := a.node

end Announcement

namespace Schema

/-- Reads an enumeration declared in a namespace. -/
def enumerationOf (declared : String × Xml.Node) : Except Error Enumeration := do
  let name ← Markup.required declared.2 "Name"
  let members ← Markup.requiredOfAll (Markup.children declared.2 "Member") "Name"
  return { namespaceName := declared.1, name, members }

/-- The elements that declare enumerations, with their namespaces. -/
def declaredEnumerations (schemas : List Schema) : List (String × Xml.Node) :=
  schemas.flatMap fun schema => (Markup.children schema.node "EnumType").map fun node =>
    (schema.namespaceName, node)

/-- The elements that declare structures, with their namespaces. -/
def declaredStructures (schemas : List Schema) : List (String × StructureKind × Xml.Node) :=
  schemas.flatMap fun schema => schema.structureNodes.map fun declared =>
    (schema.namespaceName, declared)

/-- Registers a declared enumeration. No more than the namespace of its schema matters. -/
def register (r : Registry) (declared : String × Xml.Node) : Except Error Registry :=
  (registerEnumeration ⟨declared.1, declared.2⟩ r declared.2).result

/-- Announces a declared structure. No more than the namespace of its schema matters. -/
def announceIn (settings : Settings) (state : Registry × List Declaration)
    (declared : String × StructureKind × Xml.Node) : Except Error (Registry × List Declaration) :=
  (announce settings ⟨declared.1, declared.2.2⟩ state declared.2).result

/-- An enumeration is registered exactly if it can be read and its name is free. -/
theorem register_eq_ok {r r' : Registry} {declared : String × Xml.Node} :
    register r declared = .ok r' ↔
      ∃ e, enumerationOf declared = .ok e ∧ r.lookup e.namespaceName e.name = none ∧
        r' = r.push (.enumeration e) := by
  simp only [register, registerEnumeration, enumerationOf, Logged.result_bind, Logged.result_ofExcept,
    Logged.result_tell, Logged.result_pure, bind_eq_ok]
  constructor
  · rintro ⟨name, hName, members, hMembers, _, _, ⟨id, _⟩, hRegister, hEq⟩
    obtain ⟨hFresh, _, rfl⟩ := Registry.register_eq_ok.1 hRegister
    exact ⟨_, ⟨name, hName, members, hMembers, rfl⟩, hFresh, (Except.ok.inj hEq).symm⟩
  · rintro ⟨e, ⟨name, hName, members, hMembers, hRead⟩, hFresh, rfl⟩
    cases hRead
    exact ⟨name, hName, members, hMembers, (), trivial, (r.nextId, _),
      Registry.register_eq_ok.2 ⟨hFresh, rfl, rfl⟩, rfl⟩

/-- A structure is announced exactly if its element can be read and its name is free, and its
declaration waits behind the earlier ones. -/
theorem announceIn_eq_ok {settings : Settings} {r r' : Registry}
    {before after : List Declaration} {declared : String × StructureKind × Xml.Node} :
    announceIn settings (r, before) declared = .ok (r', after) ↔
      ∃ a, Announcement.read declared = .ok a ∧ r.lookup a.namespaceName a.name = none ∧
        r' = r.push (.structured (a.stub settings)) ∧
        after = before ++ [⟨r.nextId, a.namespaceName, a.name, a.node⟩] := by
  obtain ⟨space, kind, node⟩ := declared
  simp only [announceIn, announce, Announcement.read, Logged.result_bind, Logged.result_ofExcept,
    Logged.result_tell, Logged.result_pure, bind_eq_ok, map_eq_ok]
  constructor
  · rintro ⟨name, hName, _, _, ⟨id, _⟩, hRegister, hEq⟩
    obtain ⟨hFresh, rfl, rfl⟩ := Registry.register_eq_ok.1 hRegister
    cases hEq
    exact ⟨_, ⟨name, hName, rfl⟩, hFresh, rfl, rfl⟩
  · rintro ⟨a, ⟨name, hName, rfl⟩, hFresh, rfl, rfl⟩
    exact ⟨name, hName, (), trivial, (r.nextId, _),
      Registry.register_eq_ok.2 ⟨hFresh, rfl, rfl⟩, rfl⟩

end Schema

namespace Registry

/-- A type that stands behind distinct types has a new name. -/
theorem Distinct.lookup_eq_none_of_append {r : Registry} (hDistinct : r.Distinct)
    {type : NamedType} {types : List NamedType} (h : (r.append (type :: types)).Distinct) :
    r.lookup type.namespaceName type.name = none := by
  rw [append_cons] at h
  exact hDistinct.push_iff.1 ((keeps_append _ types).distinct h)

/-- The first of some added types is found at the next place. -/
theorem lookup_append_cons {r : Registry} {type : NamedType} {types : List NamedType}
    (h : (r.append (type :: types)).Distinct) :
    (r.append (type :: types)).lookup type.namespaceName type.name = some r.nextId := by
  have hSize : r.size ≤ r.nextId.index := Nat.le_refl _
  refine h.lookup_eq_some_iff.2 ⟨type, ?_, rfl⟩
  rw [get?_append_of_le hSize]
  simp [nextId]

end Registry

namespace Schema

/-- All enumerations are registered exactly if all of them can be read and no name occurs twice,
also among what was there before. -/
theorem foldlM_register_eq_ok {declared : List (String × Xml.Node)} {r r' : Registry}
    (hDistinct : r.Distinct) :
    declared.foldlM register r = .ok r' ↔
      ∃ es, declared.mapM enumerationOf = .ok es ∧ r' = r.append (es.map .enumeration) ∧
        r'.Distinct := by
  induction declared generalizing r with
  | nil =>
      simp only [List.foldlM_nil, List.mapM_nil]
      constructor
      · intro h
        cases h
        exact ⟨[], rfl, by simp, hDistinct⟩
      · rintro ⟨es, hRead, rfl, _⟩
        cases hRead
        simp [pure, Except.pure]
  | cons d declared ih =>
      simp only [List.foldlM_cons, List.mapM_cons, bind_eq_ok, register_eq_ok]
      constructor
      · rintro ⟨_, ⟨e, hRead, hFresh, rfl⟩, hRest⟩
        have hNext : (r.push (.enumeration e)).Distinct := hDistinct.push hFresh
        obtain ⟨es, hReads, rfl, hAll⟩ := (ih hNext).1 hRest
        rw [← Registry.append_cons] at hAll ⊢
        exact ⟨e :: es, ⟨e, hRead, es, hReads, rfl⟩, rfl, hAll⟩
      · rintro ⟨_, ⟨e, hRead, es, hReads, hEq⟩, rfl, hAll⟩
        cases hEq
        have hFresh := hDistinct.lookup_eq_none_of_append hAll
        refine ⟨_, ⟨e, hRead, hFresh, rfl⟩, (ih (hDistinct.push hFresh)).2 ⟨es, hReads, ?_⟩⟩
        rw [List.map_cons, Registry.append_cons] at hAll ⊢
        exact ⟨rfl, hAll⟩

/-- All structures are announced exactly if all of them can be read and no name occurs twice. Each
is at the place that its declaration names. -/
theorem foldlM_announceIn_eq_ok {settings : Settings}
    {declared : List (String × StructureKind × Xml.Node)} {r r' : Registry}
    {before after : List Declaration} (hDistinct : r.Distinct) :
    declared.foldlM (announceIn settings) (r, before) = .ok (r', after) ↔
      ∃ as, declared.mapM Announcement.read = .ok as ∧
        r' = r.append (as.map fun a => .structured (a.stub settings)) ∧ r'.Distinct ∧
        after = before ++ as.map (·.declarationIn r') := by
  induction declared generalizing r before with
  | nil =>
      simp only [List.foldlM_nil, List.mapM_nil]
      constructor
      · intro h
        cases h
        exact ⟨[], rfl, by simp, hDistinct, by simp⟩
      · rintro ⟨as, hRead, rfl, _, rfl⟩
        cases hRead
        simp [pure, Except.pure]
  | cons d declared ih =>
      simp only [List.foldlM_cons, List.mapM_cons, bind_eq_ok]
      constructor
      · rintro ⟨⟨middle, announced⟩, hHead, hRest⟩
        obtain ⟨a, hRead, hFresh, rfl, rfl⟩ := announceIn_eq_ok.1 hHead
        have hNext : (r.push (.structured (a.stub settings))).Distinct := hDistinct.push hFresh
        obtain ⟨as, hReads, rfl, hAll, rfl⟩ := (ih hNext).1 hRest
        rw [← Registry.append_cons] at hAll ⊢
        refine ⟨a :: as, ⟨a, hRead, as, hReads, rfl⟩, rfl, hAll, ?_⟩
        -- the first structure is still found at its place once all others are announced
        have hPlace := Registry.lookup_append_cons hAll
        simp only [NamedType.namespaceName, NamedType.name, Announcement.stub, stub] at hPlace
        simp [Announcement.declarationIn, hPlace, Announcement.stub, stub]
      · rintro ⟨_, ⟨a, hRead, as, hReads, hEq⟩, rfl, hAll, rfl⟩
        cases hEq
        have hFresh := hDistinct.lookup_eq_none_of_append hAll
        refine ⟨(_, _), announceIn_eq_ok.2 ⟨a, hRead, hFresh, rfl, rfl⟩,
          (ih (hDistinct.push hFresh)).2 ⟨as, hReads, ?_⟩⟩
        have hPlace := Registry.lookup_append_cons hAll
        simp only [NamedType.namespaceName, NamedType.name, Announcement.stub, stub] at hPlace
        rw [List.map_cons, Registry.append_cons] at hAll
        refine ⟨Registry.append_cons .., ?_, ?_⟩
        · rw [List.map_cons, Registry.append_cons]
          exact hAll
        · simp [Announcement.declarationIn, hPlace, Announcement.stub, stub]

/-- Registering schema by schema is registering all enumerations in one row. -/
theorem result_foldlM_registerEnumerations (schemas : List Schema) (r : Registry) :
    (schemas.foldlM registerEnumerations r).result =
      (declaredEnumerations schemas).foldlM register r := by
  rw [Logged.result_foldlM, declaredEnumerations, foldlM_flatMap]
  refine congrArg (fun f => schemas.foldlM f r) ?_
  funext r schema
  rw [registerEnumerations, Logged.result_foldlM, List.foldlM_map]
  rfl

/-- Announcing schema by schema is announcing all structures in one row. -/
theorem result_foldlM_announceAll (settings : Settings) (schemas : List Schema)
    (state : Registry × List Declaration) :
    (schemas.foldlM (announceAll settings) state).result =
      (declaredStructures schemas).foldlM (announceIn settings) state := by
  rw [Logged.result_foldlM, declaredStructures, foldlM_flatMap]
  apply congrArg (fun f => schemas.foldlM f state)
  funext state schema
  rw [announceAll, Logged.result_foldlM, List.foldlM_map]
  rfl

end Schema

namespace Metadata

/-- What the first two stages have read and registered. -/
structure Declares (settings : Settings) (schemas : List Schema)
    (enumerations : List Enumeration) (announcements : List Announcement)
    (stubs : Registry) (declarations : List Declaration) : Prop where
  enumerations_read :
    (Schema.declaredEnumerations schemas).mapM Schema.enumerationOf = .ok enumerations
  announcements_read :
    (Schema.declaredStructures schemas).mapM Announcement.read = .ok announcements
  stubs_eq : stubs = ({} : Registry).append (enumerations.map .enumeration ++
    announcements.map fun a => .structured (a.stub settings))
  distinct : stubs.Distinct
  declarations_eq : declarations = announcements.map (·.declarationIn stubs)

/-- The first two stages succeed exactly if all names can be read and are distinct. -/
theorem declare_eq_ok {settings : Settings} {schemas : List Schema} {stubs : Registry}
    {declarations : List Declaration} :
    (declare settings schemas).result = .ok (stubs, declarations) ↔
      ∃ enumerations announcements,
        Declares settings schemas enumerations announcements stubs declarations := by
  simp only [declare, Logged.result_bind, bind_eq_ok, Schema.result_foldlM_registerEnumerations,
    Schema.result_foldlM_announceAll, Logged.result_tell, Logged.result_pure,
    Schema.foldlM_register_eq_ok Registry.distinct_empty]
  constructor
  · rintro ⟨r, ⟨es, hEnums, rfl, hFirst⟩, ⟨r', ds⟩, hAnnounce, _, _, hEq⟩
    cases hEq
    obtain ⟨as, hNames, rfl, hDistinct, rfl⟩ :=
      (Schema.foldlM_announceIn_eq_ok hFirst).1 hAnnounce
    exact ⟨es, as, hEnums, hNames, Registry.append_append .., hDistinct, List.nil_append _⟩
  · rintro ⟨es, as, hEnums, hNames, rfl, hDistinct, rfl⟩
    rw [← Registry.append_append] at hDistinct ⊢
    have hFirst := (Registry.keeps_append _ _).distinct hDistinct
    exact ⟨_, ⟨es, hEnums, rfl, hFirst⟩, _, (Schema.foldlM_announceIn_eq_ok hFirst).2
      ⟨as, hNames, rfl, hDistinct, rfl⟩, (), trivial, rfl⟩

namespace Declares

variable {settings : Settings} {schemas : List Schema} {enumerations : List Enumeration}
  {announcements : List Announcement} {stubs : Registry} {declarations : List Declaration}

/-- The name of an announced structure leads to its stub. -/
theorem lookup_announcement
    (h : Declares settings schemas enumerations announcements stubs declarations)
    {a : Announcement} (hMem : a ∈ announcements) :
    ∃ id, stubs.lookup a.namespaceName a.name = some id ∧
      stubs.structure? id = some (a.stub settings) ∧ (a.declarationIn stubs).id = id := by
  obtain ⟨i, hi, hEq⟩ := List.getElem_of_mem hMem
  have hGet : stubs.get? ⟨enumerations.length + i⟩ = some (.structured (a.stub settings)) := by
    rw [h.stubs_eq, Registry.get?_append_of_le (Nat.zero_le _)]
    simp [Registry.size, hi, hEq]
  have hFound := h.distinct.lookup_eq_some_iff.2 ⟨_, hGet, rfl⟩
  exact ⟨_, hFound, Registry.structure?_eq_some.2 hGet,
    congrArg (·.getD stubs.nextId) hFound⟩

/-- The places of announced structures differ, because their names do. -/
theorem nodup_ids (h : Declares settings schemas enumerations announcements stubs declarations) :
    (announcements.map fun a => (a.declarationIn stubs).id).Nodup := by
  have hKeys := Registry.distinct_iff_nodup.1 h.distinct
  rw [h.stubs_eq, Registry.outline_append, List.map_append, List.map_append,
    List.map_append, ← List.append_assoc] at hKeys
  have hNames := (List.nodup_append.1 hKeys).2.1.map (Option.some_injective _)
  refine List.Nodup.of_map (fun id => (stubs.get? id).map NamedType.key) ?_
  convert hNames using 1
  simp only [List.map_map]
  apply List.map_congr_left
  intro a ha
  obtain ⟨id, _, hStub, hId⟩ := h.lookup_announcement ha
  simp only [Function.comp_apply, hId, Registry.structure?_eq_some.1 hStub, Option.map_some,
    NamedType.key_outline]

/-- Each structure among the stubs has been announced. -/
theorem exists_announcement
    (h : Declares settings schemas enumerations announcements stubs declarations)
    {id : TypeId} {s : Structure} (hStructure : stubs.structure? id = some s) :
    ∃ a ∈ announcements, s = a.stub settings ∧ (a.declarationIn stubs).id = id := by
  have hGet := Registry.structure?_eq_some.1 hStructure
  have hMem : NamedType.structured s ∈ enumerations.map NamedType.enumeration ++
      announcements.map fun a => NamedType.structured (a.stub settings) := by
    rw [h.stubs_eq, Registry.get?_append_of_le (Nat.zero_le _)] at hGet
    exact List.mem_of_getElem? hGet
  rcases List.mem_append.1 hMem with hEnum | hStub
  · obtain ⟨e, _, hEq⟩ := List.mem_map.1 hEnum
    cases hEq
  · obtain ⟨a, ha, hEq⟩ := List.mem_map.1 hStub
    obtain rfl := NamedType.structured.inj hEq
    obtain ⟨found, _, hFound, hId⟩ := h.lookup_announcement ha
    refine ⟨a, ha, rfl, hId.trans ?_⟩
    exact h.distinct found id _ _ (Registry.structure?_eq_some.1 hFound) hGet rfl

end Declares

end Metadata

end Csdl
