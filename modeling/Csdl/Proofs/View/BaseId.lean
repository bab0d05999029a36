import Csdl.Proofs.Metadata.Origin
import Csdl.Proofs.Registry.Tables
import Csdl.Proofs.View.Preparation

/-! The base id renames and does nothing else. A document that is read under a base id defines what
it defines without one, with the base id in front of each minted id, where it stands as the id of a
structure and where a foreign key names it. Built-in ids have no second dot, so they clash with none
of the new ids, and each id leads where it has led. -/
namespace Csdl

/-- A qualified id with a base id in front. Built-in ids stay as they are. -/
def qualify (base id : String) : String :=
  if EdmType.isEdmName id then id else base ++ "." ++ id

/-- An id with a dot in it, and with no other one if it is a built-in id. -/
structure IsDotted (id : String) : Prop where
  dotted : 0 < id.toList.count '.'
  count_eq : EdmType.isEdmName id = true → id.toList.count '.' = 1

namespace Text

/-- Whether a text without some character begins another is decided in front of that character. -/
theorem isPrefix_append_cons_iff {start cs : List Char} {c : Char} (rest : List Char)
    (h : c ∉ start) : start <+: cs ++ c :: rest ↔ start <+: cs := by
  induction start generalizing cs with
  | nil => simp
  | cons s start ih =>
      rw [List.mem_cons, not_or] at h
      cases cs with
      | nil => simp [List.cons_prefix_cons, Ne.symm h.1]
      | cons d cs => rw [List.cons_append, List.cons_prefix_cons, List.cons_prefix_cons, ih h.2]

/-- Whether a text that ends with its only mark begins another is decided up to any such mark. -/
theorem isPrefix_append_mark_iff {c : Char} (start : List Char) {cs : List Char} (rest : List Char)
    (h : c ∉ start) : start ++ [c] <+: cs ++ [c] ++ rest ↔ start ++ [c] <+: cs ++ [c] := by
  induction start generalizing cs with
  | nil => cases cs <;> simp [List.cons_prefix_cons]
  | cons s start ih =>
      rw [List.mem_cons, not_or] at h
      cases cs with
      | nil => simp [List.cons_prefix_cons, Ne.symm h.1]
      | cons d cs =>
          simp only [List.cons_append, List.cons_prefix_cons]
          rw [ih h.2]

end Text

namespace EdmType

/-- The suffix of an extension does not make an id built-in. -/
theorem isEdmName_append (id : String) {suffix : String}
    (h : suffix ∈ ["Insert", "Select", "Update"]) : isEdmName (id ++ suffix) = isEdmName id := by
  rw [Bool.eq_iff_iff, isEdmName_iff, isEdmName_iff, String.toList_append]
  simp only [List.mem_cons, List.not_mem_nil, or_false] at h
  rcases h with rfl | rfl | rfl
  · exact Text.isPrefix_append_cons_iff "nsert".toList (by decide)
  · exact Text.isPrefix_append_cons_iff "elect".toList (by decide)
  · exact Text.isPrefix_append_cons_iff "pdate".toList (by decide)

/-- Whether an id with a base id is built-in is decided by the base id. -/
theorem isEdmName_append_dot (base id : String) :
    isEdmName (base ++ "." ++ id) = isEdmName (base ++ ".") := by
  rw [Bool.eq_iff_iff, isEdmName_iff, isEdmName_iff, String.toList_append, String.toList_append]
  exact Text.isPrefix_append_mark_iff ['E', 'd', 'm'] id.toList (by decide)

end EdmType

section Qualify

variable {base a b : String}

/-- An id may be qualified before or after the suffix of an extension is put behind it. -/
theorem qualify_append (base id : String) {suffix : String}
    (h : suffix ∈ ["Insert", "Select", "Update"]) :
    qualify base (id ++ suffix) = qualify base id ++ suffix := by
  unfold qualify
  rw [EdmType.isEdmName_append id h]
  split
  · rfl
  · exact (String.append_assoc ..).symm

theorem qualify_of_isEdmName (h : EdmType.isEdmName a = true) : qualify base a = a :=
  if_pos h

theorem qualify_of_not_isEdmName (h : EdmType.isEdmName a = false) :
    qualify base a = base ++ "." ++ a :=
  if_neg (Bool.eq_false_iff.1 h)

/-- Ids are kept apart if no built-in one is another one with the base id in front. -/
theorem qualify_inj_of_ne
    (hLeft : EdmType.isEdmName a = true → a ≠ base ++ "." ++ b)
    (hRight : EdmType.isEdmName b = true → b ≠ base ++ "." ++ a) :
    qualify base a = qualify base b ↔ a = b := by
  refine ⟨fun h => ?_, congrArg (qualify base)⟩
  cases hEdm : EdmType.isEdmName a with
  | true =>
      cases hOther : EdmType.isEdmName b with
      | true => rwa [qualify_of_isEdmName hEdm, qualify_of_isEdmName hOther] at h
      | false =>
          rw [qualify_of_isEdmName hEdm, qualify_of_not_isEdmName hOther] at h
          exact absurd h (hLeft hEdm)
  | false =>
      cases hOther : EdmType.isEdmName b with
      | true =>
          rw [qualify_of_not_isEdmName hEdm, qualify_of_isEdmName hOther] at h
          exact absurd h.symm (hRight hOther)
      | false =>
          rw [qualify_of_not_isEdmName hEdm, qualify_of_not_isEdmName hOther] at h
          exact (String.append_right_inj _).1 h

/-- A base id brings one more dot than a built-in id has. -/
theorem IsDotted.ne_append (ha : IsDotted a) (hb : IsDotted b) (hEdm : EdmType.isEdmName a = true) :
    a ≠ base ++ "." ++ b := by
  rintro rfl
  have hOne := ha.count_eq hEdm
  have hMore := hb.dotted
  have hDot : ".".toList.count '.' = 1 := by decide
  rw [String.toList_append, String.toList_append, List.count_append, List.count_append, hDot] at hOne
  omega

/-- Any base id keeps dotted ids apart. -/
theorem IsDotted.qualify_inj (ha : IsDotted a) (hb : IsDotted b) :
    qualify base a = qualify base b ↔ a = b :=
  qualify_inj_of_ne (ha.ne_append hb) (hb.ne_append ha)

/-- A base id outside the built-in namespace keeps all ids apart. -/
theorem qualify_inj_of_base (hBase : EdmType.isEdmName (base ++ ".") = false) :
    qualify base a = qualify base b ↔ a = b := by
  have hNew : ∀ built id, EdmType.isEdmName built = true → built ≠ base ++ "." ++ id := by
    rintro _ id hEdm rfl
    rw [EdmType.isEdmName_append_dot, hBase] at hEdm
    cases hEdm
  exact qualify_inj_of_ne (hNew a b) (hNew b a)

end Qualify

namespace View

/-- The view of what has a base id in front of its ids. -/
def qualified (base : String) : View where
  ofKey key := { key with targetId := qualify base key.targetId }
  ofStructure s :=
    { s with
      id := qualify base s.id
      fields := s.fields.map fun field =>
        { field with foreignKey := field.foreignKey.map fun key =>
            { key with targetId := qualify base key.targetId } } }
  ofKey_eq _ _ _ := rfl
  name_eq _ := rfl
  namespaceName_eq _ := rfl
  keyPart_eq s := by
    simp only [Structure.keyPart, List.filter_map]
    rfl
  collectionName_eq _ _ := rfl
  pointRecord_eq := by
    have hPoint : EdmType.isEdmName Registry.pointRecord.id = true := by decide
    simp only [qualify_of_isEdmName hPoint]
    rfl

variable {base : String}

theorem showsFields_qualified : (qualified base).ShowsFields where
  fields_eq _ := rfl
  content_eq _ _ _ := rfl

/-- The id of an extension is made of an id with a base id as it is made of one without. -/
theorem extension_qualified (member : Member) (entity : Structure) {suffix : String}
    (h : suffix ∈ ["Insert", "Select", "Update"]) :
    member.extension ((qualified base).ofStructure entity) suffix =
      (qualified base).ofStructure (member.extension entity suffix) := by
  have hId := qualify_append base entity.id h
  simp only [Member.extension, qualified, hId, List.map_nil]

/-- The type that is written to a member of a qualified structure is the qualified type. Its
navigations have no foreign keys, in which ids might occur. -/
theorem payloadExtension_qualified {navigations : List Navigation}
    (hUnmarked : ∀ n ∈ navigations, n.field.foreignKey = none) (capabilities : Capabilities)
    (member : Member) (entity : Structure) {suffix : String}
    (hSuffix : suffix ∈ ["Insert", "Select", "Update"]) (properties names : List String) :
    Member.payloadExtension navigations capabilities member ((qualified base).ofStructure entity)
        suffix properties names =
      (qualified base).ofStructure (Member.payloadExtension navigations capabilities member entity
        suffix properties names) := by
  generalize hWhole : Member.payloadExtension navigations capabilities member entity suffix
    properties names = written
  have hFields : written.fields.map (qualified base).ofField = written.fields := by
    refine (List.map_congr_left fun field hField => ofField_of_unmarked _ ?_).trans (List.map_id _)
    rcases Member.mem_payloadExtension (hWhole ▸ hField) with ⟨n, hMem, _, hSame⟩ | ⟨_, rfl⟩
    · rw [hSame, hUnmarked n hMem]
    · rfl
  calc Member.payloadExtension navigations capabilities member ((qualified base).ofStructure entity)
        suffix properties names
      = { written with id := qualify base written.id } := by
        subst hWhole
        simp only [Member.payloadExtension, extension_qualified member entity hSuffix]
        rfl
    _ = { written with
          id := qualify base written.id
          fields := written.fields.map (qualified base).ofField } := by rw [hFields]
    _ = (qualified base).ofStructure written := rfl

/-- Extensions of what has a base id have it too. -/
theorem fits_qualified {navigations : List Navigation}
    (hUnmarked : ∀ n ∈ navigations, n.field.foreignKey = none) (member : Member) :
    (qualified base).Fits navigations navigations [] [] member where
  insert_eq capabilities entity :=
    payloadExtension_qualified hUnmarked capabilities member entity (by simp) _ _
  select_eq entity := by
    have hSelect : member.extension ((qualified base).ofStructure entity) "Select" =
        (qualified base).ofStructure (member.extension entity "Select") :=
      extension_qualified member entity (by simp)
    simp only [Member.selectExtension, Member.expandedFields_nil, List.map_nil, hSelect]
    rfl
  update_eq capabilities entity :=
    payloadExtension_qualified hUnmarked capabilities member entity (by simp) _ _

end View

/-- An id leads to the same type as its form in a view, if the view keeps it apart from the ids that
are there. -/
theorem View.lookupId_ofRegistry (view : View) {r : Registry} {id id' : String}
    (h : ∀ place s, r.structure? place = some s → ((view.ofStructure s).id = id' ↔ s.id = id)) :
    (view.ofRegistry r).lookupId id' = r.lookupId id := by
  have hPlaces : ∀ place : TypeId,
      (∃ s, (view.ofRegistry r).structure? place = some s ∧ s.id = id') ↔
        ∃ s, r.structure? place = some s ∧ s.id = id := by
    intro place
    rw [view.structure?_ofRegistry]
    constructor
    · rintro ⟨s', hSeen, hId⟩
      obtain ⟨s, hStructure, rfl⟩ := Option.map_eq_some_iff.1 hSeen
      exact ⟨s, hStructure, (h place s hStructure).1 hId⟩
    · rintro ⟨s, hStructure, hId⟩
      exact ⟨_, Option.map_eq_some_iff.2 ⟨s, hStructure, rfl⟩, (h place s hStructure).2 hId⟩
  have hOwner : ∀ (r : Registry) (id : String) place, r.lookupId id = some place ↔
      (∃ s, r.structure? place = some s ∧ s.id = id) ∧
        ∀ other, (∃ s, r.structure? other = some s ∧ s.id = id) → place.index ≤ other.index := by
    intro r id place
    simp only [Registry.lookupId_eq_some_iff, Registry.structure?_eq_some, exists_imp, and_imp]
  refine Option.ext fun place => ?_
  simp only [hOwner, hPlaces]

/-- Definitions that are the same but for a base id. The second is the first with the base id in
front of the ids of all structures and of what foreign keys name, unless those are built in, and
each id of the first leads to the same type with the base id in front. This holds of whatever is
looked up, unless the base id is in the built-in namespace itself. -/
structure Definition.SameButQualified (base : String) (definition definition' : Definition) :
    Prop where
  definition_eq : definition' = (View.qualified base).ofDefinition definition
  isEdmName_iff : ∀ id s, definition.registry.structure? id = some s →
    (EdmType.isEdmName s.id = true ↔ definition.registry.BuiltIn id)
  isEdmName_target_iff : ∀ key, definition.HasKey key →
    (EdmType.isEdmName key.targetId = true ↔ ∃ id s,
      definition.registry.structure? id = some s ∧ s.id = key.targetId ∧
        definition.registry.BuiltIn id)
  lookupId_eq : ∀ id s, definition.registry.structure? id = some s →
    definition'.registry.lookupId (qualify base s.id) = definition.registry.lookupId s.id
  lookupId_eq_of_base : EdmType.isEdmName (base ++ ".") = false → ∀ id,
    definition'.registry.lookupId (qualify base id) = definition.registry.lookupId id

/-- The id of what is built in is a built-in id with one dot. -/
theorem Registry.BuiltIn.id_eq {r : Registry} {id : TypeId} (h : r.BuiltIn id) {s : Structure}
    (hStructure : r.structure? id = some s) :
    EdmType.isEdmName s.id = true ∧ s.id.toList.count '.' = 1 := by
  induction h generalizing s with
  | @record _ found hHere hRecord =>
      obtain rfl := Option.some.inj (hHere.symm.trans hStructure)
      have hId : found.id = pointRecord.id := by rw [← hRecord]
      rw [hId]
      decide
  | extension _ hBase hHere _ hSuffix hId ih =>
      obtain rfl := Option.some.inj (hHere.symm.trans hStructure)
      obtain ⟨hEdm, hCount⟩ := ih hBase
      rw [hId, EdmType.isEdmName_append _ hSuffix, String.toList_append, List.count_append, hCount]
      refine ⟨hEdm, ?_⟩
      simp only [List.mem_cons, List.not_mem_nil, or_false] at hSuffix
      rcases hSuffix with rfl | rfl | rfl <;> decide

/-- What is minted without a base id is no built-in id and has a dot. -/
theorem Settings.Mints.id_eq {expansions : List Expansion} {id : String}
    (h : Settings.Mints ⟨none, expansions⟩ id) :
    EdmType.isEdmName id = false ∧ 0 < id.toList.count '.' := by
  obtain ⟨kind, name, rfl⟩ := h
  have hMint : Settings.mintId ⟨none, expansions⟩ kind.idPart name = kind.idPart ++ "." ++ name :=
    rfl
  rw [hMint, EdmType.isEdmName_append_dot, String.toList_append, String.toList_append,
    List.count_append, List.count_append]
  have hDot : ".".toList.count '.' = 1 := by decide
  refine ⟨?_, by omega⟩
  cases kind <;> decide

namespace Metadata

section Plain

variable {document : Xml.Document} (reading : Reading ⟨none, []⟩ document)

/-- Without a base id, what is built in can be told from its id. -/
theorem Reading.isEdmName_iff {id : TypeId} {s : Structure}
    (h : reading.final.registry.structure? id = some s) :
    EdmType.isEdmName s.id = true ↔ reading.final.registry.BuiltIn id := by
  refine ⟨fun hEdm => ?_, fun hBuiltIn => (hBuiltIn.id_eq h).1⟩
  refine (reading.accounted_final id s h).resolve_right fun hMints => ?_
  rw [hMints.id_eq.1] at hEdm
  cases hEdm

theorem Reading.isDotted {id : TypeId} {s : Structure}
    (h : reading.final.registry.structure? id = some s) : IsDotted s.id := by
  rcases reading.accounted_final id s h with hBuiltIn | hMints
  · obtain ⟨_, hCount⟩ := hBuiltIn.id_eq h
    exact ⟨hCount ▸ Nat.one_pos, fun _ => hCount⟩
  · obtain ⟨hEdm, hCount⟩ := hMints.id_eq
    exact ⟨hCount, fun hTrue => absurd hTrue (Bool.eq_false_iff.1 hEdm)⟩

/-- The definition that is seen through the qualifying view is the same but for its ids, its foreign
keys, and what is looked up by ids. -/
theorem Reading.sameButQualified (location : Location) (base : String) :
    (reading.definition location).SameButQualified base
      ((View.qualified base).ofDefinition (reading.definition location)) where
  definition_eq := rfl
  isEdmName_iff _ _ h := reading.isEdmName_iff h
  isEdmName_target_iff key hKey := by
    obtain ⟨id, s, hTarget, hId⟩ := reading.exists_target_of_key hKey
    constructor
    · intro hEdm
      exact ⟨id, s, hTarget, hId, (reading.isEdmName_iff hTarget).1 (hId ▸ hEdm)⟩
    · rintro ⟨_, _, hOther, hSame, hBuiltIn⟩
      exact hSame ▸ (hBuiltIn.id_eq hOther).1
  lookupId_eq _ _ h := View.lookupId_ofRegistry _ fun _ _ hOther =>
    (reading.isDotted hOther).qualify_inj (reading.isDotted h)
  lookupId_eq_of_base hBase _ := View.lookupId_ofRegistry _ fun _ _ _ => qualify_inj_of_base hBase

end Plain

/-- Settings that mint the same ids and expand the same give the same. -/
theorem walk_congr (settings settings' : Settings)
    (hExpansions : settings'.expansions = settings.expansions)
    (hMint : ∀ (kind : StructureKind) name,
      settings'.mintId kind.idPart name = settings.mintId kind.idPart name)
    (location : Location) (document : Xml.Document) :
    (walk settings' location document).result = (walk settings location document).result := by
  have hAnnounce : Schema.announceAll settings' = Schema.announceAll settings := by
    have hOne : Schema.announce settings' = Schema.announce settings := by
      funext schema state declared
      simp only [Schema.announce, Schema.stub, hMint]
    funext state schema
    rw [Schema.announceAll, hOne, Schema.announceAll]
  have hDeclare : declare settings' = declare settings := by
    funext schemas
    rw [declare, hAnnounce, declare]
  have hEvaluate : Derivation.evaluate settings' = Derivation.evaluate settings := by
    funext aliases navigations state node
    rw [Derivation.evaluate, hExpansions, Derivation.evaluate]
  rw [result_walk, result_walk, evaluate, hDeclare, hEvaluate, evaluate]

/-- A base id goes in front of what is minted without one, unless it is blank. -/
theorem mintId_eq (baseId : String) (kind : StructureKind) (name : String) :
    Settings.mintId ⟨some baseId, []⟩ kind.idPart name =
      if Text.trim baseId = "" then Settings.mintId ⟨none, []⟩ kind.idPart name
      else qualify (Text.trim baseId) (Settings.mintId ⟨none, []⟩ kind.idPart name) := by
  have hMints : Settings.Mints ⟨none, []⟩ (Settings.mintId ⟨none, []⟩ kind.idPart name) :=
    ⟨kind, name, rfl⟩
  have hPrefix : Settings.idPrefix? ⟨some baseId, []⟩ =
      if Text.trim baseId = "" then none else some (Text.trim baseId) := by
    rw [Settings.idPrefix?, Option.map_some, Option.filter_some]
    simp only [String.isEmpty_iff, Bool.not_eq_true', Bool.eq_false_iff, ne_eq, ite_not]
  by_cases hBlank : Text.trim baseId = ""
  · rw [if_pos hBlank, Settings.mintId, hPrefix, if_pos hBlank]
    rfl
  · rw [if_neg hBlank, qualify_of_not_isEdmName hMints.id_eq.1, Settings.mintId, hPrefix,
      if_neg hBlank]
    show Text.trim baseId ++ "." ++ kind.idPart ++ "." ++ name =
      Text.trim baseId ++ "." ++ (kind.idPart ++ "." ++ name)
    simp only [String.append_assoc]

variable (baseId : String)

theorem announces_qualified (hBase : Text.trim baseId ≠ "") :
    (View.qualified (Text.trim baseId)).Announces ⟨none, []⟩ ⟨some baseId, []⟩ := by
  intro schema kind name
  have hId := (mintId_eq baseId kind name).trans (if_neg hBase)
  simp only [Schema.stub, View.qualified, hId, List.map_nil]

/-- Under a blank base id a document defines what it defines without one. Under another one it fails
with the same error, or it defines the same but for the base id. -/
theorem walk_baseId (location : Location) (document : Xml.Document) :
    (Text.trim baseId = "" → (walk ⟨some baseId, []⟩ location document).result =
      (walk ⟨none, []⟩ location document).result) ∧
    (Text.trim baseId ≠ "" →
      (∃ error, (walk ⟨none, []⟩ location document).result = .error error ∧
        (walk ⟨some baseId, []⟩ location document).result = .error error) ∨
      ∃ definition definition', (walk ⟨none, []⟩ location document).result = .ok definition ∧
        (walk ⟨some baseId, []⟩ location document).result = .ok definition' ∧
        definition.SameButQualified (Text.trim baseId) definition') := by
  constructor
  · intro hBlank
    have hMint : ∀ (kind : StructureKind) name, Settings.mintId ⟨some baseId, []⟩ kind.idPart name =
        Settings.mintId ⟨none, []⟩ kind.idPart name := fun kind name =>
      (mintId_eq baseId kind name).trans (if_pos hBlank)
    exact walk_congr ⟨none, []⟩ ⟨some baseId, []⟩ rfl hMint location document
  · intro hBase
    have hWalk : (walk ⟨some baseId, []⟩ location document).result =
        (View.qualified (Text.trim baseId)).ofDefinition <$>
          (walk ⟨none, []⟩ location document).result := by
      refine walk_view View.showsFields_qualified (announces_qualified baseId hBase) location document
        fun schemas registry navigations hPrepared member => View.fits_qualified ?_ member
      obtain ⟨_, _, _, _, _, hCompleted⟩ := prepare_eq_ok.1 hPrepared
      intro n hMem
      obtain ⟨_, _, _, _, _, _, _, rfl⟩ := exists_node_of_complete hCompleted n hMem
      rfl
    cases hPlain : (walk ⟨none, []⟩ location document).result with
    | error error => exact .inl ⟨error, rfl, by rw [hWalk, hPlain]; rfl⟩
    | ok definition =>
        obtain ⟨reading, rfl⟩ := walk_eq_ok.1 hPlain
        exact .inr ⟨_, _, rfl, by rw [hWalk, hPlain]; rfl, reading.sameButQualified location _⟩

/-- Orders, and places that are points on the globe. -/
def samplePlaces : Xml.Document :=
  sampleDocument [sampleOrder, sampleRecord,
    sampleElement "EntityContainer" [("Name", "Service")] [
      sampleElement "Singleton" [("Name", "Latest"), ("Type", "Shop.Order")] [],
      sampleElement "Singleton" [("Name", "Here"), ("Type", "Edm.GeographyPoint")] []]]

/-- The ids of the sample in both runs, read off the walk itself. -/
theorem ids_of_places :
    ([none, some " Edm "].map fun baseId =>
      (walk ⟨baseId, []⟩ ⟨"https", "localhost", "/"⟩ samplePlaces).result.toOption.map
        fun definition => definition.registry.types.toList.filterMap NamedType.id?) =
      [some ["entities.Order", "entities.Record", "Edm.GeographyPoint", "entities.OrderSelect",
        "entities.OrderUpdate", "Edm.GeographyPointSelect"],
      some ["Edm.entities.Order", "Edm.entities.Record", "Edm.GeographyPoint",
        "Edm.entities.OrderSelect", "Edm.entities.OrderUpdate", "Edm.GeographyPointSelect"]] := by
  simp only [result_walk]
  decide +kernel

/-- Ids stay apart even if the base id is the built-in namespace. -/
theorem walk_baseId_of_places :
    ∃ definition definition',
      (walk ⟨none, []⟩ ⟨"https", "localhost", "/"⟩ samplePlaces).result = .ok definition ∧
      (walk ⟨some " Edm ", []⟩ ⟨"https", "localhost", "/"⟩ samplePlaces).result = .ok definition' ∧
      definition.registry.types.toList.filterMap NamedType.id? =
        ["entities.Order", "entities.Record", "Edm.GeographyPoint", "entities.OrderSelect",
          "entities.OrderUpdate", "Edm.GeographyPointSelect"] ∧
      definition'.registry.types.toList.filterMap NamedType.id? =
        ["Edm.entities.Order", "Edm.entities.Record", "Edm.GeographyPoint",
          "Edm.entities.OrderSelect", "Edm.entities.OrderUpdate", "Edm.GeographyPointSelect"] ∧
      definition.SameButQualified "Edm" definition' := by
  obtain ⟨hPlain, hBased, -⟩ := List.cons_eq_cons.1 ids_of_places |>.imp_right List.cons_eq_cons.1
  obtain ⟨definition, hDefinition, hIds⟩ := Option.map_eq_some_iff.1 hPlain
  obtain ⟨definition', hDefinition', hIds'⟩ := Option.map_eq_some_iff.1 hBased
  have hWalk := toOption_eq_some.1 hDefinition
  have hWalk' := toOption_eq_some.1 hDefinition'
  have hTrim : Text.trim " Edm " = "Edm" := by decide
  rcases (walk_baseId " Edm " ⟨"https", "localhost", "/"⟩ samplePlaces).2 (by decide) with
    ⟨error, hError, _⟩ | ⟨found, found', hFound, hFound', hSame⟩
  · rw [hWalk] at hError
    cases hError
  · obtain rfl := Except.ok.inj (hFound.symm.trans hWalk)
    obtain rfl := Except.ok.inj (hFound'.symm.trans hWalk')
    exact ⟨_, _, hWalk, hWalk', hIds, hIds', hTrim ▸ hSame⟩

end Metadata

end Csdl
