import Csdl.Proofs.Exchange.Dependence
import Csdl.Proofs.Query.Plain
import Mathlib.Data.List.TakeWhile

/-! Which declared types are reached by their own names. A reference is trimmed and cut at its last
dot, the part in front is replaced if it is an alias, and what begins like a built-in name is not
looked up. The name of a type is not changed in these ways when it is registered, so some types are
hidden from references. -/
namespace Csdl

namespace Text

/-- The cut at the last mark is the one with no mark behind it. -/
theorem cutAtLast?_eq_some {mark : Char} {cs before behind : List Char} :
    cutAtLast? mark cs = some (before, behind) ↔ cs = before ++ mark :: behind ∧ mark ∉ behind := by
  have hFlip : cutAtLast? mark cs = some (before, behind) ↔
      cutAtFirst? mark cs.reverse = some (behind.reverse, before.reverse) := by
    unfold cutAtLast?
    rw [Option.map_eq_some_iff]
    constructor
    · rintro ⟨⟨first, second⟩, hCut, hEq⟩
      cases hEq
      rw [hCut, List.reverse_reverse, List.reverse_reverse]
    · intro hCut
      exact ⟨_, hCut, by simp⟩
  rw [hFlip]
  constructor
  · intro hCut
    constructor
    · simpa using congrArg List.reverse (append_of_cutAtFirst? hCut)
    · exact fun hMem => notMem_of_cutAtFirst? hCut (List.mem_reverse.2 hMem)
  · rintro ⟨rfl, hBehind⟩
    rw [List.reverse_append, List.reverse_cons, List.append_assoc]
    exact cutAtFirst?_append (fun hMem => hBehind (List.mem_reverse.1 hMem)) _

theorem notMem_trimEnd {c : Char} {cs : List Char} (h : c ∉ cs) : c ∉ trimEnd cs := by
  intro hMem
  apply h
  rw [trimEnd, List.mem_reverse] at hMem
  exact List.mem_reverse.1 ((List.dropWhile_sublist isBlank).subset hMem)

/-- Blanks in front of a qualified name are blanks in front of its namespace, and those behind it
are behind its last part. -/
theorem trimChars_append_dot (before behind : List Char) :
    trimChars (before ++ '.' :: behind) = trimStart before ++ '.' :: trimEnd behind := by
  have hStart : ∀ cs rest : List Char,
      trimStart (cs ++ '.' :: rest) = trimStart cs ++ '.' :: rest := by
    intro cs rest
    unfold trimStart
    rw [List.dropWhile_append]
    split
    · next hEmpty =>
        rw [List.isEmpty_iff.1 hEmpty]
        rfl
    · rfl
  have hEnd : trimEnd (trimStart before ++ '.' :: behind) =
      trimStart before ++ '.' :: trimEnd behind := by
    unfold trimEnd
    have hTurned := hStart behind.reverse (trimStart before).reverse
    unfold trimStart at hTurned ⊢
    simp [hTurned]
  rw [trimChars, hStart, hEnd]

end Text

/-- A qualified name is cut at its last dot, and no part is empty. -/
theorem splitQualified?_eq_some {name space leaf : String} :
    splitQualified? name = some (space, leaf) ↔
      name.toList = space.toList ++ '.' :: leaf.toList ∧ '.' ∉ leaf.toList ∧
        space ≠ "" ∧ leaf ≠ "" := by
  have hEmpty : ∀ cs : List Char, cs.isEmpty = false ↔ String.ofList cs ≠ "" := by
    intro cs
    rw [ne_eq, ← String.toList_inj, String.toList_ofList]
    cases cs <;> simp
  unfold splitQualified?
  constructor
  · intro h
    split at h
    · cases h
    · next before behind hCut =>
        split at h
        · cases h
        · next hFull =>
            simp only [Bool.or_eq_true, not_or, Bool.not_eq_true] at hFull
            cases h
            obtain ⟨hEq, hLast⟩ := Text.cutAtLast?_eq_some.1 hCut
            simp only [String.toList_ofList]
            exact ⟨hEq, hLast, (hEmpty _).1 hFull.1, (hEmpty _).1 hFull.2⟩
  · rintro ⟨hEq, hLast, hSpace, hLeaf⟩
    rw [Text.cutAtLast?_eq_some.2 ⟨hEq, hLast⟩]
    have hBefore := (hEmpty space.toList).2 (by rwa [String.ofList_toList])
    have hBehind := (hEmpty leaf.toList).2 (by rwa [String.ofList_toList])
    simp [hBefore, hBehind]

namespace AliasTable

/-- Recording an alias has no effect on other names. -/
theorem lookup_register (table : AliasTable) (name space other : String) :
    (table.register name space).entries.lookup other =
      if Text.trim name ≠ "" ∧ Text.trim name = other then some space
      else table.entries.lookup other := by
  have hOthers : ∀ entries : List (String × String), Text.trim name ≠ other →
      (entries.filter (·.1 ≠ Text.trim name)).lookup other = entries.lookup other := by
    intro entries hOther
    induction entries with
    | nil => rfl
    | cons entry entries ih =>
        obtain ⟨key, value⟩ := entry
        by_cases hKey : key = Text.trim name
        · have hSkip : (other == key) = false := by simp [hKey, Ne.symm hOther]
          rw [List.filter_cons_of_neg (by simpa using hKey), ih, List.lookup_cons, hSkip]
        · rw [List.filter_cons_of_pos (by simpa using hKey), List.lookup_cons, List.lookup_cons,
            ih]
  unfold register
  by_cases hBlank : Text.trim name = ""
  · simp [hBlank]
  · by_cases hSame : Text.trim name = other
    · simp [hSame ▸ hBlank, hSame]
    · have hSkip : (other == Text.trim name) = false := by simp [Ne.symm hSame]
      simp only [String.isEmpty_iff, hBlank, hSame, if_false, and_false]
      rw [List.lookup_cons, hSkip, hOthers _ hSame]

theorem resolve_register (table : AliasTable) (name space other : String) :
    (table.register name space).resolve other =
      if Text.trim name ≠ "" ∧ Text.trim name = other then space else table.resolve other := by
  rw [resolve, lookup_register]
  split <;> rfl

end AliasTable

namespace Schema

/-- The alias that a schema declares. -/
def alias? (schema : Schema) : Option String :=
  ((schema.node.attribute? "Alias").map Text.trim).filter (· ≠ "")

/-- What a part of a reference in front of its last dot stands for: the namespace of the last
schema that has it as its alias, or else itself. -/
def namespaceOf (schemas : List Schema) (space : String) : String :=
  ((schemas.reverse.find? (·.alias? = some space)).map (·.namespaceName)).getD space

/-- What the name of a type must be like for a reference of the same text to lead to it. -/
@[mk_iff]
structure Reaches (schemas : List Schema) (key : String × String) : Prop where
  leaf_named : key.2 ≠ ""
  leaf_undotted : '.' ∉ key.2.toList
  leaf_trimmed : Text.trimEnd key.2.toList = key.2.toList
  space_named : Text.trimStart key.1.toList ≠ []
  space_kept : namespaceOf schemas (String.ofList (Text.trimStart key.1.toList)) = key.1
  looked_up : EdmType.isEdmName (qualified key) = false ∨
    key = (EdmType.edmNamespace, EdmType.pointName)

instance (schemas : List Schema) (key : String × String) : Decidable (Reaches schemas key) :=
  decidable_of_iff' _ (reaches_iff schemas key)

/-- Of schemas with the same alias the last one counts. -/
theorem resolve_aliases (schemas : List Schema) (space : String) :
    (aliases schemas).resolve space = namespaceOf schemas space := by
  induction schemas using List.reverseRecOn with
  | nil => rfl
  | append_singleton schemas schema ih =>
      have hLast : aliases (schemas ++ [schema]) = addAlias (aliases schemas) schema := by
        rw [aliases, List.foldl_append]
        rfl
      have hFirst : namespaceOf (schemas ++ [schema]) space =
          if schema.alias? = some space then schema.namespaceName
          else namespaceOf schemas space := by
        unfold namespaceOf
        rw [List.reverse_append, List.reverse_singleton, List.singleton_append, List.find?_cons]
        by_cases hHere : schema.alias? = some space <;> simp [hHere]
      rw [hLast, hFirst, ← ih, addAlias]
      cases hAlias : schema.node.attribute? "Alias" with
      | none => simp [alias?, hAlias]
      | some name =>
          simp only [AliasTable.resolve_register, alias?, hAlias, Option.map_some,
            Option.filter_some, decide_eq_true_eq]
          by_cases hBlank : Text.trim name = "" <;> simp [hBlank]

/-- A type is reached by its name exactly if the name stands for itself and is looked up. -/
theorem reaches_iff_target {schemas : List Schema} {key : String × String} :
    Reaches schemas key ↔ (aliases schemas).target? (qualified key) = some key ∧
      (EdmType.isEdmName (qualified key) = false ∨
        key = (EdmType.edmNamespace, EdmType.pointName)) := by
  obtain ⟨space, leaf⟩ := key
  have hText : (Text.trim (qualified (space, leaf))).toList =
      Text.trimStart space.toList ++ '.' :: Text.trimEnd leaf.toList := by
    simp [qualified, Text.trimChars_append_dot]
  have hTarget : (aliases schemas).target? (qualified (space, leaf)) = some (space, leaf) ↔
      ∃ before, splitQualified? (Text.trim (qualified (space, leaf))) = some (before, leaf) ∧
        namespaceOf schemas before = space := by
    unfold AliasTable.target?
    simp [resolve_aliases]
  rw [reaches_iff, hTarget]
  simp only [splitQualified?_eq_some, hText]
  constructor
  · rintro ⟨hLeaf, hDot, hTrim, hSpace, hKept, hLooked⟩
    refine ⟨⟨String.ofList (Text.trimStart space.toList), ?_, hKept⟩, hLooked⟩
    have hNamed : String.ofList (Text.trimStart space.toList) ≠ "" := by
      rwa [ne_eq, ← String.toList_inj, String.toList_ofList]
    exact ⟨by rw [String.toList_ofList, hTrim], hDot, hNamed, hLeaf⟩
  · rintro ⟨⟨before, ⟨hEq, hDot, hBefore, hLeaf⟩, hKept⟩, hLooked⟩
    have hEnd := Text.notMem_trimEnd hDot
    -- both are cuts of the same text at its last dot
    have hCuts := (Text.cutAtLast?_eq_some.2 ⟨rfl, hEnd⟩).symm.trans
      (Text.cutAtLast?_eq_some.2 ⟨hEq, hDot⟩)
    simp only [Option.some.injEq, Prod.mk.injEq] at hCuts
    refine ⟨hLeaf, hDot, hCuts.2, ?_, ?_, hLooked⟩
    · rw [hCuts.1]
      exact fun hEmpty => hBefore (String.toList_inj.1 hEmpty)
    · rw [hCuts.1, String.ofList_toList, hKept]

end Schema

namespace Registry

/-- A registered type is what its name refers to exactly if the name reaches it. What a reference
of that text denotes otherwise is another type, a scalar or nothing. -/
theorem refer_qualified_iff {r : Registry} {schemas : List Schema} {key : String × String}
    {id : TypeId} (hFound : r.lookup key.1 key.2 = some id) :
    r.refer (Schema.aliases schemas) (qualified key) = .ok (.named id) ↔
      Schema.Reaches schemas key := by
  rw [Schema.reaches_iff_target]
  constructor
  · intro h
    obtain ⟨found, hTarget, hDenotes⟩ := exists_target_of_refer h
    obtain ⟨type, hType, hKey⟩ := get?_of_lookup hFound
    have hThere : r.lookup found.1 found.2 = some id := by
      rcases hDenotes with ⟨_, hLookup⟩ | ⟨rfl, rfl⟩
      · exact hLookup
      · rcases r.withPoint_cases with ⟨point, hPoint, hId, _⟩ | ⟨_, hId, _⟩
        · rw [hId]
          exact hPoint
        · -- the point record would have the next place, where there is no type yet
          rw [hId] at hType
          exact absurd (lt_size_of_get? hType) (Nat.lt_irrefl _)
    obtain ⟨same, hSame, hName⟩ := get?_of_lookup hThere
    obtain rfl : type = same := Option.some.inj (hType.symm.trans hSame)
    obtain rfl : found = key := hName.symm.trans hKey
    exact ⟨hTarget, hDenotes.imp And.left And.left⟩
  · rintro ⟨hTarget, hLooked⟩
    exact refer_of_target hTarget hLooked hFound

/-- A reference to a registered type changes nothing. -/
theorem resolve_qualified_iff {r : Registry} {schemas : List Schema} {key : String × String}
    {id : TypeId} (hFound : r.lookup key.1 key.2 = some id) :
    r.resolve (Schema.aliases schemas) (qualified key) = .ok (.named id, r) ↔
      Schema.Reaches schemas key := by
  obtain ⟨_, hType, _⟩ := get?_of_lookup hFound
  have hSame : r.extendFor (.named id) = r := extendFor_of_lt (lt_size_of_get? hType)
  rw [← refer_qualified_iff hFound, resolve, map_eq_ok]
  constructor
  · rintro ⟨type, hRefer, hEq⟩
    obtain rfl : type = .named id := congrArg Prod.fst hEq
    exact hRefer
  · intro hRefer
    exact ⟨_, hRefer, congrArg (Prod.mk _) hSame⟩

end Registry

namespace Metadata

/-- The registries in which the references of a document are resolved: the stubs, when the content
of structures is read, and what the members in front of one have left, when it is derived. -/
inductive Consults (settings : Settings) (document : Xml.Document) : Registry → Prop where
  | structures {stubs : Registry} {declarations : List Declaration}
      (declared : (declare settings (namedSchemas document.root)).result =
        .ok (stubs, declarations)) : Consults settings document stubs
  | members {stubs linked : Registry} {declarations : List Declaration}
      {navigations : List Navigation} {front behind : List MemberNode} {node : MemberNode}
      {state : Derivation}
      (declared : (declare settings (namedSchemas document.root)).result =
        .ok (stubs, declarations))
      (completed : (complete (Schema.aliases (namedSchemas document.root)) stubs
        declarations).result = .ok (linked, navigations))
      (split : (namedSchemas document.root).flatMap Schema.members = front ++ node :: behind)
      (derived : (front.foldlM (Derivation.step settings
        (Schema.aliases (namedSchemas document.root)) navigations) { registry := linked }).result =
          .ok state) : Consults settings document state.registry

namespace Reading

variable {settings : Settings} {document : Xml.Document} (reading : Reading settings document)

theorem declare_eq : (declare settings (namedSchemas document.root)).result =
    .ok (reading.stubs, reading.announcements.map (·.declarationIn reading.stubs)) := by
  rw [namedSchemas_eq reading.schemas_read]
  exact declare_eq_ok.2 ⟨_, _, reading.declares⟩

theorem complete_eq : (complete (Schema.aliases (namedSchemas document.root)) reading.stubs
    (reading.announcements.map (·.declarationIn reading.stubs))).result =
      .ok (reading.linked, Content.navigations reading.contents) := by
  rw [namedSchemas_eq reading.schemas_read]
  exact complete_eq_ok.2 ⟨reading.contents, reading.completed, reading.contents_read,
    reading.completed_eq, reading.linked_eq, rfl⟩

/-- Each registry in which references are resolved is a later state of the stubs. -/
theorem keeps_of_consults {r : Registry} (h : Consults settings document r) :
    reading.stubs.Keeps r ∧ r.Distinct := by
  cases h with
  | structures declared =>
      cases reading.declare_eq.symm.trans declared
      exact ⟨.refl _, reading.declares.distinct⟩
  | members declared completed split derived =>
      cases reading.declare_eq.symm.trans declared
      cases reading.complete_eq.symm.trans completed
      obtain ⟨outcomes, hDerives⟩ := Derivation.foldlM_step_eq_ok.1 derived
      exact ⟨(reading.keeps_completed.trans reading.keeps_linked).trans
        (hDerives.keeps reading.distinct_linked), hDerives.distinct reading.distinct_linked⟩

/-- A declared type keeps its place from the stubs on. -/
theorem get?_of_declaredKeys {i : Nat} {key : String × String}
    (hKey : (Schema.declaredKeys (namedSchemas document.root))[i]? = some key) {r : Registry}
    (hKeeps : reading.stubs.Keeps r) : ∃ type, r.get? ⟨i⟩ = some type ∧ type.key = key := by
  rw [namedSchemas_eq reading.schemas_read, ← reading.declares.map_key_outline,
    List.getElem?_map, Registry.outline_getElem?, Option.map_map] at hKey
  obtain ⟨stub, hStub, hName⟩ := Option.map_eq_some_iff.1 hKey
  obtain ⟨type, hType, hOutline⟩ := hKeeps.get? hStub
  refine ⟨type, hType, ?_⟩
  rw [← NamedType.key_outline, hOutline]
  exact hName

end Reading

/-- Wherever a reference of an accepted document is resolved, the qualified name of a declared type
leads to that type exactly if the name reaches it; and then nothing is registered for it. -/
theorem refer_name_of_walk {settings : Settings} {location : Location} {document : Xml.Document}
    {definition : Definition} (h : (walk settings location document).result = .ok definition)
    {i : Nat} {key : String × String}
    (hKey : (Schema.declaredKeys (namedSchemas document.root))[i]? = some key) :
    (∃ type, definition.registry.get? ⟨i⟩ = some type ∧ type.key = key) ∧
      ∀ r, Consults settings document r →
        (∃ type, r.get? ⟨i⟩ = some type ∧ type.key = key) ∧
        (r.refer (Schema.aliases (namedSchemas document.root)) (qualified key) =
          .ok (.named ⟨i⟩) ↔ Schema.Reaches (namedSchemas document.root) key) ∧
        (r.resolve (Schema.aliases (namedSchemas document.root)) (qualified key) =
          .ok (.named ⟨i⟩, r) ↔ Schema.Reaches (namedSchemas document.root) key) := by
  obtain ⟨reading, rfl⟩ := walk_eq_ok.1 h
  refine ⟨reading.get?_of_declaredKeys hKey (reading.keeps_completed.trans reading.keeps_final),
    fun r hConsults => ?_⟩
  obtain ⟨hKeeps, hDistinct⟩ := reading.keeps_of_consults hConsults
  have hHere := reading.get?_of_declaredKeys hKey hKeeps
  have hFound : r.lookup key.1 key.2 = some ⟨i⟩ := hDistinct.lookup_eq_some_iff.2 hHere
  exact ⟨hHere, Registry.refer_qualified_iff hFound, Registry.resolve_qualified_iff hFound⟩

/-- A document of some schemas, each with its attributes and children. -/
def sampleSchemas (schemas : List (List (String × String) × List Xml.Node)) : Xml.Document where
  before := []
  root := .element ⟨some Markup.edmx, "Edmx"⟩ [⟨⟨none, "Version"⟩, "4.0"⟩]
    [.element ⟨some Markup.edmx, "DataServices"⟩ []
      (schemas.map fun (attributes, children) => sampleElement "Schema" attributes children)]
  after := []

/-- A document in which the namespace of a schema is the alias of another one, a name has a dot,
a namespace begins with a blank, and a type has a built-in name. -/
def sampleHomonyms : Xml.Document :=
  sampleSchemas [
    ([("Namespace", "A")], [
      sampleElement "ComplexType" [("Name", "T")] [],
      sampleElement "ComplexType" [("Name", "U.V")] []]),
    ([("Namespace", "B"), ("Alias", "A")], [
      sampleElement "ComplexType" [("Name", "T")] [],
      sampleElement "ComplexType" [("Name", "User"), ("BaseType", "A.T")] []]),
    ([("Namespace", "Edm")], [sampleElement "ComplexType" [("Name", "String")] []]),
    ([("Namespace", " C")], [sampleElement "ComplexType" [("Name", "W")] []])]

/-- The document with homonyms is accepted. -/
theorem exists_walk_homonyms : ∃ definition,
    (walk {} ⟨"https", "localhost", "/"⟩ sampleHomonyms).result = .ok definition := by
  have hSome : (walk {} ⟨"https", "localhost", "/"⟩
      sampleHomonyms).result.toOption.isSome = true := by
    rw [result_walk]
    decide +kernel
  obtain ⟨definition, hDefinition⟩ := Option.isSome_iff_exists.1 hSome
  exact ⟨definition, toOption_eq_some.1 hDefinition⟩

/-- The names of the second schema reach its types. -/
theorem refer_name_of_homonyms : ∃ definition,
    (walk {} ⟨"https", "localhost", "/"⟩ sampleHomonyms).result = .ok definition ∧
      (Schema.declaredKeys (namedSchemas sampleHomonyms.root))[2]? = some ("B", "T") ∧
      (∃ type, definition.registry.get? ⟨2⟩ = some type ∧ type.key = ("B", "T")) ∧
      ∀ r, Consults {} sampleHomonyms r →
        r.refer (Schema.aliases (namedSchemas sampleHomonyms.root)) "B.T" = .ok (.named ⟨2⟩) := by
  obtain ⟨definition, hWalk⟩ := exists_walk_homonyms
  have hKey : (Schema.declaredKeys (namedSchemas sampleHomonyms.root))[2]? = some ("B", "T") := by
    decide +kernel
  obtain ⟨hThere, hRefer⟩ := refer_name_of_walk hWalk hKey
  have hReaches : Schema.Reaches (namedSchemas sampleHomonyms.root) ("B", "T") := by
    decide +kernel
  exact ⟨definition, hWalk, hKey, hThere, fun r hr => (hRefer r hr).2.1.2 hReaches⟩

/-- The other types of that document are not what their names refer to. -/
theorem hidden_homonyms :
    (∃ definition, (walk {} ⟨"https", "localhost", "/"⟩ sampleHomonyms).result = .ok definition) ∧
      (∃ r, Consults {} sampleHomonyms r ∧
        (Schema.declaredKeys (namedSchemas sampleHomonyms.root)).map (fun key =>
          (key, r.refer (Schema.aliases (namedSchemas sampleHomonyms.root)) (qualified key))) = [
            (("A", "T"), .ok (.named ⟨2⟩)),
            (("A", "U.V"), .error (.unknownReference "A.U.V")),
            (("B", "T"), .ok (.named ⟨2⟩)),
            (("B", "User"), .ok (.named ⟨3⟩)),
            (("Edm", "String"), .ok (.primitive .string)),
            ((" C", "W"), .error (.unknownReference "C.W"))]) ∧
      ¬ ∀ i key, (Schema.declaredKeys (namedSchemas sampleHomonyms.root))[i]? = some key →
        ∀ r, Consults {} sampleHomonyms r →
          r.refer (Schema.aliases (namedSchemas sampleHomonyms.root)) (qualified key) =
            .ok (.named ⟨i⟩) := by
  obtain ⟨definition, hWalk⟩ := exists_walk_homonyms
  obtain ⟨reading, -⟩ := walk_eq_ok.1 hWalk
  have hConsults : Consults {} sampleHomonyms reading.stubs := .structures reading.declare_eq
  have hAll : (declare {} (namedSchemas sampleHomonyms.root)).result.map (fun declared =>
      (Schema.declaredKeys (namedSchemas sampleHomonyms.root)).map fun key => (key,
        declared.1.refer (Schema.aliases (namedSchemas sampleHomonyms.root)) (qualified key))) =
      .ok [
        (("A", "T"), .ok (.named ⟨2⟩)),
        (("A", "U.V"), .error (.unknownReference "A.U.V")),
        (("B", "T"), .ok (.named ⟨2⟩)),
        (("B", "User"), .ok (.named ⟨3⟩)),
        (("Edm", "String"), .ok (.primitive .string)),
        ((" C", "W"), .error (.unknownReference "C.W"))] := by
    decide +kernel
  rw [reading.declare_eq] at hAll
  have hList := Except.ok.inj hAll
  refine ⟨⟨definition, hWalk⟩, ⟨reading.stubs, hConsults, hList⟩, fun h => ?_⟩
  have hFirst : (Schema.declaredKeys (namedSchemas sampleHomonyms.root))[0]? = some ("A", "T") := by
    decide +kernel
  have hOther := congrArg (fun entries => entries[0]?.map Prod.snd) hList
  simp only [List.getElem?_map, hFirst, Option.map_some] at hOther
  rw [h 0 _ hFirst _ hConsults] at hOther
  simp at hOther

end Metadata

end Csdl
