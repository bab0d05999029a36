import Csdl.Proofs.Query.Plain
import Csdl.Proofs.Query.Transparency

/-! Reading capabilities never fails. All queries that are asked of a member can be read, whatever
has been read before, and the one that is asked for elements selects elements. -/
namespace Csdl

open Query Query.Evaluation

namespace Query.Evaluation

variable {α β : Type} {P : α → Prop} {Q : β → Prop} {start : Cursor} {text : String} {query : Query}

/-- A computation that succeeds through every cache, with answers of some kind. -/
def Gives (x : Evaluation α) (P : α → Prop) : Prop :=
  ∀ cache : Cache, ∃ a, (x cache).1 = .ok a ∧ P a

theorem gives_pure {a : α} (h : P a) : Gives (pure a) P :=
  fun _ => ⟨a, rfl, h⟩

/-- Computations that succeed through every cache succeed one after the other, whatever the first
one leaves in the cache. -/
theorem Gives.bind {x : Evaluation α} {f : α → Evaluation β} (hx : Gives x P)
    (hf : ∀ a, P a → Gives (f a) Q) : Gives (x >>= f) Q := by
  intro cache
  obtain ⟨a, hFirst, ha⟩ := hx cache
  rw [bind_apply]
  generalize x cache = here at hFirst ⊢
  obtain ⟨_, later⟩ := here
  obtain rfl := hFirst
  exact hf a ha later

/-- A query that can be read selects through every cache what it selects. -/
theorem gives_select (h : parse text = .ok query) :
    Gives (select start text) (· = query.evaluate start) := by
  have hCompiled : Gives (compiled text) (· = query) :=
    fun cache => ⟨query, (cache.fst_compile text).trans h, rfl⟩
  apply hCompiled.bind
  rintro _ rfl
  exact gives_pure rfl

/-- A query that can be read and selects elements gives them through every cache. -/
theorem gives_elements (h : parse text = .ok query) (hValue : query.value = none) :
    Gives (elements start text) (· = query.reach start) := by
  apply (gives_select h).bind
  rintro _ rfl
  rw [evaluate, hValue]
  exact gives_pure rfl

theorem gives_strings (h : parse text = .ok query) :
    Gives (strings start text) (· = (query.evaluate start).strings) := by
  apply (gives_select h).bind
  rintro _ rfl
  exact gives_pure rfl

end Query.Evaluation

namespace Capabilities

/-- The step to the annotations of a term. -/
def annotationStep (term : String) : Step where
  label := "Annotation"
  predicates := [⟨.ofAttribute "Term", "Org.OData.Capabilities.V1." ++ term⟩]

/-- The steps to a property in the records of the annotations of a term. -/
def propertySteps (term name : String) : List Step :=
  [annotationStep term, ⟨"Record", []⟩, ⟨"PropertyValue", [⟨.ofAttribute "Property", name⟩]⟩]

/-- The query for a truth value that an annotation itself has. -/
def ownQuery (term : String) : Query :=
  ⟨[annotationStep term], some "Bool"⟩

/-- The query for a truth value in the record of an annotation. -/
def recordQuery (term name : String) : Query :=
  ⟨propertySteps term name, some "Bool"⟩

/-- The query for a list of paths in the record of an annotation. -/
def pathQuery (term name kind : String) : Query :=
  ⟨propertySteps term name ++ [⟨"Collection", []⟩, ⟨kind, []⟩], none⟩

theorem start_of_annotations :
    "edm:Annotation[@Term='Org.OData.Capabilities.V1.".toList = "edm:Annotation".toList ++
      '[' :: '@' :: ("Term".toList ++ '=' :: '\'' :: "Org.OData.Capabilities.V1.".toList) := by
  decide

/-- The text for a term is that of a step with one condition. -/
theorem stepText_term {term : String} (hTerm : '\'' ∉ term.toList) :
    StepText ( annotation term).toList (annotationStep term) := by
  have hText : ( annotation term).toList = "edm:Annotation".toList ++
      '[' :: predicateText "Term".toList ("Org.OData.Capabilities.V1." ++ term).toList := by
    change ("edm:Annotation[@Term='Org.OData.Capabilities.V1." ++ term ++ "']").toList = _
    rw [String.toList_append, String.toList_append, start_of_annotations, predicateText,
      String.toList_append]
    simp only [List.append_assoc, List.cons_append]
    rfl
  have hLiteral : '\'' ∉ ("Org.OData.Capabilities.V1." ++ term).toList := by
    rw [String.toList_append, List.mem_append]
    exact fun hMem => hMem.elim (by decide) hTerm
  have hElement : Spells "edm:Annotation".toList "Annotation" := by decide
  have hAttribute : Spells "Term".toList "Term" := by decide
  have hStep := StepText.of_predicate hElement hAttribute hLiteral
  rwa [String.ofList_toList, ← hText] at hStep

theorem stepText_propertyValue {name : String} (hName : '\'' ∉ name.toList) :
    StepText ("edm:PropertyValue".toList ++ '[' :: predicateText "Property".toList name.toList)
      ⟨"PropertyValue", [⟨.ofAttribute "Property", name⟩]⟩ := by
  have hElement : Spells "edm:PropertyValue".toList "PropertyValue" := by decide
  have hAttribute : Spells "Property".toList "Property" := by decide
  have hStep := StepText.of_predicate hElement hAttribute hName
  rwa [String.ofList_toList] at hStep

theorem stepText_record : StepText "edm:Record".toList ⟨"Record", []⟩ :=
  .of_name (by decide)

/-- The text for a property is that of three steps with slashes between them. -/
theorem toList_property (term name : String) :
    (property term name).toList = ( annotation term).toList ++ '/' :: ("edm:Record".toList ++
      '/' :: ("edm:PropertyValue".toList ++
        '[' :: predicateText "Property".toList name.toList)) := by
  change ( annotation term ++ ("/edm:Record/edm:PropertyValue[@Property='" ++ name ++
    "']")).toList = _
  rw [String.toList_append, String.toList_append, String.toList_append, predicateText]
  have hStart : "/edm:Record/edm:PropertyValue[@Property='".toList = '/' :: ("edm:Record".toList ++
      '/' :: ("edm:PropertyValue".toList ++
        '[' :: '@' :: ("Property".toList ++ ['=', '\'']))) := by
    decide
  rw [hStart]
  simp only [List.append_assoc, List.cons_append]
  rfl

section Queries

variable {term name : String} (hTerm : '\'' ∉ term.toList) (hName : '\'' ∉ name.toList)

include hTerm hName in
/-- The text for a property is read up to the slash behind it, to the three steps that it tells. -/
theorem readSteps_property (total : Nat) (rest : List Char) :
    readSteps total [] ((property term name).toList ++ '/' :: rest) =
      readSteps total (propertySteps term name).reverse rest := by
  rw [toList_property]
  simp only [List.append_assoc, List.cons_append]
  rw [(stepText_term hTerm).readSteps_slash, stepText_record.readSteps_slash,
    ← List.cons_append, ← List.append_assoc, (stepText_propertyValue hName).readSteps_slash]
  rfl

theorem parse_of_readSteps {text : String} {query : Query}
    (h : readSteps text.toList.length [] text.toList = .ok query) : parse text = .ok query := by
  rw [parse, Query.read, h]
  rfl

theorem spells_bool : Spells "Bool".toList "Bool" := by decide

theorem spells_propertyPath : Spells ("edm:" ++ "PropertyPath").toList "PropertyPath" := by decide

theorem spells_navigationPropertyPath :
    Spells ("edm:" ++ "NavigationPropertyPath").toList "NavigationPropertyPath" := by decide

include hTerm in
/-- The text for a truth value of an annotation is read to the query for it. -/
theorem parse_ownFlag : parse (ownFlag term) = .ok (ownQuery term) := by
  have hText : (ownFlag term).toList = ( annotation term).toList ++ '/' :: '@' :: "Bool".toList :=
    String.toList_append
  apply parse_of_readSteps
  rw [hText, (stepText_term hTerm).readSteps_slash, readSteps_attribute spells_bool]
  rfl

include hTerm hName

/-- The text for a truth value in a record is read to the query for it. -/
theorem parse_recordFlag : parse (recordFlag term name) = .ok (recordQuery term name) := by
  have hText : (recordFlag term name).toList =
      (property term name).toList ++ '/' :: '@' :: "Bool".toList :=
    String.toList_append
  apply parse_of_readSteps
  rw [hText, readSteps_property hTerm hName, readSteps_attribute spells_bool, List.reverse_reverse]
  rfl

/-- The text for a list of paths is read to the query for them. -/
theorem parse_pathList {kind : String} (hKind : Spells ("edm:" ++ kind).toList kind) :
    parse (pathList term name kind) = .ok (pathQuery term name kind) := by
  have hCollection : StepText "edm:Collection".toList ⟨"Collection", []⟩ :=
    .of_name (by decide)
  have hText : (pathList term name kind).toList = (property term name).toList ++
      '/' :: ("edm:Collection".toList ++ '/' :: ("edm:" ++ kind).toList) := by
    have hMiddle : "/edm:Collection/edm:".toList =
        '/' :: ("edm:Collection".toList ++ '/' :: "edm:".toList) := by decide
    rw [pathList, String.toList_append, String.toList_append, String.toList_append, hMiddle]
    simp only [List.append_assoc, List.cons_append]
  apply parse_of_readSteps
  rw [hText, readSteps_property hTerm hName, hCollection.readSteps_slash,
    (StepText.of_name hKind).readSteps_last]
  simp [pathQuery]

end Queries

theorem parse_bindingQuery :
    parse bindingQuery = .ok ⟨[⟨"NavigationPropertyBinding", []⟩], none⟩ := by
  have hName : Spells bindingQuery.toList "NavigationPropertyBinding" := by decide
  apply parse_of_readSteps
  rw [(StepText.of_name hName).readSteps_last]
  rfl

/-- Whether a query selects nothing or the truth first. -/
def allows (start : Cursor) (query : Query) : Bool :=
  (query.evaluate start).strings.head?.getD "true" = "true"

/-- Whether something is allowed is answered through every cache, by what the query selects. -/
theorem gives_isAllowed {start : Cursor} {source : String} {query : Query}
    (h : parse source = .ok query) : Gives (isAllowed start source) (· = allows start query) := by
  have hString : Gives (stringOr start source "true")
      (· = (query.evaluate start).strings.head?.getD "true") := by
    have hFirst : Gives (string? start source) (· = (query.evaluate start).strings.head?) := by
      apply (gives_strings h).bind
      rintro _ rfl
      exact gives_pure rfl
    apply hFirst.bind
    rintro _ rfl
    exact gives_pure rfl
  apply hString.bind
  rintro _ rfl
  exact gives_pure rfl

/-- Whether everything is allowed is answered through every cache, by all queries of a list
together. -/
theorem gives_allAllow {start : Cursor} {sources : List String} {queries : List Query}
    (h : List.Forall₂ (fun source query => parse source = .ok query) sources queries) :
    Gives (allAllow start sources) (· = queries.all (allows start)) := by
  induction h with
  | nil => exact gives_pure rfl
  | @cons source query sources queries hSource _ ih =>
      apply (gives_isAllowed hSource).bind
      rintro _ rfl
      rw [List.all_cons]
      cases allows start query with
      | true => exact ih
      | false => exact gives_pure rfl

/-- What is allowed on entity sets only is answered through every cache, with no for any other
member. -/
theorem gives_allowedOnSet {start : Cursor} {sources : List String} {queries : List Query}
    (h : List.Forall₂ (fun source query => parse source = .ok query) sources queries)
    (kind : MemberKind) :
    Gives (allowedOnSet start kind sources)
      (· = (decide (kind = .entitySet) && queries.all (allows start))) := by
  cases kind with
  | entitySet => exact gives_allAllow h
  | singleton => exact gives_pure rfl

/-- The flags of a member by what the queries for them select. -/
def flagsOf (start : Cursor) (kind : MemberKind) : CapabilityFlags :=
  let onSet (queries : List Query) : Bool := kind = .entitySet && queries.all (allows start)
  { insertable := onSet [recordQuery "InsertRestrictions" "Insertable"]
    searchable := onSet
      [recordQuery "SearchRestrictions" "Searchable", recordQuery "SelectSupport" "Searchable"]
    filterable := onSet [recordQuery "SelectSupport" "Filterable"]
    sortable := onSet [recordQuery "SelectSupport" "Sortable"]
    skipSupported := onSet [ownQuery "SkipSupported", recordQuery "SelectSupport" "SkipSupported"]
    topSupported := onSet [ownQuery "TopSupported", recordQuery "SelectSupport" "TopSupported"]
    countSupported := onSet
      [recordQuery "CountRestrictions" "Countable", recordQuery "SelectSupport" "CountSupported"]
    deletable := onSet [recordQuery "DeleteRestrictions" "Deletable"]
    updatable := allows start (recordQuery "UpdateRestrictions" "Updatable")
    listable := kind = .entitySet
    gettable := true }

/-- The flags can always be read. -/
theorem gives_readFlags (start : Cursor) (kind : MemberKind) :
    Gives (readFlags start kind) (· = flagsOf start kind) := by
  have hOne : ∀ {source query}, parse source = .ok query →
      Gives (allowedOnSet start kind [source])
        (· = (decide (kind = .entitySet) && [query].all (allows start))) :=
    fun h => gives_allowedOnSet (.cons h .nil) kind
  have hTwo : ∀ {source query source' query'}, parse source = .ok query →
      parse source' = .ok query' → Gives (allowedOnSet start kind [source, source'])
        (· = (decide (kind = .entitySet) && [query, query'].all (allows start))) :=
    fun h h' => gives_allowedOnSet (.cons h (.cons h' .nil)) kind
  refine (hOne (parse_recordFlag (by decide) (by decide))).bind fun insertable hInsertable => ?_
  refine (hTwo (parse_recordFlag (by decide) (by decide))
    (parse_recordFlag (by decide) (by decide))).bind fun searchable hSearchable => ?_
  refine (hOne (parse_recordFlag (by decide) (by decide))).bind fun filterable hFilterable => ?_
  refine (hOne (parse_recordFlag (by decide) (by decide))).bind fun sortable hSortable => ?_
  refine (hTwo (parse_ownFlag (by decide))
    (parse_recordFlag (by decide) (by decide))).bind fun skipSupported hSkip => ?_
  refine (hTwo (parse_ownFlag (by decide))
    (parse_recordFlag (by decide) (by decide))).bind fun topSupported hTop => ?_
  refine (hTwo (parse_recordFlag (by decide) (by decide))
    (parse_recordFlag (by decide) (by decide))).bind fun countSupported hCount => ?_
  refine (hOne (parse_recordFlag (by decide) (by decide))).bind fun deletable hDeletable => ?_
  refine (gives_allAllow (.cons (parse_recordFlag (by decide) (by decide)) .nil)).bind
    fun updatable hUpdatable => ?_
  apply gives_pure
  rw [hInsertable, hSearchable, hFilterable, hSortable, hSkip, hTop, hCount, hDeletable, hUpdatable,
    flagsOf]
  simp

/-- The capabilities of a member by what the queries for them select. -/
def capabilitiesOf (start : Cursor) (kind : MemberKind) : Capabilities :=
  let paths (term name kind : String) : List String :=
    ((pathQuery term name kind).evaluate start).strings
  { flags := flagsOf start kind
    nonInsertableProperties := paths "InsertRestrictions" "NonInsertableProperties" "PropertyPath"
    nonInsertableNavigations := paths "InsertRestrictions" "NonInsertableNavigationProperties"
      "NavigationPropertyPath"
    nonUpdatableProperties := paths "UpdateRestrictions" "NonUpdatableProperties" "PropertyPath"
    nonUpdatableNavigations := paths "UpdateRestrictions" "NonUpdatableNavigationProperties"
      "NavigationPropertyPath"
    bindings := ((Query.mk [⟨"NavigationPropertyBinding", []⟩] none).reach start).filterMap
      fun cursor => binding? cursor.node }

/-- The capabilities of a member can always be read. -/
theorem gives_read (start : Cursor) (kind : MemberKind) :
    Gives (read start kind) (· = capabilitiesOf start kind) := by
  have hPaths : ∀ {term name kind : String}, '\'' ∉ term.toList → '\'' ∉ name.toList →
      Spells ("edm:" ++ kind).toList kind → Gives (strings start (pathList term name kind))
        (· = ((pathQuery term name kind).evaluate start).strings) :=
    fun hTerm hName hKind => gives_strings (parse_pathList hTerm hName hKind)
  refine (gives_readFlags start kind).bind fun flags hFlags => ?_
  refine (gives_elements parse_bindingQuery rfl).bind fun bindings hBindings => ?_
  refine (hPaths (by decide) (by decide) spells_propertyPath).bind fun inserted hInserted => ?_
  refine (hPaths (by decide) (by decide) spells_navigationPropertyPath).bind
    fun insertedTo hInsertedTo => ?_
  refine (hPaths (by decide) (by decide) spells_propertyPath).bind fun updated hUpdated => ?_
  refine (hPaths (by decide) (by decide) spells_navigationPropertyPath).bind
    fun updatedTo hUpdatedTo => ?_
  apply gives_pure
  rw [hFlags, hBindings, hInserted, hInsertedTo, hUpdated, hUpdatedTo, capabilitiesOf]

end Capabilities

end Csdl
