import Csdl.Proofs.Query.Totality
import Mathlib.Data.List.Lex
import Mathlib.Data.List.Sort

/-! What a query selects. Chains of child elements lead to the selected elements, one step of the
query after the other, and each of these elements is selected once and in document order. The query
alone tells whether they are selected themselves or the values of one of their attributes. -/
namespace Csdl

/-- The first attribute of a label, in whatever namespace, has a value. -/
def Xml.Node.Carries (node : Xml.Node) (label value : String) : Prop :=
  ∃ before found after, node.attributes = before ++ found :: after ∧
    (∀ other ∈ before, other.name.label ≠ label) ∧ found.name.label = label ∧ found.value = value

/-- The value that is found for an attribute of any prefix is that of the first one with its
label. -/
theorem Xml.Node.anyAttribute?_eq_some_iff {node : Xml.Node} {label value : String} :
    node.anyAttribute? label = some value ↔ node.Carries label value := by
  simp only [anyAttribute?, Carries, Option.map_eq_some_iff, List.find?_eq_some_iff_append,
    decide_eq_true_eq, Bool.not_eq_true', decide_eq_false_iff_not]
  constructor
  · rintro ⟨found, ⟨hLabel, before, after, hEq, hBefore⟩, hValue⟩
    exact ⟨before, found, after, hEq, hBefore, hLabel, hValue⟩
  · rintro ⟨before, found, after, hEq, hBefore, hLabel, hValue⟩
    exact ⟨found, ⟨hLabel, before, after, hEq, hBefore⟩, hValue⟩

namespace Query

/-- What a condition asks of a node. The value of an attribute is to be the literal as it stands,
the text in a child element without the blanks around it. -/
def Predicate.Asks (predicate : Predicate) (node : Xml.Node) : Prop :=
  match predicate.operand with
  | .ofAttribute label => node.Carries label predicate.literal
  | .ofChild label => ∃ child ∈ node.childElements,
      child.label = label ∧ Text.trim child.innerText = predicate.literal

theorem Predicate.holds_iff {predicate : Predicate} {node : Xml.Node} :
    predicate.holds node = true ↔ predicate.Asks node := by
  obtain ⟨operand, literal⟩ := predicate
  cases operand with
  | ofAttribute label => simp [holds, Asks, Xml.Node.anyAttribute?_eq_some_iff]
  | ofChild label => simp [holds, Asks]

/-- A child element of a node, at its place among the child elements. -/
def Cursor.IsChild (parent child : Cursor) : Prop :=
  ∃ index, child.path = parent.path ++ [index] ∧
    parent.node.childElements[index]? = some child.node

/-- The children of a cursor are found one by one, each at its own place among them. -/
theorem Cursor.mem_children {parent child : Cursor} :
    child ∈ parent.children ↔ parent.IsChild child := by
  obtain ⟨path, node⟩ := child
  simp only [children, IsChild, List.mem_map, Prod.exists, List.mem_zipIdx_iff_getElem?,
    Cursor.mk.injEq]
  constructor
  · rintro ⟨found, index, hFound, rfl, rfl⟩
    exact ⟨index, rfl, hFound⟩
  · rintro ⟨index, rfl, hFound⟩
    exact ⟨node, index, hFound, rfl, rfl⟩

/-- Steps lead from a node to an element by a chain of child elements, one for each step. Each has
the label of its step and meets all its conditions. -/
inductive Leads : List Step → Cursor → Cursor → Prop where
  | here (cursor : Cursor) : Leads [] cursor cursor
  | onward {step : Step} {steps : List Step} {parent child last : Cursor}
      (hChild : parent.IsChild child) (hLabel : child.node.label = step.label)
      (hAsks : ∀ predicate ∈ step.predicates, predicate.Asks child.node)
      (rest : Leads steps child last) : Leads (step :: steps) parent last

theorem leads_nil {start last : Cursor} : Leads [] start last ↔ last = start := by
  constructor
  · intro h
    cases h
    rfl
  · rintro rfl
    exact .here _

/-- A step leads to the children that have its name and meet all of its conditions. -/
theorem Step.mem_follow {step : Step} {current : List Cursor} {child : Cursor} :
    child ∈ step.follow current ↔ ∃ parent ∈ current, parent.IsChild child ∧
      child.node.label = step.label ∧ ∀ predicate ∈ step.predicates, predicate.Asks child.node := by
  simp only [follow, admits, List.mem_filter, List.mem_flatMap, Cursor.mem_children,
    Bool.and_eq_true, decide_eq_true_eq, List.all_eq_true, Predicate.holds_iff]
  constructor
  · rintro ⟨⟨parent, hParent, hChild⟩, hAdmits⟩
    exact ⟨parent, hParent, hChild, hAdmits⟩
  · rintro ⟨parent, hParent, hChild, hAdmits⟩
    exact ⟨⟨parent, hParent, hChild⟩, hAdmits⟩

/-- Following steps in breadth finds what the steps lead to from one of the nodes. -/
theorem mem_foldl_follow {steps : List Step} {current : List Cursor} {last : Cursor} :
    last ∈ steps.foldl (fun current step => step.follow current) current ↔
      ∃ start ∈ current, Leads steps start last := by
  induction steps generalizing current with
  | nil => simp [leads_nil]
  | cons step steps ih =>
      rw [List.foldl_cons, ih]
      constructor
      · rintro ⟨child, hChild, hRest⟩
        obtain ⟨start, hStart, hBelow, hLabel, hAsks⟩ := Step.mem_follow.1 hChild
        exact ⟨start, hStart, .onward hBelow hLabel hAsks hRest⟩
      · rintro ⟨start, hStart, hLeads⟩
        cases hLeads with
        | onward hBelow hLabel hAsks hRest =>
            exact ⟨_, Step.mem_follow.2 ⟨start, hStart, hBelow, hLabel, hAsks⟩, hRest⟩

theorem mem_reach {query : Query} {start last : Cursor} :
    last ∈ query.reach start ↔ Leads query.steps start last := by
  simp [reach, mem_foldl_follow]

namespace Cursor

/-- One node comes before another one in a document. -/
def Before (first second : Cursor) : Prop :=
  List.Lex (· < ·) first.path second.path

instance : Std.Asymm Before :=
  ⟨fun first second => Std.Asymm.asymm (r := List.Lex (· < ·)) first.path second.path⟩

/-- What stands below an earlier place comes before what stands below a later one. -/
theorem before_of_lt {first second : Cursor} {path : List Nat} {i j : Nat} (hLt : i < j)
    (hFirst : path ++ [i] <+: first.path) (hSecond : path ++ [j] <+: second.path) :
    first.Before second := by
  obtain ⟨below, hFirst⟩ := hFirst
  obtain ⟨below', hSecond⟩ := hSecond
  rw [Before, ← hFirst, ← hSecond, List.append_assoc, List.append_assoc]
  exact List.Lex.append_left _ (.rel hLt) path

/-- The order of places on one level is the order of all that stands below them. -/
theorem Before.append {first second : Cursor} (h : first.Before second)
    (hLength : first.path.length = second.path.length) {below below' : List Nat} :
    List.Lex (· < ·) (first.path ++ below) (second.path ++ below') := by
  unfold Before at h
  generalize first.path = path at h hLength
  generalize second.path = path' at h hLength
  induction h with
  | nil => simp at hLength
  | rel hLt => exact .rel hLt
  | cons _ ih => exact .cons (ih (by simpa using hLength))

theorem pairwise_children (cursor : Cursor) :
    cursor.children.Pairwise fun first second => ∃ i j, i < j ∧
      first.path = cursor.path ++ [i] ∧ second.path = cursor.path ++ [j] := by
  rw [List.pairwise_iff_getElem]
  intro i j hi hj hLt
  exact ⟨i, j, hLt, by simp [children], by simp [children]⟩

/-- A child is smaller than its parent, which lets the search for elements end. -/
theorem sizeOf_child_lt {cursor child : Cursor} (h : child ∈ cursor.children) :
    sizeOf child.node < sizeOf cursor.node := by
  obtain ⟨index, _, hChild⟩ := mem_children.1 h
  have hMem : child.node ∈ cursor.node.children :=
    (List.mem_filter.1 (List.mem_of_getElem? hChild)).1
  cases hNode : cursor.node with
  | element name attributes children =>
      rw [hNode] at hMem
      have hLt := List.sizeOf_lt_of_mem (show child.node ∈ children from hMem)
      simp only [Xml.Node.element.sizeOf_spec]
      omega
  | text content => simp [hNode, Xml.Node.children] at hMem
  | comment content => simp [hNode, Xml.Node.children] at hMem
  | instruction target content => simp [hNode, Xml.Node.children] at hMem

/-- A node and all elements in it, each in front of the elements in itself. -/
def elements (cursor : Cursor) : List Cursor :=
  cursor :: cursor.children.attach.flatMap fun ⟨child, _⟩ => child.elements
termination_by sizeOf cursor.node
decreasing_by exact sizeOf_child_lt ‹_›

theorem elements_eq (cursor : Cursor) :
    cursor.elements = cursor :: cursor.children.flatMap elements := by
  rw [elements]
  simp [List.flatMap_subtype, List.unattach_attach]

/-- What lies below an element has a path that goes on from that of the element. -/
theorem prefix_of_mem_elements {cursor below : Cursor} (h : below ∈ cursor.elements) :
    cursor.path <+: below.path := by
  induction cursor using elements.induct with
  | case1 cursor ih =>
      rw [elements_eq, List.mem_cons, List.mem_flatMap] at h
      rcases h with rfl | ⟨child, hChild, hBelow⟩
      · exact List.prefix_refl _
      · obtain ⟨index, hPath, _⟩ := mem_children.1 hChild
        have hPrefix := ih child hChild hBelow
        rw [hPath] at hPrefix
        exact (List.prefix_append _ _).trans hPrefix

/-- The elements in a node are listed in document order. -/
theorem pairwise_elements (cursor : Cursor) : cursor.elements.Pairwise Before := by
  induction cursor using elements.induct with
  | case1 cursor ih =>
      rw [elements_eq, List.pairwise_cons, List.pairwise_flatMap]
      refine ⟨?_, fun child hChild => ih child hChild, ?_⟩
      · intro below hMem
        obtain ⟨child, hChild, hBelow⟩ := List.mem_flatMap.1 hMem
        obtain ⟨index, hPath, _⟩ := mem_children.1 hChild
        obtain ⟨rest, hRest⟩ := prefix_of_mem_elements hBelow
        rw [Before, ← hRest, hPath, List.append_assoc]
        conv_lhs => rw [← List.append_nil cursor.path]
        exact List.Lex.append_left _ .nil cursor.path
      · refine cursor.pairwise_children.imp ?_
        rintro child child' ⟨i, j, hLt, hPath, hPath'⟩ below hBelow below' hBelow'
        exact before_of_lt hLt (hPath ▸ prefix_of_mem_elements hBelow)
          (hPath' ▸ prefix_of_mem_elements hBelow')

end Cursor

/-- Steps lead only to elements in the node that they start from. -/
theorem Leads.mem_elements {steps : List Step} {start last : Cursor} (h : Leads steps start last) :
    last ∈ start.elements := by
  induction h with
  | here cursor =>
      rw [Cursor.elements_eq]
      exact List.mem_cons_self
  | onward hChild _ _ _ ih =>
      rw [Cursor.elements_eq]
      exact List.mem_cons_of_mem _ (List.mem_flatMap.2 ⟨_, Cursor.mem_children.2 hChild, ih⟩)

/-- Nodes of one level, in document order. -/
structure Ordered (depth : Nat) (current : List Cursor) : Prop where
  pairwise : current.Pairwise Cursor.Before
  level : ∀ cursor ∈ current, cursor.path.length = depth

/-- A step leads from one level to the next and keeps the order. -/
theorem Ordered.follow {depth : Nat} {current : List Cursor} (h : Ordered depth current)
    (step : Step) : Ordered (depth + 1) (step.follow current) where
  pairwise := by
    apply List.Pairwise.filter
    rw [List.pairwise_flatMap]
    constructor
    · intro parent _
      refine parent.pairwise_children.imp ?_
      rintro child child' ⟨i, j, hLt, hPath, hPath'⟩
      exact Cursor.before_of_lt hLt ⟨[], (List.append_nil _).trans hPath.symm⟩
        ⟨[], (List.append_nil _).trans hPath'.symm⟩
    · refine h.pairwise.imp_of_mem ?_
      intro parent parent' hParent hParent' hBefore child hChild child' hChild'
      obtain ⟨i, hPath, _⟩ := Cursor.mem_children.1 hChild
      obtain ⟨j, hPath', _⟩ := Cursor.mem_children.1 hChild'
      rw [Cursor.Before, hPath, hPath']
      exact hBefore.append ((h.level parent hParent).trans (h.level parent' hParent').symm)
  level := by
    intro child hChild
    obtain ⟨parent, hParent, ⟨index, hPath, _⟩, _⟩ := Step.mem_follow.1 hChild
    simp [hPath, h.level parent hParent]

/-- Steps keep what they reach in the order of the document, each one level deeper. -/
theorem Ordered.foldl {depth : Nat} {current : List Cursor} (h : Ordered depth current)
    (steps : List Step) :
    Ordered (depth + steps.length)
      (steps.foldl (fun current step => step.follow current) current) := by
  induction steps generalizing depth current with
  | nil => exact h
  | cons step steps ih =>
      have hRest := ih (h.follow step)
      rwa [Nat.add_right_comm] at hRest

theorem ordered_reach (query : Query) (start : Cursor) :
    Ordered (start.path.length + query.steps.length) (query.reach start) :=
  Ordered.foldl ⟨List.pairwise_singleton _ _, by simp⟩ query.steps

/-- What is reached is what document order leaves of it. -/
theorem reach_sublist (query : Query) (start : Cursor) :
    (query.reach start).Sublist start.elements := by
  have hPairwise := (query.ordered_reach start).pairwise
  have hSubset : query.reach start ⊆ start.elements := fun _ hLast =>
    (mem_reach.1 hLast).mem_elements
  exact List.sublist_of_subperm_of_pairwise (List.subperm_of_subset hPairwise.nodup hSubset)
    hPairwise start.pairwise_elements

section Views

variable {text : String} {query : Query} {start : Cursor}

/-- Elements are asked for without regard to the cache: those that the query reaches, unless it
selects values. -/
theorem Evaluation.fst_elements (h : parse text = .ok query) (cache : Cache) :
    (Evaluation.elements start text cache).1 =
      if query.value = none then .ok (query.reach start)
      else .error (.query text .selectsValues) := by
  cases hValue : query.value with
  | none =>
      obtain ⟨_, hFound, rfl⟩ := Evaluation.gives_elements h hValue cache
      simpa using hFound
  | some label =>
      obtain ⟨_, hSelected, rfl⟩ := @Evaluation.gives_select start _ _ h cache
      rw [Evaluation.elements, Evaluation.bind_apply]
      generalize Evaluation.select start text cache = selected at hSelected ⊢
      obtain ⟨_, later⟩ := selected
      obtain rfl := hSelected
      simp only [evaluate, hValue]
      rfl

end Views

/-- What a query selects from a node on, and how each view shows it through any cache. `found` are
the elements that the steps lead to, each once and in document order. -/
structure Selects (text : String) (query : Query) (start : Cursor) (found : List Cursor) :
    Prop where
  sublist : found.Sublist start.elements
  mem_iff : ∀ last, last ∈ found ↔ Leads query.steps start last
  of_elements : query.value = none → ∀ cache : Cache,
    (Evaluation.select start text cache).1 = .ok (.elements found) ∧
    (Evaluation.elements start text cache).1 = .ok found ∧
    (Evaluation.strings start text cache).1 =
      .ok (found.map fun cursor => Text.trim cursor.node.innerText)
  of_values : ∀ label, query.value = some label → ∀ cache : Cache,
    (Evaluation.select start text cache).1 =
      .ok (.values (found.filterMap fun cursor => cursor.node.anyAttribute? label)) ∧
    (Evaluation.elements start text cache).1 = .error (.query text .selectsValues) ∧
    (Evaluation.strings start text cache).1 =
      .ok ((found.filterMap fun cursor => cursor.node.anyAttribute? label).map Text.trim)

/-- A text that can be read selects the elements that its steps lead to, or what those of them that
have an attribute say in it. Which of the two is the same for all nodes to start from. -/
theorem selection_of_parse {text : String} {query : Query} (h : parse text = .ok query)
    (start : Cursor) :
    start.elements.Pairwise Cursor.Before ∧ ∃ found, Selects text query start found := by
  refine ⟨start.pairwise_elements, query.reach start, query.reach_sublist start,
    fun _ => mem_reach, fun hValue cache => ?_, fun label hValue cache => ?_⟩
  · obtain ⟨_, hSelect, rfl⟩ := @Evaluation.gives_select start _ _ h cache
    obtain ⟨_, hStrings, rfl⟩ := @Evaluation.gives_strings start _ _ h cache
    rw [hSelect, hStrings, Evaluation.fst_elements h]
    simp [evaluate, hValue, Selection.strings]
  · obtain ⟨_, hSelect, rfl⟩ := @Evaluation.gives_select start _ _ h cache
    obtain ⟨_, hStrings, rfl⟩ := @Evaluation.gives_strings start _ _ h cache
    rw [hSelect, hStrings, Evaluation.fst_elements h]
    simp [evaluate, hValue, Selection.strings]

/-- An element that has a key and perhaps an element of its own label in it. -/
def sampleItem (key : String) (inside : List Xml.Node) : Xml.Node :=
  .element ⟨none, "Item"⟩ [⟨⟨some "urn:codes", "Code"⟩, " 7 "⟩]
    (.element ⟨none, "Key"⟩ [] [.text key] :: inside)

/-- A list of items, one of them in another one. -/
def sampleList : Cursor :=
  ⟨[], .element ⟨none, "List"⟩ []
    [sampleItem "a" [sampleItem "b" []], .comment "b", sampleItem " b " [sampleItem "b" []]]⟩

/-- A text with a prefix, blanks, and conditions of both kinds. -/
def sampleText : String :=
  "Item[Key='b']/x:Item[ @Code = \" 7 \" ]/@Code"

/-- What the text is read as. -/
def sampleQuery : Query where
  steps := [⟨"Item", [⟨.ofChild "Key", "b"⟩]⟩, ⟨"Item", [⟨.ofAttribute "Code", " 7 "⟩]⟩]
  value := some "Code"

/-- Only the item in the second item of the list is at the end of the chain. -/
theorem selection_of_sample :
    parse sampleText = .ok sampleQuery ∧ (sampleList.elements.Pairwise Cursor.Before ∧
      ∃ found, Selects sampleText sampleQuery sampleList found) ∧
    (sampleQuery.reach sampleList).map (·.path) = [[1, 1]] ∧
    (sampleQuery.evaluate sampleList).strings = ["7"] := by
  have hParse : parse sampleText = .ok sampleQuery := by decide +kernel
  exact ⟨hParse, selection_of_parse hParse sampleList, by decide +kernel, by decide +kernel⟩

end Query

end Csdl
