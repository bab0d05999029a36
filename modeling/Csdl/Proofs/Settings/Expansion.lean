import Csdl.Proofs.Settings.Document
import Csdl.Proofs.Text.Cut
import Csdl.Proofs.Text.Items

/-! One expansion as an argument of a command and in a document. Both may have blanks around names
and blank items between them, and are read to the same expansion. An argument is read only to what is
written in it: the entity ends at the first equals sign. -/
namespace Csdl

open Text (IsItem Padded Spaced isBlank kept piecesOf)

/-- An element that holds one text and nothing else, or nothing at all. -/
inductive Xml.Node.Holds (node : Xml.Node) : String → Prop
  | nothing (empty : node.children = []) : Holds node ""
  | text {content : String} (single : node.children = [.text content]) : Holds node content

theorem Xml.Node.Holds.leadingText?_eq {node : Xml.Node} {item : String} (h : node.Holds item) :
    node.leadingText?.getD "" = item := by
  cases h with
  | nothing empty => simp [leadingText?, empty]
  | text single => simp [leadingText?, single]

/-- Elements that hold items begin with these items. -/
theorem Xml.Node.map_leadingText? {nodes : List Xml.Node} {items : List String}
    (h : List.Forall₂ Xml.Node.Holds nodes items) :
    nodes.map (·.leadingText?.getD "") = items := by
  induction h with
  | nil => rfl
  | cons hHead _ ih => rw [List.map_cons, hHead.leadingText?_eq, ih]

namespace Expansion

variable {expansion : Expansion} {argument entity : String} {items : List String}

/-- An expansion of names that stand apart from the marks and blanks around them. -/
structure WellFormed (expansion : Expansion) : Prop where
  entity : IsItem '=' expansion.entity
  navigations : ∀ navigation ∈ expansion.navigations, IsItem ',' navigation

/-- The names of an expansion with blanks around them, and blank items between its navigations. -/
structure Spelled (expansion : Expansion) (entity : String) (items : List String) : Prop where
  entity : Padded expansion.entity.toList entity.toList
  navigations : Spaced expansion.navigations items

/-- An argument of a command in which an expansion is written. -/
def WrittenIn (expansion : Expansion) (argument : String) : Prop :=
  ∃ entity items, expansion.Spelled entity items ∧
    argument = entity ++ "=" ++ ",".intercalate items

/-- A document that asks for one expansion, with one element for each item. -/
def AskedIn (expansion : Expansion) (document : Xml.Document) : Prop :=
  ∃ entity items, expansion.Spelled entity items ∧
    document.root.label = "ODataConfiguration" ∧
    ∃ element, document.root.childrenLabelled "Entity" = [element] ∧
      element.attribute? "Name" = some entity ∧
      List.Forall₂ Xml.Node.Holds (element.childrenLabelled "Expand") items

/-- Both readers take the blanks away alike. -/
theorem Spelled.trim_entity (h : expansion.Spelled entity items) (hWell : expansion.WellFormed) :
    Text.trim entity = expansion.entity :=
  Text.trim_eq_iff.2 ⟨hWell.entity.trimmed, h.entity⟩

theorem Spelled.kept_items (h : expansion.Spelled entity items) (hWell : expansion.WellFormed) :
    kept items = expansion.navigations :=
  h.navigations.kept_eq hWell.navigations

theorem comma_eq_singleton : "," = String.singleton ',' := rfl

theorem trimmedItems_splitOn (rest : String) :
    trimmedItems (rest.toList.splitOn ',') = kept (piecesOf ',' rest) := by
  rw [kept, ← trimmedItems_eq, piecesOf, List.map_map]
  simp [Function.comp_def]

theorem ofArgument_of_unmarked (h : '=' ∉ argument.toList) :
    ofArgument argument = .error (.expansionWithoutEquals argument) := by
  rw [ofArgument, Text.cutAtFirst?_eq_none_iff.2 h]

/-- An argument is cut at its first equals sign. -/
theorem ofArgument_append {rest : String} (h : '=' ∉ entity.toList) :
    ofArgument (entity ++ "=" ++ rest) =
      if Text.trim entity = "" then .error (.expansionWithoutEntity (entity ++ "=" ++ rest))
      else .ok ⟨Text.trim entity, kept (piecesOf ',' rest)⟩ := by
  have hWhole : (entity ++ "=" ++ rest).toList = entity.toList ++ '=' :: rest.toList := by simp
  have hEmpty : (Text.trimChars entity.toList).isEmpty = decide (Text.trim entity = "") := by
    rw [Bool.eq_iff_iff, decide_eq_true_iff, ← String.toList_inj, Text.toList_trim]
    simp
  rw [ofArgument, hWhole, Text.cutAtFirst?_append h]
  simp only [hEmpty, decide_eq_true_eq, trimmedItems_splitOn]
  rfl

/-- An argument has no equals sign, or one that comes first. -/
theorem exists_eq_append (hMark : '=' ∈ argument.toList) :
    ∃ entity rest, argument = entity ++ "=" ++ rest ∧ '=' ∉ entity.toList := by
  obtain ⟨before, behind, hWhole, hFirst⟩ := List.eq_append_cons_of_mem hMark
  refine ⟨String.ofList before, String.ofList behind, ?_, by simpa using hFirst⟩
  rw [← String.toList_inj, hWhole]
  simp

/-- An argument is read to the expansion that is written in it. -/
theorem ofArgument_of_writtenIn (hWell : expansion.WellFormed) (h : expansion.WrittenIn argument) :
    ofArgument argument = .ok expansion := by
  obtain ⟨entity, items, hSpelled, rfl⟩ := h
  have hEntity : '=' ∉ entity.toList := hSpelled.entity.notMem (by decide) hWell.entity.notMem
  have hItems := hSpelled.navigations.notMem (by decide) hWell.navigations
  rw [ofArgument_append hEntity, hSpelled.trim_entity hWell, if_neg hWell.entity.ne_empty,
    comma_eq_singleton, Text.kept_piecesOf_intercalate hItems, hSpelled.kept_items hWell]

/-- What an argument is read to is written in it. -/
theorem writtenIn_of_ofArgument (h : ofArgument argument = .ok expansion) :
    expansion.WellFormed ∧ expansion.WrittenIn argument := by
  by_cases hMark : '=' ∈ argument.toList
  · obtain ⟨entity, rest, rfl, hEntity⟩ := exists_eq_append hMark
    rw [ofArgument_append hEntity] at h
    split at h
    · cases h
    · next hFull =>
        obtain rfl := Except.ok.inj h
        refine ⟨⟨Text.isItem_trim hFull hEntity, fun navigation hMem => ?_⟩, entity,
          piecesOf ',' rest, ⟨(Text.trim_eq_iff.1 rfl).2, Text.spaced_kept _⟩, ?_⟩
        · exact Text.isItem_of_mem_kept Text.notMem_of_mem_piecesOf hMem
        · rw [comma_eq_singleton, Text.intercalate_piecesOf]
  · rw [ofArgument_of_unmarked hMark] at h
    cases h

theorem ofArgument_eq_ok_iff :
    ofArgument argument = .ok expansion ↔ expansion.WellFormed ∧ expansion.WrittenIn argument :=
  ⟨writtenIn_of_ofArgument, fun h => ofArgument_of_writtenIn h.1 h.2⟩

/-- An argument is refused if nothing stands in front of an equals sign in it. -/
theorem ofArgument_eq_error_iff : (∃ error, ofArgument argument = .error error) ↔
    '=' ∉ argument.toList ∨
      ∃ front rest, argument = front ++ "=" ++ rest ∧ ∀ c ∈ front.toList, isBlank c = true := by
  constructor
  · rintro ⟨error, h⟩
    by_cases hMark : '=' ∈ argument.toList
    · obtain ⟨front, rest, rfl, hFront⟩ := exists_eq_append hMark
      rw [ofArgument_append hFront] at h
      split at h
      · next hEmpty => exact .inr ⟨front, rest, rfl, Text.trim_eq_empty_iff.1 hEmpty⟩
      · cases h
    · exact .inl hMark
  · rintro (hMark | ⟨front, rest, rfl, hBlank⟩)
    · exact ⟨_, ofArgument_of_unmarked hMark⟩
    · have hFront : '=' ∉ front.toList := fun hMem => absurd (hBlank '=' hMem) (by decide)
      refine ⟨.expansionWithoutEntity (front ++ "=" ++ rest), ?_⟩
      rw [ofArgument_append hFront, if_pos (Text.trim_eq_empty_iff.2 hBlank)]

/-- A document is read to the expansion that it asks for. -/
theorem ofDocument_of_askedIn {document : Xml.Document} (hWell : expansion.WellFormed)
    (h : expansion.AskedIn document) :
    Settings.ofDocument document = .ok
      { baseId := Settings.trimmedAttribute? document.root "BaseId", expansions := [expansion] } := by
  obtain ⟨entity, items, hSpelled, hRoot, element, hElement, hName, hHolds⟩ := h
  refine Settings.ofDocument_eq_ok.2 ⟨hRoot, rfl, ?_⟩
  rw [hElement]
  refine .cons ⟨?_, hWell.entity.ne_empty, ?_⟩ .nil
  · rw [hName, Option.map_some, hSpelled.trim_entity hWell]
  · rw [← hSpelled.kept_items hWell, kept, ← Xml.Node.map_leadingText? hHolds, List.map_map]
    rfl

/-- An expansion can be written as an argument or asked for in a document, with blanks around its
names and blank items between them. An argument is read to an expansion exactly if that is written in
it, a document that asks for it is read to it alone, and only an argument without an equals sign or
without an entity in front of it is refused. -/
theorem read_of_spelled (expansion : Expansion) :
    (∀ argument, ofArgument argument = .ok expansion ↔
      expansion.WellFormed ∧ expansion.WrittenIn argument) ∧
    (expansion.WellFormed → ∀ document, expansion.AskedIn document →
      Settings.ofDocument document = .ok
        { baseId := Settings.trimmedAttribute? document.root "BaseId"
          expansions := [expansion] }) ∧
    (∀ argument, (∃ error, ofArgument argument = .error error) ↔
      '=' ∉ argument.toList ∨
        ∃ front rest, argument = front ++ "=" ++ rest ∧ ∀ c ∈ front.toList, isBlank c = true) :=
  ⟨fun _ => ofArgument_eq_ok_iff, fun hWell _ h => ofDocument_of_askedIn hWell h,
    fun _ => ofArgument_eq_error_iff⟩

/-- An expansion of one entity and two navigations. -/
def sampleExpansion : Expansion := ⟨"NS.Product", ["Supplier", "Category=1"]⟩

/-- Items for the navigations of the sample, with blank ones between them. -/
def sampleItems : List String := [" Supplier", " ", "Category=1\t", ""]

/-- A document that asks for the sample. -/
def sampleAsking : Xml.Document where
  before := [.comment "what to expand"]
  root := .element ⟨none, "ODataConfiguration"⟩ [⟨⟨none, "BaseId"⟩, " shop "⟩] [
    .element ⟨none, "Entity"⟩ [⟨⟨none, "Name"⟩, " NS.Product "⟩] [
      .text "\n",
      .element ⟨none, "Expand"⟩ [] [.text " Supplier"],
      .element ⟨none, "Expand"⟩ [] [.text " "],
      .element ⟨none, "Expand"⟩ [] [.text "Category=1\t"],
      .element ⟨none, "Expand"⟩ [] []]]
  after := []

/-- The expansion of the sample has nothing in its names that could end them. -/
theorem sampleExpansion_wellFormed : sampleExpansion.WellFormed where
  entity := Text.isItem_of_trim (by decide) (by decide) (by decide)
  navigations := by
    have hSupplier : IsItem ',' "Supplier" :=
      Text.isItem_of_trim (by decide) (by decide) (by decide)
    have hCategory : IsItem ',' "Category=1" :=
      Text.isItem_of_trim (by decide) (by decide) (by decide)
    simpa [sampleExpansion] using ⟨hSupplier, hCategory⟩

theorem sampleExpansion_spelled : sampleExpansion.Spelled " NS.Product " sampleItems where
  entity := (Text.trim_eq_iff.1 (by decide)).2
  navigations := by
    have hKept : kept sampleItems = sampleExpansion.navigations := by decide
    exact hKept ▸ Text.spaced_kept sampleItems

/-- The sample is read from an argument and from a document alike; an argument that begins with an
equals sign is refused. -/
theorem read_of_sampleExpansion :
    sampleExpansion.WellFormed ∧
      ofArgument " NS.Product = Supplier, ,Category=1\t," = .ok sampleExpansion ∧
      sampleExpansion.AskedIn sampleAsking ∧
      Settings.ofDocument sampleAsking =
        .ok { baseId := some "shop", expansions := [sampleExpansion] } ∧
      ∃ error, ofArgument "=Supplier" = .error error := by
  obtain ⟨hArgument, hDocument, hRefused⟩ := read_of_spelled sampleExpansion
  have hAsked : sampleExpansion.AskedIn sampleAsking :=
    ⟨_, sampleItems, sampleExpansion_spelled, rfl, _, rfl, rfl,
      .cons (.text rfl) <| .cons (.text rfl) <| .cons (.text rfl) <| .cons (.nothing rfl) .nil⟩
  have hBase : Settings.trimmedAttribute? sampleAsking.root "BaseId" = some "shop" := by decide
  refine ⟨sampleExpansion_wellFormed, ?_, hAsked, ?_, ?_⟩
  · exact (hArgument _).2 ⟨sampleExpansion_wellFormed, _, sampleItems, sampleExpansion_spelled, rfl⟩
  · rw [hDocument sampleExpansion_wellFormed _ hAsked, hBase]
  · exact (hRefused _).2 (.inr ⟨"", "Supplier", rfl, by simp⟩)

end Expansion

end Csdl
