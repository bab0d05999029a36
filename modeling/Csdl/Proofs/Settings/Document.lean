import Csdl.Settings
import Csdl.Proofs.Outcome
import Csdl.Proofs.Text.Blank
import Csdl.Proofs.Xml.Remarks

/-! Settings that are read from a document. There is one expansion for each entity, and its navigations
are what its elements begin with. Where an element begins with all the text in it, remarks make no
difference; a remark inside a name cuts it off. -/
namespace Csdl

open Query (bind_eq_ok)

/-- An element that begins with all the text in it, up to the blanks at its ends. -/
def Xml.Node.LeadsWhole (node : Xml.Node) : Prop :=
  Text.trim (node.leadingText?.getD "") = Text.trim node.innerText

instance (node : Xml.Node) : Decidable node.LeadsWhole :=
  inferInstanceAs (Decidable (Text.trim (node.leadingText?.getD "") = Text.trim node.innerText))

/-- The elements of a document that name navigations. -/
def Xml.Document.expandElements (document : Xml.Document) : List Xml.Node :=
  (document.root.childrenLabelled "Entity").flatMap (·.childrenLabelled "Expand")

/-- A document that asks for expansions, each of a named entity. -/
structure Xml.Document.AsksForExpansions (document : Xml.Document) : Prop where
  root_eq : document.root.label = "ODataConfiguration"
  named : ∀ element ∈ document.root.childrenLabelled "Entity", ∃ name,
    element.attribute? "Name" = some name ∧ Text.trim name ≠ ""

/-- The expansion that an element asks for. Its navigations are some texts of its elements, one for
each, without those that are blank. -/
@[mk_iff]
structure Expansion.AskedBy (textOf : Xml.Node → String) (element : Xml.Node)
    (expansion : Expansion) : Prop where
  entity_eq : (element.attribute? "Name").map Text.trim = some expansion.entity
  entity_named : expansion.entity ≠ ""
  navigations_eq : expansion.navigations =
    ((element.childrenLabelled "Expand").map fun node => Text.trim (textOf node)).filter (· ≠ "")

namespace Expansion

/-- Texts without the blanks around them, as texts. -/
theorem trimmedItems_eq (texts : List String) :
    trimmedItems (texts.map String.toList) = (texts.map Text.trim).filter (· ≠ "") := by
  have hKept : ∀ text : String,
      (!(Text.trimChars text.toList).isEmpty) = decide (Text.trim text ≠ "") := by
    intro text
    rw [Bool.eq_iff_iff, decide_eq_true_iff, ne_eq, ← String.toList_inj, Text.toList_trim]
    simp
  induction texts with
  | nil => rfl
  | cons text texts ih =>
      unfold trimmedItems at ih ⊢
      rw [List.map_cons, List.map_cons, List.filter_cons, List.map_cons, List.filter_cons, hKept,
        ← ih]
      split <;> rfl

/-- A text that is not there counts as one that is blank. -/
theorem filter_trim_filterMap {α : Type} (f : α → Option String) (xs : List α) :
    ((xs.filterMap f).map Text.trim).filter (· ≠ "") =
      (xs.map fun x => Text.trim ((f x).getD "")).filter (· ≠ "") := by
  have hBlank : Text.trim "" = "" := by decide
  induction xs with
  | nil => rfl
  | cons x xs ih =>
      rw [List.filterMap_cons, List.map_cons, List.filter_cons]
      cases hText : f x with
      | none => simpa [hBlank] using ih
      | some text => simp only [List.map_cons, List.filter_cons, Option.getD_some, ih]

end Expansion

namespace Settings

theorem trimmedAttribute?_eq_some {node : Xml.Node} {label value : String} :
    trimmedAttribute? node label = some value ↔
      (node.attribute? label).map Text.trim = some value ∧ value ≠ "" := by
  unfold trimmedAttribute?
  rw [Option.filter_eq_some_iff]
  simp

/-- An expansion is made of the texts that elements begin with. -/
theorem expansionOf_eq_ok {element : Xml.Node} {expansion : Expansion} :
    expansionOf element = .ok expansion ↔
      expansion.AskedBy (·.leadingText?.getD "") element := by
  have hTexts : Expansion.trimmedItems
      (((element.childrenLabelled "Expand").filterMap Xml.Node.leadingText?).map String.toList) =
      ((element.childrenLabelled "Expand").map fun node =>
        Text.trim (node.leadingText?.getD "")).filter (· ≠ "") := by
    rw [Expansion.trimmedItems_eq, Expansion.filter_trim_filterMap]
  constructor
  · intro h
    unfold expansionOf at h
    split at h
    · cases h
    · next entity hName =>
        obtain rfl := Except.ok.inj h
        obtain ⟨hEntity, hFull⟩ := trimmedAttribute?_eq_some.1 hName
        exact ⟨hEntity, hFull, hTexts⟩
  · rintro ⟨hEntity, hFull, hNavigations⟩
    rw [← hTexts] at hNavigations
    simp only [expansionOf, trimmedAttribute?_eq_some.2 ⟨hEntity, hFull⟩]
    rw [← hNavigations]

/-- A document is read as settings exactly if its root is as it has to be, and then the base id and
the expansions are those that it tells. -/
theorem ofDocument_eq_ok {document : Xml.Document} {settings : Settings} :
    ofDocument document = .ok settings ↔ document.root.label = "ODataConfiguration" ∧
      settings.baseId = trimmedAttribute? document.root "BaseId" ∧
      List.Forall₂ (fun element expansion =>
          Expansion.AskedBy (·.leadingText?.getD "") element expansion)
        (document.root.childrenLabelled "Entity") settings.expansions := by
  simp only [← expansionOf_eq_ok]
  unfold ofDocument
  by_cases hRoot : document.root.label = "ODataConfiguration"
  · simp only [hRoot, ne_eq, not_true_eq_false, if_false, true_and, bind_eq_ok, ← mapM_eq_ok]
    constructor
    · rintro ⟨expansions, hExpansions, hEq⟩
      cases hEq
      exact ⟨rfl, hExpansions⟩
    · rintro ⟨hBase, hExpansions⟩
      exact ⟨settings.expansions, hExpansions, by rw [← hBase]; rfl⟩
  · simp [hRoot]

/-- There are settings in each document that asks for expansions of named entities. -/
theorem exists_ofDocument {document : Xml.Document} (h : document.AsksForExpansions) :
    ∃ settings, ofDocument document = .ok settings := by
  obtain ⟨expansions, hExpansions⟩ := exists_mapM_eq_ok (f := expansionOf) fun element hElement => by
    obtain ⟨name, hName, hFull⟩ := h.named element hElement
    have hEntity : (element.attribute? "Name").map Text.trim = some (Text.trim name) := by
      rw [hName, Option.map_some]
    exact ⟨⟨Text.trim name, _⟩, expansionOf_eq_ok.2 ⟨hEntity, hFull, rfl⟩⟩
  refine ⟨⟨_, expansions⟩, ofDocument_eq_ok.2 ⟨h.root_eq, rfl, ?_⟩⟩
  exact (mapM_eq_ok.1 hExpansions).imp fun _ _ => expansionOf_eq_ok.1

end Settings

section Kept

variable {α : Type} {f g : α → String} {xs : List α}

/-- Where one text is left out only if another one is, at most as many are left. -/
theorem length_filter_map_le (h : ∀ x ∈ xs, f x ≠ "" → g x ≠ "") :
    ((xs.map f).filter (· ≠ "")).length ≤ ((xs.map g).filter (· ≠ "")).length := by
  rw [← List.countP_eq_length_filter, ← List.countP_eq_length_filter, List.countP_map,
    List.countP_map]
  apply List.countP_mono_left
  simpa using h

/-- The texts that are left are the same only if all are. -/
theorem filter_map_eq_iff (h : ∀ x ∈ xs, f x ≠ "" → g x ≠ "") :
    (xs.map f).filter (· ≠ "") = (xs.map g).filter (· ≠ "") ↔ ∀ x ∈ xs, f x = g x := by
  constructor
  · intro hEq
    induction xs with
    | nil => simp
    | cons x xs ih =>
        rw [List.forall_mem_cons] at h ⊢
        rw [List.map_cons, List.map_cons, List.filter_cons, List.filter_cons] at hEq
        by_cases hHere : f x = ""
        · by_cases hThere : g x = ""
          · simp only [hHere, hThere, ne_eq, not_true_eq_false, decide_false, Bool.false_eq_true,
              if_false] at hEq
            exact ⟨hHere.trans hThere.symm, ih h.2 hEq⟩
          · -- there would be one more text on one side
            have hLe := length_filter_map_le h.2
            simp only [hHere, hThere, ne_eq, not_true_eq_false, not_false_eq_true, decide_false,
              decide_true, Bool.false_eq_true, if_false, if_true] at hEq
            rw [hEq, List.length_cons] at hLe
            exact absurd hLe (Nat.not_succ_le_self _)
        · have hThere := h.1 hHere
          simp only [hHere, hThere, ne_eq, not_false_eq_true, decide_true, if_true,
            List.cons.injEq] at hEq
          exact ⟨hEq.1, ih h.2 hEq.2⟩
  · intro hSame
    rw [List.map_congr_left hSame]

end Kept

namespace Xml.Node

/-- The text that an element begins with is the beginning of the text in it. -/
theorem leadingText_isPrefix (node : Node) :
    (node.leadingText?.getD "").toList <+: node.innerText.toList := by
  unfold leadingText?
  split
  · next content rest hChildren =>
      cases node with
      | element name attributes children =>
          obtain rfl : children = text content :: rest := hChildren
          have hInner : (element name attributes (text content :: rest)).innerText =
              content ++ String.join (textsIn rest) := by
            simp [innerText, texts, textsIn]
          rw [hInner, String.toList_append]
          exact List.prefix_append _ _
      | _ => cases hChildren
  · exact List.nil_prefix

/-- If an element begins with more than blanks, there is more than that in it. -/
theorem trim_innerText_ne_empty {node : Node} (h : Text.trim (node.leadingText?.getD "") ≠ "") :
    Text.trim node.innerText ≠ "" := by
  intro hBlank
  apply h
  rw [Text.trim_eq_empty_iff] at hBlank ⊢
  exact fun c hc => hBlank c (node.leadingText_isPrefix.subset hc)

end Xml.Node

namespace Expansion

variable {element : Xml.Node} {expansion : Expansion}

/-- All text inside elements is asked for exactly if they begin with it. -/
theorem AskedBy.innerText_iff (h : expansion.AskedBy (·.leadingText?.getD "") element) :
    expansion.AskedBy Xml.Node.innerText element ↔
      ∀ node ∈ element.childrenLabelled "Expand", node.LeadsWhole := by
  simp only [askedBy_iff, h.entity_eq, h.entity_named, h.navigations_eq, ne_eq, not_false_eq_true,
    true_and]
  exact filter_map_eq_iff fun node _ => Xml.Node.trim_innerText_ne_empty

theorem askedBy_of_innerText (h : expansion.AskedBy Xml.Node.innerText element)
    (hWhole : ∀ node ∈ element.childrenLabelled "Expand", node.LeadsWhole) :
    expansion.AskedBy (·.leadingText?.getD "") element where
  entity_eq := h.entity_eq
  entity_named := h.entity_named
  navigations_eq := h.navigations_eq.trans
    ((filter_map_eq_iff fun _ _ => Xml.Node.trim_innerText_ne_empty).2 hWhole).symm

/-- Remarks make no difference where all text inside elements is asked for. -/
theorem askedBy_plain : expansion.AskedBy Xml.Node.innerText element.plain ↔
    expansion.AskedBy Xml.Node.innerText element := by
  simp [askedBy_iff, Function.comp_def]

/-- Expansions that are read of leading texts are those of whole texts exactly if each element begins
with all of its text. -/
theorem forall₂_innerText_iff {elements : List Xml.Node} {expansions : List Expansion}
    (h : List.Forall₂ (fun element expansion =>
      AskedBy (·.leadingText?.getD "") element expansion) elements expansions) :
    List.Forall₂ (fun element expansion => AskedBy Xml.Node.innerText element expansion) elements
        expansions ↔
      ∀ element ∈ elements, ∀ node ∈ element.childrenLabelled "Expand", node.LeadsWhole := by
  induction h with
  | nil => simp
  | cons hHead _ ih => rw [List.forall₂_cons, List.forall_mem_cons, hHead.innerText_iff, ih]

end Expansion

namespace Settings

variable {document document' : Xml.Document} {settings : Settings}

/-- All text inside elements is asked for exactly if each of them begins with it. -/
theorem innerText_iff (h : ofDocument document = .ok settings) :
    List.Forall₂ (fun element expansion =>
        Expansion.AskedBy Xml.Node.innerText element expansion)
      (document.root.childrenLabelled "Entity") settings.expansions ↔
      ∀ node ∈ document.expandElements, node.LeadsWhole := by
  obtain ⟨_, _, hAsked⟩ := ofDocument_eq_ok.1 h
  rw [Expansion.forall₂_innerText_iff hAsked, Xml.Document.expandElements, List.forall_mem_flatMap]

/-- Documents that differ in remarks are read to the same settings, if all their elements begin with
all text in them. -/
theorem ofDocument_of_sameButRemarks (h : ofDocument document = .ok settings)
    (hSame : document.SameButRemarks document')
    (hWhole : ∀ node ∈ document.expandElements, node.LeadsWhole)
    (hWhole' : ∀ node ∈ document'.expandElements, node.LeadsWhole) :
    ofDocument document' = .ok settings := by
  obtain ⟨hRoot, hBase, _⟩ := ofDocument_eq_ok.1 h
  have hPlain : document.root.plain = document'.root.plain := hSame.plain_eq.symm
  refine ofDocument_eq_ok.2 ⟨?_, ?_, ?_⟩
  · rwa [← Xml.Node.label_plain, hPlain, Xml.Node.label_plain] at hRoot
  · rw [hBase, trimmedAttribute?, ← Xml.Node.attribute?_plain, hPlain, Xml.Node.attribute?_plain,
      trimmedAttribute?]
  · have hInner : List.Forall₂ (fun element expansion =>
          Expansion.AskedBy Xml.Node.innerText element expansion)
        ((document.root.childrenLabelled "Entity").map Xml.Node.plain) settings.expansions :=
      List.forall₂_map_left_iff.2 (((innerText_iff h).2 hWhole).imp fun _ _ =>
        Expansion.askedBy_plain.2)
    rw [← Xml.Node.childrenLabelled_plain, hPlain, Xml.Node.childrenLabelled_plain,
      List.forall₂_map_left_iff] at hInner
    refine (forall₂_mem hInner).imp ?_
    rintro element expansion ⟨hElement, _, hAsked⟩
    exact Expansion.askedBy_of_innerText (Expansion.askedBy_plain.1 hAsked) fun node hNode =>
      hWhole' node (List.mem_flatMap.2 ⟨element, hElement, hNode⟩)

/-- In a document that asks for expansions of named entities there is one expansion for each entity,
with the texts that its elements begin with. These are all texts in the elements exactly if each
element begins with all text in it, and of documents for which this holds only the remarks may
differ. -/
theorem expansions_of_document (h : document.AsksForExpansions) :
    ∃ settings, ofDocument document = .ok settings ∧
      List.Forall₂ (fun element expansion =>
          Expansion.AskedBy (·.leadingText?.getD "") element expansion)
        (document.root.childrenLabelled "Entity") settings.expansions ∧
      (List.Forall₂ (fun element expansion =>
          Expansion.AskedBy Xml.Node.innerText element expansion)
        (document.root.childrenLabelled "Entity") settings.expansions ↔
        ∀ node ∈ document.expandElements, node.LeadsWhole) ∧
      ((∀ node ∈ document.expandElements, node.LeadsWhole) → ∀ document',
        document.SameButRemarks document' →
        (∀ node ∈ document'.expandElements, node.LeadsWhole) →
        ofDocument document' = .ok settings) := by
  obtain ⟨settings, hSettings⟩ := exists_ofDocument h
  obtain ⟨_, _, hAsked⟩ := ofDocument_eq_ok.1 hSettings
  exact ⟨settings, hSettings, hAsked, innerText_iff hSettings, fun hWhole document' hSame hWhole' =>
    ofDocument_of_sameButRemarks hSettings hSame hWhole hWhole'⟩

/-- A document that asks for the navigations of one entity, with some nodes inside the element of
the navigation. -/
def sampleExpanding (nodes : List Xml.Node) : Xml.Document where
  before := []
  root := .element ⟨none, "ODataConfiguration"⟩ [] [
    .element ⟨none, "Entity"⟩ [⟨⟨none, "Name"⟩, "NS.Product"⟩] [
      .element ⟨none, "Expand"⟩ [] nodes]]
  after := []

theorem sampleExpanding_asksForExpansions (nodes : List Xml.Node) :
    (sampleExpanding nodes).AsksForExpansions where
  root_eq := rfl
  named element hElement := by
    obtain rfl := List.mem_singleton.1 hElement
    exact ⟨"NS.Product", rfl, by decide⟩

theorem sampleExpanding_sameButRemarks {nodes nodes' : List Xml.Node}
    (h : Xml.Node.Inserts nodes nodes') :
    (sampleExpanding nodes).SameButRemarks (sampleExpanding nodes') :=
  .rel _ _ (.inside [] _ _ (.inside _ _ (.inside _ _ h []) []) [])

/-- A comment behind a name makes no difference. -/
theorem expansions_of_remarked :
    (sampleExpanding [.text " Supplier "]).AsksForExpansions ∧
      (sampleExpanding [.text " Supplier "]).SameButRemarks
        (sampleExpanding [.text " Supplier ", .comment "of goods"]) ∧
      ofDocument (sampleExpanding [.text " Supplier ", .comment "of goods"]) =
        .ok { expansions := [⟨"NS.Product", ["Supplier"]⟩] } := by
  have hAsks := sampleExpanding_asksForExpansions [.text " Supplier "]
  have hComment : Xml.Node.Inserts [] [.comment "of goods"] := .here rfl []
  have hSame := sampleExpanding_sameButRemarks (hComment.later (.text " Supplier "))
  obtain ⟨settings, hSettings, _, _, hRemarks⟩ := expansions_of_document hAsks
  have hWhole : ∀ node ∈ (sampleExpanding [.text " Supplier "]).expandElements,
      node.LeadsWhole := by
    intro node hNode
    obtain rfl := List.mem_singleton.1 hNode
    decide
  have hRemarked : ∀ node ∈ (sampleExpanding
      [.text " Supplier ", .comment "of goods"]).expandElements, node.LeadsWhole := by
    intro node hNode
    obtain rfl := List.mem_singleton.1 hNode
    decide
  have hRead : ofDocument (sampleExpanding [.text " Supplier "]) =
      .ok { expansions := [⟨"NS.Product", ["Supplier"]⟩] } := by decide
  obtain rfl := Except.ok.inj (hSettings.symm.trans hRead)
  exact ⟨hAsks, hSame, hRemarks hWhole _ hSame hRemarked⟩

/-- A comment inside a name cuts it off, so not all text in an element is asked for. -/
theorem expansions_of_commented :
    (sampleExpanding [.text ("Sup" ++ "plier")]).SameButRemarks
        (sampleExpanding [.text "Sup", .comment "of goods", .text "plier"]) ∧
      ofDocument (sampleExpanding [.text ("Sup" ++ "plier")]) =
        .ok { expansions := [⟨"NS.Product", ["Supplier"]⟩] } ∧
      ofDocument (sampleExpanding [.text "Sup", .comment "of goods", .text "plier"]) =
        .ok { expansions := [⟨"NS.Product", ["Sup"]⟩] } ∧
      ¬ ∀ (document : Xml.Document) (settings : Settings), document.AsksForExpansions →
        ofDocument document = .ok settings →
        List.Forall₂ (fun element expansion =>
            Expansion.AskedBy Xml.Node.innerText element expansion)
          (document.root.childrenLabelled "Entity") settings.expansions := by
  have hRead : ofDocument (sampleExpanding [.text "Sup", .comment "of goods", .text "plier"]) =
      .ok { expansions := [⟨"NS.Product", ["Sup"]⟩] } := by decide
  refine ⟨sampleExpanding_sameButRemarks (.split rfl "Sup" "plier" []), by decide, hRead, ?_⟩
  intro hAll
  have hWhole := (innerText_iff hRead).1 (hAll _ _ (sampleExpanding_asksForExpansions _) hRead)
  exact absurd (hWhole _ (List.mem_singleton_self _)) (by decide)

end Settings

end Csdl
