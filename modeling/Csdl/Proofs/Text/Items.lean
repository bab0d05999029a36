import Csdl.Proofs.Text.Blank

/-! Items between marks: names with blanks around them, and blank items among the names. What is left
of the items when blanks are taken away are the names. -/
namespace Csdl.Text

variable {mark : Char} {names items : List String}

/-- A name that can stand in front of a mark or between marks. -/
structure IsItem (mark : Char) (name : String) : Prop where
  ne_empty : name ≠ ""
  trimmed : IsTrimmed name.toList
  notMem : mark ∉ name.toList

/-- Items that are the names with blanks around them, in order, or blank altogether. -/
inductive Spaced : List String → List String → Prop
  | nil : Spaced [] []
  | blank {names items : List String} {item : String}
      (hBlank : ∀ c ∈ item.toList, isBlank c = true) (rest : Spaced names items) :
      Spaced names (item :: items)
  | name {names items : List String} {name item : String}
      (hPadded : Padded name.toList item.toList) (rest : Spaced names items) :
      Spaced (name :: names) (item :: items)

/-- What is left of items without the blanks around them. -/
def kept (items : List String) : List String :=
  (items.map trim).filter (· ≠ "")

theorem kept_cons_of_blank {item : String} (h : trim item = "") :
    kept (item :: items) = kept items := by
  simp [kept, h]

theorem kept_cons_of_full {item : String} (h : trim item ≠ "") :
    kept (item :: items) = trim item :: kept items := by
  simp [kept, h]

/-- The names are what is left of the items. -/
theorem Spaced.kept_eq (h : Spaced names items) (hNames : ∀ name ∈ names, IsItem mark name) :
    kept items = names := by
  induction h with
  | nil => rfl
  | blank hBlank _ ih => rw [kept_cons_of_blank (trim_eq_empty_iff.2 hBlank), ih hNames]
  | name hPadded _ ih =>
      rw [List.forall_mem_cons] at hNames
      have hName := trim_eq_iff.2 ⟨hNames.1.trimmed, hPadded⟩
      rw [kept_cons_of_full (hName ▸ hNames.1.ne_empty), hName, ih hNames.2]

/-- Any items are what is left of them with blanks around. -/
theorem spaced_kept (items : List String) : Spaced (kept items) items := by
  induction items with
  | nil => exact .nil
  | cons item items ih =>
      by_cases hFull : trim item = ""
      · rw [kept_cons_of_blank hFull]
        exact .blank (trim_eq_empty_iff.1 hFull) ih
      · rw [kept_cons_of_full hFull]
        exact .name (trim_eq_iff.1 rfl).2 ih

theorem isItem_trim {item : String} (hFull : trim item ≠ "") (hMark : mark ∉ item.toList) :
    IsItem mark (trim item) := by
  obtain ⟨hTrimmed, hPadded⟩ := trim_eq_iff.1 (rfl : trim item = trim item)
  exact ⟨hFull, hTrimmed, fun hMem => hMark (hPadded.subset hMem)⟩

theorem isItem_of_trim {name : String} (hTrim : trim name = name) (hFull : name ≠ "")
    (hMark : mark ∉ name.toList) : IsItem mark name :=
  ⟨hFull, (trim_eq_iff.1 hTrim).1, hMark⟩

/-- What is kept of some items is an item itself. -/
theorem isItem_of_mem_kept {name : String} (hItems : ∀ item ∈ items, mark ∉ item.toList)
    (h : name ∈ kept items) : IsItem mark name := by
  obtain ⟨hMem, hFull⟩ := List.mem_filter.1 h
  obtain ⟨item, hItem, rfl⟩ := List.mem_map.1 hMem
  exact isItem_trim (of_decide_eq_true hFull) (hItems item hItem)

/-- The blanks around names bring no mark with them. -/
theorem Spaced.notMem (h : Spaced names items) (hMark : isBlank mark = false)
    (hNames : ∀ name ∈ names, IsItem mark name) : ∀ item ∈ items, mark ∉ item.toList := by
  induction h with
  | nil => simp
  | blank hBlank _ ih =>
      refine List.forall_mem_cons.2 ⟨fun hMem => ?_, ih hNames⟩
      simp [hBlank mark hMem] at hMark
  | name hPadded _ ih =>
      rw [List.forall_mem_cons] at hNames
      exact List.forall_mem_cons.2 ⟨hPadded.notMem hMark hNames.1.notMem, ih hNames.2⟩

/-- The pieces of a text between marks. -/
def piecesOf (mark : Char) (text : String) : List String :=
  (text.toList.splitOn mark).map String.ofList

/-- No piece of a split has the mark in it. -/
theorem notMem_of_mem_splitOn {cs piece : List Char} (h : piece ∈ cs.splitOn mark) :
    mark ∉ piece := by
  induction cs generalizing piece with
  | nil => simp_all
  | cons c cs ih =>
      obtain ⟨first, pieces, hPieces⟩ := List.exists_cons_of_ne_nil (List.splitOn_ne_nil mark cs)
      rw [hPieces] at ih
      rw [List.splitOn_cons_eq_if_modifyHead, hPieces, List.modifyHead_cons] at h
      split at h
      · rcases List.mem_cons.1 h with rfl | hLater
        · exact List.not_mem_nil
        · exact ih hLater
      · next hOther =>
          rcases List.mem_cons.1 h with rfl | hLater
          · rw [List.mem_cons, not_or]
            exact ⟨fun hSame => hOther (beq_iff_eq.2 hSame.symm), ih List.mem_cons_self⟩
          · exact ih (List.mem_cons_of_mem _ hLater)

theorem notMem_of_mem_piecesOf {text : String} :
    ∀ piece ∈ piecesOf mark text, mark ∉ piece.toList := by
  intro piece hPiece
  obtain ⟨cs, hMem, rfl⟩ := List.mem_map.1 hPiece
  rw [String.toList_ofList]
  exact notMem_of_mem_splitOn hMem

/-- The pieces of a text with marks between them are the text. -/
theorem intercalate_piecesOf (mark : Char) (text : String) :
    (String.singleton mark).intercalate (piecesOf mark text) = text := by
  rw [← String.toList_inj, String.toList_intercalate, String.toList_singleton, piecesOf,
    List.map_map]
  simp [Function.comp_def, List.intercalate_splitOn]

/-- Putting items together with marks and cutting at the marks changes nothing that is kept. -/
theorem kept_piecesOf_intercalate (hItems : ∀ item ∈ items, mark ∉ item.toList) :
    kept (piecesOf mark ((String.singleton mark).intercalate items)) = kept items := by
  rw [piecesOf, String.toList_intercalate, String.toList_singleton]
  by_cases hNone : items = []
  · -- no items make one piece, which is blank
    subst hNone
    exact kept_cons_of_blank (by decide)
  · rw [List.splitOn_intercalate mark (by simpa using hItems) (by simpa using hNone), List.map_map]
    simp [Function.comp_def]

end Csdl.Text
