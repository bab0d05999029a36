import Csdl.Text.Blank
import Mathlib.Data.List.TakeWhile

/-! What trimming leaves of a text: the one text without blanks at its ends that stands there with
nothing but blanks around it. -/
namespace Csdl.Text

variable {cs inner blanks : List Char}

theorem trimStart_append (hBlanks : ∀ c ∈ blanks, isBlank c = true) :
    trimStart (blanks ++ cs) = trimStart cs :=
  List.dropWhile_append_of_pos hBlanks

/-- A text begins with the blanks that trimming takes away. -/
theorem exists_append_trimStart (cs : List Char) :
    ∃ blanks, (∀ c ∈ blanks, isBlank c = true) ∧ cs = blanks ++ trimStart cs :=
  ⟨cs.takeWhile isBlank, fun _ hMem => List.mem_takeWhile_imp hMem,
    List.takeWhile_append_dropWhile.symm⟩

theorem trimStart_eq_nil_iff : trimStart cs = [] ↔ ∀ c ∈ cs, isBlank c = true :=
  List.dropWhile_eq_nil_iff

/-- A text without blanks at its ends. -/
structure IsTrimmed (cs : List Char) : Prop where
  start : ∀ c ∈ cs.head?, isBlank c = false
  finish : ∀ c ∈ cs.getLast?, isBlank c = false

/-- A text with nothing but blanks around it. -/
def Padded (inner cs : List Char) : Prop :=
  ∃ front back, (∀ c ∈ front ++ back, isBlank c = true) ∧ cs = front ++ inner ++ back

theorem IsTrimmed.trimStart_eq (h : IsTrimmed cs) : trimStart cs = cs := by
  cases cs with
  | nil => rfl
  | cons c cs => exact trimStart_cons_of_not_blank (h.start c rfl)

theorem IsTrimmed.reverse (h : IsTrimmed cs) : IsTrimmed cs.reverse where
  start := by simpa using h.finish
  finish := by simpa using h.start

theorem trimEnd_eq (cs : List Char) : trimEnd cs = (trimStart cs.reverse).reverse := rfl

/-- What is left behind blanks does not begin with one. -/
theorem isBlank_of_head?_trimStart {c : Char} (h : c ∈ (trimStart cs).head?) :
    isBlank c = false := by
  have hFirst := List.head?_dropWhile_not isBlank cs
  rw [show (cs.dropWhile isBlank).head? = some c from h] at hFirst
  exact hFirst

/-- A text is what trimming leaves of it with blanks around. -/
theorem padded_trimChars (cs : List Char) : Padded (trimChars cs) cs := by
  obtain ⟨front, hFront, hStart⟩ := exists_append_trimStart cs
  obtain ⟨back, hBack, hEnd⟩ := exists_append_trimStart (trimStart cs).reverse
  refine ⟨front, back.reverse, ?_, ?_⟩
  · intro c hMem
    rcases List.mem_append.1 hMem with hHere | hThere
    · exact hFront c hHere
    · exact hBack c (List.mem_reverse.1 hThere)
  · rw [trimChars, trimEnd_eq, List.append_assoc, ← List.reverse_append, ← hEnd,
      List.reverse_reverse, ← hStart]

/-- What is trimmed neither begins nor ends with a blank. -/
theorem isTrimmed_trimChars (cs : List Char) : IsTrimmed (trimChars cs) where
  start c hHead := by
    -- what is cut off the end leaves the first character in its place
    obtain ⟨back, _, hBack⟩ := exists_append_trimStart (trimStart cs).reverse
    have hWhole : trimStart cs = trimChars cs ++ back.reverse := by
      rw [trimChars, trimEnd_eq, ← List.reverse_append, ← hBack, List.reverse_reverse]
    have hFirst : c ∈ (trimStart cs).head? := by
      rw [hWhole, List.head?_append, Option.mem_def.1 hHead]
      rfl
    exact isBlank_of_head?_trimStart hFirst
  finish c hLast := by
    rw [trimChars, trimEnd_eq, List.getLast?_reverse] at hLast
    exact isBlank_of_head?_trimStart hLast

/-- Blanks around a trimmed text are what trimming takes away. -/
theorem Padded.trimChars_eq (h : Padded inner cs) (hTrimmed : IsTrimmed inner) :
    trimChars cs = inner := by
  obtain ⟨front, back, hBlanks, rfl⟩ := h
  have hFront : ∀ c ∈ front, isBlank c = true := fun c hc => hBlanks c (List.mem_append_left _ hc)
  have hBack : ∀ c ∈ back, isBlank c = true := fun c hc => hBlanks c (List.mem_append_right _ hc)
  rw [trimChars, List.append_assoc, trimStart_append hFront]
  cases inner with
  | nil =>
      rw [List.nil_append, trimStart_eq_nil_iff.2 hBack]
      rfl
  | cons c inner =>
      rw [List.cons_append, trimStart_cons_of_not_blank (hTrimmed.start c rfl), trimEnd_eq,
        ← List.cons_append, List.reverse_append,
        trimStart_append fun c hc => hBack c (List.mem_reverse.1 hc), hTrimmed.reverse.trimStart_eq,
        List.reverse_reverse]

theorem padded_self (cs : List Char) : Padded cs cs :=
  ⟨[], [], by simp, by simp⟩

/-- Padding makes no text shorter. -/
theorem Padded.length_le (h : Padded inner cs) : inner.length ≤ cs.length := by
  obtain ⟨front, back, _, rfl⟩ := h
  simp only [List.length_append]
  omega

/-- A text has blanks around one trimmed text only. -/
theorem Padded.unique {inner' : List Char} (h : Padded inner cs) (h' : Padded inner' cs)
    (hTrimmed : IsTrimmed inner) (hTrimmed' : IsTrimmed inner') : inner = inner' :=
  (h.trimChars_eq hTrimmed).symm.trans (h'.trimChars_eq hTrimmed')

/-- Trimming finds the one trimmed text that has nothing but blanks around it. -/
theorem trimChars_eq_iff : trimChars cs = inner ↔ IsTrimmed inner ∧ Padded inner cs := by
  constructor
  · rintro rfl
    exact ⟨isTrimmed_trimChars cs, padded_trimChars cs⟩
  · rintro ⟨hTrimmed, hPadded⟩
    exact hPadded.trimChars_eq hTrimmed

/-- Nothing is left exactly of a text that is all blanks. -/
theorem trimChars_eq_nil_iff : trimChars cs = [] ↔ ∀ c ∈ cs, isBlank c = true := by
  rw [trimChars_eq_iff]
  constructor
  · rintro ⟨_, front, back, hBlanks, rfl⟩
    simpa using hBlanks
  · intro hBlanks
    exact ⟨⟨by simp, by simp⟩, cs, [], by simpa using hBlanks, by simp⟩

/-- A text, and what is left of it without the blanks at its ends. -/
def Trims (text name : String) : Prop :=
  IsTrimmed name.toList ∧ Padded name.toList text.toList

theorem trim_eq_iff {text name : String} : trim text = name ↔ Trims text name := by
  rw [Trims, ← trimChars_eq_iff, ← String.toList_inj, toList_trim]

theorem Padded.subset (h : Padded inner cs) : inner ⊆ cs := by
  obtain ⟨front, back, _, rfl⟩ := h
  exact fun c hc => List.mem_append_left _ (List.mem_append_right _ hc)

/-- A mark that is not blank is not among the blanks around a text. -/
theorem Padded.notMem {mark : Char} (h : Padded inner cs) (hMark : isBlank mark = false)
    (hInner : mark ∉ inner) : mark ∉ cs := by
  obtain ⟨front, back, hBlanks, rfl⟩ := h
  have hAround : mark ∉ front ++ back := fun hMem => by simp [hBlanks mark hMem] at hMark
  simp only [List.mem_append, not_or] at hAround ⊢
  exact ⟨⟨hAround.1, hInner⟩, hAround.2⟩

/-- A text is trimmed to nothing exactly if it is all blanks. -/
theorem trim_eq_empty_iff {text : String} :
    trim text = "" ↔ ∀ c ∈ text.toList, isBlank c = true := by
  rw [← String.toList_inj, toList_trim]
  exact trimChars_eq_nil_iff

end Csdl.Text
