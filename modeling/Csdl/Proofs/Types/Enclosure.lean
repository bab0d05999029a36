import Csdl.Proofs.Text.Blank
import Csdl.Proofs.Types.Wrapping

/-! A text as wrappers around a core, with blanks on every level. Each text is that in exactly one
way, and unwrapping it tells whether the core is a name or a wrapper that is not closed. -/
namespace Csdl.Cardinality

open Text (IsTrimmed Padded trimChars)

variable {inner core core' body body' cs : List Char} {depth depth' : Nat}

/-- A text with one wrapper around it. -/
def wrap (body : List Char) : List Char :=
  wrapperStart ++ (body ++ [')'])

/-- A text that is another one inside a number of wrappers, with blanks on every level. -/
inductive Encloses (core : List Char) : Nat → List Char → Prop where
  | bare {cs : List Char} (hPadded : Padded core cs) : Encloses core 0 cs
  | wrapped {depth : Nat} {body cs : List Char} (inside : Encloses core depth body)
      (hPadded : Padded (wrap body) cs) : Encloses core (depth + 1) cs

/-- A name: it has no blanks at its ends and does not begin like a wrapper. -/
structure IsBare (cs : List Char) : Prop where
  trimmed : IsTrimmed cs
  unwrapped : ¬ wrapperStart <+: cs

/-- A text that begins like a wrapper and does not close it. What closes a wrapper stands behind
its start. -/
structure IsUnclosed (cs : List Char) : Prop where
  trimmed : IsTrimmed cs
  opened : ∃ rest, cs = wrapperStart ++ rest ∧ ¬ [')'] <:+ rest

/-- A text that no wrapper can be taken from. -/
structure IsCore (cs : List Char) : Prop where
  trimmed : IsTrimmed cs
  ne_wrap : ∀ body, cs ≠ wrap body

theorem wrap_injective : Function.Injective wrap := fun _ _ h =>
  List.append_cancel_right (List.append_cancel_left h)

/-- Trimming leaves a wrapper alone: a letter and a bracket stand at its ends. -/
theorem isTrimmed_wrap (body : List Char) : IsTrimmed (wrap body) where
  start c hHead := by
    have hFirst : (wrap body).head? = some 'C' := rfl
    obtain rfl := Option.some.inj (hFirst.symm.trans hHead)
    decide
  finish c hLast := by
    have hClosed : (wrap body).getLast? = some ')' := by
      rw [wrap, ← List.append_assoc, List.getLast?_concat]
    obtain rfl := Option.some.inj (hClosed.symm.trans hLast)
    decide

theorem length_wrap (body : List Char) : (wrap body).length = 12 + body.length := by
  have hStart : wrapperStart.length = 11 := by decide
  rw [wrap, List.length_append, List.length_append, hStart, List.length_singleton]
  omega

theorem IsBare.isCore (h : IsBare cs) : IsCore cs where
  trimmed := h.trimmed
  ne_wrap _ hWrap := h.unwrapped ⟨_, hWrap.symm⟩

theorem IsUnclosed.isCore (h : IsUnclosed cs) : IsCore cs where
  trimmed := h.trimmed
  ne_wrap body hWrap := by
    obtain ⟨rest, rfl, hOpen⟩ := h.opened
    exact hOpen ⟨body, (List.append_cancel_left hWrap).symm⟩

theorem IsUnclosed.not_isBare (h : IsUnclosed cs) : ¬ IsBare cs := fun hBare => by
  obtain ⟨rest, hEq, _⟩ := h.opened
  exact hBare.unwrapped ⟨rest, hEq.symm⟩

/-- What no wrapper can be taken from is a name or not closed. -/
theorem IsCore.isBare_or_isUnclosed (h : IsCore cs) : IsBare cs ∨ IsUnclosed cs := by
  by_cases hStart : wrapperStart <+: cs
  · obtain ⟨rest, rfl⟩ := hStart
    refine .inr ⟨h.trimmed, rest, rfl, ?_⟩
    rintro ⟨body, rfl⟩
    exact h.ne_wrap body rfl
  · exact .inl ⟨h.trimmed, hStart⟩

/-- No blanks around a core make a wrapper of it. -/
theorem IsCore.not_padded_wrap (hCore : IsCore core) (h : Padded core cs) :
    ¬ Padded (wrap body) cs := fun hWrap =>
  hCore.ne_wrap body (h.unique hWrap hCore.trimmed (isTrimmed_wrap body))

theorem eq_of_padded_wrap (h : Padded (wrap body) cs) (h' : Padded (wrap body') cs) :
    body = body' :=
  wrap_injective (h.unique h' (isTrimmed_wrap body) (isTrimmed_wrap body'))

/-- Every text has a core: as long as there is a wrapper, what is inside it is shorter. -/
theorem exists_encloses (cs : List Char) : ∃ depth core, IsCore core ∧ Encloses core depth cs := by
  induction hLength : cs.length using Nat.strong_induction_on generalizing cs with
  | _ length ih =>
      by_cases hWrap : ∃ body, trimChars cs = wrap body
      · obtain ⟨body, hBody⟩ := hWrap
        have hPadded : Padded (wrap body) cs := hBody ▸ Text.padded_trimChars cs
        have hShorter : body.length < length := by
          have hWhole := hPadded.length_le
          rw [length_wrap] at hWhole
          omega
        obtain ⟨depth, core, hCore, inside⟩ := ih body.length hShorter body rfl
        exact ⟨depth + 1, core, hCore, .wrapped inside hPadded⟩
      · exact ⟨0, trimChars cs, ⟨Text.isTrimmed_trimChars cs, fun body h => hWrap ⟨body, h⟩⟩,
          .bare (Text.padded_trimChars cs)⟩

/-- A text has one core only. -/
theorem Encloses.unique (h : Encloses core depth cs) (h' : Encloses core' depth' cs)
    (hCore : IsCore core) (hCore' : IsCore core') : core = core' ∧ depth = depth' := by
  induction h generalizing depth' with
  | bare hPadded =>
      cases h' with
      | bare hPadded' => exact ⟨hPadded.unique hPadded' hCore.trimmed hCore'.trimmed, rfl⟩
      | wrapped _ hPadded' => exact absurd hPadded' (hCore.not_padded_wrap hPadded)
  | wrapped _ hPadded ih =>
      cases h' with
      | bare hPadded' => exact absurd hPadded (hCore'.not_padded_wrap hPadded')
      | wrapped inside' hPadded' =>
          obtain rfl := eq_of_padded_wrap hPadded hPadded'
          obtain ⟨rfl, rfl⟩ := ih inside'
          exact ⟨rfl, rfl⟩

/-- Each wrapper takes twelve characters at least, which bounds how many there are. -/
theorem Encloses.length_le (h : Encloses core depth cs) : 12 * depth + core.length ≤ cs.length := by
  induction h with
  | bare hPadded => simpa using hPadded.length_le
  | wrapped _ hPadded ih =>
      have hWhole := hPadded.length_le
      rw [length_wrap] at hWhole
      omega

/-- One more wrapper around a text is one more around its core. -/
theorem encloses_wrap_iff (hCore : IsCore core) :
    Encloses core depth (wrap body) ↔ ∃ outer, depth = outer + 1 ∧ Encloses core outer body := by
  have hWhole : Padded (wrap body) (wrap body) := Text.padded_self _
  constructor
  · intro h
    cases h with
    | bare hPadded => exact absurd hWhole (hCore.not_padded_wrap hPadded)
    | wrapped inside hPadded =>
        obtain rfl := eq_of_padded_wrap hPadded hWhole
        exact ⟨_, rfl, inside⟩
  · rintro ⟨outer, rfl, inside⟩
    exact .wrapped inside hWhole

/-- Trimming on every level takes away the blanks there and nothing else. -/
theorem wraps_trimChars_iff :
    Wraps inner depth (trimChars cs) ↔ IsBare inner ∧ Encloses inner depth cs := by
  constructor
  · intro h
    generalize hText : trimChars cs = text at h
    induction h generalizing cs with
    | bare hBare =>
        obtain ⟨hTrimmed, hPadded⟩ := Text.trimChars_eq_iff.1 hText
        exact ⟨⟨hTrimmed, hBare⟩, .bare hPadded⟩
    | wrapped _ ih =>
        obtain ⟨hBare, inside⟩ := ih rfl
        exact ⟨hBare, .wrapped inside (Text.trimChars_eq_iff.1 hText).2⟩
  · rintro ⟨hBare, h⟩
    induction h with
    | bare hPadded =>
        rw [hPadded.trimChars_eq hBare.trimmed]
        exact .bare hBare.unwrapped
    | wrapped _ hPadded ih =>
        rw [hPadded.trimChars_eq (isTrimmed_wrap _)]
        exact .wrapped ih

variable {type name : String} {cardinality : Cardinality} {error : Error}

theorem unwrap_eq_ok_iff : unwrap type = .ok (name, cardinality) ↔
    ∃ depth, IsBare name.toList ∧ Encloses name.toList depth type.toList ∧
      (cardinality = unbounded ↔ 0 < depth) := by
  rw [unwrap_eq_ok]
  simp only [wraps_trimChars_iff, and_assoc]

/-- A name inside wrappers is found. -/
theorem unwrap_of_isBare (hBare : IsBare name.toList)
    (h : Encloses name.toList depth type.toList) :
    unwrap type = .ok (name, if depth = 0 then single else unbounded) := by
  refine unwrap_eq_ok_iff.2 ⟨depth, hBare, h, ?_⟩
  cases depth <;> simp

theorem eq_of_unwrap_eq_error (h : unwrap type = .error error) :
    error = .format (.unterminatedCollection type) := by
  unfold unwrap at h
  split at h
  · cases h
  · exact (Except.error.inj h).symm

/-- A text is refused if its core is a wrapper that is not closed. -/
theorem unwrap_eq_error_iff : unwrap type = .error error ↔
    error = .format (.unterminatedCollection type) ∧
      ∃ depth core, IsUnclosed core ∧ Encloses core depth type.toList := by
  constructor
  · intro h
    obtain ⟨depth, core, hCore, hEncloses⟩ := exists_encloses type.toList
    refine ⟨eq_of_unwrap_eq_error h, depth, core, ?_, hEncloses⟩
    refine hCore.isBare_or_isUnclosed.resolve_left fun hBare => ?_
    rw [← String.toList_ofList (l := core)] at hBare hEncloses
    cases (unwrap_of_isBare hBare hEncloses).symm.trans h
  · rintro ⟨rfl, depth, core, hUnclosed, hEncloses⟩
    cases hAnswer : unwrap type with
    | ok found =>
        obtain ⟨_, hBare, hOther, _⟩ := unwrap_eq_ok_iff.1 hAnswer
        obtain ⟨rfl, _⟩ := hEncloses.unique hOther hUnclosed.isCore hBare.isCore
        exact absurd hBare hUnclosed.not_isBare
    | error error => rw [eq_of_unwrap_eq_error hAnswer]

theorem toList_wrapped (type : String) :
    ("Collection(" ++ type ++ ")").toList = wrap type.toList := by
  rw [String.toList_append, String.toList_append, List.append_assoc]
  rfl

/-- What is found in a text is found in it with a wrapper around, as any number of values. -/
theorem unwrap_wrapped_eq_ok_iff :
    unwrap ("Collection(" ++ type ++ ")") = .ok (name, cardinality) ↔
      cardinality = unbounded ∧ ∃ found, unwrap type = .ok (name, found) := by
  rw [unwrap_eq_ok_iff, toList_wrapped]
  constructor
  · rintro ⟨depth, hBare, hEncloses, hUnbounded⟩
    obtain ⟨outer, rfl, inside⟩ := (encloses_wrap_iff hBare.isCore).1 hEncloses
    exact ⟨hUnbounded.2 outer.succ_pos, _, unwrap_of_isBare hBare inside⟩
  · rintro ⟨rfl, _, hFound⟩
    obtain ⟨depth, hBare, inside, _⟩ := unwrap_eq_ok_iff.1 hFound
    exact ⟨depth + 1, hBare, (encloses_wrap_iff hBare.isCore).2 ⟨depth, rfl, inside⟩, by simp⟩

/-- What is refused is refused inside a wrapper for the same cause, told of the longer text. -/
theorem unwrap_wrapped_eq_error_iff :
    unwrap ("Collection(" ++ type ++ ")") = .error error ↔
      error = .format (.unterminatedCollection ("Collection(" ++ type ++ ")")) ∧
        unwrap type = .error (.format (.unterminatedCollection type)) := by
  simp only [unwrap_eq_error_iff, toList_wrapped, true_and]
  refine and_congr_right fun _ => ?_
  constructor
  · rintro ⟨_, core, hUnclosed, hEncloses⟩
    obtain ⟨outer, _, inside⟩ := (encloses_wrap_iff hUnclosed.isCore).1 hEncloses
    exact ⟨outer, core, hUnclosed, inside⟩
  · rintro ⟨depth, core, hUnclosed, inside⟩
    exact ⟨depth + 1, core, hUnclosed,
      (encloses_wrap_iff hUnclosed.isCore).2 ⟨depth, rfl, inside⟩⟩

/-- What taking the wrappers away from a text comes to. -/
structure Unwraps (type : String) : Prop where
  /-- It comes to an end, after one number of rounds and at one text that is no wrapper. -/
  ends : ∃ depth core, IsCore core ∧ Encloses core depth type.toList ∧
    12 * depth + core.length ≤ type.length ∧
    ∀ core' depth', IsCore core' → Encloses core' depth' type.toList →
      core = core' ∧ depth = depth'
  /-- A name is found exactly if the wrappers are around it. -/
  ok_iff : ∀ name cardinality, unwrap type = .ok (name, cardinality) ↔
    ∃ depth, IsBare name.toList ∧ Encloses name.toList depth type.toList ∧
      (cardinality = unbounded ↔ 0 < depth)
  /-- The text is refused exactly if the wrappers are around one that is not closed. -/
  error_iff : ∀ error, unwrap type = .error error ↔
    error = .format (.unterminatedCollection type) ∧
      ∃ depth core, IsUnclosed core ∧ Encloses core depth type.toList
  /-- A name that is found stands for one value by itself. -/
  found_again : ∀ name cardinality, unwrap type = .ok (name, cardinality) →
    unwrap name = .ok (name, single)
  /-- One more wrapper changes how many values there are and nothing else. -/
  wrapped_ok_iff : ∀ name cardinality,
    unwrap ("Collection(" ++ type ++ ")") = .ok (name, cardinality) ↔
      cardinality = unbounded ∧ ∃ found, unwrap type = .ok (name, found)
  /-- One more wrapper leaves the cause of a refusal what it is. -/
  wrapped_error_iff : ∀ error, unwrap ("Collection(" ++ type ++ ")") = .error error ↔
    error = .format (.unterminatedCollection ("Collection(" ++ type ++ ")")) ∧
      unwrap type = .error (.format (.unterminatedCollection type))

/-- Whatever the text, taking wrappers away ends at a name or at a wrapper that is not closed, and
the answer tells which. A name that was found is found in itself, and one more wrapper makes no
difference but in the number of values. -/
theorem unwraps (type : String) : Unwraps type where
  ends := by
    obtain ⟨depth, core, hCore, hEncloses⟩ := exists_encloses type.toList
    refine ⟨depth, core, hCore, hEncloses, ?_, fun core' depth' hCore' hEncloses' =>
      hEncloses.unique hEncloses' hCore hCore'⟩
    rw [← String.length_toList]
    exact hEncloses.length_le
  ok_iff _ _ := unwrap_eq_ok_iff
  error_iff _ := unwrap_eq_error_iff
  found_again name _ hFound := by
    obtain ⟨_, hBare, _, _⟩ := unwrap_eq_ok_iff.1 hFound
    exact unwrap_eq_ok_iff.2 ⟨0, hBare, .bare (Text.padded_self _), by simp⟩
  wrapped_ok_iff _ _ := unwrap_wrapped_eq_ok_iff
  wrapped_error_iff _ := unwrap_wrapped_eq_error_iff

/-- A name in two wrappers. A bracket too many belongs to the name; where one is missing, the inner
wrapper is the one that is not closed. -/
theorem unwraps_of_people :
    unwrap " Collection(\tCollection(NS.Person) ) )" = .ok ("NS.Person)", unbounded) ∧
      unwrap "NS.Person)" = .ok ("NS.Person)", single) ∧
      unwrap "Collection(\tCollection(NS.Person )" =
        .error (.format (.unterminatedCollection "Collection(\tCollection(NS.Person )")) := by
  have hBare : IsBare "NS.Person)".toList :=
    ⟨(Text.trimChars_eq_iff.1 (by decide : trimChars "NS.Person)".toList = _)).1, by decide⟩
  have hName : Encloses "NS.Person)".toList 0 "NS.Person) ".toList :=
    .bare (Text.trimChars_eq_iff.1 (by decide)).2
  have hInner : Encloses "NS.Person)".toList 1 "\tCollection(NS.Person) ) ".toList :=
    .wrapped hName (Text.trimChars_eq_iff.1 (by decide)).2
  have hOuter :
      Encloses "NS.Person)".toList 2 " Collection(\tCollection(NS.Person) ) )".toList :=
    .wrapped hInner (Text.trimChars_eq_iff.1 (by decide)).2
  have hFound := ((unwraps _).ok_iff _ unbounded).2 ⟨2, hBare, hOuter, by simp⟩
  have hUnclosed : IsUnclosed "Collection(NS.Person".toList :=
    ⟨(Text.trimChars_eq_iff.1 (by decide : trimChars "Collection(NS.Person".toList = _)).1,
      "NS.Person".toList, by decide, by decide⟩
  have hOpen : Encloses "Collection(NS.Person".toList 0 "\tCollection(NS.Person ".toList :=
    .bare (Text.trimChars_eq_iff.1 (by decide)).2
  have hAround : Encloses "Collection(NS.Person".toList 1
      "Collection(\tCollection(NS.Person )".toList :=
    .wrapped hOpen (Text.trimChars_eq_iff.1 (by decide)).2
  exact ⟨hFound, (unwraps _).found_again _ _ hFound,
    ((unwraps _).error_iff _).2 ⟨rfl, 1, _, hUnclosed, hAround⟩⟩

end Csdl.Cardinality
