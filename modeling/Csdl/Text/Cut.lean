/-!
Cutting a known text off the start of another, and cutting a text at a character.
-/

namespace Csdl.Text

/-- What follows `start` in a text that begins with it. -/
def cutStart? : List Char → List Char → Option (List Char)
  | [], cs => some cs
  | _ :: _, [] => none
  | s :: start, c :: cs => if s = c then cutStart? start cs else none

/-- The start of a text is cut off exactly if the text begins so. -/
theorem cutStart?_eq_some_iff {start cs rest : List Char} :
    cutStart? start cs = some rest ↔ cs = start ++ rest := by
  induction start generalizing cs with
  | nil => simp [cutStart?]
  | cons s start ih =>
    cases cs with
    | nil => simp [cutStart?]
    | cons c cs =>
      by_cases h : s = c
      · simp [cutStart?, h, ih]
      · simp [cutStart?, h, Ne.symm h]

theorem length_of_cutStart? {start cs rest : List Char} (h : cutStart? start cs = some rest) :
    cs.length = start.length + rest.length := by
  simp [cutStart?_eq_some_iff.1 h]

/-- The texts before and behind the first `mark`. -/
def cutAtFirst? (mark : Char) (cs : List Char) : Option (List Char × List Char) :=
  match cs.dropWhile (· != mark) with
  | [] => none
  | _ :: behind => some (cs.takeWhile (· != mark), behind)

/-- The texts before and behind the last `mark`. -/
def cutAtLast? (mark : Char) (cs : List Char) : Option (List Char × List Char) :=
  (cutAtFirst? mark cs.reverse).map fun (behind, before) => (before.reverse, behind.reverse)

/-- The parts of a text and the mark between them make up the text. -/
theorem append_of_cutAtFirst? {mark : Char} {cs before behind : List Char}
    (h : cutAtFirst? mark cs = some (before, behind)) : cs = before ++ mark :: behind := by
  have hWhole := List.takeWhile_append_dropWhile (p := (· != mark)) (l := cs)
  have hHead := List.head?_dropWhile_not (· != mark) cs
  unfold cutAtFirst? at h
  generalize cs.dropWhile (· != mark) = tail at h hWhole hHead
  cases tail with
  | nil => simp at h
  | cons c rest =>
    simp only [Option.some.injEq, Prod.mk.injEq] at h
    have hMark : c = mark := by simpa using hHead
    rw [← hWhole, h.1, h.2, hMark]

theorem length_of_cutAtFirst? {mark : Char} {cs before behind : List Char}
    (h : cutAtFirst? mark cs = some (before, behind)) :
    cs.length = before.length + 1 + behind.length := by
  have := congrArg List.length (append_of_cutAtFirst? h)
  simp at this
  omega

/-- The texts before and behind the first place where `mark` begins, searched behind the
characters `done`, which are held in reverse. -/
def cutAtFrom? (mark done : List Char) (cs : List Char) : Option (List Char × List Char) :=
  match cutStart? mark cs with
  | some behind => some (done.reverse, behind)
  | none =>
    match cs with
    | [] => none
    | c :: cs => cutAtFrom? mark (c :: done) cs

/-- The texts before and behind the first place where `mark` stands. -/
def cutAt? (mark cs : List Char) : Option (List Char × List Char) :=
  cutAtFrom? mark [] cs

/-- The parts of a text around a mark make up the text, with what had been passed before it. -/
theorem append_of_cutAtFrom? {mark done cs before behind : List Char}
    (h : cutAtFrom? mark done cs = some (before, behind)) :
    done.reverse ++ cs = before ++ mark ++ behind := by
  induction cs generalizing done with
  | nil =>
    unfold cutAtFrom? at h
    cases hCut : cutStart? mark [] with
    | some rest =>
      simp only [hCut, Option.some.injEq, Prod.mk.injEq] at h
      simp [← h.1, ← h.2, ← cutStart?_eq_some_iff.1 hCut]
    | none => simp [hCut] at h
  | cons c cs ih =>
    unfold cutAtFrom? at h
    cases hCut : cutStart? mark (c :: cs) with
    | some rest =>
      simp only [hCut, Option.some.injEq, Prod.mk.injEq] at h
      simp [← h.1, ← h.2, ← cutStart?_eq_some_iff.1 hCut]
    | none =>
      simp only [hCut] at h
      simpa using ih h

theorem append_of_cutAt? {mark cs before behind : List Char}
    (h : cutAt? mark cs = some (before, behind)) : cs = before ++ mark ++ behind := by
  simpa using append_of_cutAtFrom? h

theorem length_of_cutAt? {mark cs before behind : List Char}
    (h : cutAt? mark cs = some (before, behind)) :
    cs.length = before.length + mark.length + behind.length := by
  rw [append_of_cutAt? h]
  simp [Nat.add_assoc]

/-- What is left of a text behind its first characters of a class is no longer. -/
theorem length_dropWhile_le (p : Char → Bool) (cs : List Char) :
    (cs.dropWhile p).length ≤ cs.length :=
  (List.dropWhile_sublist p).length_le

end Csdl.Text
