import Csdl.Proofs.Text.Cut
import Csdl.Query.Parser

/-! Reading query texts without blanks, part by part. Each part of such a text is read as what it
spells, whatever follows it. -/
namespace Csdl

namespace Query

/-- A run of characters that is read as a name. -/
structure Spells (run : List Char) (label : String) : Prop where
  chars : ∀ c ∈ run, isNameChar c = true
  label_eq : String.ofList (behindPrefix run) = label
  named : (behindPrefix run).isEmpty = false

instance (run : List Char) (label : String) : Decidable (Spells run label) :=
  decidable_of_iff (run.all isNameChar = true ∧ String.ofList (behindPrefix run) = label ∧
    (behindPrefix run).isEmpty = false)
    ⟨fun ⟨hChars, hLabel, hNamed⟩ => ⟨List.all_eq_true.1 hChars, hLabel, hNamed⟩,
      fun ⟨hChars, hLabel, hNamed⟩ => ⟨List.all_eq_true.2 hChars, hLabel, hNamed⟩⟩

variable {total : Nat} {run rest : List Char} {label : String}

/-- No character of a name is blank. -/
theorem isBlank_of_isNameChar {c : Char} (h : isNameChar c = true) : Text.isBlank c = false := by
  have hBlanks : ∀ code ∈ Text.blankCodes, isNameChar (Char.ofNat code) = false := by
    decide +kernel
  by_contra hBlank
  have hCode : c.toNat ∈ Text.blankCodes := by simpa [Text.isBlank] using hBlank
  have hName := hBlanks _ hCode
  rw [Char.ofNat_toNat, h] at hName
  cases hName

/-- A name does not begin with a blank or with the sign of an attribute, so it is where a step
begins. -/
theorem Spells.starts (h : Spells run label) :
    ∃ c cs, run = c :: cs ∧ Text.isBlank c = false ∧ c ≠ '@' := by
  cases run with
  | nil => cases h.named
  | cons c cs =>
      have hName := h.chars c List.mem_cons_self
      refine ⟨c, cs, rfl, isBlank_of_isNameChar hName, ?_⟩
      rintro rfl
      exact absurd hName (by decide)

/-- A name ends before the first character that cannot be in it. -/
theorem readName_append (h : Spells run label) (hRest : ∀ c ∈ rest.head?, isNameChar c = false) :
    readName total (run ++ rest) = .ok (label, rest) := by
  have hEnd : rest.takeWhile isNameChar = [] ∧ rest.dropWhile isNameChar = rest := by
    cases rest with
    | nil => exact ⟨rfl, rfl⟩
    | cons c rest => simp [hRest c rfl]
  have hTake : (run ++ rest).takeWhile isNameChar = run := by
    rw [List.takeWhile_append_of_pos h.chars, hEnd.1, List.append_nil]
  have hDrop : (run ++ rest).dropWhile isNameChar = rest := by
    rw [List.dropWhile_append_of_pos h.chars, hEnd.2]
  simp only [readName, hTake, hDrop, h.named, Bool.false_eq_true, if_false, h.label_eq]

/-- A condition on an attribute, behind its opening bracket. -/
def predicateText (run literal : List Char) : List Char :=
  '@' :: (run ++ '=' :: '\'' :: (literal ++ ['\'', ']']))

/-- The text of a condition on an attribute is read back to it, whatever follows. -/
theorem readPredicate_predicateText (hName : Spells run label) {literal : List Char}
    (hLiteral : '\'' ∉ literal) :
    readPredicate total (predicateText run literal ++ rest) =
      .ok (⟨.ofAttribute label, String.ofList literal⟩, rest) := by
  have hText : predicateText run literal ++ rest =
      '@' :: (run ++ '=' :: '\'' :: (literal ++ '\'' :: ']' :: rest)) := by
    simp [predicateText]
  have hSkip : ∀ (c : Char) (cs : List Char), Text.isBlank c = false →
      Text.trimStart (c :: cs) = c :: cs := fun _ _ => Text.trimStart_cons_of_not_blank
  have hMark : ∀ (mark : Char) (error : QueryError) (cs : List Char), Text.isBlank mark = false →
      readMark mark error (mark :: cs) = .ok cs := fun mark error cs hBlank => by
    simp [readMark, hSkip mark cs hBlank]
  have hOperand : readOperand total
        ('@' :: (run ++ '=' :: '\'' :: (literal ++ '\'' :: ']' :: rest))) =
      .ok (.ofAttribute label, '=' :: '\'' :: (literal ++ '\'' :: ']' :: rest)) := by
    rw [readOperand, readName_append hName fun c hc => by cases hc; decide]
    rfl
  have hRead : readLiteral ('\'' :: (literal ++ '\'' :: ']' :: rest)) =
      .ok (String.ofList literal, ']' :: rest) := by
    simp [readLiteral, Text.cutAtFirst?_append hLiteral]
  rw [hText, readPredicate, hSkip '@' _ (by decide), hOperand]
  refine bind_eq_ok.2 ⟨_, rfl, bind_eq_ok.2 ⟨_, hMark '=' _ _ (by decide), ?_⟩⟩
  rw [hSkip '\'' _ (by decide), hRead]
  exact bind_eq_ok.2 ⟨_, rfl, bind_eq_ok.2 ⟨_, hMark ']' _ _ (by decide), rfl⟩⟩

/-- Conditions end where no bracket stands behind blanks. -/
theorem readPredicates_eq_end {done : List Predicate} {cs : List Char}
    (h : (Text.trimStart cs).head? ≠ some '[') :
    readPredicates total done cs = .ok (done.reverse, Text.trimStart cs) := by
  rw [readPredicates]
  split
  · rfl
  · next hCut =>
      rw [Text.cutStart?_eq_some_iff.1 hCut] at h
      exact absurd rfl h

/-- A bracket behind blanks begins a condition. -/
theorem readPredicates_eq_bind {done : List Predicate} {cs inside : List Char}
    (h : Text.trimStart cs = '[' :: inside) :
    readPredicates total done cs = (readPredicate total inside >>=
      fun (found, rest) => readPredicates total (found :: done) rest) := by
  have hCut : Text.cutStart? ['['] (Text.trimStart cs) = some inside :=
    Text.cutStart?_eq_some_iff.2 h
  rw [readPredicates]
  split
  · next hNone =>
      rw [hCut] at hNone
      cases hNone
  · next hFound =>
      obtain rfl := Option.some.inj (hCut.symm.trans hFound)
      split
      · next hRead =>
          rw [hRead]
          rfl
      · next hRead =>
          rw [hRead]
          rfl

/-- Conditions end where no bracket follows. -/
theorem readPredicates_end {done : List Predicate}
    (hRest : ∀ c ∈ rest.head?, Text.isBlank c = false ∧ c ≠ '[') :
    readPredicates total done rest = .ok (done.reverse, rest) := by
  have hTrim : Text.trimStart rest = rest := by
    cases rest with
    | nil => rfl
    | cons c rest => exact Text.trimStart_cons_of_not_blank (hRest c rfl).1
  have hHead : (Text.trimStart rest).head? ≠ some '[' := by
    rw [hTrim]
    exact fun hBracket => (hRest _ hBracket).2 rfl
  rw [readPredicates_eq_end hHead, hTrim]

theorem readPredicates_cons {done : List Predicate} {predicate : Predicate}
    {inside : List Char} (h : readPredicate total inside = .ok (predicate, rest)) :
    readPredicates total done ('[' :: inside) = readPredicates total (predicate :: done) rest := by
  rw [readPredicates_eq_bind (Text.trimStart_cons_of_not_blank (by decide)), h]
  rfl

/-- What may stand behind a step: nothing, or the next step. -/
def EndsStep (rest : List Char) : Prop :=
  ∀ c ∈ rest.head?, c = '/'

/-- Goes on behind a step, if a slash stands there. -/
def readBehind (total : Nat) (done : List Step) : Step × List Char → Except QueryError Query
  | (step, []) => .ok ⟨(step :: done).reverse, none⟩
  | (step, '/' :: rest) => readSteps total (step :: done) rest
  | (_, c :: rest) => .error (.unexpected c (total - (rest.length + 1)))

variable {done : List Step}

/-- Behind a step there is only a slash or the end. -/
theorem readBehind_of_ne {step : Step} {c : Char} {rest : List Char} (h : c ≠ '/') :
    readBehind total done (step, c :: rest) =
      .error (.unexpected c (total - (rest.length + 1))) := by
  unfold readBehind
  split
  · next hEq => cases hEq
  · next hEq =>
      cases hEq
      exact absurd rfl h
  · next hEq =>
      cases hEq
      rfl

/-- The sign of an attribute begins the end of a query. -/
theorem readSteps_eq_sign {done : List Step} {cs rest : List Char}
    (h : Text.trimStart cs = '@' :: rest) :
    readSteps total done cs = (readName total rest >>= fun (label, rest) =>
      readEnd total rest >>= fun _ => pure ⟨done.reverse, some label⟩) := by
  rw [readSteps]
  split
  · next hSign =>
      obtain rfl := (List.cons.inj (h.symm.trans hSign)).2
      rfl
  · next hOther => exact absurd h (hOther rest)

/-- Anything else begins with a step. -/
theorem readSteps_eq_bind {done : List Step} {cs : List Char}
    (h : (Text.trimStart cs).head? ≠ some '@') :
    readSteps total done cs = readStep total (Text.trimStart cs) >>= readBehind total done := by
  rw [readSteps]
  split
  · next hSign =>
      rw [hSign] at h
      exact absurd rfl h
  · split
    · next hRead =>
        rw [hRead]
        rfl
    · next hRead =>
        rw [hRead]
        rfl
    · next hRead =>
        rw [hRead]
        rfl
    · next hSlash hRead =>
        rw [hRead]
        exact (readBehind_of_ne hSlash).symm

/-- A text that begins with neither a blank nor the sign of an attribute begins with a step. -/
theorem readSteps_eq {c : Char} (hBlank : Text.isBlank c = false) (hSign : c ≠ '@')
    (cs : List Char) :
    readSteps total done (c :: cs) = readStep total (c :: cs) >>= readBehind total done := by
  have hTrim : Text.trimStart (c :: cs) = c :: cs := Text.trimStart_cons_of_not_blank hBlank
  rw [readSteps_eq_bind (by simpa [hTrim] using hSign), hTrim]

theorem readSteps_attribute (hName : Spells run label) :
    readSteps total done ('@' :: run) = .ok ⟨done.reverse, some label⟩ := by
  rw [readSteps, Text.trimStart_cons_of_not_blank (by decide)]
  have hRead : readName total (run ++ []) = .ok (label, []) :=
    readName_append hName fun c hc => nomatch hc
  rw [List.append_nil] at hRead
  exact bind_eq_ok.2 ⟨_, hRead, rfl⟩

/-- A text that is read as a step wherever a step may stand. -/
structure StepText (text : List Char) (step : Step) : Prop where
  read : ∀ total rest, EndsStep rest → readStep total (text ++ rest) = .ok (step, rest)
  starts : ∃ c cs, text = c :: cs ∧ Text.isBlank c = false ∧ c ≠ '@'

namespace StepText

/-- A name alone is the text of a step without conditions. -/
theorem of_name (hName : Spells run label) : StepText run ⟨label, []⟩ where
  starts := hName.starts
  read total rest hRest := by
    have hEnd : ∀ c ∈ rest.head?, isNameChar c = false ∧ Text.isBlank c = false ∧ c ≠ '[' := by
      intro c hc
      rw [hRest c hc]
      decide
    rw [readStep, readName_append hName fun c hc => (hEnd c hc).1]
    refine bind_eq_ok.2 ⟨_, rfl, ?_⟩
    dsimp only
    rw [readPredicates_end fun c hc => (hEnd c hc).2]
    rfl

/-- A name with a condition behind it is the text of a step with this condition. -/
theorem of_predicate (hName : Spells run label) {run' literal : List Char} {label' : String}
    (hName' : Spells run' label') (hLiteral : '\'' ∉ literal) :
    StepText (run ++ '[' :: predicateText run' literal)
      ⟨label, [⟨.ofAttribute label', String.ofList literal⟩]⟩ where
  starts := by
    obtain ⟨c, cs, rfl, hStart⟩ := hName.starts
    exact ⟨c, _, rfl, hStart⟩
  read total rest hRest := by
    have hEnd : ∀ c ∈ rest.head?, Text.isBlank c = false ∧ c ≠ '[' := by
      intro c hc
      rw [hRest c hc]
      decide
    rw [List.append_assoc, List.cons_append, readStep,
      readName_append hName fun c hc => by cases hc; decide]
    refine bind_eq_ok.2 ⟨_, rfl, ?_⟩
    dsimp only
    rw [readPredicates_cons (readPredicate_predicateText hName' hLiteral), readPredicates_end hEnd]
    rfl

variable {text : List Char} {step : Step}

theorem readSteps_last (h : StepText text step) :
    readSteps total done text = .ok ⟨(step :: done).reverse, none⟩ := by
  obtain ⟨c, cs, rfl, hBlank, hSign⟩ := h.starts
  have hRead := h.read total [] fun c hc => nomatch hc
  rw [List.append_nil] at hRead
  rw [readSteps_eq hBlank hSign, hRead]
  rfl

theorem readSteps_slash (h : StepText text step) (rest : List Char) :
    readSteps total done (text ++ '/' :: rest) = readSteps total (step :: done) rest := by
  obtain ⟨c, cs, rfl, hBlank, hSign⟩ := h.starts
  have hRead := h.read total ('/' :: rest) fun c hc => (Option.some.inj hc).symm
  rw [List.cons_append] at hRead ⊢
  rw [readSteps_eq hBlank hSign, hRead]
  rfl

end StepText

end Query

end Csdl
