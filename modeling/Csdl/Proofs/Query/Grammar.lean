import Csdl.Proofs.Query.Token

/-! The grammar of query texts. Each part of a query is a row of tokens, slashes stand between the
parts, and an attribute is only named at the end. Exactly the texts of the grammar are read, each as
the query whose parts it lists, so nothing depends on prefixes or on the blanks between tokens. -/
namespace Csdl.Query

/-- A condition looks at an attribute behind its sign, or at a child by its name alone. -/
def Operand.token : Operand → Token
  | .ofAttribute label => .sign label
  | .ofChild label => .name label

/-- A condition behind its opening bracket. -/
def Predicate.inside (predicate : Predicate) : List Token :=
  [predicate.operand.token, .mark '=', .literal predicate.literal, .mark ']']

/-- A condition. -/
def Predicate.tokens (predicate : Predicate) : List Token :=
  .mark '[' :: predicate.inside

/-- A step is a name with its conditions. -/
def Step.tokens (step : Step) : List Token :=
  .name step.label :: step.predicates.flatMap Predicate.tokens

/-- What stands between two slashes. -/
inductive Part where
  | elements (step : Step)
  | value (label : String)
  deriving DecidableEq, Repr

/-- A part is a step to elements, or an attribute behind its sign. -/
def Part.tokens : Part → List Token
  | .elements step => step.tokens
  | .value label => [.sign label]

/-- Parts with slashes between them. -/
def joined (parts : List Part) : List Token :=
  [.mark '/'].intercalate (parts.map Part.tokens)

/-- The parts of a query. -/
def parts (query : Query) : List Part :=
  query.steps.map .elements ++ query.value.toList.map .value

/-- The texts of the grammar: one part or more with slashes between them, of which only the last one
may be an attribute. -/
structure IsQuery (text : List Char) (parts : List Part) : Prop where
  ne_nil : parts ≠ []
  value_last : ∀ before label behind, parts = before ++ .value label :: behind → behind = []
  row : IsRow text (joined parts)

variable {total : Nat} {cs rest : List Char}

theorem joined_singleton (part : Part) : joined [part] = part.tokens :=
  List.intercalate_singleton

theorem joined_cons {part : Part} {more : List Part} (h : more ≠ []) :
    joined (part :: more) = part.tokens ++ .mark '/' :: joined more := by
  have hMore : more.map Part.tokens ≠ [] := fun hNil => h (List.map_eq_nil_iff.1 hNil)
  rw [joined, List.map_cons, List.intercalate_cons_of_ne_nil hMore, List.append_assoc]
  rfl

section Readers

/-- A mark is read behind blanks. -/
theorem readMark_eq_ok_iff {mark : Char} {error : QueryError} (hMark : mark ∈ marks) :
    readMark mark error cs = .ok rest ↔ Starts (Text.trimStart cs) (.mark mark) rest := by
  rw [starts_mark_iff, and_iff_right hMark]
  unfold readMark
  cases Text.trimStart cs with
  | nil => simp
  | cons c behind =>
      by_cases hSame : c = mark
      · simp [hSame]
      · simp [hSame]

/-- What a condition looks at is read exactly where its token begins. -/
theorem readOperand_eq_ok_iff {operand : Operand} :
    readOperand total cs = .ok (operand, rest) ↔ Starts cs operand.token rest := by
  unfold readOperand
  split
  · next cs =>
      constructor
      · intro hRead
        obtain ⟨⟨label, behind⟩, hName, hEq⟩ := bind_eq_ok.1 hRead
        cases hEq
        exact starts_sign_iff.2 ⟨cs, rfl, readName_eq_ok_iff.1 hName⟩
      · intro hStarts
        cases operand with
        | ofAttribute label =>
            obtain ⟨behind, hCs, hName⟩ := starts_sign_iff.1 hStarts
            cases hCs
            exact bind_eq_ok.2 ⟨_, readName_eq_ok_iff.2 hName, rfl⟩
        | ofChild label => exact absurd rfl hStarts.head?_ne_sign
  · next hSign =>
      constructor
      · intro hRead
        obtain ⟨⟨label, behind⟩, hName, hEq⟩ := bind_eq_ok.1 hRead
        cases hEq
        exact readName_eq_ok_iff.1 hName
      · intro hStarts
        cases operand with
        | ofAttribute label =>
            obtain ⟨behind, hCs, -⟩ := starts_sign_iff.1 hStarts
            exact absurd hCs (hSign behind)
        | ofChild label => exact bind_eq_ok.2 ⟨_, readName_eq_ok_iff.2 hStarts, rfl⟩

/-- Reading a condition takes its tokens. -/
theorem readPredicate_eq_ok_iff {predicate : Predicate} :
    readPredicate total cs = .ok (predicate, rest) ↔ Lays cs predicate.inside rest := by
  unfold Predicate.inside
  constructor
  · intro hRead
    obtain ⟨⟨operand, behindOperand⟩, hOperand, hRead⟩ := bind_eq_ok.1 hRead
    obtain ⟨behindMark, hMark, hRead⟩ := bind_eq_ok.1 hRead
    obtain ⟨⟨literal, behindLiteral⟩, hLiteral, hRead⟩ := bind_eq_ok.1 hRead
    obtain ⟨behind, hBracket, hEq⟩ := bind_eq_ok.1 hRead
    cases hEq
    have hMark := (readMark_eq_ok_iff (by decide)).1 hMark
    have hBracket := (readMark_eq_ok_iff (by decide)).1 hBracket
    exact lays_cons_iff.2 ⟨_, readOperand_eq_ok_iff.1 hOperand, lays_cons_iff.2 ⟨_, hMark,
      lays_cons_iff.2 ⟨_, readLiteral_eq_ok_iff.1 hLiteral, lays_cons_iff.2 ⟨_, hBracket, .nil⟩⟩⟩⟩
  · intro hLays
    obtain ⟨behindOperand, hOperand, hLays⟩ := lays_cons_iff.1 hLays
    obtain ⟨behindMark, hMark, hLays⟩ := lays_cons_iff.1 hLays
    obtain ⟨behindLiteral, hLiteral, hLays⟩ := lays_cons_iff.1 hLays
    obtain ⟨behind, hBracket, hLays⟩ := lays_cons_iff.1 hLays
    obtain rfl := lays_nil_iff.1 hLays
    exact bind_eq_ok.2 ⟨_, readOperand_eq_ok_iff.2 hOperand,
      bind_eq_ok.2 ⟨_, (readMark_eq_ok_iff (by decide)).2 hMark,
      bind_eq_ok.2 ⟨_, readLiteral_eq_ok_iff.2 hLiteral,
      bind_eq_ok.2 ⟨_, (readMark_eq_ok_iff (by decide)).2 hBracket, rfl⟩⟩⟩⟩

/-- An opening bracket begins a condition, behind blanks. -/
theorem lays_predicate_iff {predicate : Predicate} : Lays cs predicate.tokens rest ↔
    ∃ inside, Text.trimStart cs = '[' :: inside ∧ Lays inside predicate.inside rest := by
  have hBracket : '[' ∈ marks := by decide
  simp only [Predicate.tokens, lays_cons_iff, starts_mark_iff, hBracket, true_and]

/-- Conditions are read as long as brackets stand there, and the blanks behind them with them. -/
theorem readPredicates_eq_ok {done found : List Predicate}
    (h : readPredicates total done cs = .ok (found, rest)) :
    ∃ predicates behind, found = done.reverse ++ predicates ∧
      Lays cs (predicates.flatMap Predicate.tokens) behind ∧ rest = Text.trimStart behind := by
  fun_induction readPredicates total done cs with
  | case1 done cs =>
      cases h
      exact ⟨[], cs, (List.append_nil _).symm, .nil, rfl⟩
  | case2 => cases h
  | case3 done cs inside hBracket predicate behind hRead ih =>
      obtain ⟨predicates, last, rfl, hLays, hRest⟩ := ih h
      have hFirst : Lays cs predicate.tokens behind := lays_predicate_iff.2
        ⟨inside, Text.cutStart?_eq_some_iff.1 hBracket, readPredicate_eq_ok_iff.1 hRead⟩
      refine ⟨predicate :: predicates, last, by simp, ?_, hRest⟩
      rw [List.flatMap_cons]
      exact lays_append_iff.2 ⟨behind, hFirst, hLays⟩

/-- A row of conditions is read whole if no further bracket follows. -/
theorem readPredicates_of_lays {done predicates : List Predicate}
    (h : Lays cs (predicates.flatMap Predicate.tokens) rest)
    (hEnd : (Text.trimStart rest).head? ≠ some '[') :
    readPredicates total done cs = .ok (done.reverse ++ predicates, Text.trimStart rest) := by
  induction predicates generalizing cs done with
  | nil =>
      obtain rfl := lays_nil_iff.1 h
      rw [readPredicates_eq_end hEnd, List.append_nil]
  | cons predicate predicates ih =>
      rw [List.flatMap_cons] at h
      obtain ⟨behind, hFirst, hLays⟩ := lays_append_iff.1 h
      obtain ⟨inside, hCs, hInside⟩ := lays_predicate_iff.1 hFirst
      rw [readPredicates_eq_bind hCs, readPredicate_eq_ok_iff.2 hInside]
      refine (ih hLays).trans ?_
      simp

/-- Reading a step takes its tokens, and the blanks behind them with them. -/
theorem readStep_eq_ok {step : Step}
    (h : readStep total (Text.trimStart cs) = .ok (step, rest)) :
    ∃ behind, Lays cs step.tokens behind ∧ rest = Text.trimStart behind := by
  obtain ⟨⟨label, behindName⟩, hName, h⟩ := bind_eq_ok.1 h
  obtain ⟨⟨found, last⟩, hPredicates, hEq⟩ := bind_eq_ok.1 h
  cases hEq
  obtain ⟨predicates, behind, rfl, hLays, hRest⟩ := readPredicates_eq_ok hPredicates
  exact ⟨behind, lays_cons_iff.2 ⟨_, readName_eq_ok_iff.1 hName, hLays⟩, hRest⟩

theorem readStep_of_lays {step : Step} (h : Lays cs step.tokens rest)
    (hEnd : (Text.trimStart rest).head? ≠ some '[') :
    readStep total (Text.trimStart cs) = .ok (step, Text.trimStart rest) := by
  obtain ⟨behindName, hName, hLays⟩ := lays_cons_iff.1 h
  exact bind_eq_ok.2 ⟨_, readName_eq_ok_iff.2 hName,
    bind_eq_ok.2 ⟨_, readPredicates_of_lays hLays hEnd, rfl⟩⟩

theorem readEnd_eq_ok_iff : readEnd total cs = .ok () ↔ Text.trimStart cs = [] := by
  unfold readEnd
  split <;> simp_all

end Readers

variable {done steps : List Step} {value : Option String} {step : Step}

/-- The row of a lone attribute. -/
theorem isRow_value_iff {label : String} : IsRow cs (joined [.value label]) ↔
    ∃ name behind, Text.trimStart cs = '@' :: name ∧ Starts name (.name label) behind ∧
      Text.trimStart behind = [] := by
  rw [joined_singleton]
  simp only [Part.tokens, isRow_cons_iff, isRow_nil_iff, starts_sign_iff]
  constructor
  · rintro ⟨behind, ⟨name, hCs, hName⟩, hEnd⟩
    exact ⟨name, behind, hCs, hName, hEnd⟩
  · rintro ⟨name, behind, hCs, hName, hEnd⟩
    exact ⟨behind, ⟨name, hCs, hName⟩, hEnd⟩

/-- The row of a lone step. -/
theorem isRow_step_iff : IsRow cs (joined [.elements step]) ↔
    ∃ behind, Lays cs step.tokens behind ∧ Text.trimStart behind = [] := by
  rw [joined_singleton, ← List.append_nil (Part.tokens _)]
  simp only [Part.tokens, isRow_append_iff, isRow_nil_iff]

/-- The row of a step with more parts behind a slash. -/
theorem isRow_slash_iff {more : List Part} (h : more ≠ []) :
    IsRow cs (joined (.elements step :: more)) ↔
      ∃ behind after, Lays cs step.tokens behind ∧ Text.trimStart behind = '/' :: after ∧
        IsRow after (joined more) := by
  have hSlash : '/' ∈ marks := by decide
  rw [joined_cons h]
  simp only [Part.tokens, isRow_append_iff, isRow_cons_iff, starts_mark_iff, hSlash, true_and]
  constructor
  · rintro ⟨behind, hStep, after, hBehind, hMore⟩
    exact ⟨behind, after, hStep, hBehind, hMore⟩
  · rintro ⟨behind, after, hStep, hBehind, hMore⟩
    exact ⟨behind, hStep, after, hBehind, hMore⟩

theorem parts_cons : parts ⟨step :: steps, value⟩ = .elements step :: parts ⟨steps, value⟩ :=
  rfl

/-- What is read is the row of its parts. -/
theorem readSteps_eq_ok {query : Query} (h : readSteps total done cs = .ok query) :
    ∃ steps value, query = ⟨done.reverse ++ steps, value⟩ ∧ parts ⟨steps, value⟩ ≠ [] ∧
      IsRow cs (joined (parts ⟨steps, value⟩)) := by
  fun_induction readSteps total done cs with
  | case1 done cs name hCs =>
      obtain ⟨⟨label, behind⟩, hName, h⟩ := bind_eq_ok.1 h
      obtain ⟨⟨⟩, hEnd, hEq⟩ := bind_eq_ok.1 h
      cases hEq
      refine ⟨[], some label, by simp, by simp [parts], isRow_value_iff.2 ?_⟩
      exact ⟨name, behind, hCs, readName_eq_ok_iff.1 hName, readEnd_eq_ok_iff.1 hEnd⟩
  | case2 => cases h
  | case3 done cs step hRead =>
      cases h
      obtain ⟨behind, hStep, hEnd⟩ := readStep_eq_ok hRead
      exact ⟨[step], none, by simp, by simp [parts], isRow_step_iff.2 ⟨behind, hStep, hEnd.symm⟩⟩
  | case4 done cs step after hRead _ ih =>
      obtain ⟨behind, hStep, hBehind⟩ := readStep_eq_ok hRead
      obtain ⟨steps, value, rfl, hParts, hRow⟩ := ih h
      refine ⟨step :: steps, value, by simp, by simp [parts], ?_⟩
      rw [parts_cons]
      exact (isRow_slash_iff hParts).2 ⟨behind, after, hStep, hBehind.symm, hRow⟩
  | case5 => cases h

/-- A row of parts is read to its steps, and to its attribute if the last part is one. The induction
is on the steps, behind those that are read already. -/
theorem readSteps_of_isRow (hParts : parts ⟨steps, value⟩ ≠ [])
    (h : IsRow cs (joined (parts ⟨steps, value⟩))) :
    readSteps total done cs = .ok ⟨done.reverse ++ steps, value⟩ := by
  induction steps generalizing cs done with
  | nil =>
      cases value with
      | none => exact absurd rfl hParts
      | some label =>
          obtain ⟨name, behind, hCs, hName, hEnd⟩ := isRow_value_iff.1 h
          rw [readSteps_eq_sign hCs]
          refine bind_eq_ok.2 ⟨_, readName_eq_ok_iff.2 hName,
            bind_eq_ok.2 ⟨_, readEnd_eq_ok_iff.2 hEnd, ?_⟩⟩
          rw [List.append_nil]
          rfl
  | cons step steps ih =>
      -- a step is read alike, whether it is the last part or a slash stands behind it
      have hBegin : ∀ behind, Lays cs step.tokens behind →
          (Text.trimStart behind).head? ≠ some '[' →
          readSteps total done cs = readBehind total done (step, Text.trimStart behind) := by
        intro behind hStep hEnd
        obtain ⟨_, hName, -⟩ := lays_cons_iff.1 hStep
        rw [readSteps_eq_bind hName.head?_ne_sign, readStep_of_lays hStep hEnd]
        rfl
      rw [parts_cons] at h
      by_cases hMore : parts ⟨steps, value⟩ = []
      · rw [hMore] at h
        obtain ⟨behind, hStep, hEnd⟩ := isRow_step_iff.1 h
        obtain ⟨rfl, rfl⟩ : steps = [] ∧ value = none := by simpa [parts] using hMore
        rw [hBegin behind hStep (by simp [hEnd]), hEnd]
        simp [readBehind]
      · obtain ⟨behind, after, hStep, hBehind, hRow⟩ := (isRow_slash_iff hMore).1 h
        rw [hBegin behind hStep (by simp [hBehind]), hBehind]
        have hRest : readSteps total (step :: done) after =
            .ok ⟨(step :: done).reverse ++ steps, value⟩ := ih hMore hRow
        rw [readBehind, hRest]
        simp

/-- Reading takes exactly the texts that list the parts of a query. -/
theorem parse_eq_ok_iff {text : String} {query : Query} :
    parse text = .ok query ↔ parts query ≠ [] ∧ IsRow text.toList (joined (parts query)) := by
  have hParse : parse text = .ok query ↔
      readSteps text.toList.length [] text.toList = .ok query := by
    unfold parse read
    cases readSteps text.toList.length [] text.toList <;> simp [Except.mapError]
  rw [hParse]
  constructor
  · intro hRead
    obtain ⟨steps, value, rfl, hParts, hRow⟩ := readSteps_eq_ok hRead
    exact ⟨hParts, hRow⟩
  · rintro ⟨hParts, hRow⟩
    exact readSteps_of_isRow hParts hRow

/-- Only the last part of a query may be an attribute. -/
theorem value_last_parts {query : Query} {before behind : List Part} {label : String}
    (h : parts query = before ++ .value label :: behind) : behind = [] := by
  obtain ⟨steps, value⟩ := query
  induction steps generalizing before with
  | nil =>
      have hLength := congrArg List.length h
      cases value with
      | none => simp [parts] at hLength
      | some found =>
          rw [List.length_append, List.length_cons] at hLength
          simp only [parts, List.map_nil, Option.toList_some, List.map_singleton,
            List.length_append, List.length_nil, List.length_singleton] at hLength
          exact List.length_eq_zero_iff.1 (by omega)
  | cons step steps ih =>
      cases before with
      | nil => cases h
      | cons first before => exact ih (List.cons.inj h).2

/-- Parts with an attribute at the end at most are those of a query. -/
theorem exists_parts_eq {listed : List Part}
    (h : ∀ before label behind, listed = before ++ .value label :: behind → behind = []) :
    ∃ query, parts query = listed := by
  induction listed with
  | nil => exact ⟨⟨[], none⟩, rfl⟩
  | cons part more ih =>
      cases part with
      | elements step =>
          obtain ⟨⟨steps, value⟩, rfl⟩ := ih fun before label behind hMore =>
            h (.elements step :: before) label behind (by rw [hMore]; rfl)
          exact ⟨⟨step :: steps, value⟩, rfl⟩
      | value label =>
          obtain rfl := h [] label more rfl
          exact ⟨⟨[], some label⟩, rfl⟩

/-- A text is read exactly if it is one of the grammar, and then as the query whose parts it lists.
Other prefixes and other blanks between the tokens leave that query as it is. A text that is not
read is told in the error. -/
theorem parse_of_grammar (text : String) :
    (∀ query, parse text = .ok query ↔ IsQuery text.toList query.parts) ∧
    (∀ listed, IsQuery text.toList listed →
      ∃ query, parse text = .ok query ∧ query.parts = listed) ∧
    (∀ query other, parse text = .ok query → Relaid text.toList other.toList →
      parse other = .ok query) ∧
    ∀ error, parse text = .error error → ∃ cause, error = .query text cause := by
  have hGrammar : ∀ query, parse text = .ok query ↔ IsQuery text.toList query.parts := by
    intro query
    rw [parse_eq_ok_iff]
    constructor
    · rintro ⟨hParts, hRow⟩
      exact ⟨hParts, fun _ _ _ => value_last_parts, hRow⟩
    · rintro ⟨hParts, -, hRow⟩
      exact ⟨hParts, hRow⟩
  refine ⟨hGrammar, ?_, ?_, ?_⟩
  · intro listed hListed
    obtain ⟨query, rfl⟩ := exists_parts_eq hListed.value_last
    exact ⟨query, (hGrammar query).2 hListed, rfl⟩
  · rintro query other hParse ⟨tokens, hText, hOther⟩
    obtain ⟨hParts, hRow⟩ := parse_eq_ok_iff.1 hParse
    obtain rfl := hRow.unique hText
    exact parse_eq_ok_iff.2 ⟨hParts, hOther⟩
  · intro error hParse
    unfold parse at hParse
    cases hRead : read text.toList with
    | ok query =>
        rw [hRead] at hParse
        cases hParse
    | error cause =>
        rw [hRead] at hParse
        cases hParse
        exact ⟨cause, rfl⟩

example : parse " edm:Key [@Name= \"it's\" ][ Kind='a b']\n/ @x:y:Value " =
    .ok ⟨[⟨"Key", [⟨.ofAttribute "Name", "it's"⟩, ⟨.ofChild "Kind", "a b"⟩]⟩], some "Value"⟩ := by
  decide +kernel

end Csdl.Query
