import Csdl.Error
import Csdl.Query.Basic
import Csdl.Text.Alphanumeric
import Csdl.Text.Cut

/-!
Reading the text of a query. Steps are separated by slashes, conditions stand in square brackets,
and blanks may stand between any two parts but behind the sign of an attribute. The prefix of a
name is dropped.
-/

namespace Csdl.Query

/-- A character of a name or of its prefix. -/
def isNameChar (c : Char) : Bool :=
  Text.isAlphanumeric c || c = '_' || c = '-' || c = '.' || c = ':'

/-- What stands behind the last colon. -/
def behindPrefix (run : List Char) : List Char :=
  (run.reverse.takeWhile (· != ':')).reverse

/-- Reads a name. `total` is the length of the whole text, from which a position is told. -/
def readName (total : Nat) (cs : List Char) : Except QueryError (String × List Char) :=
  let label := behindPrefix (cs.takeWhile isNameChar)
  if label.isEmpty then .error (.expectedName (total - cs.length))
  else .ok (String.ofList label, cs.dropWhile isNameChar)

/-- Reads a text in quotes of either kind. -/
def readLiteral (cs : List Char) : Except QueryError (String × List Char) :=
  match cs with
  | [] => .error .expectedLiteral
  | quote :: cs =>
    if quote = '\'' || quote = '"' then
      match Text.cutAtFirst? quote cs with
      | none => .error .unterminatedLiteral
      | some (inside, rest) => .ok (String.ofList inside, rest)
    else .error .expectedLiteral

/-- Reads what a condition looks at. -/
def readOperand (total : Nat) (cs : List Char) : Except QueryError (Operand × List Char) :=
  match cs with
  | '@' :: cs => do
    let (label, rest) ← readName total cs
    return (.ofAttribute label, rest)
  | cs => do
    let (label, rest) ← readName total cs
    return (.ofChild label, rest)

/-- Reads one character behind blanks. -/
def readMark (mark : Char) (error : QueryError) (cs : List Char) : Except QueryError (List Char) :=
  match Text.trimStart cs with
  | [] => .error error
  | c :: rest => if c = mark then .ok rest else .error error

/-- Reads a condition behind its opening bracket. -/
def readPredicate (total : Nat) (cs : List Char) : Except QueryError (Predicate × List Char) := do
  let (operand, rest) ← readOperand total (Text.trimStart cs)
  let rest ← readMark '=' .expectedEquals rest
  let (literal, rest) ← readLiteral (Text.trimStart rest)
  let rest ← readMark ']' .unterminatedPredicate rest
  return (⟨operand, literal⟩, rest)

theorem length_trimStart_le (cs : List Char) : (Text.trimStart cs).length ≤ cs.length :=
  Text.length_dropWhile_le Text.isBlank cs

/-- A name that is read has at least one character. -/
theorem length_of_readName {total : Nat} {cs rest : List Char} {label : String}
    (h : readName total cs = .ok (label, rest)) : rest.length < cs.length := by
  simp only [readName] at h
  split at h
  · simp at h
  next hNamed =>
    obtain ⟨_, rfl⟩ := Prod.mk.inj (Except.ok.inj h)
    have hParts := congrArg List.length
      (List.takeWhile_append_dropWhile (p := isNameChar) (l := cs))
    have hRun : 0 < (cs.takeWhile isNameChar).length := by
      cases hName : cs.takeWhile isNameChar with
      | nil => simp [hName, behindPrefix] at hNamed
      | cons c rest => simp
    simp only [List.length_append] at hParts
    omega

/-- Quotes that are read leave less than there was. -/
theorem length_of_readLiteral {cs rest : List Char} {literal : String}
    (h : readLiteral cs = .ok (literal, rest)) : rest.length < cs.length := by
  cases cs with
  | nil => simp [readLiteral] at h
  | cons quote cs =>
    simp only [readLiteral] at h
    split at h
    · split at h
      · simp at h
      next hCut =>
        have := Text.length_of_cutAtFirst? hCut
        obtain ⟨_, rfl⟩ := Prod.mk.inj (Except.ok.inj h)
        simp only [List.length_cons]
        omega
    · simp at h

/-- A mark that is read leaves less than there was, by the blanks before it too. -/
theorem length_of_readMark {mark : Char} {error : QueryError} {cs rest : List Char}
    (h : readMark mark error cs = .ok rest) : rest.length < cs.length := by
  unfold readMark at h
  split at h
  · simp at h
  next c behind hBlanks =>
    have hSkipped := length_trimStart_le cs
    simp only [hBlanks, List.length_cons] at hSkipped
    split at h
    · rw [← Except.ok.inj h]
      omega
    · simp at h

theorem bind_eq_ok {ε α β : Type} {x : Except ε α} {f : α → Except ε β} {b : β} :
    (x >>= f) = .ok b ↔ ∃ a, x = .ok a ∧ f a = .ok b := by
  cases x <;> simp [bind, Except.bind]

/-- What a condition looks at has at least one character. -/
theorem length_of_readOperand {total : Nat} {cs rest : List Char} {operand : Operand}
    (h : readOperand total cs = .ok (operand, rest)) : rest.length < cs.length := by
  unfold readOperand at h
  split at h
  · obtain ⟨⟨label, behind⟩, hName, hEq⟩ := bind_eq_ok.1 h
    have := length_of_readName hName
    obtain ⟨_, rfl⟩ := Prod.mk.inj (Except.ok.inj hEq)
    simp only [List.length_cons]
    omega
  · obtain ⟨⟨label, behind⟩, hName, hEq⟩ := bind_eq_ok.1 h
    obtain ⟨_, rfl⟩ := Prod.mk.inj (Except.ok.inj hEq)
    exact length_of_readName hName

/-- A condition leaves less than there was behind its opening bracket. -/
theorem length_of_readPredicate {total : Nat} {cs rest : List Char} {predicate : Predicate}
    (h : readPredicate total cs = .ok (predicate, rest)) : rest.length < cs.length := by
  obtain ⟨⟨operand, behindOperand⟩, hOperand, h⟩ := bind_eq_ok.1 h
  obtain ⟨behindMark, hMark, h⟩ := bind_eq_ok.1 h
  obtain ⟨⟨literal, behindLiteral⟩, hLiteral, h⟩ := bind_eq_ok.1 h
  obtain ⟨behind, hBracket, hEq⟩ := bind_eq_ok.1 h
  obtain ⟨_, rfl⟩ := Prod.mk.inj (Except.ok.inj hEq)
  have := length_trimStart_le cs
  have := length_of_readOperand hOperand
  have : behindMark.length < behindOperand.length := length_of_readMark hMark
  have := length_trimStart_le behindMark
  have := length_of_readLiteral hLiteral
  have : behind.length < behindLiteral.length := length_of_readMark hBracket
  omega

/-- Reads the conditions of a step behind the conditions `done`, which are held in reverse. -/
def readPredicates (total : Nat) (done : List Predicate) (cs : List Char) :
    Except QueryError (List Predicate × List Char) :=
  match _hBracket : Text.cutStart? ['['] (Text.trimStart cs) with
  | none => .ok (done.reverse, Text.trimStart cs)
  | some inside =>
    match _hRead : readPredicate total inside with
    | .error error => .error error
    | .ok (predicate, rest) => readPredicates total (predicate :: done) rest
termination_by cs.length
decreasing_by
  have := length_of_readPredicate _hRead
  have := length_trimStart_le cs
  have := Text.length_of_cutStart? _hBracket
  omega

/-- The conditions of a step leave no more than there was. There may be none. -/
theorem length_of_readPredicates {total : Nat} {done found : List Predicate} {cs rest : List Char}
    (h : readPredicates total done cs = .ok (found, rest)) : rest.length ≤ cs.length := by
  fun_induction readPredicates total done cs with
  | case1 done cs =>
    obtain ⟨_, rfl⟩ := Prod.mk.inj (Except.ok.inj h)
    exact length_trimStart_le cs
  | case2 => simp at h
  | case3 done cs inside hBracket predicate behind hRead ih =>
    have := ih h
    have := length_of_readPredicate hRead
    have := length_trimStart_le cs
    have := Text.length_of_cutStart? hBracket
    omega

/-- Reads a step to child elements. -/
def readStep (total : Nat) (cs : List Char) : Except QueryError (Step × List Char) := do
  let (label, rest) ← readName total cs
  let (predicates, rest) ← readPredicates total [] rest
  return (⟨label, predicates⟩, rest)

/-- A step leaves less than there was, since it has a name. -/
theorem length_of_readStep {total : Nat} {cs rest : List Char} {step : Step}
    (h : readStep total cs = .ok (step, rest)) : rest.length < cs.length := by
  obtain ⟨⟨label, behindName⟩, hName, h⟩ := bind_eq_ok.1 h
  obtain ⟨⟨predicates, behind⟩, hPredicates, hEq⟩ := bind_eq_ok.1 h
  obtain ⟨_, rfl⟩ := Prod.mk.inj (Except.ok.inj hEq)
  have := length_of_readName hName
  have : behind.length ≤ behindName.length := length_of_readPredicates hPredicates
  omega

/-- Reads the end of a query behind an attribute. -/
def readEnd (total : Nat) (cs : List Char) : Except QueryError Unit :=
  match Text.trimStart cs with
  | [] => .ok ()
  | '/' :: _ => .error .attributeNotLast
  | c :: rest => .error (.unexpected c (total - (rest.length + 1)))

/-- Reads a query behind the steps `done`, which are held in reverse. -/
def readSteps (total : Nat) (done : List Step) (cs : List Char) : Except QueryError Query :=
  match Text.trimStart cs with
  | '@' :: rest => do
    let (label, rest) ← readName total rest
    readEnd total rest
    return ⟨done.reverse, some label⟩
  | _ =>
    match _hRead : readStep total (Text.trimStart cs) with
    | .error error => .error error
    | .ok (step, []) => .ok ⟨(step :: done).reverse, none⟩
    | .ok (step, '/' :: rest) => readSteps total (step :: done) rest
    | .ok (_, c :: rest) => .error (.unexpected c (total - (rest.length + 1)))
termination_by cs.length
decreasing_by
  have := length_trimStart_le cs
  have hRead := length_of_readStep _hRead
  simp only [List.length_cons] at hRead
  omega

/-- The query that a text stands for. -/
def read (text : List Char) : Except QueryError Query :=
  readSteps text.length [] text

/-- The query that a string stands for. -/
def parse (text : String) : Except Error Query :=
  (read text.toList).mapError (Error.query text)

end Csdl.Query
