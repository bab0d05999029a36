import Csdl.Proofs.Query.Plain
import Mathlib.Data.List.TakeWhile

/-! Reading the text of a query by places in an array of its characters. Each access says so if its
place is outside of the array. None ever does: what is read at a place is what is read of the
characters from there on. -/
namespace Csdl.Query.Scan

/-- Why reading stops: the text is refused, or a place is outside of the array. -/
inductive Stop where
  | refused (cause : QueryError)
  | outOfRange (place : Nat)
  deriving DecidableEq, Repr

/-- The character at a place. -/
def charAt (chars : Array Char) (place : Nat) : Except Stop Char :=
  match chars[place]? with
  | some c => .ok c
  | none => .error (.outOfRange place)

/-- The characters between two places. -/
def slice (chars : Array Char) (first last : Nat) : Except Stop (List Char) :=
  if first ≤ last ∧ last ≤ chars.size then .ok ((chars.toList.drop first).take (last - first))
  else .error (.outOfRange last)

/-- The first place from one on that is at the end or has no character of a class. -/
def skip (p : Char → Bool) (chars : Array Char) (place : Nat) : Nat :=
  if h : place < chars.size then
    if p chars[place] then skip p chars (place + 1) else place
  else place
termination_by chars.size - place

/-- The place behind a character, if it is the one at a place. -/
def eat? (chars : Array Char) (expected : Char) (place : Nat) : Option Nat :=
  if chars[place]? = some expected then some (place + 1) else none

/-- Reads a name. -/
def name (chars : Array Char) (place : Nat) : Except Stop (String × Nat) :=
  let behind := skip isNameChar chars place
  match slice chars place behind with
  | .error stop => .error stop
  | .ok run =>
    let label := behindPrefix run
    if label.isEmpty then .error (.refused (.expectedName place))
    else .ok (String.ofList label, behind)

/-- Reads a text in quotes of either kind. -/
def literal (chars : Array Char) (place : Nat) : Except Stop (String × Nat) :=
  match chars[place]? with
  | none => .error (.refused .expectedLiteral)
  | some quote =>
    if quote = '\'' || quote = '"' then
      let last := skip (· != quote) chars (place + 1)
      match eat? chars quote last with
      | none => .error (.refused .unterminatedLiteral)
      | some behind => do
        let inside ← slice chars (place + 1) last
        return (String.ofList inside, behind)
    else .error (.refused .expectedLiteral)

/-- Reads what a condition looks at. -/
def operand (chars : Array Char) (place : Nat) : Except Stop (Operand × Nat) :=
  match eat? chars '@' place with
  | some place => do
    let (label, place) ← name chars place
    return (.ofAttribute label, place)
  | none => do
    let (label, place) ← name chars place
    return (.ofChild label, place)

/-- Reads one character behind blanks. -/
def mark (expected : Char) (error : QueryError) (chars : Array Char) (place : Nat) :
    Except Stop Nat :=
  match eat? chars expected (skip Text.isBlank chars place) with
  | some place => .ok place
  | none => .error (.refused error)

/-- Reads a condition behind its opening bracket. -/
def predicate (chars : Array Char) (place : Nat) : Except Stop (Predicate × Nat) := do
  let (operand, place) ← operand chars (skip Text.isBlank chars place)
  let place ← mark '=' .expectedEquals chars place
  let (literal, place) ← literal chars (skip Text.isBlank chars place)
  let place ← mark ']' .unterminatedPredicate chars place
  return (⟨operand, literal⟩, place)

/-- What is read by places is what is read of the characters: the same answer, and the place from
which on the other characters are left; or the same reason to refuse the text. -/
inductive Agrees {α : Type} (chars : Array Char) :
    Except Stop (α × Nat) → Except QueryError (α × List Char) → Prop where
  | ok (a : α) (place : Nat) (h : place ≤ chars.size) :
      Agrees chars (.ok (a, place)) (.ok (a, chars.toList.drop place))
  | refused (cause : QueryError) : Agrees chars (.error (.refused cause)) (.error cause)

/-- Readings by places agree with readings of the characters one after the other: if the first ones
agree, and the second ones do wherever the first may end, then so do both together. -/
theorem Agrees.bind {α β : Type} {chars : Array Char} {x : Except Stop (α × Nat)}
    {y : Except QueryError (α × List Char)} {f : α × Nat → Except Stop (β × Nat)}
    {g : α × List Char → Except QueryError (β × List Char)} (h : Agrees chars x y)
    (hNext : ∀ a place, place ≤ chars.size →
      Agrees chars (f (a, place)) (g (a, chars.toList.drop place))) :
    Agrees chars (x >>= f) (y >>= g) := by
  cases h with
  | ok a place h => exact hNext a place h
  | refused cause => exact .refused cause

section Places

variable {p : Char → Bool} {chars : Array Char} {place : Nat}

theorem drop_eq_cons (h : place < chars.size) :
    chars.toList.drop place = chars[place] :: chars.toList.drop (place + 1) :=
  List.drop_eq_getElem_cons h

theorem getElem?_eq_head? : chars[place]? = (chars.toList.drop place).head? := by
  rw [List.head?_drop, Array.getElem?_toList]

theorem le_skip : place ≤ skip p chars place := by
  fun_induction skip p chars place with
  | case1 place h hp ih => exact Nat.le_of_succ_le ih
  | case2 => exact Nat.le_refl _
  | case3 => exact Nat.le_refl _

theorem skip_le_size (h : place ≤ chars.size) : skip p chars place ≤ chars.size := by
  fun_induction skip p chars place with
  | case1 place hLt hp ih => exact ih hLt
  | case2 => exact h
  | case3 => exact h

/-- What is left of the characters behind a class is what there is from the place on to which the
class is skipped. -/
theorem dropWhile_drop :
    (chars.toList.drop place).dropWhile p = chars.toList.drop (skip p chars place) := by
  fun_induction skip p chars place with
  | case1 place h hp ih => rw [drop_eq_cons h, List.dropWhile_cons_of_pos hp, ih]
  | case2 place h hp => rw [drop_eq_cons h, List.dropWhile_cons_of_neg hp, ← drop_eq_cons h]
  | case3 place h =>
      have hEnd : chars.toList.drop place = [] := List.drop_eq_nil_of_le (Nat.le_of_not_lt h)
      rw [hEnd, List.dropWhile_nil]

theorem trimStart_drop : Text.trimStart (chars.toList.drop place) =
    chars.toList.drop (skip Text.isBlank chars place) :=
  dropWhile_drop

/-- The characters up to the place to which a class is skipped are those of the class, and both
places are inside of the array. -/
theorem slice_skip (h : place ≤ chars.size) : slice chars place (skip p chars place) =
    .ok ((chars.toList.drop place).takeWhile p) := by
  have hWhole := List.takeWhile_append_dropWhile (p := p) (l := chars.toList.drop place)
  rw [dropWhile_drop] at hWhole
  have hLength := congrArg List.length hWhole
  have hLe : place ≤ skip p chars place := le_skip
  have hSize := skip_le_size (p := p) h
  simp only [List.length_append, List.length_drop, Array.length_toList] at hLength
  have hCount : ((chars.toList.drop place).takeWhile p).length = skip p chars place - place := by
    omega
  rw [slice, if_pos ⟨hLe, hSize⟩, ← hCount]
  exact congrArg Except.ok (List.prefix_iff_eq_take.1 (List.takeWhile_prefix p)).symm

/-- A character that is read stands at the place, and what is left begins one place later. -/
theorem eat?_eq_some {expected : Char} {next : Nat} (h : eat? chars expected place = some next) :
    next = place + 1 ∧ place < chars.size ∧
      chars.toList.drop place = expected :: chars.toList.drop (place + 1) := by
  unfold eat? at h
  split at h
  · next hChar =>
      obtain ⟨hLt, hEq⟩ := Array.getElem?_eq_some_iff.1 hChar
      exact ⟨(Option.some.inj h).symm, hLt, hEq ▸ drop_eq_cons hLt⟩
  · cases h

theorem head?_ne_of_eat? {expected : Char} (h : eat? chars expected place = none) :
    (chars.toList.drop place).head? ≠ some expected := by
  unfold eat? at h
  split at h
  · cases h
  · next hOther => rwa [getElem?_eq_head?] at hOther

/-- Only the end of the text has no quote behind what is not one. -/
theorem drop_skip_eq_nil {quote : Char}
    (h : eat? chars quote (skip (· != quote) chars place) = none) :
    chars.toList.drop (skip (· != quote) chars place) = [] := by
  have hOther := head?_ne_of_eat? h
  have hHead := List.head?_dropWhile_not (· != quote) (chars.toList.drop place)
  rw [dropWhile_drop] at hHead
  cases hDrop : chars.toList.drop (skip (· != quote) chars place) with
  | nil => rfl
  | cons c rest =>
      rw [hDrop] at hHead hOther
      simp only [List.head?_cons, bne_eq_false_iff_eq] at hHead
      exact absurd (congrArg some hHead) hOther

end Places

section Readers

variable {chars : Array Char} {place : Nat}

/-- A name is read by places as it is read of the characters, with the same position in its
error. -/
theorem agrees_name (h : place ≤ chars.size) :
    Agrees chars (name chars place) (readName chars.size (chars.toList.drop place)) := by
  have hPlace : chars.size - (chars.toList.drop place).length = place := by
    rw [List.length_drop, Array.length_toList]
    omega
  unfold name readName
  simp only [slice_skip h, dropWhile_drop, hPlace]
  split
  · exact .refused _
  · exact .ok _ _ (skip_le_size h)

/-- A text in quotes is read by places as it is read of the characters. The closing quote is looked
for in the array, where the characters are cut at their first one. -/
theorem agrees_literal :
    Agrees chars (literal chars place) (readLiteral (chars.toList.drop place)) := by
  unfold literal
  cases hQuote : chars[place]? with
  | none =>
      have hEnd : chars.toList.drop place = [] := by
        rwa [getElem?_eq_head?, List.head?_eq_none_iff] at hQuote
      rw [hEnd]
      exact .refused _
  | some quote =>
      obtain ⟨hLt, rfl⟩ := Array.getElem?_eq_some_iff.1 hQuote
      rw [drop_eq_cons hLt, readLiteral]
      dsimp only
      split
      · unfold Text.cutAtFirst?
        rw [dropWhile_drop]
        cases hEnd : eat? chars chars[place] (skip (· != chars[place]) chars (place + 1)) with
        | none =>
            rw [drop_skip_eq_nil hEnd]
            exact .refused _
        | some behind =>
            obtain ⟨rfl, hBehind, hDrop⟩ := eat?_eq_some hEnd
            rw [hDrop, slice_skip hLt]
            exact .ok _ _ hBehind
      · exact .refused _

/-- What a condition looks at is read by places as it is read of the characters. -/
theorem agrees_operand (h : place ≤ chars.size) :
    Agrees chars (operand chars place) (readOperand chars.size (chars.toList.drop place)) := by
  unfold operand
  cases hAt : eat? chars '@' place with
  | some next =>
      obtain ⟨rfl, hLt, hDrop⟩ := eat?_eq_some hAt
      rw [hDrop]
      exact (agrees_name hLt).bind fun label place h => .ok _ _ h
  | none =>
      have hOther := head?_ne_of_eat? hAt
      have hRead : readOperand chars.size (chars.toList.drop place) =
          (readName chars.size (chars.toList.drop place) >>=
            fun answer => pure (.ofChild answer.1, answer.2)) := by
        unfold readOperand
        split
        · next hDrop => simp [hDrop] at hOther
        · rfl
      rw [hRead]
      exact (agrees_name h).bind fun label place h => .ok _ _ h

/-- Where one character is read, reading goes on at the same place. -/
theorem agrees_mark_bind {β : Type} {expected : Char} {error : QueryError}
    {f : Nat → Except Stop (β × Nat)} {g : List Char → Except QueryError (β × List Char)}
    (hNext : ∀ place, place ≤ chars.size →
      Agrees chars (f place) (g (chars.toList.drop place))) :
    Agrees chars (mark expected error chars place >>= f)
      (readMark expected error (chars.toList.drop place) >>= g) := by
  unfold mark readMark
  rw [trimStart_drop]
  cases hMark : eat? chars expected (skip Text.isBlank chars place) with
  | some next =>
      obtain ⟨rfl, hLt, hDrop⟩ := eat?_eq_some hMark
      rw [hDrop]
      dsimp only
      rw [if_pos rfl]
      exact hNext _ hLt
  | none =>
      have hOther := head?_ne_of_eat? hMark
      cases hDrop : chars.toList.drop (skip Text.isBlank chars place) with
      | nil => exact .refused _
      | cons c rest =>
          rw [hDrop, List.head?_cons, ne_eq, Option.some.injEq] at hOther
          dsimp only
          rw [if_neg hOther]
          exact .refused _

/-- A condition is read by places as it is read of the characters, part by part. -/
theorem agrees_predicate (h : place ≤ chars.size) :
    Agrees chars (predicate chars place)
      (readPredicate chars.size (chars.toList.drop place)) := by
  unfold predicate readPredicate
  rw [trimStart_drop]
  refine (agrees_operand (skip_le_size h)).bind fun operand place _ => ?_
  refine agrees_mark_bind fun place _ => ?_
  rw [trimStart_drop]
  refine agrees_literal.bind fun literal place _ => ?_
  exact agrees_mark_bind fun place h => .ok _ _ h

end Readers

section Loops

variable {α : Type} {chars : Array Char} {place next : Nat}

theorem Agrees.exists_rest {a : α} {y : Except QueryError (α × List Char)}
    (h : Agrees chars (.ok (a, next)) y) :
    next ≤ chars.size ∧ y = .ok (a, chars.toList.drop next) := by
  cases h with
  | ok _ _ h => exact ⟨h, rfl⟩

theorem lt_of_predicate {found : Predicate} (h : place ≤ chars.size)
    (hRead : predicate chars place = .ok (found, next)) : place < next ∧ next ≤ chars.size := by
  obtain ⟨hSize, hRest⟩ := (hRead ▸ agrees_predicate h).exists_rest
  have hLength := length_of_readPredicate hRest
  simp only [List.length_drop, Array.length_toList] at hLength
  omega

/-- Reads the conditions of a step behind the conditions done, which are held in reverse. -/
def predicates (chars : Array Char) (done : List Predicate) (place : Nat) :
    Except Stop (List Predicate × Nat) :=
  match _bracket : eat? chars '[' (skip Text.isBlank chars place) with
  | none => .ok (done.reverse, skip Text.isBlank chars place)
  | some inside =>
    match _read : predicate chars inside with
    | .error stop => .error stop
    | .ok (predicate, next) => predicates chars (predicate :: done) next
termination_by chars.size - place
decreasing_by
  obtain ⟨rfl, hLt, _⟩ := eat?_eq_some _bracket
  have hNext := lt_of_predicate hLt _read
  have hSkip : place ≤ skip Text.isBlank chars place := le_skip
  omega

/-- All conditions of a step are read by places as they are read of the characters, by induction on
the places that are left. -/
theorem agrees_predicates {done : List Predicate} (h : place ≤ chars.size) :
    Agrees chars (predicates chars done place)
      (readPredicates chars.size done (chars.toList.drop place)) := by
  fun_induction predicates chars done place with
  | case1 done place hBracket =>
      have hOther := head?_ne_of_eat? hBracket
      rw [← trimStart_drop] at hOther
      rw [readPredicates_eq_end hOther, trimStart_drop]
      exact .ok _ _ (skip_le_size h)
  | case2 done place inside hBracket stop hRead =>
      obtain ⟨rfl, hLt, hDrop⟩ := eat?_eq_some hBracket
      rw [readPredicates_eq_bind (trimStart_drop.trans hDrop)]
      have hInside := agrees_predicate hLt
      rw [hRead] at hInside
      generalize readPredicate chars.size _ = answer at hInside ⊢
      cases hInside
      exact .refused _
  | case3 done place inside hBracket found next hRead ih =>
      obtain ⟨rfl, hLt, hDrop⟩ := eat?_eq_some hBracket
      rw [readPredicates_eq_bind (trimStart_drop.trans hDrop)]
      have hInside := agrees_predicate hLt
      rw [hRead] at hInside
      obtain ⟨hNext, hRest⟩ := hInside.exists_rest
      rw [hRest]
      exact ih hNext

/-- Reads a step to child elements. -/
def step (chars : Array Char) (place : Nat) : Except Stop (Step × Nat) := do
  let (label, place) ← name chars place
  let (found, place) ← predicates chars [] place
  return (⟨label, found⟩, place)

theorem agrees_step (h : place ≤ chars.size) :
    Agrees chars (step chars place) (readStep chars.size (chars.toList.drop place)) :=
  (agrees_name h).bind fun _ _ h => (agrees_predicates h).bind fun _ _ h => .ok _ _ h

/-- No step is read from a place behind the end. -/
theorem le_size_of_step {found : Step} (h : step chars place = .ok (found, next)) :
    place ≤ chars.size := by
  obtain ⟨⟨label, behind⟩, hName, _⟩ := bind_eq_ok.1 h
  by_contra hOutside
  have hSkip : skip isNameChar chars place = place := by
    rw [skip, dif_neg (by omega)]
  have hSlice : slice chars place place = .error (.outOfRange place) := if_neg (by omega)
  simp [name, hSkip, hSlice] at hName

theorem lt_of_step {found : Step} (h : step chars place = .ok (found, next)) :
    place < next ∧ next ≤ chars.size := by
  obtain ⟨hSize, hRest⟩ := (h ▸ agrees_step (le_size_of_step h)).exists_rest
  have hLength := length_of_readStep hRest
  simp only [List.length_drop, Array.length_toList] at hLength
  omega

/-- The place behind the slash in front of the next step, if the text does not end. -/
def next? (chars : Array Char) (place : Nat) : Except Stop (Option Nat) :=
  if chars.size ≤ place then .ok none
  else
    match eat? chars '/' place with
    | some next => .ok (some next)
    | none => do
      let c ← charAt chars place
      throw (.refused (.unexpected c place))

theorem next?_of_nil (h : chars.toList.drop place = []) : next? chars place = .ok none := by
  rw [List.drop_eq_nil_iff, Array.length_toList] at h
  rw [next?, if_pos h]

theorem lt_of_drop_eq_cons {c : Char} {rest : List Char}
    (h : chars.toList.drop place = c :: rest) : place < chars.size := by
  by_contra hEnd
  have hNone : chars.toList.drop place = [] := List.drop_eq_nil_of_le (Nat.le_of_not_lt hEnd)
  rw [hNone] at h
  cases h

/-- What stands behind a step decides how the text goes on, and the place in an error is told by
what is left. -/
theorem next?_of_cons {c : Char} {rest : List Char} (h : chars.toList.drop place = c :: rest) :
    next? chars place = if c = '/' then .ok (some (place + 1))
      else .error (.refused (.unexpected c (chars.size - (rest.length + 1)))) := by
  have hLt := lt_of_drop_eq_cons h
  have hLength := congrArg List.length h
  simp only [List.length_drop, Array.length_toList, List.length_cons] at hLength
  have hPlace : chars.size - (rest.length + 1) = place := by omega
  have hChar : chars[place]? = some c := by rw [getElem?_eq_head?, h, List.head?_cons]
  rw [next?, if_neg (Nat.not_le_of_lt hLt), eat?, hChar, charAt, hChar, hPlace]
  by_cases hSlash : c = '/'
  · simp [hSlash]
  · simp only [Option.some.injEq, if_neg hSlash]
    rfl

/-- The text goes on one place behind a slash. -/
theorem eq_of_next? (h : next? chars place = .ok (some next)) :
    next = place + 1 ∧ place < chars.size := by
  cases hDrop : chars.toList.drop place with
  | nil =>
      rw [next?_of_nil hDrop] at h
      cases h
  | cons c rest =>
      rw [next?_of_cons hDrop] at h
      split at h
      · cases h
        exact ⟨rfl, lt_of_drop_eq_cons hDrop⟩
      · cases h

/-- Reads a query behind the steps done, which are held in reverse. -/
def steps (chars : Array Char) (done : List Step) (place : Nat) : Except Stop Query :=
  match eat? chars '@' (skip Text.isBlank chars place) with
  | some sign => do
    let (label, behind) ← name chars sign
    match ← next? chars (skip Text.isBlank chars behind) with
    | none => return ⟨done.reverse, some label⟩
    | some _ => throw (.refused .attributeNotLast)
  | none =>
    match _hRead : step chars (skip Text.isBlank chars place) with
    | .error stop => .error stop
    | .ok (step, behind) =>
      match _hNext : next? chars behind with
      | .error stop => .error stop
      | .ok none => .ok ⟨(step :: done).reverse, none⟩
      | .ok (some next) => steps chars (step :: done) next
termination_by chars.size - place
decreasing_by
  obtain ⟨rfl, hLt⟩ := eq_of_next? _hNext
  have hStep := lt_of_step _hRead
  have hSkip : place ≤ skip Text.isBlank chars place := le_skip
  omega

/-- The query that a text stands for. -/
def read (text : List Char) : Except Stop Query :=
  steps text.toArray [] 0

/-- A step that is read by places is read of the characters as well, and what is read behind it
depends on what is left there. -/
theorem readSteps_of_step {done : List Step} (h : place ≤ chars.size)
    (hSign : eat? chars '@' (skip Text.isBlank chars place) = none) {found : Step} {behind : Nat}
    (hRead : step chars (skip Text.isBlank chars place) = .ok (found, behind)) :
    behind ≤ chars.size ∧ readSteps chars.size done (chars.toList.drop place) =
      readBehind chars.size done (found, chars.toList.drop behind) := by
  have hOther := head?_ne_of_eat? hSign
  rw [← trimStart_drop] at hOther
  obtain ⟨hBehind, hRest⟩ := (hRead ▸ agrees_step (skip_le_size h)).exists_rest
  rw [readSteps_eq_bind hOther, trimStart_drop, hRest]
  exact ⟨hBehind, rfl⟩

/-- Behind an attribute there is nothing but blanks. -/
theorem end_eq (done : List Step) (label : String) (behind : Nat) :
    (next? chars (skip Text.isBlank chars behind) >>= fun next =>
      match next with
      | none => pure ⟨done.reverse, some label⟩
      | some _ => throw (.refused .attributeNotLast) : Except Stop Query) =
    (readEnd chars.size (chars.toList.drop behind) >>= fun _ =>
      pure ⟨done.reverse, some label⟩).mapError Stop.refused := by
  unfold readEnd
  rw [trimStart_drop]
  cases hEnd : chars.toList.drop (skip Text.isBlank chars behind) with
  | nil =>
      rw [next?_of_nil hEnd]
      rfl
  | cons c rest =>
      rw [next?_of_cons hEnd]
      by_cases hSlash : c = '/'
      · subst hSlash
        rfl
      · rw [if_neg hSlash]
        split
        · next hEq => cases hEq
        · next hEq => exact absurd (List.cons.inj hEq).1 hSlash
        · next hEq =>
            cases hEq
            rfl

/-- How the text goes on behind a step is told by places as it is told by the characters. -/
theorem mapError_readBehind {done : List Step} {found : Step} :
    (readBehind chars.size done (found, chars.toList.drop place)).mapError Stop.refused =
      match next? chars place with
      | .error stop => .error stop
      | .ok none => .ok ⟨(found :: done).reverse, none⟩
      | .ok (some next) =>
        (readSteps chars.size (found :: done) (chars.toList.drop next)).mapError Stop.refused := by
  cases hEnd : chars.toList.drop place with
  | nil =>
      rw [next?_of_nil hEnd]
      rfl
  | cons c rest =>
      rw [next?_of_cons hEnd]
      by_cases hSlash : c = '/'
      · have hBehind := hEnd
        rw [drop_eq_cons (lt_of_drop_eq_cons hEnd)] at hBehind
        obtain ⟨-, rfl⟩ := List.cons.inj hBehind
        rw [if_pos hSlash, hSlash]
        rfl
      · rw [if_neg hSlash, readBehind_of_ne hSlash]
        rfl

/-- What is read by places is what is read of the characters. -/
theorem steps_eq {done : List Step} (h : place ≤ chars.size) :
    steps chars done place =
      (readSteps chars.size done (chars.toList.drop place)).mapError Stop.refused := by
  fun_induction steps chars done place with
  | case1 done place sign hSign =>
      obtain ⟨rfl, hLt, hDrop⟩ := eat?_eq_some hSign
      rw [readSteps_eq_sign (trimStart_drop.trans hDrop)]
      have hName := agrees_name hLt
      generalize name chars _ = found, readName chars.size _ = answer at hName ⊢
      cases hName with
      | refused cause => rfl
      | ok label behind h =>
          exact end_eq done label behind
  | case2 done place hSign stop hRead =>
      have hOther := head?_ne_of_eat? hSign
      rw [← trimStart_drop] at hOther
      have hStep := agrees_step (skip_le_size (p := Text.isBlank) h)
      rw [readSteps_eq_bind hOther, trimStart_drop]
      rw [hRead] at hStep
      generalize readStep chars.size _ = answer at hStep ⊢
      cases hStep
      rfl
  | case3 done place hSign found behind hRead stop hNext =>
      rw [(readSteps_of_step h hSign hRead).2, mapError_readBehind, hNext]
  | case4 done place hSign found behind hRead hNext =>
      rw [(readSteps_of_step h hSign hRead).2, mapError_readBehind, hNext]
  | case5 done place hSign found behind hRead next hNext ih =>
      obtain ⟨rfl, hLt⟩ := eq_of_next? hNext
      rw [(readSteps_of_step h hSign hRead).2, mapError_readBehind, hNext]
      exact ih hLt

/-- No place outside of the array is ever looked at, whatever the text is. -/
theorem read_eq (text : List Char) : read text = (Query.read text).mapError Stop.refused :=
  steps_eq (Nat.zero_le _)

end Loops

end Csdl.Query.Scan
