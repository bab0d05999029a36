import Csdl.Error
import Csdl.Event

/-!
Computations that tell events and may fail. The events before a failure are kept, and what is told
never changes what is computed: `result` takes each step to the same step of `Except`.
-/

namespace Csdl

/-- The events of a computation in order, and its value or error. -/
@[ext]
structure Logged (α : Type) where
  log : List Event
  result : Except Error α

namespace Logged

/-- Runs a second computation on the value of a first. -/
def andThen {α β : Type} (first : Logged α) (next : α → Logged β) : Logged β :=
  match first.result with
  | .ok a => ⟨first.log ++ (next a).log, (next a).result⟩
  | .error e => ⟨first.log, .error e⟩

instance : Monad Logged where
  pure a := ⟨[], .ok a⟩
  bind := andThen

/-- Fails with a cause. -/
def fail {α : Type} (error : Error) : Logged α :=
  ⟨[], .error error⟩

/-- Tells one event. -/
def tell (event : Event) : Logged Unit :=
  ⟨[event], .ok ()⟩

/-- A computation that tells nothing. -/
def ofExcept {α : Type} (result : Except Error α) : Logged α :=
  ⟨[], result⟩

@[simp]
theorem result_pure {α : Type} (a : α) : (pure a : Logged α).result = .ok a := rfl

@[simp]
theorem log_pure {α : Type} (a : α) : (pure a : Logged α).log = [] := rfl

@[simp]
theorem result_fail {α : Type} (error : Error) : (fail error : Logged α).result = .error error := rfl

@[simp]
theorem result_tell (event : Event) : (tell event).result = .ok () := rfl

@[simp]
theorem result_ofExcept {α : Type} (result : Except Error α) : (ofExcept result).result = result :=
  rfl

/-- The result of two computations is that of the second one with the result of the first, whatever
is logged. -/
@[simp]
theorem result_bind {α β : Type} (first : Logged α) (next : α → Logged β) :
    (first >>= next).result = first.result >>= fun a => (next a).result := by
  show (andThen first next).result = _
  unfold andThen
  cases first.result <;> rfl

theorem pure_andThen {α β : Type} (a : α) (f : α → Logged β) : (pure a >>= f) = f a := rfl

theorem andThen_pure {α : Type} (x : Logged α) : (x >>= pure) = x := by
  show andThen x pure = x
  rcases x with ⟨log, _ | _⟩ <;> simp [andThen]

/-- Computations may be grouped in any way, since their logs are put one behind the other. -/
theorem bind_andThen {α β γ : Type} (x : Logged α) (f : α → Logged β) (g : β → Logged γ) :
    (x >>= f >>= g) = (x >>= fun a => f a >>= g) := by
  show andThen (andThen x f) g = andThen x fun a => andThen (f a) g
  rcases x with ⟨log, e | a⟩
  · rfl
  · simp only [andThen]
    cases (f a).result <;> simp

instance : LawfulMonad Logged :=
  LawfulMonad.mk' Logged andThen_pure pure_andThen bind_andThen

end Logged

end Csdl
