import Csdl.Proofs.Outcome

/-! Traversals that take their inputs in any order, each with its place. What they answer is put back
in the order of places, so the order does not show in it. -/
namespace Csdl

variable {ε α β : Type} {f : α → Except ε β} {xs : List α}

end Csdl
