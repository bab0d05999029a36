import Mathlib.Data.List.Perm.Basic

/-! Lists whose elements are moved past each other. Only neighbours change places at a time, and
only where the one may pass the other, so what may not be passed stays behind. -/
namespace Csdl

/-- A list that is got from another by moving elements past their neighbours, where they may pass
them. -/
inductive Reorders {α : Type} (Pass : α → α → Prop) : List α → List α → Prop where
  | nil : Reorders Pass [] []
  | cons (x : α) {xs ys : List α} (rest : Reorders Pass xs ys) : Reorders Pass (x :: xs) (x :: ys)
  | swap {x y : α} (pass : Pass x y) (xs : List α) : Reorders Pass (x :: y :: xs) (y :: x :: xs)
  | trans {xs ys zs : List α} (first : Reorders Pass xs ys) (second : Reorders Pass ys zs) :
      Reorders Pass xs zs

namespace Reorders

variable {α β : Type} {Pass : α → α → Prop} {xs ys : List α}

theorem refl (xs : List α) : Reorders Pass xs xs := by
  induction xs with
  | nil => exact .nil
  | cons x xs ih => exact .cons x ih

/-- Moves leave the same elements. -/
theorem perm (h : Reorders Pass xs ys) : ys.Perm xs := by
  induction h with
  | nil => exact .nil
  | cons x _ ih => exact ih.cons x
  | swap _ xs => exact .swap _ _ xs
  | trans _ _ ih ih' => exact ih'.trans ih

/-- Moves can be taken back if each two elements may pass each other both ways. -/
theorem symm (hSymm : ∀ x y, Pass x y → Pass y x) (h : Reorders Pass xs ys) :
    Reorders Pass ys xs := by
  induction h with
  | nil => exact .nil
  | cons x _ ih => exact .cons x ih
  | swap pass xs => exact .swap (hSymm _ _ pass) xs
  | trans _ _ ih ih' => exact .trans ih' ih

/-- What stands before a list takes no part in its moves. -/
theorem append_left (zs : List α) (h : Reorders Pass xs ys) :
    Reorders Pass (zs ++ xs) (zs ++ ys) := by
  induction zs with
  | nil => exact h
  | cons z zs ih => exact .cons z ih

/-- What stands behind a list takes no part in its moves. -/
theorem append_right (h : Reorders Pass xs ys) (zs : List α) :
    Reorders Pass (xs ++ zs) (ys ++ zs) := by
  induction h with
  | nil => exact .refl zs
  | cons x _ ih => exact .cons x ih
  | swap pass xs => exact .swap pass (xs ++ zs)
  | trans _ _ ih ih' => exact .trans ih ih'

theorem append {xs' ys' : List α} (h : Reorders Pass xs ys) (h' : Reorders Pass xs' ys') :
    Reorders Pass (xs ++ xs') (ys ++ ys') :=
  (h.append_right xs').trans (h'.append_left ys)

/-- What is made of reordered elements is reordered alike. -/
theorem filterMap {Pass' : β → β → Prop} {f : α → Option β}
    (hPass : ∀ x y, Pass x y → ∀ a b, f x = some a → f y = some b → Pass' a b)
    (h : Reorders Pass xs ys) : Reorders Pass' (xs.filterMap f) (ys.filterMap f) := by
  induction h with
  | nil => exact .nil
  | @cons x xs ys _ ih =>
      rw [List.filterMap_cons, List.filterMap_cons]
      cases f x with
      | none => exact ih
      | some a => exact .cons a ih
  | @swap x y pass xs =>
      rw [List.filterMap_cons, List.filterMap_cons, List.filterMap_cons, List.filterMap_cons]
      cases hx : f x with
      | none => exact .refl _
      | some a =>
          cases hy : f y with
          | none => exact .refl _
          | some b => exact .swap (hPass x y pass a b hx hy) _
  | trans _ _ ih ih' => exact .trans ih ih'

theorem filter (p : α → Bool) (h : Reorders Pass xs ys) :
    Reorders Pass (xs.filter p) (ys.filter p) := by
  rw [← List.filterMap_eq_filter]
  refine h.filterMap fun x y pass a b ha hb => ?_
  rw [Option.guard_eq_some_iff] at ha hb
  exact ha.1 ▸ hb.1 ▸ pass

/-- Lists whose parts are moved are moved as a whole. -/
theorem flatMap {Pass' : β → β → Prop} {R : α → α → Prop} {f g : α → List β}
    (hParts : ∀ x y, R x y → Reorders Pass' (f x) (g y)) (h : List.Forall₂ R xs ys) :
    Reorders Pass' (xs.flatMap f) (ys.flatMap g) := by
  induction h with
  | nil => exact .nil
  | cons hHead _ ih => exact (hParts _ _ hHead).append ih

/-- An element is moved behind others that it may pass. -/
theorem cons_append {x : α} (hPass : ∀ y ∈ xs, Pass x y) (ys : List α) :
    Reorders Pass (x :: (xs ++ ys)) (xs ++ x :: ys) := by
  induction xs with
  | nil => exact .refl _
  | cons y xs ih =>
      have hFirst : Pass x y := hPass y List.mem_cons_self
      exact .trans (.swap hFirst _) (.cons y (ih fun z hz => hPass z (List.mem_cons_of_mem y hz)))

/-- A permutation of a list is got by moving elements past their neighbours, if those may be passed
whose order it changes. -/
theorem of_perm (h : xs.Perm ys) (hPass : xs.Pairwise fun x y => [y, x].Sublist ys → Pass x y) :
    Reorders Pass xs ys := by
  induction xs generalizing ys with
  | nil =>
      rw [← h.nil_eq]
      exact .nil
  | cons x xs ih =>
      obtain ⟨before, behind, rfl⟩ := List.append_of_mem (h.mem_iff.1 List.mem_cons_self)
      have hRest : xs.Perm (before ++ behind) := (h.trans List.perm_middle).cons_inv
      have hTail : Reorders Pass xs (before ++ behind) := by
        refine ih hRest (hPass.of_cons.imp fun pass hSublist => pass (hSublist.trans ?_))
        exact (List.Sublist.refl before).append (List.sublist_cons_self x behind)
      have hHead : ∀ y ∈ before, Pass x y := by
        intro y hy
        have hBehind : [x].Sublist (x :: behind) := List.singleton_sublist.2 List.mem_cons_self
        exact List.rel_of_pairwise_cons hPass (hRest.mem_iff.2 (List.mem_append_left behind hy))
          ((List.singleton_sublist.2 hy).append hBehind)
      exact .trans (.cons x hTail) (cons_append hHead behind)

end Reorders

end Csdl
