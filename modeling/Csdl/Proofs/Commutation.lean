/-! Traversals and folds whose steps commute with changes of what goes in and of what comes out. -/
namespace Csdl

section Except

variable {ε α β γ : Type}

/-- What follows a step matters only for what the step gives. -/
theorem bind_congr_ok {x : Except ε α} {f f' : α → Except ε β}
    (h : ∀ a, x = .ok a → f a = f' a) : (x >>= f) = x >>= f' := by
  cases x with
  | error e => rfl
  | ok a => exact h a rfl

/-- Results that look alike are the same error, or values that look alike. -/
theorem map_eq_map_cases {x x' : Except ε α} {view : α → γ} (h : view <$> x = view <$> x') :
    (∃ e, x = .error e ∧ x' = .error e) ∨ ∃ a a', x = .ok a ∧ x' = .ok a' ∧ view a = view a' := by
  cases x with
  | error e =>
      cases x' with
      | error e' => exact .inl ⟨e, rfl, congrArg Except.error (Except.error.inj h).symm⟩
      | ok a' => cases h
  | ok a =>
      cases x' with
      | error e' => cases h
      | ok a' => exact .inr ⟨a, a', rfl, rfl, Except.ok.inj h⟩

end Except

variable {m : Type → Type} [Monad m] [LawfulMonad m] {α α' β β' : Type}

/-- If each step gives a changed answer, so does the traversal. -/
theorem mapM_comm {f : α → m β} {f' : α → m β'} {answer : β → β'} {xs : List α}
    (h : ∀ x ∈ xs, f' x = answer <$> f x) : xs.mapM f' = List.map answer <$> xs.mapM f := by
  induction xs with
  | nil => simp
  | cons x xs ih =>
      have hTail := ih fun y hy => h y (List.mem_cons_of_mem _ hy)
      simp [List.mapM_cons, h x List.mem_cons_self, hTail]

/-- If each step takes a changed state to the changed next one, so does the fold. -/
theorem foldlM_comm {f : β → α → m β} {f' : β' → α → m β'} {state : β → β'} {xs : List α}
    (h : ∀ b, ∀ x ∈ xs, f' (state b) x = state <$> f b x) (b : β) :
    xs.foldlM f' (state b) = state <$> xs.foldlM f b := by
  induction xs generalizing b with
  | nil => simp
  | cons x xs ih =>
      have hTail : ∀ b, xs.foldlM f' (state b) = state <$> xs.foldlM f b :=
        ih fun b y hy => h b y (List.mem_cons_of_mem _ hy)
      simp [List.foldlM_cons, h b x List.mem_cons_self, hTail]

/-- If each step gives a changed answer for a changed input, so does the traversal. -/
theorem mapM_map_comm {f : α → m β} {f' : α' → m β'} {change : α → α'} {answer : β → β'}
    {xs : List α} (h : ∀ x ∈ xs, f' (change x) = answer <$> f x) :
    (xs.map change).mapM f' = List.map answer <$> xs.mapM f := by
  rw [List.mapM_map]
  exact mapM_comm h

/-- If each step with a changed input takes a changed state to the changed next one, so does the
fold. -/
theorem foldlM_map_comm {f : β → α → m β} {f' : β' → α' → m β'} {change : α → α'}
    {state : β → β'} {xs : List α}
    (h : ∀ b, ∀ x ∈ xs, f' (state b) (change x) = state <$> f b x) (b : β) :
    (xs.map change).foldlM f' (state b) = state <$> xs.foldlM f b := by
  rw [List.foldlM_map]
  exact foldlM_comm h b

end Csdl
