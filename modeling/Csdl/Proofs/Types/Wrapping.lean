import Csdl.Types.Cardinality

/-! What unwrapping finds: the name inside all wrappers, and whether there are any. -/
namespace Csdl.Cardinality

/-- A trimmed text in which a name stands inside a number of wrappers. -/
inductive Wraps (inner : List Char) : Nat → List Char → Prop where
  | bare (hBare : ¬ wrapperStart <+: inner) : Wraps inner 0 inner
  | wrapped {depth : Nat} {body : List Char} (inside : Wraps inner depth (Text.trimChars body)) :
      Wraps inner (depth + 1) (wrapperStart ++ (body ++ [')']))

/-- A text is not cut exactly if it begins otherwise. -/
theorem cutStart?_eq_none_iff {start cs : List Char} :
    Text.cutStart? start cs = none ↔ ¬ start <+: cs := by
  rw [Option.eq_none_iff_forall_ne_some]
  constructor
  · rintro h ⟨rest, hEq⟩
    exact h rest (Text.cutStart?_eq_some_iff.2 hEq.symm)
  · intro h rest hCut
    exact h ⟨rest, (Text.cutStart?_eq_some_iff.1 hCut).symm⟩

/-- A text that begins like a wrapper is one exactly if it ends like one. -/
theorem wraps_append_iff {inner rest : List Char} {depth : Nat} :
    Wraps inner depth (wrapperStart ++ rest) ↔
      ∃ outer, depth = outer + 1 ∧ rest.getLast? = some ')' ∧
        Wraps inner outer (Text.trimChars rest.dropLast) := by
  constructor
  · intro h
    generalize hText : wrapperStart ++ rest = cs at h
    cases h with
    | bare hBare => exact absurd ⟨rest, hText⟩ hBare
    | wrapped inside =>
        obtain rfl := List.append_cancel_left hText
        exact ⟨_, rfl, by simp, by simpa using inside⟩
  · rintro ⟨outer, rfl, hLast, inside⟩
    obtain ⟨body, rfl⟩ := List.getLast?_eq_some_iff.1 hLast
    exact .wrapped (by simpa using inside)

/-- Wrappers are removed one by one exactly down to a name that is in none, by induction on the text
that is left. -/
theorem unwrapFrom_eq_some {found cardinality : Cardinality} {cs inner : List Char} :
    unwrapFrom found cs = some (inner, cardinality) ↔
      ∃ depth, Wraps inner depth cs ∧ cardinality = if depth = 0 then found else unbounded := by
  induction found, cs using unwrapFrom.induct with
  | case1 found cs hCut =>
      rw [unwrapFrom, hCut]
      have hBare := cutStart?_eq_none_iff.1 hCut
      constructor
      · intro h
        cases h
        exact ⟨0, .bare hBare, rfl⟩
      · rintro ⟨depth, hWraps, rfl⟩
        cases hWraps with
        | bare => rfl
        | wrapped => exact absurd ⟨_, rfl⟩ hBare
  | case2 found cs rest hCut hLast ih =>
      rw [unwrapFrom, hCut]
      simp only [hLast, if_true, ih]
      obtain rfl := Text.cutStart?_eq_some_iff.1 hCut
      constructor
      · rintro ⟨depth, hWraps, rfl⟩
        exact ⟨depth + 1, wraps_append_iff.2 ⟨depth, rfl, hLast, hWraps⟩, by simp⟩
      · rintro ⟨_, hWraps, rfl⟩
        obtain ⟨depth, rfl, _, inside⟩ := wraps_append_iff.1 hWraps
        exact ⟨depth, inside, by simp⟩
  | case3 found cs rest hCut hLast =>
      rw [unwrapFrom, hCut]
      simp only [hLast, if_false]
      obtain rfl := Text.cutStart?_eq_some_iff.1 hCut
      constructor
      · intro h
        cases h
      · rintro ⟨_, hWraps, _⟩
        obtain ⟨_, _, hClosed, _⟩ := wraps_append_iff.1 hWraps
        exact absurd hClosed hLast

/-- Unwrapping finds what is inside all wrappers, and any number of values exactly if there is a
wrapper. -/
theorem unwrap_eq_ok {type inner : String} {cardinality : Cardinality} :
    unwrap type = .ok (inner, cardinality) ↔
      ∃ depth, Wraps inner.toList depth (Text.trimChars type.toList) ∧
        (cardinality = unbounded ↔ 0 < depth) := by
  have hRead : unwrap type = .ok (inner, cardinality) ↔
      unwrapFrom single (Text.trimChars type.toList) = some (inner.toList, cardinality) := by
    unfold unwrap
    cases unwrapFrom single (Text.trimChars type.toList) with
    | none => simp
    | some pair =>
        obtain ⟨cs, found⟩ := pair
        simp only [Except.ok.injEq, Prod.mk.injEq, Option.some.injEq]
        exact and_congr_left fun _ => ⟨fun h => by simp [← h], fun h => by simp [h]⟩
  rw [hRead, unwrapFrom_eq_some]
  refine exists_congr fun depth => and_congr_right fun _ => ?_
  cases cardinality <;> cases depth <;> simp

end Csdl.Cardinality
