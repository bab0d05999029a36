import Csdl.Files.Pattern
import Csdl.Proofs.Text.Cut

/-! Patterns for names: which texts are patterns, and which names a pattern stands for. -/
namespace Csdl.Files.Glyph

/-- The texts of patterns. A star is not followed by another one, and brackets are closed; the
first character in brackets may be a bracket. -/
inductive Spells : List Glyph → List Char → Prop where
  | nil : Spells [] []
  | one {c : Char} {glyphs : List Glyph} {cs : List Char} (hPlain : c ∉ ['*', '?', '['])
      (rest : Spells glyphs cs) : Spells (one c :: glyphs) (c :: cs)
  | anyOne {glyphs : List Glyph} {cs : List Char} (rest : Spells glyphs cs) :
      Spells (anyOne :: glyphs) ('?' :: cs)
  | anyRun {glyphs : List Glyph} {cs : List Char} (hSingle : cs.head? ≠ some '*')
      (rest : Spells glyphs cs) : Spells (anyRun :: glyphs) ('*' :: cs)
  | oneOf {first : Char} {inside cs : List Char} {glyphs : List Glyph} (hFirst : first ≠ '!')
      (hInside : ']' ∉ inside) (rest : Spells glyphs cs) :
      Spells (oneOf (ranges (first :: inside)) :: glyphs) ('[' :: first :: (inside ++ ']' :: cs))
  | noneOf {first : Char} {inside cs : List Char} {glyphs : List Glyph} (hInside : ']' ∉ inside)
      (rest : Spells glyphs cs) :
      Spells (noneOf (ranges (first :: inside)) :: glyphs)
        ('[' :: '!' :: first :: (inside ++ ']' :: cs))

/-- Brackets end at the first closing one behind their first character. -/
theorem cutBrackets?_eq_some_iff {cs inside rest : List Char} :
    cutBrackets? cs = some (inside, rest) ↔
      ∃ first others, inside = first :: others ∧ cs = first :: (others ++ ']' :: rest) ∧
        ']' ∉ others := by
  cases cs with
  | nil => simp [cutBrackets?]
  | cons c cs =>
      simp only [cutBrackets?, Option.map_eq_some_iff, Prod.exists, Prod.mk.injEq,
        Text.cutAtFirst?_eq_some_iff]
      constructor
      · rintro ⟨others, _, ⟨rfl, hOthers⟩, rfl, rfl⟩
        exact ⟨c, others, rfl, rfl, hOthers⟩
      · rintro ⟨first, others, rfl, hEq, hOthers⟩
        obtain ⟨rfl, rfl⟩ := List.cons.inj hEq
        exact ⟨others, rest, ⟨rfl, hOthers⟩, rfl, rfl⟩

/-- A text is read only to pieces that it spells. -/
theorem spells_of_read? {cs : List Char} {glyphs : List Glyph} (h : read? cs = some glyphs) :
    Spells glyphs cs := by
  fun_induction read? cs generalizing glyphs with
  | case1 =>
      cases h
      exact .nil
  | case2 rest hDouble => cases h
  | case3 rest hSingle ih =>
      obtain ⟨others, hRead, rfl⟩ := Option.map_eq_some_iff.1 h
      exact .anyRun hSingle (ih hRead)
  | case4 rest ih =>
      obtain ⟨others, hRead, rfl⟩ := Option.map_eq_some_iff.1 h
      exact .anyOne (ih hRead)
  | case5 rest hOpen => cases h
  | case6 cs inside rest hCut ih =>
      obtain ⟨others, hRead, rfl⟩ := Option.map_eq_some_iff.1 h
      obtain ⟨first, more, rfl, rfl, hInside⟩ := cutBrackets?_eq_some_iff.1 hCut
      exact .noneOf hInside (ih hRead)
  | case7 rest hNot hOpen => cases h
  | case8 cs hNot inside rest hCut ih =>
      obtain ⟨others, hRead, rfl⟩ := Option.map_eq_some_iff.1 h
      obtain ⟨first, more, rfl, rfl, hInside⟩ := cutBrackets?_eq_some_iff.1 hCut
      refine .oneOf (fun hFirst => ?_) hInside (ih hRead)
      exact hNot _ (by rw [hFirst])
  | case9 c rest hStar hQuestion hNone hBracket ih =>
      obtain ⟨others, hRead, rfl⟩ := Option.map_eq_some_iff.1 h
      refine .one (fun hMem => ?_) (ih hRead)
      simp only [List.mem_cons, List.not_mem_nil, or_false] at hMem
      rcases hMem with rfl | rfl | rfl
      · exact hStar rfl
      · exact hQuestion rfl
      · exact hBracket rfl

/-- What a text spells is what it is read to. Two stars together spell nothing, so the case of a
star asks for what follows it. -/
theorem Spells.read?_eq {cs : List Char} {glyphs : List Glyph} (h : Spells glyphs cs) :
    read? cs = some glyphs := by
  induction h with
  | nil => simp [read?]
  | one hPlain _ ih =>
      -- a plain character is none of those for which there are cases of their own
      simp only [List.mem_cons, List.not_mem_nil, or_false, not_or] at hPlain
      obtain ⟨hStar, hQuestion, hBracket⟩ := hPlain
      rw [read?, ih]
      · rfl
      · exact hStar
      · exact hQuestion
      · rintro _ hOpen
        exact absurd hOpen hBracket
      · exact hBracket
  | anyOne _ ih => simp [read?, ih]
  | anyRun hSingle _ ih => simp [read?, ih, hSingle]
  | @oneOf first inside cs glyphs hFirst hInside _ ih =>
      have hCut : cutBrackets? (first :: (inside ++ ']' :: cs)) = some (first :: inside, cs) :=
        cutBrackets?_eq_some_iff.2 ⟨first, inside, rfl, rfl, hInside⟩
      rw [read?]
      · split
        · next hNone => cases hCut.symm.trans hNone
        · next hSome =>
            cases hCut.symm.trans hSome
            rw [ih]
            rfl
      · rintro _ hNot
        exact hFirst (List.cons.inj hNot).1
  | @noneOf first inside cs glyphs hInside _ ih =>
      have hCut : cutBrackets? (first :: (inside ++ ']' :: cs)) = some (first :: inside, cs) :=
        cutBrackets?_eq_some_iff.2 ⟨first, inside, rfl, rfl, hInside⟩
      rw [read?]
      split
      · next hNone => cases hCut.symm.trans hNone
      · next hSome =>
          cases hCut.symm.trans hSome
          rw [ih]
          rfl

/-- A text is read as a pattern exactly if it spells it. -/
theorem read?_eq_some_iff {cs : List Char} {glyphs : List Glyph} :
    read? cs = some glyphs ↔ Spells glyphs cs :=
  ⟨spells_of_read?, Spells.read?_eq⟩

/-- Whether a piece of a pattern stands for a character. -/
def Accepts : Glyph → Char → Prop
  | one d, c => c = d
  | anyOne, _ => True
  | anyRun, _ => False
  | oneOf ranges, c => ∃ range ∈ ranges, range.1 ≤ c ∧ c ≤ range.2
  | noneOf ranges, c => ¬ ∃ range ∈ ranges, range.1 ≤ c ∧ c ≤ range.2

/-- The names that a pattern stands for. A star stands for any text, and each other piece for one
character. -/
inductive Matches : List Glyph → List Char → Prop where
  | nil : Matches [] []
  | run (text : List Char) {glyphs : List Glyph} {name : List Char} (rest : Matches glyphs name) :
      Matches (anyRun :: glyphs) (text ++ name)
  | char {glyph : Glyph} {c : Char} {glyphs : List Glyph} {name : List Char}
      (hAccepts : glyph.Accepts c) (rest : Matches glyphs name) :
      Matches (glyph :: glyphs) (c :: name)

theorem inRanges_eq_true_iff {ranges : List (Char × Char)} {c : Char} :
    inRanges ranges c = true ↔ ∃ range ∈ ranges, range.1 ≤ c ∧ c ≤ range.2 := by
  simp [inRanges]

/-- A name fits a pattern only if it matches it. The induction is on the calls of the search, which
tries an empty run before a longer one. -/
theorem matches_of_fits {glyphs : List Glyph} {name : List Char} (h : fits glyphs name = true) :
    Matches glyphs name := by
  fun_induction fits glyphs name with
  | case1 name =>
      obtain rfl := List.isEmpty_iff.1 h
      exact .nil
  | case2 glyphs ih => exact .run [] (ih h)
  | case3 glyphs c name ihEnd ihMore =>
      rw [Bool.or_eq_true] at h
      rcases h with hEnd | hMore
      · exact .run [] (ihEnd hEnd)
      · -- the star stands for one character more than behind it
        cases ihMore hMore with
        | run text rest => exact .run (c :: text) rest
        | char hAccepts _ => cases hAccepts
  | case4 => cases h
  | case5 d glyphs c name ih =>
      rw [Bool.and_eq_true] at h
      obtain ⟨hSame, hRest⟩ := h
      have hHere : c = d := of_decide_eq_true hSame
      exact .char hHere (ih hRest)
  | case6 glyphs c name ih => exact .char trivial (ih h)
  | case7 ranges glyphs c name ih =>
      rw [Bool.and_eq_true] at h
      obtain ⟨hRange, hRest⟩ := h
      exact .char (inRanges_eq_true_iff.1 hRange) (ih hRest)
  | case8 ranges glyphs c name ih =>
      rw [Bool.and_eq_true, Bool.not_eq_true', Bool.eq_false_iff] at h
      obtain ⟨hRange, hRest⟩ := h
      exact .char (fun hIn => hRange (inRanges_eq_true_iff.2 hIn)) (ih hRest)

/-- A name that matches a pattern fits it, whichever run a star stands for. -/
theorem Matches.fits_eq {glyphs : List Glyph} {name : List Char} (h : Matches glyphs name) :
    fits glyphs name = true := by
  induction h with
  | nil => simp [fits]
  | @run text glyphs name _ ih =>
      induction text with
      | nil => cases name <;> simp [fits, ih]
      | cons c text ihText => simp [fits, ihText]
  | @char glyph c glyphs name hAccepts _ ih =>
      cases glyph with
      | one d => simpa [fits, ih, Accepts] using hAccepts
      | anyOne => simpa [fits] using ih
      | anyRun => cases hAccepts
      | oneOf ranges => simpa [fits, ih] using inRanges_eq_true_iff.2 hAccepts
      | noneOf ranges =>
          have hOut := mt inRanges_eq_true_iff.1 hAccepts
          simpa [fits, ih] using hOut

/-- A pattern is found to stand for a name exactly if it does. -/
theorem fits_eq_true_iff {glyphs : List Glyph} {name : List Char} :
    fits glyphs name = true ↔ Matches glyphs name :=
  ⟨matches_of_fits, Matches.fits_eq⟩

/-- A pattern of plain characters stands for one name. -/
theorem literal?_eq_some_iff {glyphs : List Glyph} {name : List Char} :
    literal? glyphs = some name ↔ glyphs = name.map one := by
  induction glyphs generalizing name with
  | nil => cases name <;> simp [literal?]
  | cons glyph glyphs ih =>
      cases name with
      | nil => cases glyph <;> simp [literal?]
      | cons c name =>
          cases glyph with
          | one d => simp [literal?, ih, and_left_comm]
          | _ => simp [literal?]

theorem literal?_map_one (name : List Char) : literal? (name.map one) = some name :=
  literal?_eq_some_iff.2 rfl

/-- Plain characters stand for the one name that they are. -/
theorem matches_map_one_iff {text name : List Char} : Matches (text.map one) name ↔ name = text := by
  induction text generalizing name with
  | nil =>
      constructor
      · rintro ⟨⟩
        rfl
      · rintro rfl
        exact .nil
  | cons c text ih =>
      constructor
      · intro h
        cases h with
        | char hAccepts rest =>
            have hHere := hAccepts
            rw [ih.1 rest]
            exact congrArg (· :: text) hHere
      · rintro rfl
        exact @Matches.char (one c) c _ _ rfl (ih.2 rfl)

end Csdl.Files.Glyph
