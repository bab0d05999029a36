import Csdl.Proofs.Files.Finding
import Csdl.Proofs.Outcome

/-! What the text of a pattern is, and what is found for it: all that the parts of the pattern lead
to. -/
namespace Csdl.Files

/-- The texts of the parts of a pattern between slashes. -/
inductive PatternPart.Spells : PatternPart → List Char → Prop where
  | anyDepth : Spells .anyDepth ['*', '*']
  | name {glyphs : List Glyph} {cs : List Char} (spelled : Glyph.Spells glyphs cs) :
      Spells (.name glyphs) cs

/-- A part is read exactly as it is spelled; two stars alone stand for directories. -/
theorem PatternPart.read?_eq_some_iff {part : PatternPart} {cs : List Char} :
    PatternPart.read? cs = some part ↔ part.Spells cs := by
  rw [read?]
  split
  · next hStars =>
      subst hStars
      constructor
      · rintro ⟨⟩
        exact .anyDepth
      · intro h
        cases h with
        | anyDepth => rfl
        | name spelled =>
            -- two stars together are no pattern for a name
            cases spelled with
            | one hPlain => simp at hPlain
            | anyRun hSingle => simp at hSingle
  · next hNoStars =>
      simp only [Option.map_eq_some_iff, Glyph.read?_eq_some_iff]
      constructor
      · rintro ⟨glyphs, spelled, rfl⟩
        exact .name spelled
      · intro h
        cases h with
        | anyDepth => exact absurd rfl hNoStars
        | name spelled => exact ⟨_, spelled, rfl⟩

namespace Pattern

/-- The texts of patterns. A slash at the start tells the root, and one at the end a directory. -/
structure Spells (pattern : Pattern) (text : List Char) : Prop where
  absolute_eq : pattern.absolute = decide (text.head? = some '/')
  directoryOnly_eq : pattern.directoryOnly = decide (text.getLast? = some '/')
  forall_parts : List.Forall₂ PatternPart.Spells pattern.parts
    (segments (text.dropWhile (· = '/')))

/-- A text is read as a pattern exactly if it spells it. -/
theorem read?_eq_some_iff {pattern : Pattern} {text : List Char} :
    read? text = some pattern ↔ pattern.Spells text := by
  rw [read?, Option.bind_eq_bind, Option.bind_eq_some_iff]
  constructor
  · rintro ⟨parts, hParts, hEq⟩
    cases hEq
    exact ⟨rfl, rfl, (mapM_eq_some.1 hParts).flip.imp fun _ _ => PatternPart.read?_eq_some_iff.1⟩
  · rintro ⟨hAbsolute, hDirectory, hParts⟩
    refine ⟨pattern.parts, ?_, ?_⟩
    · exact mapM_eq_some.2 (hParts.flip.imp fun _ _ => PatternPart.read?_eq_some_iff.2)
    · rw [← hAbsolute, ← hDirectory]
      rfl

/-- The paths that are found are those to which the parts lead, without files if only directories
are asked for. -/
theorem mem_find_filter {system : System} {parts : List PatternPart} {path goal : List Char}
    {entry : Entry} {directoryOnly : Bool} :
    goal ∈ ((find system path entry parts).filter fun place =>
        !(directoryOnly && place.2.isFile)).map (·.1) ↔
      ∃ target, Leads system parts path entry goal target ∧
        (directoryOnly = true → target.isFile = false) := by
  rw [List.mem_map]
  constructor
  · rintro ⟨⟨_, target⟩, hMem, rfl⟩
    obtain ⟨hFound, hKept⟩ := List.mem_filter.1 hMem
    refine ⟨target, mem_find.1 hFound, fun hOnly => ?_⟩
    simpa [hOnly] using hKept
  · rintro ⟨target, leads, hKept⟩
    refine ⟨(goal, target), List.mem_filter.2 ⟨mem_find.2 leads, ?_⟩, rfl⟩
    cases directoryOnly with
    | false => rfl
    | true => simpa using hKept rfl

/-- A pattern finds what its parts lead to from where it is followed from, unless it is about the
working directory itself. One for directories finds no file. -/
theorem mem_found {system : System} {pattern : Pattern} {goal : List Char} :
    goal ∈ pattern.found system ↔ (pattern.parts = [] → pattern.absolute = true) ∧
      ∃ entry target, system.at? (start pattern.absolute) = some entry ∧
        Leads system pattern.parts (start pattern.absolute) entry goal target ∧
        (pattern.directoryOnly = true → target.isFile = false) := by
  rw [found]
  split
  · next hNone =>
      simp only [Bool.and_eq_true, List.isEmpty_iff, Bool.not_eq_true'] at hNone
      exact iff_of_false List.not_mem_nil fun h => by simp [hNone] at h
  · next hSome =>
      have hParts : pattern.parts = [] → pattern.absolute = true := by
        simpa [List.isEmpty_iff] using hSome
      rw [and_iff_right hParts]
      split
      · next hNowhere => simp [hNowhere]
      · next entry hThere =>
          rw [mem_find_filter, hThere]
          constructor
          · rintro ⟨target, leads, hKept⟩
            exact ⟨entry, target, rfl, leads, hKept⟩
          · rintro ⟨_, target, ⟨⟩, leads, hKept⟩
            exact ⟨target, leads, hKept⟩

end Pattern
end Csdl.Files
