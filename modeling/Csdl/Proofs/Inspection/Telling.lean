import Csdl.Inspection
import Csdl.Proofs.Files.Distinct
import Csdl.Proofs.Files.Order

/-! The paths that the texts of an inspection tell. A text tells itself if something is there, and
else the files that are found for it, in order. A list of texts tells the paths of each text, one
text after the other, unless one of them tells none. -/
namespace Csdl.Inspection

open Files (Pattern Search System)

variable {search : Search} {system : System} {text : String}

/-- The paths that a text tells: itself if something is there, else the files among what is found
for it as a pattern, in order. In a file system whose entries are named by names, these are for an
ordinary pattern the files that the pattern stands for. -/
inductive Tells (search : Search) (system : System) (text : String) : List String → Prop where
  | itself (hThere : (system.at? text.toList).isSome) : Tells search system text [text]
  | files {pattern : Pattern} {found paths : List (List Char)}
      (hNowhere : system.at? text.toList = none) (spelled : pattern.Spells text.toList)
      (hFound : search system text.toList = some found) (hSome : paths ≠ [])
      (hFiles : paths.Perm (found.filter system.isFileAt))
      (hOrder : paths.Pairwise fun a b => Files.isPathLe a b = true)
      (hMeaning : system.Proper → pattern.IsOrdinary → ∀ path, path ∈ paths ↔
        Files.isTooLong path = false ∧ ∃ bytes, pattern.StandsFor system path (.file bytes)) :
      Tells search system text (paths.map String.ofList)

/-- The failure of a text that tells no paths: it is no pattern, or no file is found for it. -/
inductive Refuses (search : Search) (system : System) (text : String) :
    InspectionError → Prop where
  | invalid (hNowhere : system.at? text.toList = none)
      (hNone : ∀ pattern, ¬ Pattern.Spells pattern text.toList) :
      Refuses search system text (.invalidPattern text)
  | noMatch {pattern : Pattern} {found : List (List Char)}
      (hNowhere : system.at? text.toList = none) (spelled : pattern.Spells text.toList)
      (hFound : search system text.toList = some found)
      (hNone : ∀ path ∈ found, system.isFileAt path = false) :
      Refuses search system text (.noMatch text)

/-- A text tells paths as it has to, or is refused for the reason that it tells none. -/
theorem tells_or_refuses (hSearch : search.IsDocumented) (text : String) :
    (∃ paths, expand search system text = .ok paths ∧ Tells search system text paths) ∨
      ∃ error, expand search system text = .error error ∧ Refuses search system text error := by
  rw [expand]
  split
  · next hThere => exact .inl ⟨_, rfl, .itself hThere⟩
  · next hNone =>
      have hNowhere : system.at? text.toList = none := by simpa using hNone
      split
      · next hRefused =>
          refine .inr ⟨_, rfl, .invalid hNowhere fun pattern spelled => ?_⟩
          have hTaken := (hSearch.isSome_iff system _).2 ⟨pattern, spelled⟩
          rw [hRefused] at hTaken
          cases hTaken
      · next found hFound =>
          have hTaken : (search system text.toList).isSome = true := by
            rw [hFound]
            rfl
          obtain ⟨pattern, spelled⟩ := (hSearch.isSome_iff system _).1 hTaken
          have hPerm := List.mergeSort_perm (found.filter system.isFileAt) Files.isPathLe
          split
          · next hEmpty =>
              rw [hEmpty] at hPerm
              refine .inr ⟨_, rfl, .noMatch hNowhere spelled hFound fun path hMem => ?_⟩
              simpa using List.filter_eq_nil_iff.1 hPerm.symm.eq_nil path hMem
          · next hSome =>
              refine .inl ⟨_, rfl, .files hNowhere spelled hFound hSome hPerm
                (Files.pairwise_mergeSort_isPathLe _) fun hSystem hPattern path => ?_⟩
              rw [hPerm.mem_iff, List.mem_filter]
              exact hSearch.file_iff hSystem hPattern spelled hFound

theorem tells_of_expand (hSearch : search.IsDocumented) {paths : List String}
    (h : expand search system text = .ok paths) : Tells search system text paths := by
  obtain ⟨_, hPaths, tells⟩ | ⟨_, hRefused, _⟩ := tells_or_refuses hSearch text
  · cases h.symm.trans hPaths
    exact tells
  · cases h.symm.trans hRefused

/-- No file is told twice by an ordinary pattern in which two stars stand at one place at most. -/
theorem nodup_of_expand {pattern : Pattern} {paths : List String} (hSystem : system.Proper)
    (hPattern : pattern.IsOrdinary) (hOnce : pattern.parts.count .anyDepth ≤ 1)
    (spelled : pattern.Spells text.toList)
    (h : expand Pattern.search system text = .ok paths) : paths.Nodup := by
  cases tells_of_expand Pattern.isDocumented_search h with
  | itself => exact List.nodup_singleton _
  | @files _ found _ _ _ hFound _ hFiles =>
      have hRead := congrArg (Option.map (Pattern.found · system))
        (Pattern.read?_eq_some_iff.2 spelled)
      cases hFound.symm.trans hRead
      have hNodup := (Pattern.nodup_found hSystem hPattern hOnce).filter system.isFileAt
      exact (hFiles.nodup_iff.2 hNodup).map fun _ _ => String.ofList_inj.1

section All

variable {texts paths : List String}

end All

end Csdl.Inspection
