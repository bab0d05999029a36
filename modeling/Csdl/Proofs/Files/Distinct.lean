import Csdl.Proofs.Files.Meaning
import Mathlib.Data.List.Nodup

/-! How often a path is found. Where two stars stand for directories at one place of an ordinary
pattern at most, each path is found in one way only, and once. -/
namespace Csdl.Files

namespace Entry

theorem mem_keys_of_mem_insideAll {entries : List (String × Entry)} {name : String}
    {names : List String} (h : name :: names ∈ (insideAll entries).map (·.1)) :
    name ∈ entries.map (·.1) := by
  obtain ⟨⟨_, inner⟩, hMem, rfl⟩ := List.mem_map.1 h
  obtain ⟨middle, hEntry, _⟩ := mem_insideAll.1 hMem
  exact List.mem_map_of_mem hEntry

/-- No names lead to two things. What lies in two directories is told apart by the first name. -/
theorem nodup_insideAll {entries : List (String × Entry)}
    (hDistinct : (entries.map (·.1)).Nodup)
    (hInner : ∀ name inner, (name, inner) ∈ entries → (inner.inside.map (·.1)).Nodup) :
    ((insideAll entries).map (·.1)).Nodup := by
  induction entries with
  | nil => exact .nil
  | cons first entries ih =>
      obtain ⟨name, entry⟩ := first
      rw [List.map_cons, List.nodup_cons] at hDistinct
      obtain ⟨hNew, hDistinct⟩ := hDistinct
      have hRest := ih hDistinct fun other inner hMem => hInner other inner (.tail _ hMem)
      have hFirst := (hInner name entry List.mem_cons_self).map (List.cons_injective (a := name))
      have hApart : ∀ {names}, name :: names ∉ (insideAll entries).map (·.1) :=
        fun hMem => hNew (mem_keys_of_mem_insideAll hMem)
      have hSplit : (insideAll ((name, entry) :: entries)).map (·.1) =
          [name] :: (entry.inside.map (·.1)).map (name :: ·) ++
            (insideAll entries).map (·.1) := by
        simp [insideAll, Function.comp_def]
      rw [hSplit, List.cons_append, List.nodup_cons, List.mem_append, not_or,
        List.nodup_append]
      refine ⟨⟨?_, hApart⟩, hFirst, hRest, ?_⟩
      · intro hMem
        obtain ⟨names, hNames, hEq⟩ := List.mem_map.1 hMem
        obtain ⟨⟨_, inner⟩, hInside, rfl⟩ := List.mem_map.1 hNames
        exact (mem_inside.1 hInside).1 (List.cons.inj hEq).2
      · rintro _ hMem _ hMem' rfl
        obtain ⟨names, _, rfl⟩ := List.mem_map.1 hMem
        exact hApart hMem'

theorem Proper.nodup_inside {entry : Entry} (h : entry.Proper) :
    (entry.inside.map (·.1)).Nodup := by
  induction h with
  | file bytes => exact .nil
  | directory _ hDistinct _ ih => exact nodup_insideAll hDistinct ih

end Entry

namespace Pattern

theorem MatchesAll.length_eq {parts : List PatternPart} {names : List String}
    (h : MatchesAll parts names) (hPlain : .anyDepth ∉ parts) : names.length = parts.length := by
  induction h with
  | nil => rfl
  | name _ _ ih => simp [ih (mt (List.mem_cons_of_mem _) hPlain)]
  | anyDepth => exact absurd List.mem_cons_self hPlain

/-- Paths from one start are told apart by their names. -/
theorem pathInto_inj {isAbsolute : Bool} {names names' : List String}
    (hNames : ∀ name ∈ names, IsName name.toList) (hNames' : ∀ name ∈ names', IsName name.toList)
    (hSome : names ≠ []) (hSome' : names' ≠ [])
    (h : pathInto (start isAbsolute) names = pathInto (start isAbsolute) names') :
    names = names' := by
  rw [pathInto_start hNames hSome, pathInto_start hNames' hSome'] at h
  have hSplit := congrArg (List.splitOn '/') h
  rw [splitOn_written hNames hSome, splitOn_written hNames' hSome'] at hSplit
  exact List.map_injective_iff.2 (fun _ _ => String.toList_inj.1) (List.append_cancel_left hSplit)

section Tree

variable {system : System} {absolute : Bool} {entry : Entry} {done : List String}
  {parts : List PatternPart} {goal : List Char}

/-- What is found behind a place is told by names that match the parts. -/
theorem exists_names_of_mem_find (hSystem : system.Proper)
    (hHere : system.Within absolute done entry) (hOrdinary : AreOrdinary parts)
    (h : goal ∈ (find system (pathInto (start absolute) done) entry parts).map (·.1)) :
    ∃ names, (∀ name ∈ done ++ names, IsName name.toList) ∧ MatchesAll parts names ∧
      goal = pathInto (start absolute) (done ++ names) := by
  obtain ⟨⟨_, target⟩, hMem, rfl⟩ := List.mem_map.1 h
  have hLeads := mem_find.1 hMem
  have hGoal := isTooLong_of_leads hLeads hOrdinary
  obtain ⟨names, within, hAll, hPath⟩ :=
    (leadsByNames hSystem hGoal hOrdinary done entry hHere).1 hLeads
  have hNames := ((hHere.trans within).proper hSystem).2
  exact ⟨names, hNames, hAll, hPath⟩

/-- What is found at two places is apart if the names that lead there are, whatever comes behind. -/
theorem disjoint_find (hSystem : system.Proper) (hOrdinary : AreOrdinary parts)
    {names names' : List String} {inner inner' : Entry}
    (hHere : system.Within absolute (done ++ names) inner)
    (hThere : system.Within absolute (done ++ names') inner') (hSome : names ≠ [])
    (hSome' : names' ≠ [])
    (hApart : ∀ more more', MatchesAll parts more → MatchesAll parts more' →
      names ++ more ≠ names' ++ more') :
    List.Disjoint ((find system (pathInto (start absolute) (done ++ names)) inner parts).map (·.1))
      ((find system (pathInto (start absolute) (done ++ names')) inner' parts).map (·.1)) := by
  intro goal hMem hMem'
  obtain ⟨more, hNames, hAll, hPath⟩ :=
    exists_names_of_mem_find hSystem hHere hOrdinary hMem
  obtain ⟨more', hNames', hAll', hPath'⟩ :=
    exists_names_of_mem_find hSystem hThere hOrdinary hMem'
  have hSame := pathInto_inj hNames hNames' (by simp [hSome]) (by simp [hSome'])
    (hPath.symm.trans hPath')
  rw [List.append_assoc, List.append_assoc] at hSame
  exact hApart more more' hAll hAll' (List.append_cancel_left hSame)

end Tree

/-- From each place behind a start, parts of a pattern find each path once. -/
def FindsOnce (system : System) (absolute : Bool) (parts : List PatternPart) : Prop :=
  ∀ done entry, system.Within absolute done entry →
    ((find system (pathInto (start absolute) done) entry parts).map (·.1)).Nodup

namespace FindsOnce

variable {system : System} {absolute : Bool} {entry : Entry} {done : List String}
  {glyphs : List Glyph} {parts : List PatternPart}

/-- What is found behind places that are told apart, all by parts that find nothing twice. -/
theorem places (hRest : FindsOnce system absolute parts) (glyphs : List Glyph)
    (hSystem : system.Proper) (hHere : system.Within absolute done entry)
    (hOrdinary : AreOrdinary parts) {places : List (List String × Entry)}
    (hDistinct : (places.map (·.1)).Nodup)
    (hWithin : ∀ place ∈ places, place.1 ≠ [] ∧ entry.Within place.1 place.2)
    (hApart : ∀ place ∈ places, ∀ place' ∈ places, place.1 ≠ place'.1 → ∀ more more',
      MatchesAll parts more → MatchesAll parts more' → place.1 ++ more ≠ place'.1 ++ more') :
    ((places.flatMap fun place =>
      if Glyph.fits glyphs (place.1.getLast?.getD "").toList then
        find system (pathInto (start absolute) (done ++ place.1)) place.2 parts
      else []).map (·.1)).Nodup := by
  rw [List.map_flatMap, List.nodup_flatMap]
  constructor
  · intro place hMem
    split
    · exact hRest _ _ (hHere.trans (hWithin place hMem).2)
    · exact .nil
  · refine (List.pairwise_map.1 hDistinct).imp_of_mem ?_
    intro place place' hMem hMem' hNames
    dsimp only [Function.onFun]
    split
    · split
      · exact disjoint_find hSystem hOrdinary
          (hHere.trans (hWithin _ hMem).2)
          (hHere.trans (hWithin _ hMem').2)
          (hWithin _ hMem).1 (hWithin _ hMem').1 (hApart _ hMem _ hMem' hNames)
      · exact List.disjoint_nil_right _
    · exact List.disjoint_nil_left _

/-- What is found behind the entries of a directory, which are told apart by their names. -/
theorem entries (hRest : FindsOnce system absolute parts) (glyphs : List Glyph)
    (hSystem : system.Proper) {entries : List (String × Entry)}
    (hHere : system.Within absolute done (.directory entries)) (hOrdinary : AreOrdinary parts) :
    ((entries.flatMap fun (name, inner) =>
      if Glyph.fits glyphs name.toList then
        find system (joinShort (pathInto (start absolute) done) name.toList) inner parts
      else []).map (·.1)).Nodup := by
  have hKeys : ((entries.map fun entry => ([entry.1], entry.2)).map (·.1)).Nodup := by
    cases (hHere.proper hSystem).1 with
    | directory _ hDistinct _ =>
        rw [List.map_map]
        exact List.Nodup.of_map (fun names => names.head?) (by
          simpa [Function.comp_def] using hDistinct.map fun _ _ => Option.some.inj)
  have hStep : ∀ place ∈ entries.map (fun entry => ([entry.1], entry.2)),
      ∃ name, place.1 = [name] ∧ (Entry.directory entries).Within place.1 place.2 := by
    intro place hMem
    obtain ⟨⟨name, inner⟩, hEntry, rfl⟩ := List.mem_map.1 hMem
    exact ⟨name, rfl, .into hEntry .here⟩
  have hPlaces := hRest.places glyphs hSystem hHere hOrdinary hKeys
    (fun place hMem => ?_) (fun place hMem place' hMem' => ?_)
  · simp only [← pathInto_concat]
    simp only [List.flatMap_map, List.getLast?_singleton, Option.getD_some] at hPlaces
    exact hPlaces
  · obtain ⟨name, hName, within⟩ := hStep place hMem
    exact ⟨hName ▸ List.cons_ne_nil _ _, within⟩
  · obtain ⟨name, hName, _⟩ := hStep place hMem
    obtain ⟨name', hName', _⟩ := hStep place' hMem'
    rw [hName, hName']
    intro hNames more more' _ _ hSame
    exact hNames (congrArg ([·]) (List.cons.inj hSame).1)

/-- A part for names finds what is behind one name, or behind the different names of entries. -/
theorem name (hRest : FindsOnce system absolute parts) (hSystem : system.Proper)
    (hFirst : (PatternPart.name glyphs).IsOrdinary) (hOrdinary : AreOrdinary parts) :
    FindsOnce system absolute (.name glyphs :: parts) := by
  intro done entry hHere
  cases hPattern : Glyph.literal? glyphs with
  | some text =>
      obtain rfl := Glyph.literal?_eq_some_iff.1 hPattern
      obtain ⟨name, rfl⟩ : ∃ name : String, text = name.toList :=
        ⟨String.ofList text, String.toList_ofList.symm⟩
      rw [find, hPattern]
      dsimp only
      rw [← pathInto_concat]
      split
      · exact .nil
      · split
        · exact .nil
        · next inner hThere =>
            rw [at?_into_iff hSystem hHere (isName_of_map_one hFirst)] at hThere
            exact hRest _ _ (hHere.trans hThere.2)
  | none =>
      rw [find, hPattern]
      dsimp only
      split
      · exact .nil
      -- an ordinary part has no special names, so only the entries are left
      · rw [hFirst.2.2, List.flatMap_nil, List.nil_append]
        cases entry with
        | file bytes => exact .nil
        | directory entries => exact hRest.entries glyphs hSystem hHere hOrdinary

/-- Two stars and a part for names find what is behind different lists of names, if no two stars
come behind them. -/
theorem anyDepth (hRest : FindsOnce system absolute parts) (hSystem : system.Proper)
    (hPlain : .anyDepth ∉ parts) (hOrdinary : AreOrdinary parts) :
    FindsOnce system absolute (.anyDepth :: .name glyphs :: parts) := by
  intro done entry hHere
  rw [find]
  split
  · exact .nil
  · have hPlaces := hRest.places glyphs hSystem hHere hOrdinary
      (hHere.proper hSystem).1.nodup_inside (fun place hMem => Entry.mem_inside.1 hMem)
      (fun place hMem place' hMem' hNames more more' hAll hAll' hSame => ?_)
    · simp only [pathInto_append] at hPlaces
      exact hPlaces
    · have hLength : more.length = more'.length := by
        rw [hAll.length_eq hPlain, hAll'.length_eq hPlain]
      exact hNames (List.append_inj' hSame hLength).1

end FindsOnce

/-- The parts of an ordinary pattern in which two stars stand at one place at most find nothing
twice. -/
theorem findsOnce {system : System} {absolute : Bool} (hSystem : system.Proper) :
    ∀ {parts : List PatternPart}, AreOrdinary parts → parts.count .anyDepth ≤ 1 →
      FindsOnce system absolute parts
  | [], _, _ => by
      intro done entry _
      rw [find]
      split
      · exact .nil
      · exact List.nodup_singleton _
  | [.anyDepth], hOrdinary, _ => absurd hOrdinary AreOrdinary.not_singleton_anyDepth
  | .anyDepth :: .anyDepth :: _, _, hOnce => by
      simp at hOnce
  | .anyDepth :: .name _ :: parts, hOrdinary, hOnce => by
      have hPlain : .anyDepth ∉ parts := by
        rw [← List.count_eq_zero]
        simpa using hOnce
      have hNone : parts.count .anyDepth ≤ 1 := by
        rw [List.count_eq_zero.2 hPlain]
        exact Nat.zero_le 1
      exact (findsOnce hSystem hOrdinary.tail.tail hNone).anyDepth hSystem hPlain
        hOrdinary.tail.tail
  | .name _ :: parts, hOrdinary, hOnce => by
      have hMore : parts.count .anyDepth ≤ 1 := by
        simpa using hOnce
      exact (findsOnce hSystem hOrdinary.tail hMore).name hSystem hOrdinary.head hOrdinary.tail

/-- A path is found once where two stars stand at one place of an ordinary pattern at most. -/
theorem nodup_found {system : System} (hSystem : system.Proper) {pattern : Pattern}
    (hPattern : pattern.IsOrdinary) (hOnce : pattern.parts.count .anyDepth ≤ 1) :
    (pattern.found system).Nodup := by
  obtain ⟨entries, hStart, hHere⟩ := hSystem.exists_start pattern.absolute
  rw [found, hStart]
  split
  · exact .nil
  · have hFound := findsOnce hSystem hPattern.parts_ordinary hOnce [] _ hHere
    exact hFound.sublist (List.filter_sublist.map _)

end Pattern

end Csdl.Files
