import Csdl.Proofs.Files.Glyph

/-! What a pattern finds from a place in a tree on. Its parts lead from one place to the next, as
the names of entries, the special names of directories, and the depth that two stars stand for
allow. -/
namespace Csdl.Files

namespace Entry

/-- What names of entries lead to from an entry on, one after the other. -/
inductive Within : Entry → List String → Entry → Prop where
  | here {entry : Entry} : Within entry [] entry
  | into {entries : List (String × Entry)} {name : String} {names : List String}
      {middle inner : Entry} (hMem : (name, middle) ∈ entries) (rest : Within middle names inner) :
      Within (directory entries) (name :: names) inner

/-- What is listed for many entries lies behind one of them, or is one. -/
theorem mem_insideAll {entries : List (String × Entry)} {name : String} {names : List String}
    {inner : Entry} :
    (name :: names, inner) ∈ insideAll entries ↔ ∃ middle, (name, middle) ∈ entries ∧
      (names = [] ∧ inner = middle ∨ (names, inner) ∈ middle.inside) := by
  induction entries with
  | nil => simp [insideAll]
  | cons first entries ih =>
      obtain ⟨other, entry⟩ := first
      simp only [insideAll, List.cons_append, List.mem_cons, List.mem_append, List.mem_map,
        Prod.mk.injEq, Prod.exists, List.cons.injEq, ih]
      constructor
      · rintro (⟨⟨rfl, rfl⟩, rfl⟩ | ⟨_, _, hMem, ⟨rfl, rfl⟩, rfl⟩ | ⟨middle, hMem, h⟩)
        · exact ⟨inner, .inl ⟨rfl, rfl⟩, .inl ⟨rfl, rfl⟩⟩
        · exact ⟨entry, .inl ⟨rfl, rfl⟩, .inr hMem⟩
        · exact ⟨middle, .inr hMem, h⟩
      · rintro ⟨middle, ⟨rfl, rfl⟩ | hMem, h⟩
        · rcases h with ⟨rfl, rfl⟩ | hRest
          · exact .inl ⟨⟨rfl, rfl⟩, rfl⟩
          · exact .inr (.inl ⟨names, inner, hRest, ⟨rfl, rfl⟩, rfl⟩)
        · exact .inr (.inr ⟨middle, hMem, h⟩)

theorem nil_notMem_insideAll {entries : List (String × Entry)} {inner : Entry} :
    ([], inner) ∉ insideAll entries := by
  induction entries with
  | nil => simp [insideAll]
  | cons first entries ih => simp [insideAll, ih]

/-- What is listed in an entry is what names lead to. -/
theorem mem_inside {entry inner : Entry} {names : List String} :
    (names, inner) ∈ entry.inside ↔ names ≠ [] ∧ entry.Within names inner := by
  induction names generalizing entry with
  | nil =>
      refine iff_of_false ?_ fun h => h.1 rfl
      cases entry with
      | file bytes => exact List.not_mem_nil
      | directory entries => exact nil_notMem_insideAll
  | cons name names ih =>
      cases entry with
      | file bytes =>
          refine iff_of_false List.not_mem_nil fun h => ?_
          cases h.2
      | directory entries =>
          rw [inside, mem_insideAll]
          constructor
          · rintro ⟨middle, hMem, ⟨rfl, rfl⟩ | hRest⟩
            · exact ⟨List.cons_ne_nil _ _, .into hMem .here⟩
            · exact ⟨List.cons_ne_nil _ _, .into hMem (ih.1 hRest).2⟩
          · rintro ⟨-, within⟩
            cases within with
            | @into _ _ _ middle _ hMem rest =>
                refine ⟨middle, hMem, ?_⟩
                cases rest with
                | here => exact .inl ⟨rfl, rfl⟩
                | into hNext rest => exact .inr (ih.2 ⟨List.cons_ne_nil _ _, .into hNext rest⟩)

end Entry

namespace Pattern

/-- The path of what names lead to from a path on. -/
def pathInto (path : List Char) (names : List String) : List Char :=
  names.foldl (fun path name => joinShort path name.toList) path

/-- How a pattern for names leads on from a path with an entry. One of plain characters leads where
its name does, whatever that is. Another one stands for entries of a directory, and for the two
special names of it if it begins with a dot. -/
inductive Steps (system : System) :
    List Glyph → List Char → Entry → List Char → Entry → Prop where
  | plain {name path : List Char} {entry inner : Entry}
      (hSpecial : name = ['.'] ∨ name = ['.', '.'] → entry.isFile = false)
      (hThere : system.at? (joinShort path name) = some inner) :
      Steps system (name.map .one) path entry (joinShort path name) inner
  | special {glyphs : List Glyph} {path name : List Char} {entries : List (String × Entry)}
      {inner : Entry} (hPattern : Glyph.literal? glyphs = none) (hShort : isTooLong path = false)
      (hDot : glyphs.head? = some (.one '.')) (hName : name = ['.'] ∨ name = ['.', '.'])
      (hMatches : Glyph.Matches glyphs name) (hThere : system.at? (join path name) = some inner) :
      Steps system glyphs path (.directory entries) (join path name) inner
  | entry {glyphs : List Glyph} {path : List Char} {entries : List (String × Entry)}
      {name : String} {inner : Entry} (hPattern : Glyph.literal? glyphs = none)
      (hShort : isTooLong path = false) (hMem : (name, inner) ∈ entries)
      (hMatches : Glyph.Matches glyphs name.toList) :
      Steps system glyphs path (.directory entries) (joinShort path name.toList) inner

/-- What the parts of a pattern lead to from a path with an entry. Two stars stand for names of
entries at any depth, of which the part behind them stands for the last one; at the end they stand
for directories. -/
inductive Leads (system : System) :
    List PatternPart → List Char → Entry → List Char → Entry → Prop where
  | here {path : List Char} {entry : Entry} (hShort : isTooLong path = false) :
      Leads system [] path entry path entry
  | name {glyphs : List Glyph} {parts : List PatternPart} {path next goal : List Char}
      {entry inner target : Entry} (step : Steps system glyphs path entry next inner)
      (rest : Leads system parts next inner goal target) :
      Leads system (.name glyphs :: parts) path entry goal target
  | anyDepth {glyphs : List Glyph} {parts : List PatternPart} {path goal : List Char}
      {entry inner target : Entry} {names : List String} {last : String}
      (hShort : isTooLong path = false) (within : entry.Within names inner)
      (hLast : names.getLast? = some last) (hMatches : Glyph.Matches glyphs last.toList)
      (rest : Leads system parts (pathInto path names) inner goal target) :
      Leads system (.anyDepth :: .name glyphs :: parts) path entry goal target
  | again {parts : List PatternPart} {path goal : List Char} {entry target : Entry}
      (rest : Leads system (.anyDepth :: parts) path entry goal target) :
      Leads system (.anyDepth :: .anyDepth :: parts) path entry goal target
  | directories {path : List Char} {entry : Entry} {names : List String}
      {found : List (String × Entry)} (hInside : names ≠ [])
      (within : entry.Within names (.directory found)) :
      Leads system [.anyDepth] path entry (pathInto path names) (.directory found)

/-- A special name is found only by a pattern that begins with a dot itself. -/
theorem mem_specialNames {glyphs : List Glyph} {name : List Char} :
    name ∈ specialNames glyphs ↔ glyphs.head? = some (.one '.') ∧
      (name = ['.'] ∨ name = ['.', '.']) ∧ Glyph.Matches glyphs name := by
  unfold specialNames
  split
  · next hDot =>
      rw [List.mem_filter, Glyph.fits_eq_true_iff, List.mem_cons, List.mem_singleton]
      constructor
      · rintro ⟨hName, hMatches⟩
        exact ⟨hDot, hName.symm, hMatches⟩
      · rintro ⟨_, hName, hMatches⟩
        exact ⟨hName.symm, hMatches⟩
  · next hNoDot => simp [hNoDot]

section Found

variable {system : System} {entry inner target : Entry} {glyphs : List Glyph}
  {parts : List PatternPart} {path goal : List Char}

/-- Plain characters lead to one place only. -/
theorem steps_map_one_iff {name next : List Char} :
    Steps system (name.map .one) path entry next inner ↔
      (name = ['.'] ∨ name = ['.', '.'] → entry.isFile = false) ∧ next = joinShort path name ∧
        system.at? next = some inner := by
  have hPattern := Glyph.literal?_map_one name
  constructor
  · intro h
    generalize hGlyphs : name.map Glyph.one = glyphs at h
    cases h with
    | plain hSpecial hThere =>
        rw [hGlyphs, Glyph.literal?_eq_some_iff.2 rfl] at hPattern
        cases hPattern
        exact ⟨hSpecial, rfl, hThere⟩
    | special hNone => cases (hGlyphs ▸ hPattern).symm.trans hNone
    | entry hNone => cases (hGlyphs ▸ hPattern).symm.trans hNone
  · rintro ⟨hSpecial, rfl, hThere⟩
    exact .plain hSpecial hThere

/-- A plain name is followed without a look into the directory, so the step asks only what its path
leads to. -/
theorem mem_find_plain {name : List Char} :
    (goal, target) ∈ find system path entry (.name (name.map .one) :: parts) ↔
      ∃ next inner, Steps system (name.map .one) path entry next inner ∧
        (goal, target) ∈ find system next inner parts := by
  have hPattern := Glyph.literal?_map_one name
  simp only [steps_map_one_iff]
  rw [find, hPattern]
  dsimp only
  split
  · next hFile =>
      refine iff_of_false List.not_mem_nil ?_
      rintro ⟨_, _, ⟨hSpecial, _⟩, _⟩
      simp only [Bool.and_eq_true, Bool.or_eq_true, decide_eq_true_eq] at hFile
      rw [hSpecial hFile.1] at hFile
      cases hFile.2
  · next hFile =>
      have hSpecial : name = ['.'] ∨ name = ['.', '.'] → entry.isFile = false := by
        simpa using hFile
      split
      · next hNone =>
          refine iff_of_false List.not_mem_nil ?_
          rintro ⟨_, _, ⟨_, rfl, hThere⟩, _⟩
          cases hNone.symm.trans hThere
      · next found hThere =>
          constructor
          · intro hMem
            exact ⟨_, found, ⟨hSpecial, rfl, hThere⟩, hMem⟩
          · rintro ⟨_, inner, ⟨_, rfl, hInner⟩, hMem⟩
            cases hThere.symm.trans hInner
            exact hMem

/-- A part that is no plain name is compared with the special names and with each entry of the
directory. -/
theorem mem_find_shape (hPattern : Glyph.literal? glyphs = none) :
    (goal, target) ∈ find system path entry (.name glyphs :: parts) ↔
      ∃ next inner, Steps system glyphs path entry next inner ∧
        (goal, target) ∈ find system next inner parts := by
  rw [find, hPattern]
  dsimp only
  split
  · next hNone =>
      refine iff_of_false List.not_mem_nil ?_
      rintro ⟨_, _, step, _⟩
      cases step with
      | plain => cases hPattern.symm.trans (Glyph.literal?_map_one _)
      | special _ hShort => simp [Entry.isFile, hShort] at hNone
      | entry _ hShort => simp [Entry.isFile, hShort] at hNone
  · next hSome =>
      rw [Bool.or_eq_true, not_or, Bool.not_eq_true, Bool.not_eq_true] at hSome
      obtain ⟨hFile, hShort⟩ := hSome
      cases entry with
      | file bytes => cases hFile
      | directory entries =>
          rw [List.mem_append, List.mem_flatMap, List.mem_flatMap]
          constructor
          -- special names are tried before the entries
          · rintro (⟨name, hName, hMem⟩ | ⟨⟨name, inner⟩, hEntry, hMem⟩)
            · obtain ⟨hDot, hSpecial, hMatches⟩ := mem_specialNames.1 hName
              split at hMem
              · cases hMem
              · next inner hThere =>
                  exact ⟨_, inner, .special hPattern hShort hDot hSpecial hMatches hThere, hMem⟩
            · split at hMem
              · next hFits =>
                  have hMatches := Glyph.fits_eq_true_iff.1 hFits
                  exact ⟨_, inner, .entry hPattern hShort hEntry hMatches, hMem⟩
              · cases hMem
          · rintro ⟨next, inner, step, hMem⟩
            cases step with
            | plain => cases hPattern.symm.trans (Glyph.literal?_map_one _)
            | @special _ _ name _ _ _ _ hDot hSpecial hMatches hThere =>
                refine .inl ⟨name, mem_specialNames.2 ⟨hDot, hSpecial, hMatches⟩, ?_⟩
                rw [hThere]
                exact hMem
            | @entry _ _ _ name _ _ _ hEntry hMatches =>
                refine .inr ⟨(name, inner), hEntry, ?_⟩
                rw [if_pos (Glyph.fits_eq_true_iff.2 hMatches)]
                exact hMem

/-- A part for names finds what is behind the places to which it leads. -/
theorem mem_find_name :
    (goal, target) ∈ find system path entry (.name glyphs :: parts) ↔
      ∃ next inner, Steps system glyphs path entry next inner ∧
        (goal, target) ∈ find system next inner parts := by
  cases hPattern : Glyph.literal? glyphs with
  | some name =>
      obtain rfl := Glyph.literal?_eq_some_iff.1 hPattern
      exact mem_find_plain
  | none => exact mem_find_shape hPattern

/-- Two stars and a part for names find what is behind an entry at some depth whose name the part
stands for. -/
theorem mem_find_anyDepth :
    (goal, target) ∈ find system path entry (.anyDepth :: .name glyphs :: parts) ↔
      isTooLong path = false ∧ ∃ names inner last, entry.Within names inner ∧
        names.getLast? = some last ∧ Glyph.Matches glyphs last.toList ∧
          (goal, target) ∈ find system (pathInto path names) inner parts := by
  rw [find]
  split
  · next hLong => simp [hLong]
  · next hShort =>
      rw [Bool.not_eq_true] at hShort
      simp only [hShort, true_and, List.mem_flatMap, Prod.exists, Entry.mem_inside]
      refine exists_congr fun names => exists_congr fun inner => ?_
      constructor
      · rintro ⟨⟨hInside, within⟩, hMem⟩
        obtain ⟨last, hLast⟩ := Option.ne_none_iff_exists'.1
          (mt List.getLast?_eq_none_iff.1 hInside)
        rw [hLast] at hMem
        split at hMem
        · next hFits => exact ⟨last, within, hLast, Glyph.fits_eq_true_iff.1 hFits, hMem⟩
        · cases hMem
      · rintro ⟨last, within, hLast, hMatches, hMem⟩
        have hInside : names ≠ [] := by
          rintro rfl
          cases hLast
        refine ⟨⟨hInside, within⟩, ?_⟩
        rw [hLast, Option.getD_some, if_pos (Glyph.fits_eq_true_iff.2 hMatches)]
        exact hMem

/-- Two stars at the end find directories only. -/
theorem mem_find_directories :
    (goal, target) ∈ find system path entry [.anyDepth] ↔ ∃ names found,
      names ≠ [] ∧ entry.Within names (.directory found) ∧ goal = pathInto path names ∧
        target = .directory found := by
  simp only [find, List.mem_filterMap, Prod.exists, Entry.mem_inside]
  constructor
  · rintro ⟨names, inner, ⟨hInside, within⟩, hFound⟩
    cases inner with
    | file bytes => cases hFound
    | directory found =>
        cases hFound
        exact ⟨names, found, hInside, within, rfl, rfl⟩
  · rintro ⟨names, found, hInside, within, rfl, rfl⟩
    exact ⟨names, .directory found, ⟨hInside, within⟩, rfl⟩

end Found

/-- What is found is what the parts of a pattern lead to. -/
theorem mem_find {system : System} {target : Entry} {goal : List Char} :
    ∀ {parts : List PatternPart} {path : List Char} {entry : Entry},
      (goal, target) ∈ find system path entry parts ↔ Leads system parts path entry goal target
  | [], path, entry => by
      rw [find]
      constructor
      · intro h
        split at h
        · cases h
        · next hShort =>
            cases List.mem_singleton.1 h
            exact .here (Bool.eq_false_iff.2 hShort)
      · intro h
        cases h with
        | here hShort => simp [hShort]
  | [.anyDepth], path, entry => by
      rw [mem_find_directories]
      constructor
      · rintro ⟨names, found, hInside, within, rfl, rfl⟩
        exact .directories hInside within
      · intro h
        cases h with
        | directories hInside within => exact ⟨_, _, hInside, within, rfl, rfl⟩
  | .anyDepth :: .anyDepth :: parts, path, entry => by
      rw [find, mem_find]
      constructor
      · exact .again
      · intro h
        cases h with
        | again rest => exact rest
  | .anyDepth :: .name glyphs :: parts, path, entry => by
      rw [mem_find_anyDepth]
      constructor
      · rintro ⟨hShort, names, inner, last, within, hLast, hMatches, hMem⟩
        exact .anyDepth hShort within hLast hMatches (mem_find.1 hMem)
      · intro h
        cases h with
        | anyDepth hShort within hLast hMatches rest =>
            exact ⟨hShort, _, _, _, within, hLast, hMatches, mem_find.2 rest⟩
  | .name glyphs :: parts, path, entry => by
      rw [mem_find_name]
      constructor
      · rintro ⟨next, inner, step, hMem⟩
        exact .name step (mem_find.1 hMem)
      · intro h
        cases h with
        | name step rest => exact ⟨_, _, step, mem_find.2 rest⟩

end Pattern
end Csdl.Files
