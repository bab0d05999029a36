import Csdl.Proofs.Files.Finding
import Mathlib.Data.List.Basic
import Mathlib.Data.List.Induction

/-! Names and paths of names. In a file system whose entries are named by names, what a path of names
leads to is what its names lead to, one after the other, from the root on if the path begins there
and else from the working directory on. -/
namespace Csdl.Files

/-- A text that can be the name of an entry. -/
structure IsName (name : List Char) : Prop where
  ne_nil : name ≠ []
  slash_notMem : '/' ∉ name
  ne_current : name ≠ ['.']
  ne_parent : name ≠ ['.', '.']

section Paths

variable {absolute : Bool} {names : List String}

/-- Names with slashes between them. -/
def slashed (names : List String) : List Char :=
  ['/'].intercalate (names.map String.toList)

theorem slashed_singleton (name : String) : slashed [name] = name.toList :=
  List.intercalate_singleton

theorem slashed_cons {name : String} (h : names ≠ []) :
    slashed (name :: names) = name.toList ++ '/' :: slashed names := by
  have hMore : names.map String.toList ≠ [] := mt List.map_eq_nil_iff.1 h
  rw [slashed, List.map_cons, List.intercalate_cons_of_ne_nil hMore, List.append_assoc]
  rfl

/-- A further name stands behind a slash at the end. -/
theorem slashed_concat (h : names ≠ []) (name : String) :
    slashed (names ++ [name]) = slashed names ++ '/' :: name.toList := by
  induction names with
  | nil => exact absurd rfl h
  | cons first names ih =>
      cases names with
      | nil => rw [List.singleton_append, slashed_cons (List.cons_ne_nil _ _), slashed_singleton,
          slashed_singleton]
      | cons second names =>
          rw [List.cons_append, slashed_cons (by simp), ih (List.cons_ne_nil _ _),
            slashed_cons (List.cons_ne_nil _ _), List.append_assoc, List.cons_append]

theorem splitOn_slashed (hNames : ∀ name ∈ names, IsName name.toList) (h : names ≠ []) :
    (slashed names).splitOn '/' = names.map String.toList := by
  refine List.splitOn_intercalate '/' ?_ (mt List.map_eq_nil_iff.1 h)
  intro text hText
  obtain ⟨name, hMem, rfl⟩ := List.mem_map.1 hText
  exact (hNames name hMem).slash_notMem

/-- Names between slashes begin with a character that is no slash, which is what a path needs to be
followed from the working directory. -/
theorem exists_slashed_eq_cons (hNames : ∀ name ∈ names, IsName name.toList) (h : names ≠ []) :
    ∃ c rest, slashed names = c :: rest ∧ c ≠ '/' := by
  cases names with
  | nil => exact absurd rfl h
  | cons first names =>
      have hFirst := hNames first List.mem_cons_self
      obtain ⟨c, more, hText⟩ := List.exists_cons_of_ne_nil hFirst.ne_nil
      have hPlain : c ≠ '/' := fun hSlash =>
        hFirst.slash_notMem (hText ▸ hSlash ▸ List.mem_cons_self)
      cases names with
      | nil => exact ⟨c, more, by rw [slashed_singleton, hText], hPlain⟩
      | cons second names =>
          rw [slashed_cons (List.cons_ne_nil _ _), hText]
          exact ⟨c, _, rfl, hPlain⟩

/-- The path of names: with a slash before them if they are followed from the root on. -/
def written (absolute : Bool) (names : List String) : List Char :=
  if absolute then '/' :: slashed names else slashed names

theorem written_concat (h : names ≠ []) (name : String) :
    written absolute (names ++ [name]) = written absolute names ++ '/' :: name.toList := by
  cases absolute with
  | true => exact congrArg ('/' :: ·) (slashed_concat h name)
  | false => exact slashed_concat h name

/-- The slash before names puts an empty segment before theirs. -/
theorem splitOn_written (hNames : ∀ name ∈ names, IsName name.toList) (h : names ≠ []) :
    (written absolute names).splitOn '/' =
      (if absolute then [[]] else []) ++ names.map String.toList := by
  cases absolute with
  | true =>
      show ('/' :: slashed names).splitOn '/' = [] :: names.map String.toList
      rw [← splitOn_slashed hNames h]
      simp [List.splitOn, List.splitOnP_cons_eq_if_modifyHead]
  | false => exact splitOn_slashed hNames h

theorem IsName.partOf?_eq {name : String} (h : IsName name.toList) :
    partOf? name.toList = some (.name name) := by
  simp [partOf?, h.ne_nil, h.ne_current, h.ne_parent]

/-- A path of names has their parts, behind the root if it begins there. -/
theorem parts_written (hNames : ∀ name ∈ names, IsName name.toList) (h : names ≠ []) :
    parts (written absolute names) = (if absolute then [.root] else []) ++ names.map .name := by
  have hParts : (names.map String.toList).filterMap partOf? = names.map .name := by
    rw [List.filterMap_map, ← List.filterMap_eq_map]
    exact List.filterMap_congr fun name hMem => (hNames name hMem).partOf?_eq
  obtain ⟨first, more, rfl⟩ := List.exists_cons_of_ne_nil h
  have hFirst := hNames first List.mem_cons_self
  rw [parts, splitOn_written hNames h]
  cases absolute with
  | true => exact congrArg (.root :: ·) hParts
  | false =>
      rw [if_neg Bool.false_ne_true, if_neg Bool.false_ne_true, List.nil_append, List.nil_append,
        hParts]
      -- a name at the start is neither the root nor the current directory
      split
      · next hRoot => exact absurd (List.cons.inj hRoot).1 hFirst.ne_nil
      · next hCurrent => exact absurd (List.cons.inj hCurrent).1 hFirst.ne_current
      · rfl

/-- The path of some names is not empty. -/
theorem written_ne_nil (hNames : ∀ name ∈ names, IsName name.toList) (h : names ≠ []) :
    written absolute names ≠ [] := by
  cases absolute with
  | true => exact List.cons_ne_nil _ _
  | false =>
      obtain ⟨c, rest, hPath, -⟩ := exists_slashed_eq_cons hNames h
      show slashed names ≠ []
      exact hPath ▸ List.cons_ne_nil c rest

/-- The path of some names does not end in a slash. -/
theorem getLast?_written (hNames : ∀ name ∈ names, IsName name.toList) (h : names ≠ []) :
    (written absolute names).getLast? ≠ some '/' := by
  cases names using List.reverseRecOn with
  | nil => exact absurd rfl h
  | append_singleton names last =>
      have hLast := hNames last (by simp)
      have hSlash : last.toList.getLast? ≠ some '/' := fun hEq =>
        hLast.slash_notMem (List.mem_of_getLast? hEq)
      obtain ⟨before, hPath⟩ : ∃ before,
          written absolute (names ++ [last]) = before ++ last.toList := by
        cases names with
        | nil => exact ⟨if absolute then ['/'] else [], by cases absolute <;> simp [written,
            slashed_singleton]⟩
        | cons first names =>
            refine ⟨written absolute (first :: names) ++ ['/'], ?_⟩
            rw [written_concat (List.cons_ne_nil _ _), List.append_assoc, List.singleton_append]
      rw [hPath, List.getLast?_append_of_ne_nil _ hLast.ne_nil]
      exact hSlash

/-- Names lead on from a path of names to the path of all of them. -/
theorem joinShort_written (hNames : ∀ name ∈ names, IsName name.toList) (h : names ≠ [])
    (name : String) :
    joinShort (written absolute names) name.toList = written absolute (names ++ [name]) := by
  have hParts : parts (written absolute names) ≠ [.current] := by
    obtain ⟨first, more, rfl⟩ := List.exists_cons_of_ne_nil h
    rw [parts_written hNames h]
    cases absolute with
    | true => simp
    | false => simp
  have hJoin : ¬(written absolute names = [] || (written absolute names).getLast? = some '/') := by
    simp [written_ne_nil hNames h, getLast?_written hNames h]
  rw [joinShort, if_neg hParts, join, if_neg hJoin, written_concat h]

namespace Pattern

theorem pathInto_append (path : List Char) (before behind : List String) :
    pathInto path (before ++ behind) = pathInto (pathInto path before) behind :=
  List.foldl_append

theorem pathInto_concat (path : List Char) (names : List String) (name : String) :
    pathInto path (names ++ [name]) = joinShort (pathInto path names) name.toList :=
  pathInto_append path names [name]

/-- Names lead from where a pattern is followed from to the path of them. -/
theorem pathInto_start (hNames : ∀ name ∈ names, IsName name.toList) (h : names ≠ []) :
    pathInto (start absolute) names = written absolute names := by
  induction names using List.reverseRecOn with
  | nil => exact absurd rfl h
  | append_singleton names last ih =>
      rw [pathInto_concat]
      cases names with
      | nil =>
          rw [List.nil_append, written, slashed_singleton]
          cases absolute with
          | true => rfl
          | false => rfl
      | cons first names =>
          have hBefore := (List.forall_mem_append.1 hNames).1
          rw [ih hBefore (List.cons_ne_nil _ _)]
          exact joinShort_written hBefore (List.cons_ne_nil _ _) last

end Pattern

/-- The start of a path is not longer than the path. -/
theorem isTooLong_of_append {path rest : List Char} (h : isTooLong (path ++ rest) = false) :
    isTooLong path = false := by
  have hMore : ∀ (rest : List Char) (count : Nat),
      count ≤ rest.foldl (fun count c => count + c.utf8Size) count := by
    intro rest
    induction rest with
    | nil => exact fun count => Nat.le_refl count
    | cons c rest ih => exact fun count => Nat.le_trans (Nat.le_add_right _ _) (ih _)
  have hLength : byteLength path ≤ byteLength (path ++ rest) := by
    rw [byteLength, byteLength, List.foldl_append]
    exact hMore rest _
  simp only [isTooLong, decide_eq_false_iff_not, not_lt] at h ⊢
  exact Nat.le_trans hLength h

end Paths

namespace Entry

/-- A tree whose directories have entries with names, of which no two have the same one. -/
inductive Proper : Entry → Prop where
  | file (bytes : List UInt8) : Proper (file bytes)
  | directory {entries : List (String × Entry)}
      (hNames : ∀ name inner, (name, inner) ∈ entries → IsName name.toList)
      (hDistinct : (entries.map (·.1)).Nodup)
      (hInner : ∀ name inner, (name, inner) ∈ entries → Proper inner) : Proper (directory entries)

/-- Where names are distinct, what is found under a name is what is listed under it. -/
theorem lookup_eq_some_iff {entries : List (String × Entry)}
    (hDistinct : (entries.map (·.1)).Nodup) {name : String} {inner : Entry} :
    entries.lookup name = some inner ↔ (name, inner) ∈ entries := by
  constructor
  · intro h
    obtain ⟨before, behind, rfl, -⟩ := List.lookup_eq_some_iff.1 h
    exact List.mem_append_right _ List.mem_cons_self
  · intro h
    obtain ⟨before, behind, rfl⟩ := List.append_of_mem h
    refine List.lookup_eq_some_iff.2 ⟨before, behind, rfl, fun other hOther => ?_⟩
    rw [List.map_append, List.map_cons] at hDistinct
    have hMem : other.1 ∈ before.map (·.1) := List.mem_map_of_mem hOther
    exact bne_iff_ne.2 fun hSame =>
      (List.nodup_append.1 hDistinct).2.2 _ hMem name List.mem_cons_self hSame.symm

/-- Whatever names lead to in a proper entry is proper, and each of them can be a name. -/
theorem Within.proper {entry inner : Entry} {names : List String} (h : entry.Within names inner)
    (hProper : entry.Proper) : inner.Proper ∧ ∀ name ∈ names, IsName name.toList := by
  induction h with
  | here => exact ⟨hProper, by simp⟩
  | @into entries name names middle inner hMem _ ih =>
      cases hProper with
      | directory hNames _ hInner =>
          obtain ⟨hEnd, hRest⟩ := ih (hInner _ _ hMem)
          exact ⟨hEnd, List.forall_mem_cons.2 ⟨hNames _ _ hMem, hRest⟩⟩

theorem Within.trans {entry middle inner : Entry} {before behind : List String}
    (h : entry.Within before middle) (h' : middle.Within behind inner) :
    entry.Within (before ++ behind) inner := by
  induction h with
  | here => exact h'
  | into hMem _ ih => exact .into hMem (ih h')

/-- Names in two groups lead to an inner entry over the one that the first group leads to. -/
theorem exists_of_within_append {entry inner : Entry} {before behind : List String}
    (h : entry.Within (before ++ behind) inner) :
    ∃ middle, entry.Within before middle ∧ middle.Within behind inner := by
  induction before generalizing entry with
  | nil => exact ⟨entry, .here, h⟩
  | cons name before ih =>
      cases h with
      | into hMem rest =>
          obtain ⟨middle, hBefore, hBehind⟩ := ih rest
          exact ⟨middle, .into hMem hBefore, hBehind⟩

/-- Segments that are names are followed exactly as the entries of directories are listed. The
directories above do not matter for them, since none of them is two dots. -/
theorem Proper.descend?_eq_some_iff {entry inner : Entry} (h : entry.Proper)
    {names : List String} (hNames : ∀ name ∈ names, IsName name.toList) {above : List Entry} :
    descend? above entry (names.map String.toList) = some inner ↔ entry.Within names inner := by
  induction names generalizing entry above with
  | nil =>
      constructor
      · rintro ⟨⟩
        exact .here
      · rintro ⟨⟩
        rfl
  | cons name names ih =>
      obtain ⟨hName, hRest⟩ := List.forall_mem_cons.1 hNames
      cases h with
      | file bytes =>
          refine iff_of_false ?_ fun h => ?_
          · simp [descend?]
          · cases h
      | @directory entries _ hDistinct hInner =>
          simp only [List.map_cons, descend?, hName.ne_nil, hName.ne_current, hName.ne_parent,
            decide_false, Bool.or_self, Bool.false_eq_true, if_false, String.ofList_toList]
          constructor
          · intro hFound
            split at hFound
            · cases hFound
            · next middle hLookup =>
                have hMem := (lookup_eq_some_iff hDistinct).1 hLookup
                exact .into hMem ((ih (hInner _ _ hMem) hRest).1 hFound)
          · intro within
            cases within with
            | @into _ _ _ middle _ hMem rest =>
                rw [(lookup_eq_some_iff hDistinct).2 hMem]
                exact (ih (hInner _ _ hMem) hRest).2 rest

/-- Where names lead to an entry, a path that goes on behind them goes on from there. -/
theorem Within.exists_descend? {entry inner : Entry} {names : List String}
    (h : entry.Within names inner) (hProper : entry.Proper) (above : List Entry) :
    ∃ around, ∀ rest, descend? above entry (names.map String.toList ++ rest) =
      descend? around inner rest := by
  induction h generalizing above with
  | here => exact ⟨above, fun rest => rfl⟩
  | @into entries name names middle inner hMem _ ih =>
      cases hProper with
      | directory hNames hDistinct hInner =>
          have hName := hNames _ _ hMem
          obtain ⟨around, hAround⟩ := ih (hInner _ _ hMem) (directory entries :: above)
          refine ⟨around, fun rest => ?_⟩
          rw [← hAround, List.map_cons, List.cons_append]
          simp [descend?, hName.ne_nil, hName.ne_current, hName.ne_parent,
            (lookup_eq_some_iff hDistinct).2 hMem]

/-- Names lead to one entry only. -/
theorem Proper.within_unique {entry inner inner' : Entry} (h : entry.Proper) {names : List String}
    (hHere : entry.Within names inner) (hThere : entry.Within names inner') : inner = inner' := by
  have hNames := (hHere.proper h).2
  have hFound : descend? [] entry (names.map String.toList) = some inner :=
    (h.descend?_eq_some_iff hNames).2 hHere
  rw [(h.descend?_eq_some_iff hNames).2 hThere] at hFound
  exact (Option.some.inj hFound).symm

end Entry

namespace System

/-- There is a file at a path exactly if the path leads to some bytes. -/
theorem isFileAt_iff {system : System} {path : List Char} :
    system.isFileAt path = true ↔ ∃ bytes, system.at? path = some (.file bytes) := by
  rw [isFileAt, Option.any_eq_true]
  constructor
  · rintro ⟨inner, hThere, hFile⟩
    cases inner with
    | file bytes => exact ⟨bytes, hThere⟩
    | directory entries => cases hFile
  · rintro ⟨bytes, hThere⟩
    exact ⟨_, hThere, rfl⟩

/-- Nothing is at a path that is too long. -/
theorem isTooLong_of_at? {system : System} {path : List Char} {inner : Entry}
    (h : system.at? path = some inner) : isTooLong path = false := by
  rw [at?] at h
  split at h
  · cases h
  · next hShort =>
      rw [Bool.or_eq_true, not_or, Bool.not_eq_true, Bool.not_eq_true] at hShort
      exact hShort.2

/-- A file system whose entries are named by names, and whose working directory is there. -/
structure Proper (system : System) : Prop where
  root : system.root.Proper
  working : ∃ entries, system.root.Within system.working (.directory entries)

/-- The names that lead to where paths are followed from. -/
def origin (system : System) (absolute : Bool) : List String :=
  if absolute then [] else system.working

/-- What names lead to from the root on, or from the working directory on. -/
def Within (system : System) (absolute : Bool) (names : List String) (inner : Entry) : Prop :=
  system.root.Within (system.origin absolute ++ names) inner

variable {system : System} {absolute : Bool} {names : List String} {entry inner : Entry}

theorem Within.trans {more : List String} (h : system.Within absolute names entry)
    (h' : entry.Within more inner) : system.Within absolute (names ++ more) inner := by
  rw [Within, ← List.append_assoc]
  exact Entry.Within.trans h h'

theorem Within.proper (h : system.Within absolute names inner) (hSystem : system.Proper) :
    inner.Proper ∧ ∀ name ∈ names, IsName name.toList := by
  obtain ⟨hInner, hNames⟩ := Entry.Within.proper h hSystem.root
  exact ⟨hInner, (List.forall_mem_append.1 hNames).2⟩

theorem Within.within_iff {more : List String} (h : system.Within absolute names entry)
    (hSystem : system.Proper) :
    system.Within absolute (names ++ more) inner ↔ entry.Within more inner := by
  refine ⟨fun hFar => ?_, h.trans⟩
  rw [Within, ← List.append_assoc] at hFar
  obtain ⟨middle, hMiddle, hMore⟩ := Entry.exists_of_within_append hFar
  rwa [hSystem.root.within_unique h hMiddle]

theorem Proper.exists_root (h : system.Proper) : ∃ entries, system.root = .directory entries := by
  obtain ⟨entries, within⟩ := h.working
  generalize system.root = root, system.working = names at within
  cases within with
  | here => exact ⟨entries, rfl⟩
  | into => exact ⟨_, rfl⟩

/-- Where paths are followed from there is a directory. -/
theorem Proper.exists_start (h : system.Proper) (absolute : Bool) : ∃ entries,
    system.at? (Pattern.start absolute) = some (.directory entries) ∧
      system.Within absolute [] (.directory entries) := by
  cases absolute with
  | true =>
      obtain ⟨entries, hRoot⟩ := h.exists_root
      refine ⟨entries, ?_, ?_⟩
      · show system.root.descend? [] [[], []] = _
        rw [hRoot]
        rfl
      · rw [Within, hRoot]
        exact .here
  | false =>
      obtain ⟨entries, within⟩ := h.working
      refine ⟨entries, ?_, ?_⟩
      · obtain ⟨around, hAround⟩ := within.exists_descend? h.root []
        show system.root.descend? [] (system.working.map String.toList ++ [['.']]) = _
        rw [hAround]
        rfl
      · rw [Within, List.append_nil]
        exact within

/-- The path of some names is followed along these names, from the root on or behind those of the
working directory. -/
theorem route_written (hNames : ∀ name ∈ names, IsName name.toList) (h : names ≠ []) :
    system.route (written absolute names) =
      (if absolute then [[]] else system.working.map String.toList) ++
        names.map String.toList := by
  rw [route, splitOn_written hNames h]
  cases absolute with
  | true => exact if_pos rfl
  | false =>
      obtain ⟨c, rest, hPath, hPlain⟩ := exists_slashed_eq_cons hNames h
      have hRelative : (written false names).head? ≠ some '/' := by
        show (slashed names).head? ≠ some '/'
        rw [hPath]
        exact fun hSlash => hPlain (Option.some.inj hSlash)
      exact if_neg hRelative

/-- A path of names leads to what its names lead to, unless it is too long. -/
theorem Proper.at?_written_iff (h : system.Proper) (hNames : ∀ name ∈ names, IsName name.toList)
    (hSome : names ≠ []) :
    system.at? (written absolute names) = some inner ↔
      isTooLong (written absolute names) = false ∧ system.Within absolute names inner := by
  have hDescend : system.root.descend? [] (system.route (written absolute names)) = some inner ↔
      system.Within absolute names inner := by
    rw [route_written hNames hSome]
    cases absolute with
    | true =>
        obtain ⟨entries, hRoot⟩ := h.exists_root
        show system.root.descend? [] ([] :: names.map String.toList) = some inner ↔
          system.root.Within names inner
        -- the root is a directory, so the segment before the first slash leads nowhere else
        rw [← h.root.descend?_eq_some_iff hNames, hRoot]
        rfl
    | false =>
        obtain ⟨entries, within⟩ := h.working
        have hAll := List.forall_mem_append.2 ⟨(within.proper h.root).2, hNames⟩
        show system.root.descend? [] (system.working.map String.toList ++ names.map String.toList) =
          some inner ↔ system.root.Within (system.working ++ names) inner
        rw [← List.map_append, h.root.descend?_eq_some_iff hAll]
  have hPath : (written absolute names).isEmpty = false :=
    List.isEmpty_eq_false_iff.2 (written_ne_nil hNames hSome)
  rw [at?, hPath, Bool.false_or]
  split
  · next hLong => simp [hLong]
  · next hShort => simpa [hShort] using hDescend

end System

end Csdl.Files
