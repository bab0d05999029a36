import Csdl.Proofs.Files.Listing
import Csdl.Proofs.Files.Naming

/-! What an ordinary pattern stands for. It is about entries only, and it is looked for in a file
system whose entries are named by names. There it finds what names lead to that match its parts,
from the root on or from the working directory on. So much is documented of a search, and it is so
for the search here. -/
namespace Csdl.Files

/-- A part that is about entries only: it has plain characters of names, and no special name is
found by it. -/
def PatternPart.IsOrdinary : PatternPart → Prop
  | anyDepth => True
  | name glyphs => glyphs ≠ [] ∧ .one '/' ∉ glyphs ∧ Pattern.specialNames glyphs = []

/-- Ordinary parts, of which the last one is about names. -/
structure AreOrdinary (parts : List PatternPart) : Prop where
  forall_parts : ∀ part ∈ parts, part.IsOrdinary
  ends_in_name : ∀ before, parts ≠ before ++ [.anyDepth]

namespace AreOrdinary

variable {part : PatternPart} {parts : List PatternPart}

theorem head (h : AreOrdinary (part :: parts)) : part.IsOrdinary :=
  h.forall_parts part List.mem_cons_self

theorem tail (h : AreOrdinary (part :: parts)) : AreOrdinary parts where
  forall_parts other hMem := h.forall_parts other (List.mem_cons_of_mem _ hMem)
  ends_in_name before hParts := h.ends_in_name (part :: before) (congrArg (part :: ·) hParts)

theorem not_singleton_anyDepth : ¬ AreOrdinary [.anyDepth] :=
  fun h => h.ends_in_name [] rfl

end AreOrdinary

namespace Pattern

/-- The names that parts of a pattern stand for. Two stars stand for any number of names, and each
other part for one name. -/
inductive MatchesAll : List PatternPart → List String → Prop where
  | nil : MatchesAll [] []
  | name {glyphs : List Glyph} {parts : List PatternPart} {name : String} {names : List String}
      (hMatches : Glyph.Matches glyphs name.toList) (rest : MatchesAll parts names) :
      MatchesAll (.name glyphs :: parts) (name :: names)
  | anyDepth (skipped : List String) {parts : List PatternPart} {names : List String}
      (rest : MatchesAll parts names) : MatchesAll (.anyDepth :: parts) (skipped ++ names)

/-- The text of an ordinary plain part is a name, since such a part has none of the special
names. -/
theorem isName_of_map_one {text : List Char}
    (h : (PatternPart.name (text.map .one)).IsOrdinary) : IsName text := by
  obtain ⟨hSome, hSlash, hSpecial⟩ := h
  have hNot : ∀ name, text = name → (name = ['.'] ∨ name = ['.', '.']) → False := by
    rintro name rfl hName
    have hMem : text ∈ specialNames (text.map .one) := by
      refine mem_specialNames.2 ⟨?_, hName, Glyph.matches_map_one_iff.2 rfl⟩
      rcases hName with rfl | rfl <;> rfl
    rw [hSpecial] at hMem
    cases hMem
  refine ⟨?_, ?_, fun h => hNot _ h (.inl rfl), fun h => hNot _ h (.inr rfl)⟩
  · rintro rfl
    exact hSome rfl
  · exact fun hMem => hSlash (List.mem_map_of_mem hMem)

/-- No path on the way is longer than the one that it leads to. -/
theorem isTooLong_pathInto {absolute : Bool} {done names : List String}
    (hNames : ∀ name ∈ done ++ names, IsName name.toList)
    (h : isTooLong (pathInto (start absolute) (done ++ names)) = false) :
    isTooLong (pathInto (start absolute) done) = false := by
  induction names using List.reverseRecOn with
  | nil => rwa [List.append_nil] at h
  | append_singleton names last ih =>
      rw [← List.append_assoc] at hNames h
      have hBefore : ∀ name ∈ done ++ names, IsName name.toList := fun name hMem =>
        hNames name (List.mem_append_left _ hMem)
      by_cases hNone : done ++ names = []
      · obtain ⟨rfl, -⟩ := List.append_eq_nil_iff.1 hNone
        cases absolute with
        | true => decide
        | false => decide
      · rw [pathInto_start hNames (by simp), written_concat hNone,
          ← pathInto_start hBefore hNone] at h
        exact ih hBefore (isTooLong_of_append h)

section Tree

variable {system : System} {absolute : Bool} {entry inner : Entry} {done : List String}

/-- A name leads on from an entry exactly to what the path of it leads to. -/
theorem at?_into_iff (hSystem : system.Proper) (hHere : system.Within absolute done entry)
    {name : String} (hName : IsName name.toList) :
    system.at? (pathInto (start absolute) (done ++ [name])) = some inner ↔
      isTooLong (pathInto (start absolute) (done ++ [name])) = false ∧
        entry.Within [name] inner := by
  have hNames : ∀ other ∈ done ++ [name], IsName other.toList :=
    List.forall_mem_append.2 ⟨(hHere.proper hSystem).2, by simpa using hName⟩
  have hSome : done ++ [name] ≠ [] := by simp
  rw [pathInto_start hNames hSome, hSystem.at?_written_iff hNames hSome, hHere.within_iff hSystem]

/-- An ordinary part for names leads on to entries with such names only. -/
theorem exists_name_of_steps (hSystem : system.Proper) (hHere : system.Within absolute done entry)
    {glyphs : List Glyph} (hOrdinary : (PatternPart.name glyphs).IsOrdinary) {next : List Char}
    (h : Steps system glyphs (pathInto (start absolute) done) entry next inner) :
    ∃ name, entry.Within [name] inner ∧ Glyph.Matches glyphs name.toList ∧
      next = pathInto (start absolute) (done ++ [name]) := by
  cases h with
  | @plain text _ _ _ _ hThere =>
      obtain ⟨name, rfl⟩ : ∃ name : String, text = name.toList :=
        ⟨String.ofList text, String.toList_ofList.symm⟩
      rw [← pathInto_concat, at?_into_iff hSystem hHere (isName_of_map_one hOrdinary)] at hThere
      exact ⟨name, hThere.2, Glyph.matches_map_one_iff.2 rfl, (pathInto_concat _ _ _).symm⟩
  | special _ _ hDot hName hMatches =>
      have hMem := mem_specialNames.2 ⟨hDot, hName, hMatches⟩
      rw [hOrdinary.2.2] at hMem
      cases hMem
  | @entry _ _ _ name _ _ _ hMem hMatches =>
      exact ⟨name, .into hMem .here, hMatches, (pathInto_concat _ _ _).symm⟩

/-- A part for names leads on to each entry whose name it stands for. -/
theorem steps_of_matches (hSystem : system.Proper) (hHere : system.Within absolute done entry)
    {glyphs : List Glyph} {name : String} (hStep : entry.Within [name] inner)
    (hMatches : Glyph.Matches glyphs name.toList)
    (hNext : isTooLong (pathInto (start absolute) (done ++ [name])) = false) :
    Steps system glyphs (pathInto (start absolute) done) entry
      (pathInto (start absolute) (done ++ [name])) inner := by
  have hNames := ((hHere.trans hStep).proper hSystem).2
  have hName : IsName name.toList := hNames name (by simp)
  have hPath := pathInto_concat (start absolute) done name
  cases hPattern : Glyph.literal? glyphs with
  | some text =>
      obtain rfl := Glyph.literal?_eq_some_iff.1 hPattern
      obtain rfl := Glyph.matches_map_one_iff.1 hMatches
      have hThere := (at?_into_iff hSystem hHere hName).2 ⟨hNext, hStep⟩
      refine steps_map_one_iff.2 ⟨?_, hPath, hThere⟩
      rintro (hCurrent | hParent)
      · exact absurd hCurrent hName.ne_current
      · exact absurd hParent hName.ne_parent
  | none =>
      have hShort := isTooLong_pathInto hNames hNext
      rw [hPath]
      cases hStep with
      | into hMem rest =>
          cases rest with
          | here => exact .entry hPattern hShort hMem hMatches

/-- Ordinary parts lead to no path that is too long. -/
theorem isTooLong_of_leads {parts : List PatternPart} {path goal : List Char} {target : Entry}
    (h : Leads system parts path entry goal target) (hOrdinary : AreOrdinary parts) :
    isTooLong goal = false := by
  induction h with
  | here hShort => exact hShort
  | name _ _ ih => exact ih hOrdinary.tail
  | anyDepth _ _ _ _ _ ih => exact ih hOrdinary.tail.tail
  | again _ ih => exact ih hOrdinary.tail
  | directories => exact absurd hOrdinary AreOrdinary.not_singleton_anyDepth

end Tree

/-- From each place behind a start, parts of a pattern lead to what names lead to that match
them. -/
def LeadsByNames (system : System) (absolute : Bool) (goal : List Char) (target : Entry)
    (parts : List PatternPart) : Prop :=
  ∀ done entry, system.Within absolute done entry →
    (Leads system parts (pathInto (start absolute) done) entry goal target ↔
      ∃ names, entry.Within names target ∧ MatchesAll parts names ∧
        goal = pathInto (start absolute) (done ++ names))

namespace LeadsByNames

variable {system : System} {absolute : Bool} {target : Entry} {goal : List Char}
  {glyphs : List Glyph} {parts : List PatternPart}

/-- No parts lead anywhere else. -/
theorem nil (hGoal : isTooLong goal = false) : LeadsByNames system absolute goal target [] := by
  intro done entry hHere
  constructor
  · intro h
    cases h with
    | here => exact ⟨[], .here, .nil, by rw [List.append_nil]⟩
  · rintro ⟨_, within, ⟨⟩, rfl⟩
    cases within
    rw [List.append_nil] at hGoal ⊢
    exact .here hGoal

/-- Two stars behind two stars stand for nothing more. -/
theorem again (hRest : LeadsByNames system absolute goal target (.anyDepth :: parts)) :
    LeadsByNames system absolute goal target (.anyDepth :: .anyDepth :: parts) := by
  intro done entry hHere
  constructor
  · intro h
    cases h with
    | again rest =>
        obtain ⟨names, within, hAll, hPath⟩ := (hRest done entry hHere).1 rest
        exact ⟨names, within, .anyDepth [] hAll, hPath⟩
  · rintro ⟨_, within, h, rfl⟩
    cases h with
    | anyDepth skipped rest =>
        cases rest with
        | anyDepth more rest =>
            refine .again ((hRest done entry hHere).2 ⟨_, within, ?_, rfl⟩)
            rw [← List.append_assoc]
            exact .anyDepth _ rest

/-- A part for names takes one name, and the parts behind it take the others. -/
theorem name (hSystem : system.Proper) (hGoal : isTooLong goal = false)
    (hOrdinary : (PatternPart.name glyphs).IsOrdinary)
    (hRest : LeadsByNames system absolute goal target parts) :
    LeadsByNames system absolute goal target (.name glyphs :: parts) := by
  intro done entry hHere
  constructor
  · intro h
    cases h with
    | name step rest =>
        obtain ⟨name, hStep, hMatches, rfl⟩ := exists_name_of_steps hSystem hHere hOrdinary step
        have hNext := hHere.trans hStep
        obtain ⟨names, within, hAll, hPath⟩ := (hRest _ _ hNext).1 rest
        refine ⟨name :: names, ?_, .name hMatches hAll, ?_⟩
        · exact hStep.trans within
        · rw [hPath, List.append_assoc, List.singleton_append]
  · rintro ⟨_, within, h, hPath⟩
    cases h with
    | @name _ _ name names hMatches hAll =>
        rw [← List.singleton_append] at within
        rw [List.append_cons] at hPath
        obtain ⟨inner, hStep, hMore⟩ := Entry.exists_of_within_append within
        have hNext := hHere.trans hStep
        have hNames := ((hNext.trans hMore).proper hSystem).2
        have hShort := isTooLong_pathInto hNames (hPath ▸ hGoal)
        refine .name (steps_of_matches hSystem hHere hStep hMatches hShort) ?_
        exact (hRest _ _ hNext).2 ⟨names, hMore, hAll, hPath⟩

/-- Two stars and a part for names skip some names, and the part takes the one behind them. -/
theorem anyDepth (hSystem : system.Proper) (hGoal : isTooLong goal = false)
    (hRest : LeadsByNames system absolute goal target parts) :
    LeadsByNames system absolute goal target (.anyDepth :: .name glyphs :: parts) := by
  intro done entry hHere
  constructor
  · intro h
    cases h with
    | @anyDepth _ _ _ _ _ _ _ names last _ within hLast hMatches rest =>
        obtain ⟨skipped, rfl⟩ := List.getLast?_eq_some_iff.1 hLast
        have hNext := hHere.trans within
        rw [← pathInto_append] at rest
        obtain ⟨more, hMore, hAll, hPath⟩ := (hRest _ _ hNext).1 rest
        refine ⟨skipped ++ last :: more, ?_, .anyDepth skipped (.name hMatches hAll), ?_⟩
        · rw [List.append_cons]
          exact within.trans hMore
        · rw [hPath, List.append_assoc, ← List.append_cons]
  · rintro ⟨_, within, h, hPath⟩
    cases h with
    | anyDepth skipped rest =>
        cases rest with
        | @name _ _ last more hMatches hAll =>
            have hNames := ((hHere.trans within).proper hSystem).2
            have hShort := isTooLong_pathInto hNames (hPath ▸ hGoal)
            rw [List.append_cons] at within hPath
            obtain ⟨inner, hStep, hMore⟩ := Entry.exists_of_within_append within
            have hNext := hHere.trans hStep
            refine .anyDepth hShort hStep List.getLast?_concat hMatches ?_
            rw [← pathInto_append]
            rw [← List.append_assoc] at hPath
            exact (hRest _ _ hNext).2 ⟨more, hMore, hAll, hPath⟩

end LeadsByNames

/-- Ordinary parts lead to what names lead to that match them. -/
theorem leadsByNames {system : System} {absolute : Bool} {target : Entry} {goal : List Char}
    (hSystem : system.Proper) (hGoal : isTooLong goal = false) :
    ∀ {parts : List PatternPart}, AreOrdinary parts →
      LeadsByNames system absolute goal target parts
  | [], _ => .nil hGoal
  | [.anyDepth], h => absurd h AreOrdinary.not_singleton_anyDepth
  | .anyDepth :: .anyDepth :: _, h => .again (leadsByNames hSystem hGoal h.tail)
  | .anyDepth :: .name _ :: _, h => .anyDepth hSystem hGoal (leadsByNames hSystem hGoal h.tail.tail)
  | .name _ :: _, h => .name hSystem hGoal h.head (leadsByNames hSystem hGoal h.tail)

/-- Ordinary parts are matched by one name at least, for two stars do not stand at their end. -/
theorem MatchesAll.ne_nil {parts : List PatternPart} {names : List String}
    (h : MatchesAll parts names) (hParts : parts ≠ []) (hOrdinary : AreOrdinary parts) :
    names ≠ [] := by
  induction h with
  | nil => exact absurd rfl hParts
  | name => exact List.cons_ne_nil _ _
  | anyDepth skipped rest ih =>
      refine List.append_ne_nil_of_right_ne_nil _ (ih ?_ hOrdinary.tail)
      rintro rfl
      exact AreOrdinary.not_singleton_anyDepth hOrdinary

/-- A pattern that is about entries only, be they files or directories. -/
structure IsOrdinary (pattern : Pattern) : Prop where
  of_any_kind : pattern.directoryOnly = false
  parts_ne_nil : pattern.parts ≠ []
  parts_ordinary : AreOrdinary pattern.parts

/-- The paths that an ordinary pattern stands for, with what they lead to: the names in them match
its parts, and lead there from the root on if the pattern begins there, and else from the working
directory on. -/
def StandsFor (pattern : Pattern) (system : System) (path : List Char) (inner : Entry) : Prop :=
  ∃ names, system.Within pattern.absolute names inner ∧ MatchesAll pattern.parts names ∧
    path = written pattern.absolute names

section Ordinary

variable {system : System} {pattern : Pattern} {path : List Char} {inner : Entry}

/-- What an ordinary pattern stands for is there, unless its path is too long. -/
theorem StandsFor.at?_eq (h : pattern.StandsFor system path inner) (hSystem : system.Proper)
    (hPattern : pattern.IsOrdinary) (hShort : isTooLong path = false) :
    system.at? path = some inner := by
  obtain ⟨names, within, hAll, rfl⟩ := h
  have hSome := hAll.ne_nil hPattern.parts_ne_nil hPattern.parts_ordinary
  exact (hSystem.at?_written_iff (within.proper hSystem).2 hSome).2 ⟨hShort, within⟩

/-- An ordinary pattern finds what it stands for. -/
theorem mem_found_iff (hSystem : system.Proper) (hPattern : pattern.IsOrdinary) :
    path ∈ pattern.found system ↔
      isTooLong path = false ∧ ∃ inner, pattern.StandsFor system path inner := by
  obtain ⟨entries, hStart, hHere⟩ := hSystem.exists_start pattern.absolute
  have hLeads (inner : Entry) (hShort : isTooLong path = false) :
      Leads system pattern.parts (start pattern.absolute) (.directory entries) path inner ↔
        pattern.StandsFor system path inner := by
    have hParts : LeadsByNames system pattern.absolute path inner pattern.parts :=
      leadsByNames hSystem hShort hPattern.parts_ordinary
    refine (hParts [] _ hHere).trans (exists_congr fun names => ?_)
    rw [List.nil_append, ← hHere.within_iff hSystem, List.nil_append]
    refine and_congr_right fun within => and_congr_right fun hAll => ?_
    rw [pathInto_start (within.proper hSystem).2
      (hAll.ne_nil hPattern.parts_ne_nil hPattern.parts_ordinary)]
  rw [mem_found]
  constructor
  · rintro ⟨-, _, inner, hThere, leads, -⟩
    have hShort := isTooLong_of_leads leads hPattern.parts_ordinary
    cases hStart.symm.trans hThere
    exact ⟨hShort, inner, (hLeads inner hShort).1 leads⟩
  · rintro ⟨hShort, inner, hStands⟩
    refine ⟨fun hNone => absurd hNone hPattern.parts_ne_nil, _, inner, hStart,
      (hLeads inner hShort).2 hStands, fun hOnly => ?_⟩
    cases hPattern.of_any_kind.symm.trans hOnly

end Ordinary

end Pattern

/-- What is documented of a search. It refuses exactly the texts that spell no pattern. For an
ordinary pattern it finds what the pattern stands for, in each file system whose entries are named by
names. Nothing is said of paths that are too long, and of the order in which paths are found. -/
structure Search.IsDocumented (search : Search) : Prop where
  isSome_iff : ∀ system text,
    (search system text).isSome = true ↔ ∃ pattern, Pattern.Spells pattern text
  mem_iff : ∀ {system : System} {pattern : Pattern} {text : List Char} {found : List (List Char)},
    system.Proper → pattern.IsOrdinary → pattern.Spells text → search system text = some found →
    ∀ path, isTooLong path = false →
      (path ∈ found ↔ ∃ inner, pattern.StandsFor system path inner)

section Documented

variable {search : Search} {system : System} {pattern : Pattern} {text path : List Char}
  {found : List (List Char)}

/-- The files among what is found for an ordinary pattern are those for which it stands. -/
theorem Search.IsDocumented.file_iff (hSearch : search.IsDocumented) (hSystem : system.Proper)
    (hPattern : pattern.IsOrdinary) (spelled : pattern.Spells text)
    (hFound : search system text = some found) :
    path ∈ found ∧ system.isFileAt path = true ↔
      isTooLong path = false ∧ ∃ bytes, pattern.StandsFor system path (.file bytes) := by
  constructor
  · rintro ⟨hMem, hFile⟩
    obtain ⟨bytes, hThere⟩ := System.isFileAt_iff.1 hFile
    have hShort := System.isTooLong_of_at? hThere
    obtain ⟨inner, hStands⟩ :=
      (hSearch.mem_iff hSystem hPattern spelled hFound path hShort).1 hMem
    cases hThere.symm.trans (hStands.at?_eq hSystem hPattern hShort)
    exact ⟨hShort, bytes, hStands⟩
  · rintro ⟨hShort, bytes, hStands⟩
    have hMem := (hSearch.mem_iff hSystem hPattern spelled hFound path hShort).2 ⟨_, hStands⟩
    exact ⟨hMem, System.isFileAt_iff.2 ⟨bytes, hStands.at?_eq hSystem hPattern hShort⟩⟩

end Documented

/-- The search for what the text of a pattern stands for is as it is documented. -/
theorem Pattern.isDocumented_search : Pattern.search.IsDocumented where
  isSome_iff system text := by
    rw [Pattern.search, Option.isSome_map, Option.isSome_iff_exists]
    exact exists_congr fun pattern => Pattern.read?_eq_some_iff
  mem_iff hSystem hPattern hText hFound path hShort := by
    rw [Pattern.search, Pattern.read?_eq_some_iff.2 hText] at hFound
    cases hFound
    rw [Pattern.mem_found_iff hSystem hPattern, and_iff_right hShort]

end Csdl.Files
