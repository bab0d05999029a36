import Csdl.Proofs.Metadata.Fields

/-! How navigations are recorded while structures are read one after the other. A navigation marks
the local properties of its constraints as foreign keys; if it has marked none, its link is put off
under the index that it is about to get. So each navigation has a link or a mark, and never both. -/
namespace Csdl

/-- A property that has been made a foreign key, with the index of the navigation that did it. -/
structure Marking where
  navigation : Nat
  owner : TypeId
  property : String
  key : ForeignKey
  deriving DecidableEq, Repr

/-- What is written while structures are read: the fields of the one at hand, all navigations, the
links that are put off, and the properties that have been marked. `referenced` tells whether the
navigation at hand has marked one. -/
structure Agenda where
  fields : List Field := []
  referenced : Bool := false
  navigations : List Navigation := []
  deferred : List Link := []
  markings : List Marking := []
  deriving DecidableEq, Repr

namespace Agenda

/-- Makes the first field of a name a foreign key, if there is one. -/
def mark (owner : TypeId) (agenda : Agenda) (mark : String × ForeignKey) : Agenda :=
  if Field.isNamed agenda.fields mark.1 then
    { agenda with
      fields := Field.modifyFirst mark.1 (fun field => { field with foreignKey := some mark.2 })
        agenda.fields
      referenced := true
      markings := agenda.markings ++ [⟨agenda.navigations.length, owner, mark.1, mark.2⟩] }
  else agenda

/-- Adds a navigation, and puts its link off unless it has marked a field. -/
def record (owner : TypeId) (agenda : Agenda) (navigation : Navigation) : Agenda :=
  { agenda with
    deferred :=
      if agenda.referenced then agenda.deferred
      else agenda.deferred ++ [⟨owner, agenda.navigations.length⟩]
    navigations := agenda.navigations ++ [navigation] }

/-- Works off a relation of a structure. -/
def visit (owner : TypeId) (agenda : Agenda) (relation : Relation) : Agenda :=
  (relation.marks.foldl (mark owner) { agenda with referenced := false }).record owner
    relation.navigation

/-- Works off all relations of a structure, with its fields at hand. -/
def fill (agenda : Agenda) (content : Content) : Agenda :=
  content.relations.foldl (visit content.declaration.id)
    { agenda with fields := content.fields.map Field.unmarked }

/-- Works off some structures. -/
def run (contents : List Content) : Agenda :=
  contents.foldl fill {}

/-- A navigation by its index and its owner, whose link has been put off once, or that has marked
fields of its owner. -/
inductive Settled (agenda : Agenda) (i : Nat) (owner : TypeId) : Prop
  | deferred (once : agenda.deferred.filter (·.navigation = i) = [⟨owner, i⟩])
      (unmarked : ∀ marking ∈ agenda.markings, marking.navigation ≠ i)
  | marked (found : ∃ marking ∈ agenda.markings, marking.navigation = i)
      (owned : ∀ marking ∈ agenda.markings, marking.navigation = i → marking.owner = owner)
      (undeferred : ∀ link ∈ agenda.deferred, link.navigation ≠ i)

/-- All links and marks belong to navigations that are there, and all of these are settled. -/
structure Sound (agenda : Agenda) : Prop where
  deferred_lt : ∀ link ∈ agenda.deferred, link.navigation < agenda.navigations.length
  marked_lt : ∀ marking ∈ agenda.markings, marking.navigation < agenda.navigations.length
  settled : ∀ i n, agenda.navigations[i]? = some n → agenda.Settled i n.owner

/-- What has been done for one navigation before it is recorded. -/
structure Marks (owner : TypeId) (start agenda : Agenda) (marked : List Marking) : Prop where
  navigations_eq : agenda.navigations = start.navigations
  deferred_eq : agenda.deferred = start.deferred
  markings_eq : agenda.markings = start.markings ++ marked
  marked_eq : ∀ marking ∈ marked,
    marking.navigation = start.navigations.length ∧ marking.owner = owner
  referenced_iff : agenda.referenced = true ↔ marked ≠ []

variable {owner : TypeId} {start agenda : Agenda} {marked : List Marking}

/-- One more field that is marked belongs to the navigation that is about to be recorded. -/
theorem Marks.mark (h : Marks owner start agenda marked) (mark : String × ForeignKey) :
    ∃ marked, Marks owner start (agenda.mark owner mark) marked := by
  unfold Agenda.mark
  split
  · refine ⟨marked ++ [⟨agenda.navigations.length, owner, mark.1, mark.2⟩], h.navigations_eq,
      h.deferred_eq, ?_, ?_, by simp⟩
    · rw [h.markings_eq, List.append_assoc]
    · intro marking hMem
      rcases List.mem_append.1 hMem with hOld | hNew
      · exact h.marked_eq marking hOld
      · rw [List.mem_singleton.1 hNew]
        exact ⟨congrArg List.length h.navigations_eq, rfl⟩
  · exact ⟨marked, h⟩

theorem Marks.foldl (h : Marks owner start agenda marked) (marks : List (String × ForeignKey)) :
    ∃ marked, Marks owner start (marks.foldl (Agenda.mark owner) agenda) marked := by
  induction marks generalizing agenda marked with
  | nil => exact ⟨marked, h⟩
  | cons mark marks ih =>
      obtain ⟨_, hMark⟩ := h.mark mark
      exact ih hMark

/-- Of a link and a mark a settled navigation has exactly one. -/
theorem Settled.marked_iff {i : Nat} {own : TypeId} (h : agenda.Settled i own) :
    (∃ marking ∈ agenda.markings, marking.navigation = i) ↔ (⟨own, i⟩ : Link) ∉ agenda.deferred := by
  cases h with
  | deferred once unmarked =>
      have hLink : (⟨own, i⟩ : Link) ∈ agenda.deferred :=
        (List.mem_filter.1 (once ▸ List.mem_singleton_self _)).1
      simp only [hLink, not_true_eq_false, iff_false]
      rintro ⟨marking, hMem, hIndex⟩
      exact unmarked marking hMem hIndex
  | marked found owned undeferred =>
      simp only [found, true_iff]
      exact fun hLink => undeferred _ hLink rfl

/-- What is added for a later navigation does not concern an earlier one. -/
theorem Settled.later {i : Nat} {own : TypeId} {later : Agenda} (h : start.Settled i own)
    {links : List Link} (hDeferred : later.deferred = start.deferred ++ links)
    (hMarkings : later.markings = start.markings ++ marked)
    (hLinks : ∀ link ∈ links, link.navigation ≠ i)
    (hMarked : ∀ marking ∈ marked, marking.navigation ≠ i) : later.Settled i own := by
  cases h with
  | deferred once unmarked =>
      have hNone : links.filter (·.navigation = i) = [] := by simpa using hLinks
      refine .deferred ?_ fun marking hMem => ?_
      · rw [hDeferred, List.filter_append, hNone, List.append_nil, once]
      · rw [hMarkings, List.mem_append] at hMem
        exact hMem.elim (unmarked marking) (hMarked marking)
  | marked found owned undeferred =>
      obtain ⟨marking, hMarking, hIndex⟩ := found
      refine .marked ⟨marking, ?_, hIndex⟩ (fun other hMem hOther => ?_) fun link hMem => ?_
      · rw [hMarkings]
        exact List.mem_append_left _ hMarking
      · rw [hMarkings, List.mem_append] at hMem
        exact hMem.elim (fun hOld => owned other hOld hOther) fun hNew =>
          absurd hOther (hMarked other hNew)
      · rw [hDeferred, List.mem_append] at hMem
        exact hMem.elim (undeferred link) (hLinks link)

theorem deferred_record (agenda : Agenda) (owner : TypeId) (n : Navigation) :
    (agenda.record owner n).deferred = agenda.deferred ++
      if agenda.referenced then [] else [⟨owner, agenda.navigations.length⟩] := by
  unfold record
  cases agenda.referenced <;> simp

theorem Marks.navigations_record (h : Marks owner start agenda marked) (n : Navigation) :
    (agenda.record owner n).navigations = start.navigations ++ [n] :=
  congrArg (· ++ [n]) h.navigations_eq

theorem Marks.deferred_record (h : Marks owner start agenda marked) (n : Navigation) :
    (agenda.record owner n).deferred = start.deferred ++
      if agenda.referenced then [] else [⟨owner, start.navigations.length⟩] := by
  rw [Agenda.deferred_record, h.deferred_eq, h.navigations_eq]

theorem Marks.markings_record (h : Marks owner start agenda marked) (n : Navigation) :
    (agenda.record owner n).markings = start.markings ++ marked :=
  h.markings_eq

/-- The navigation at hand is settled when it is recorded. -/
theorem Sound.settled_record (h : start.Sound) (hMarks : Marks owner start agenda marked)
    (n : Navigation) : (agenda.record owner n).Settled start.navigations.length owner := by
  have hOldLink : ∀ link ∈ start.deferred, link.navigation ≠ start.navigations.length :=
    fun link hMem => Nat.ne_of_lt (h.deferred_lt link hMem)
  have hOldMark : ∀ marking ∈ start.markings, marking.navigation ≠ start.navigations.length :=
    fun marking hMem => Nat.ne_of_lt (h.marked_lt marking hMem)
  have hMarkings := hMarks.markings_record n
  have hDeferred := hMarks.deferred_record n
  cases hReferenced : agenda.referenced with
  | true =>
      obtain ⟨first, hFirst⟩ := List.exists_mem_of_ne_nil _ (hMarks.referenced_iff.1 hReferenced)
      rw [hReferenced, if_pos rfl, List.append_nil] at hDeferred
      refine .marked ⟨first, ?_, (hMarks.marked_eq first hFirst).1⟩ (fun marking hMem hIndex => ?_)
        (hDeferred ▸ hOldLink)
      · rw [hMarkings]
        exact List.mem_append_right _ hFirst
      · rw [hMarkings, List.mem_append] at hMem
        exact hMem.elim (fun hOld => absurd hIndex (hOldMark marking hOld)) fun hNew =>
          (hMarks.marked_eq marking hNew).2
  | false =>
      have hNone : marked = [] := by
        by_contra hSome
        rw [hMarks.referenced_iff.2 hSome] at hReferenced
        cases hReferenced
      have hBefore : start.deferred.filter (·.navigation = start.navigations.length) = [] := by
        simpa using hOldLink
      refine .deferred ?_ ?_
      · rw [hDeferred, hReferenced, List.filter_append, hBefore]
        simp
      · rw [hMarkings, hNone, List.append_nil]
        exact hOldMark

/-- Recording a navigation leaves those before it settled. -/
theorem Sound.record (h : start.Sound) (hMarks : Marks owner start agenda marked)
    {n : Navigation} (hOwner : n.owner = owner) : (agenda.record owner n).Sound := by
  have hLength := hMarks.navigations_record n
  have hMarkings := hMarks.markings_record n
  have hDeferred := hMarks.deferred_record n
  have hNewLink : ∀ link ∈ (if agenda.referenced then [] else
      [(⟨owner, start.navigations.length⟩ : Link)]),
      link.navigation = start.navigations.length := by
    intro link hMem
    split at hMem
    · cases hMem
    · rw [List.mem_singleton.1 hMem]
  constructor
  · intro link hMem
    rw [hDeferred, List.mem_append] at hMem
    rw [hLength, List.length_append]
    rcases hMem with hOld | hNew
    · exact Nat.lt_succ_of_lt (h.deferred_lt link hOld)
    · exact Nat.lt_succ_of_le (hNewLink link hNew).le
  · intro marking hMem
    rw [hMarkings, List.mem_append] at hMem
    rw [hLength, List.length_append]
    rcases hMem with hOld | hNew
    · exact Nat.lt_succ_of_lt (h.marked_lt marking hOld)
    · exact Nat.lt_succ_of_le (hMarks.marked_eq marking hNew).1.le
  -- an earlier navigation stays settled, and the new one is settled by its link or its marks
  · intro i m hMember
    rw [hLength, List.getElem?_append] at hMember
    split at hMember
    · next hBefore =>
        refine (h.settled i m hMember).later hDeferred hMarkings (fun link hNew => ?_)
          fun marking hNew => ?_
        · exact (hNewLink link hNew).trans_ne (Nat.ne_of_gt hBefore)
        · exact (hMarks.marked_eq marking hNew).1.trans_ne (Nat.ne_of_gt hBefore)
    · next hBehind =>
        obtain ⟨hIndex, rfl⟩ : i = start.navigations.length ∧ m = n := by
          rw [List.getElem?_singleton] at hMember
          split at hMember
          · next hZero => exact ⟨by omega, (Option.some.inj hMember).symm⟩
          · cases hMember
        rw [hIndex, hOwner]
        exact h.settled_record hMarks m

theorem marks_foldl_mark (agenda : Agenda) (owner : TypeId) (marks : List (String × ForeignKey)) :
    ∃ marked, Marks owner agenda
      (marks.foldl (mark owner) { agenda with referenced := false }) marked := by
  have hStart : Marks owner agenda { agenda with referenced := false } [] :=
    ⟨rfl, rfl, by simp, by simp, by simp⟩
  exact hStart.foldl marks

theorem Sound.visit (h : agenda.Sound) {relation : Relation}
    (hOwner : relation.navigation.owner = owner) : (agenda.visit owner relation).Sound := by
  obtain ⟨_, hMarks⟩ := agenda.marks_foldl_mark owner relation.marks
  exact h.record hMarks hOwner

/-- An agenda stays sound while the relations of a structure are worked off. -/
theorem Sound.foldl_visit (h : agenda.Sound) {relations : List Relation}
    (hOwners : ∀ relation ∈ relations, relation.navigation.owner = owner) :
    (relations.foldl (Agenda.visit owner) agenda).Sound := by
  induction relations generalizing agenda with
  | nil => exact h
  | cons relation relations ih =>
      rw [List.forall_mem_cons] at hOwners
      exact ih (h.visit hOwners.1) hOwners.2

/-- An agenda stays sound while a structure is worked off. Its fields are taken in before its
relations, and of links and marks they change nothing. -/
theorem Sound.fill (h : agenda.Sound) {content : Content}
    (hOwners : ∀ relation ∈ content.relations,
      relation.navigation.owner = content.declaration.id) : (agenda.fill content).Sound := by
  have hEntered :
      ({ agenda with fields := content.fields.map Field.unmarked } : Agenda).Sound := by
    refine ⟨h.deferred_lt, h.marked_lt, fun i n hMember => ?_⟩
    exact (h.settled i n hMember).later (List.append_nil _).symm (List.append_nil _).symm
      (by simp) (by simp)
  exact hEntered.foldl_visit hOwners

/-- An agenda stays sound over any number of structures. -/
theorem Sound.foldl_fill (h : agenda.Sound) {contents : List Content}
    (hOwners : ∀ content ∈ contents, ∀ relation ∈ content.relations,
      relation.navigation.owner = content.declaration.id) :
    (contents.foldl Agenda.fill agenda).Sound := by
  induction contents generalizing agenda with
  | nil => exact h
  | cons content contents ih =>
      rw [List.forall_mem_cons] at hOwners
      exact ih (h.fill hOwners.1) hOwners.2

/-- All navigations of some structures are settled. -/
theorem sound_run {contents : List Content} (hOwners : ∀ content ∈ contents,
    ∀ relation ∈ content.relations, relation.navigation.owner = content.declaration.id) :
    (run contents).Sound :=
  Sound.foldl_fill ⟨by simp, by simp, by simp⟩ hOwners

end Agenda

namespace Content

/-- The links of some navigations, with a note which of them make foreign keys. -/
def linksOf (noted : List (Bool × Navigation)) : List Link :=
  noted.zipIdx.filterMap fun ((referenced, navigation), index) =>
    if referenced then none else some ⟨navigation.owner, index⟩

theorem links_eq (contents : List Content) :
    links contents = linksOf (notedNavigations contents) := rfl

theorem linksOf_append_singleton (noted : List (Bool × Navigation)) (referenced : Bool)
    (n : Navigation) : linksOf (noted ++ [(referenced, n)]) =
      linksOf noted ++ if referenced then [] else [⟨n.owner, noted.length⟩] := by
  unfold linksOf
  rw [List.zipIdx_append, List.filterMap_append]
  cases referenced <;> simp

/-- There is a link for each navigation that makes no foreign key, and for no other. -/
theorem mem_linksOf {noted : List (Bool × Navigation)} {link : Link} :
    link ∈ linksOf noted ↔
      ∃ n, noted[link.navigation]? = some (false, n) ∧ n.owner = link.owner := by
  unfold linksOf
  rw [List.mem_filterMap]
  constructor
  · rintro ⟨⟨⟨referenced, n⟩, i⟩, hMem, hLink⟩
    rw [List.mk_mem_zipIdx_iff_getElem?] at hMem
    cases referenced with
    | true => cases hLink
    | false =>
        obtain rfl := Option.some.inj hLink
        exact ⟨n, hMem, rfl⟩
  · rintro ⟨n, hMember, hOwner⟩
    refine ⟨((false, n), link.navigation), List.mk_mem_zipIdx_iff_getElem?.2 hMember, ?_⟩
    dsimp only
    rw [hOwner]
    rfl

end Content

namespace Agenda

variable {owner : TypeId} {agenda : Agenda}

theorem fields_mark (agenda : Agenda) (mark : String × ForeignKey) :
    (agenda.mark owner mark).fields = Field.modifyFirst mark.1
      (fun field => { field with foreignKey := some mark.2 }) agenda.fields := by
  unfold Agenda.mark
  cases hNamed : Field.isNamed agenda.fields mark.1 with
  | true => rfl
  | false => exact (Field.modifyFirst_of_not_named hNamed).symm

theorem referenced_mark (agenda : Agenda) (mark : String × ForeignKey) :
    (agenda.mark owner mark).referenced =
      (agenda.referenced || Field.isNamed agenda.fields mark.1) := by
  unfold Agenda.mark
  cases Field.isNamed agenda.fields mark.1 <;> simp

/-- The fields are marked as they are when a structure is read by itself. -/
theorem fields_foldl_mark (agenda : Agenda) (relation : Relation) :
    (relation.marks.foldl (mark owner) agenda).fields =
      Content.markForeignKeys agenda.fields relation := by
  unfold Content.markForeignKeys
  induction relation.marks generalizing agenda with
  | nil => rfl
  | cons mark marks ih => rw [List.foldl_cons, List.foldl_cons, ih, fields_mark]

/-- Whether a navigation has marked a field is told by the constraints: one of them has to name a
field of the structure at hand. -/
theorem referenced_foldl_mark (agenda : Agenda) (marks : List (String × ForeignKey)) :
    (marks.foldl (mark owner) agenda).referenced =
      (agenda.referenced || marks.any fun mark => Field.isNamed agenda.fields mark.1) := by
  induction marks generalizing agenda with
  | nil => simp
  | cons mark marks ih =>
      have hNames : (agenda.mark owner mark).fields.map (·.name) = agenda.fields.map (·.name) := by
        rw [fields_mark]
        apply Content.map_modifyFirst
        intro field
        rfl
      simp only [List.foldl_cons, ih, referenced_mark, Field.isNamed_congr hNames, List.any_cons,
        Bool.or_assoc]

/-- The navigations that have been recorded, and the links that are to be made for them. -/
structure Follows (agenda : Agenda) (noted : List (Bool × Navigation)) : Prop where
  navigations_eq : agenda.navigations = noted.map (·.2)
  deferred_eq : agenda.deferred = Content.linksOf noted

/-- A navigation gets a link exactly if it has marked no field of those at hand. -/
theorem Follows.visit {noted : List (Bool × Navigation)} (h : agenda.Follows noted)
    {relation : Relation} (hOwner : relation.navigation.owner = owner) :
    (agenda.visit owner relation).Follows (noted ++
      [(relation.marks.any fun mark => Field.isNamed agenda.fields mark.1,
        relation.navigation)]) := by
  obtain ⟨_, hMarks⟩ := agenda.marks_foldl_mark owner relation.marks
  constructor
  · rw [List.map_append, ← h.navigations_eq]
    exact hMarks.navigations_record relation.navigation
  · rw [Agenda.visit, hMarks.deferred_record, h.deferred_eq, h.navigations_eq, List.length_map,
      referenced_foldl_mark, Content.linksOf_append_singleton, hOwner, Bool.false_or]

theorem fields_visit (agenda : Agenda) (relation : Relation) :
    (agenda.visit owner relation).fields = Content.markForeignKeys agenda.fields relation :=
  fields_foldl_mark _ relation

/-- While the relations of a structure are worked off, its fields keep their names. -/
theorem Follows.foldl_visit {noted : List (Bool × Navigation)} (h : agenda.Follows noted)
    {content : Content} {relations : List Relation}
    (hNames : agenda.fields.map (·.name) = content.fields.map (·.name))
    (hOwners : ∀ relation ∈ relations, relation.navigation.owner = owner) :
    (relations.foldl (Agenda.visit owner) agenda).Follows (noted ++
      relations.map fun relation => (content.isReferenced relation, relation.navigation)) := by
  induction relations generalizing agenda noted with
  | nil => simpa using h
  | cons relation relations ih =>
      rw [List.forall_mem_cons] at hOwners
      have hNext := h.visit hOwners.1
      have hReferenced : (relation.marks.any fun mark => Field.isNamed agenda.fields mark.1) =
          content.isReferenced relation := by
        simp only [Field.isNamed_congr hNames]
        rfl
      rw [hReferenced] at hNext
      have hLater : (agenda.visit owner relation).fields.map (·.name) =
          content.fields.map (·.name) := by
        rw [fields_visit, ← hNames]
        exact Content.map_markForeignKeys (fun _ _ => rfl) _ _
      have hRest := ih hNext hLater hOwners.2
      rwa [List.append_assoc] at hRest

theorem fields_foldl_visit (agenda : Agenda) (relations : List Relation) :
    (relations.foldl (visit owner) agenda).fields =
      relations.foldl Content.markForeignKeys agenda.fields := by
  induction relations generalizing agenda with
  | nil => rfl
  | cons relation relations ih => rw [List.foldl_cons, List.foldl_cons, ih, fields_visit]

theorem fields_fill (agenda : Agenda) (content : Content) : (agenda.fill content).fields =
    content.relations.foldl Content.markForeignKeys (content.fields.map Field.unmarked) :=
  fields_foldl_visit _ _

/-- An agenda that follows what has been noted so far follows what is noted for one more
structure. -/
theorem Follows.fill {noted : List (Bool × Navigation)} (h : agenda.Follows noted)
    {content : Content} (hOwners : ∀ relation ∈ content.relations,
      relation.navigation.owner = content.declaration.id) :
    (agenda.fill content).Follows (noted ++ Content.notedNavigations [content]) := by
  have hEntered : ({ agenda with fields := content.fields.map Field.unmarked } : Agenda).Follows
      noted := ⟨h.navigations_eq, h.deferred_eq⟩
  have hNames : (content.fields.map Field.unmarked).map (·.name) =
      content.fields.map (·.name) := by simp [Field.unmarked]
  have hFilled := hEntered.foldl_visit hNames hOwners
  unfold Agenda.fill
  simpa [Content.notedNavigations] using hFilled

/-- An agenda follows what is noted for any number of structures. -/
theorem Follows.foldl_fill {noted : List (Bool × Navigation)} (h : agenda.Follows noted)
    {contents : List Content} (hOwners : ∀ content ∈ contents,
      ∀ relation ∈ content.relations, relation.navigation.owner = content.declaration.id) :
    (contents.foldl Agenda.fill agenda).Follows (noted ++ Content.notedNavigations contents) := by
  induction contents generalizing agenda noted with
  | nil => simpa [Content.notedNavigations] using h
  | cons content contents ih =>
      rw [List.forall_mem_cons] at hOwners
      have hRest := ih (h.fill hOwners.1) hOwners.2
      simpa [Content.notedNavigations] using hRest

/-- All navigations are recorded in their order, and exactly the links that are made have been put
off. -/
theorem follows_run {contents : List Content} (hOwners : ∀ content ∈ contents,
    ∀ relation ∈ content.relations, relation.navigation.owner = content.declaration.id) :
    (run contents).navigations = Content.navigations contents ∧
      (run contents).deferred = Content.links contents := by
  have hStart : ({} : Agenda).Follows [] := ⟨rfl, rfl⟩
  obtain ⟨hNavigations, hDeferred⟩ := hStart.foldl_fill hOwners
  exact ⟨hNavigations, hDeferred⟩

end Agenda

end Csdl
