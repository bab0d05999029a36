import Csdl.Proofs.Metadata.Content

/-! The registry once all structures have their content. No two declarations have one place, so each
declared structure has exactly the content that was read for it, and all else is as it was. -/
namespace Csdl

open Query (bind_eq_ok)

/-- A type with its structure changed, if it is one. -/
def NamedType.mapStructure (change : Structure → Structure) : NamedType → NamedType
  | .enumeration value => .enumeration value
  | .structured value => .structured (change value)

/-- A structure that is changed at a place is the changed structure there. -/
theorem Registry.structure?_of_get?_map {r r' : Registry} {id id' : TypeId}
    {change : Structure → Structure}
    (h : r'.get? id' = (r.get? id).map (NamedType.mapStructure change)) :
    r'.structure? id' = (r.structure? id).map change := by
  rw [structure?, structure?, h]
  cases r.get? id with
  | none => rfl
  | some type => cases type <;> rfl

namespace Content

/-- A structure with the content that has been read for it. -/
def complete (content : Content) (s : Structure) : Structure :=
  { s with base := content.base, fields := content.fields }

/-- All declared structures have their content, and nothing else has changed. -/
structure Fills (stubs : Registry) (contents : List Content) (filled : Registry) : Prop where
  outline_eq : filled.outline = stubs.outline
  here : ∀ content ∈ contents, ∃ s, stubs.structure? content.declaration.id = some s ∧
    filled.structure? content.declaration.id = some (content.complete s)
  elsewhere : ∀ id, (∀ content ∈ contents, content.declaration.id ≠ id) →
    filled.get? id = stubs.get? id

theorem outline_of_fill {r r' : Registry} {content : Content} (h : fill r content = .ok r') :
    r'.outline = r.outline :=
  Registry.outline_of_edit h fun _ => rfl

/-- Filling places that differ fills each of them, and no other. -/
theorem fills_of_foldlM {contents : List Content} {stubs filled : Registry}
    (hNodup : (contents.map (·.declaration.id)).Nodup)
    (h : contents.foldlM fill stubs = .ok filled) : Fills stubs contents filled := by
  induction contents generalizing stubs with
  | nil =>
      cases h
      exact ⟨rfl, by simp, fun _ _ => rfl⟩
  | cons content contents ih =>
      rw [List.foldlM_cons] at h
      obtain ⟨middle, hHead, hTail⟩ := bind_eq_ok.1 h
      rw [List.map_cons, List.nodup_cons] at hNodup
      have hRest := ih hNodup.2 hTail
      obtain ⟨s, hStub, hGet⟩ := Registry.get?_of_edit hHead
      have hOther : ∀ c ∈ contents, c.declaration.id ≠ content.declaration.id := fun c hc hEq =>
        hNodup.1 (hEq ▸ List.mem_map_of_mem hc)
      refine ⟨hRest.outline_eq.trans (outline_of_fill hHead), ?_, ?_⟩
      · intro c hc
        rcases List.mem_cons.1 hc with rfl | hc
        · refine ⟨s, hStub, Registry.structure?_eq_some.2 ?_⟩
          rw [hRest.elsewhere _ hOther, hGet, if_pos rfl]
          rfl
        · obtain ⟨t, hMiddle, hFilled⟩ := hRest.here c hc
          rw [Registry.structure?_eq_some, hGet, if_neg (hOther c hc)] at hMiddle
          exact ⟨t, Registry.structure?_eq_some.2 hMiddle, hFilled⟩
      · intro id hId
        rw [hRest.elsewhere id fun c hc => hId c (List.mem_cons_of_mem _ hc), hGet,
          if_neg fun hEq => hId content List.mem_cons_self hEq.symm]

/-- Structures at all places suffice for filling them. -/
theorem exists_foldlM_fill {contents : List Content} {stubs : Registry}
    (h : ∀ content ∈ contents, (stubs.structure? content.declaration.id).isSome) :
    ∃ filled, contents.foldlM fill stubs = .ok filled := by
  induction contents generalizing stubs with
  | nil => exact ⟨stubs, rfl⟩
  | cons content contents ih =>
      obtain ⟨s, hStub⟩ := Option.isSome_iff_exists.1 (h content List.mem_cons_self)
      obtain ⟨middle, hHead⟩ := Registry.exists_edit_of_structure? hStub content.complete
      have hRest : ∀ c ∈ contents, (middle.structure? c.declaration.id).isSome := fun c hc =>
        Registry.isSome_structure?_of_outline_eq (outline_of_fill hHead)
          (h c (List.mem_cons_of_mem _ hc))
      obtain ⟨filled, hTail⟩ := ih hRest
      exact ⟨filled, by rw [List.foldlM_cons]; exact bind_eq_ok.2 ⟨middle, hHead, hTail⟩⟩

/-- Filling is followed by the point record, if it is used. -/
theorem fillAll_eq_ok {stubs result : Registry} {contents : List Content} :
    fillAll stubs contents = .ok result ↔
      ∃ filled, contents.foldlM fill stubs = .ok filled ∧
        result = if contents.any (·.uses stubs.pointId) then filled.withPoint else filled := by
  rw [fillAll, bind_eq_ok]
  constructor
  · rintro ⟨filled, hFilled, hEq⟩
    exact ⟨filled, hFilled, (Except.ok.inj hEq).symm⟩
  · rintro ⟨filled, hFilled, rfl⟩
    exact ⟨filled, hFilled, rfl⟩

/-- Filling moves no type. -/
theorem keeps_fillAll {stubs completed : Registry} {contents : List Content}
    (h : fillAll stubs contents = .ok completed) : stubs.Keeps completed := by
  obtain ⟨filled, hFilled, rfl⟩ := fillAll_eq_ok.1 h
  have hKeeps : stubs.Keeps filled := foldlM_preserves (P := stubs.Keeps)
    (fun _ _ _ _ hSame hStep => hSame.trans (.of_outline_eq (outline_of_fill hStep)))
    (.refl stubs) hFilled
  split
  · exact hKeeps.trans (Registry.keeps_withPoint filled)
  · exact hKeeps

end Content

end Csdl
