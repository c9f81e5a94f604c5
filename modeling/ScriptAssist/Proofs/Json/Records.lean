import ScriptAssist.Json.Record
import ScriptAssist.Proofs.Outcomes

/-!
# Records from values

A record is converted from an object in two passes: every member is checked, and then the fields
are gathered. From an array the fields are gathered one by one, and none may be left over. Each pass
has its lemma, so that a record can be read field by field.
-/

namespace ScriptAssist.Json

section

variable {α β τ : Type} {r : Record τ α} {name : String} {content : Decoder α} {absent? : Option α}
  {layout : Layout β} {members : List (String × Value)} {a : α} {b : β}

/-! ## Objects -/

/-- An object whose members all pass is read as the record of the fields among them. -/
theorem convert_object_eq_ok_iff :
    r.convert (.object members) = .ok a ↔
      (∀ entry ∈ members, r.layout.checkMember entry.1 entry.2 = .ok ()) ∧
        ∃ t, r.layout.gather members = .ok t ∧ r.build t = a := by
  rw [Record.convert, bind_eq_ok_iff]
  constructor
  · rintro ⟨_, hcheck, hbuild⟩
    obtain ⟨t, hgather, hbuild⟩ := bind_eq_ok_iff.1 hbuild
    exact ⟨forM_eq_ok_iff.1 hcheck, t, hgather, Except.ok.inj hbuild⟩
  · rintro ⟨hcheck, t, hgather, rfl⟩
    exact ⟨(), forM_eq_ok_iff.2 hcheck, bind_eq_ok_iff.2 ⟨t, hgather, rfl⟩⟩

/-- Fields are gathered one after another. -/
theorem gather_field_eq_ok_iff :
    (Layout.field name content absent? layout).gather members = .ok (a, b) ↔
      (match members.lookup name with
        | some v => content.convert v
        | none => Layout.absent name absent?) = .ok a ∧ layout.gather members = .ok b := by
  rw [Layout.gather]
  cases members.lookup name <;> exact pair_eq_ok_iff

/-! ## Arrays -/

theorem convert_array_eq_ok_iff {items : List Value} :
    r.convert (.array items) = .ok a ↔
      ∃ t, r.layout.gatherItems r.lenient r.short 0 items = .ok (t, []) ∧ r.build t = a := by
  rw [Record.convert, bind_eq_ok_iff]
  constructor
  · rintro ⟨⟨t, left⟩, hgather, hbuild⟩
    cases left with
    | nil => exact ⟨t, hgather, Except.ok.inj hbuild⟩
    | cons => cases hbuild
  · rintro ⟨t, hgather, rfl⟩
    exact ⟨(t, []), hgather, rfl⟩

theorem gatherItems_done_eq_ok_iff {lenient : Bool} {short : Nat → Mismatch} {count : Nat}
    {items left : List Value} :
    Layout.done.gatherItems lenient short count items = .ok ((), left) ↔ items = left := by
  simp [Layout.gatherItems]

/-- Unless items may be missing, there has to be one for a field. -/
theorem gatherItems_field_eq_ok_iff {short : Nat → Mismatch} {count : Nat}
    {items left : List Value} :
    (Layout.field name content absent? layout).gatherItems false short count items =
        .ok ((a, b), left) ↔
      ∃ v tail, items = v :: tail ∧ content.convert v = .ok a ∧
        layout.gatherItems false short (count + 1) tail = .ok (b, left) := by
  cases items with
  | nil =>
    rw [Layout.gatherItems]
    exact ⟨fun h => (nomatch h), fun ⟨_, _, h, _⟩ => (nomatch h)⟩
  | cons v tail =>
    rw [Layout.gatherItems]
    constructor
    · intro h
      obtain ⟨a', hfirst, h⟩ := bind_eq_ok_iff.1 h
      obtain ⟨⟨b', left'⟩, hrest, htriple⟩ := bind_eq_ok_iff.1 h
      cases htriple
      exact ⟨v, tail, rfl, hfirst, hrest⟩
    · rintro ⟨v', tail', heq, hfirst, hrest⟩
      cases heq
      exact bind_eq_ok_iff.2 ⟨a, hfirst, bind_eq_ok_iff.2 ⟨(b, left), hrest, rfl⟩⟩

end

end ScriptAssist.Json
