import ScriptAssist.Proofs.Json.Keys
import ScriptAssist.Proofs.Json.RoundTrip

/-!
# Sorting members

Sorting puts the members of all objects in order (`ordered_sorted`). If no two of them have the same
key, none is lost: they are the same members in another order (`insertAll_perm`), each with its
value sorted.
-/

namespace ScriptAssist.Json.Value

/-! ## What is sorted is in order -/

mutual

theorem ordered_sorted : (v : Value) → v.sorted.Ordered
  | .null => .null
  | .bool b => .bool b
  | .number n => .number n
  | .text s => .text s
  | .array items => .array (ordered_of_mem_sortedItems items)
  | .object members => ordered_insertAll members (.object .nil (List.forall_mem_nil _))

theorem ordered_of_mem_sortedItems : (items : List Value) → ∀ v ∈ sortedItems items, v.Ordered
  | [] => List.forall_mem_nil _
  | v :: rest => List.forall_mem_cons.2 ⟨ordered_sorted v, ordered_of_mem_sortedItems rest⟩

theorem ordered_insertAll {before : List (String × Value)} : (members : List (String × Value)) →
    (Value.object before).Ordered → (Value.object (insertAll before members)).Ordered
  | [], h => h
  | (key, v) :: rest, h => ordered_insertAll rest (h.insert key (ordered_sorted v))

end

/-! ## What is sorted is the same -/

section

variable {before members : List (String × Value)} {key : String} {v : Value}

theorem insert_perm (h : key ∉ before.map Prod.fst) :
    (insert key v before).Perm ((key, v) :: before) := by
  induction before with
  | nil => exact .refl _
  | cons member rest ih =>
    obtain ⟨hne, hrest⟩ := not_or.1 (List.mem_cons.not.1 h)
    rw [insert, if_neg hne]
    split
    · exact .refl _
    · exact ((ih hrest).cons member).trans (.swap _ _ _)

/-- Members with keys of their own are put among those before. -/
theorem insertAll_perm (h : ((before ++ members).map Prod.fst).Nodup) :
    (insertAll before members).Perm
      (before ++ members.map fun entry => (entry.1, entry.2.sorted)) := by
  induction members generalizing before with
  | nil => rw [insertAll, List.map_nil, List.append_nil]
  | cons member rest ih =>
    obtain ⟨key, v⟩ := member
    have hmiddle : (key :: (before ++ rest).map Prod.fst).Nodup :=
      (List.perm_middle.map Prod.fst).nodup_iff.1 h
    obtain ⟨hnew, -⟩ := List.nodup_cons.1 hmiddle
    rw [List.map_append, List.mem_append, not_or] at hnew
    have hinsert := insert_perm (v := v.sorted) hnew.1
    have hkeys : ((insert key v.sorted before ++ rest).map Prod.fst).Nodup :=
      ((hinsert.append_right rest).map Prod.fst).nodup_iff.2 hmiddle
    rw [insertAll]
    exact ((ih hkeys).trans (hinsert.append_right _)).trans List.perm_middle.symm

theorem mem_insertAll_iff (h : (members.map Prod.fst).Nodup) :
    (key, v) ∈ insertAll [] members ↔ ∃ w, (key, w) ∈ members ∧ w.sorted = v := by
  have hperm : (insertAll [] members).Perm (members.map fun entry => (entry.1, entry.2.sorted)) :=
    insertAll_perm h
  rw [hperm.mem_iff, List.mem_map]
  constructor
  · rintro ⟨⟨k, w⟩, hw, heq⟩
    cases heq
    exact ⟨w, hw, rfl⟩
  · rintro ⟨w, hw, rfl⟩
    exact ⟨(key, w), hw, rfl⟩

end

end ScriptAssist.Json.Value
