import Mathlib.Data.List.Nodup
import Mathlib.Data.String.Basic
import ScriptAssist.Json.ValueReader
import ScriptAssist.Proofs.Outcomes

/-!
# Keys of objects

The members of an object that has been read stand in the order of their keys, and each key is there
once, whatever the text looked like (`ordered_of_parse`). So a member can be told by its key
(`lookup_eq_some_iff_mem`).
-/

namespace ScriptAssist.Json

namespace Value

/-! ## Members in order -/

/-- The keys come in ascending order, each of them once. -/
def Ascending (members : List (String × Value)) : Prop :=
  (members.map Prod.fst).Pairwise (· < ·)

theorem Ascending.nil : Ascending [] :=
  List.Pairwise.nil

theorem mem_insert {key : String} {v : Value} {members : List (String × Value)}
    {entry : String × Value} (h : entry ∈ insert key v members) :
    entry = (key, v) ∨ entry ∈ members := by
  induction members with
  | nil => exact .inl (List.mem_singleton.1 h)
  | cons member rest ih =>
    rw [insert] at h
    split at h
    · exact (List.mem_cons.1 h).imp_right (.tail _)
    · split at h
      · exact List.mem_cons.1 h
      · rcases List.mem_cons.1 h with h | h
        · exact .inr (h ▸ .head _)
        · exact (ih h).imp_right (.tail _)

theorem Ascending.insert {members : List (String × Value)} (h : Ascending members) (key : String)
    (v : Value) : Ascending (insert key v members) := by
  induction members with
  | nil => exact List.pairwise_singleton _ _
  | cons member rest ih =>
    obtain ⟨k, w⟩ := member
    obtain ⟨hk, hrest⟩ := List.pairwise_cons.1 h
    rw [Value.insert]
    split
    · next hsame => exact List.pairwise_cons.2 ⟨hsame ▸ hk, hrest⟩
    · next hne =>
      split
      · next hlt =>
        refine List.pairwise_cons.2 ⟨?_, h⟩
        exact List.forall_mem_cons.2 ⟨hlt, fun other hother => hlt.trans (hk other hother)⟩
      · next hnlt =>
        refine List.pairwise_cons.2 ⟨fun other hother => ?_, ih hrest⟩
        obtain ⟨entry, hentry, rfl⟩ := List.mem_map.1 hother
        rcases mem_insert hentry with rfl | hold
        · exact lt_of_le_of_ne (not_lt.1 hnlt) (Ne.symm hne)
        · exact hk _ (List.mem_map_of_mem hold)

/-- The members of all objects come in ascending order. -/
inductive Ordered : Value → Prop
  | null : Ordered .null
  | bool (b : Bool) : Ordered (.bool b)
  | number (n : Number) : Ordered (.number n)
  | text (s : String) : Ordered (.text s)
  | array {items : List Value} (hitems : ∀ v ∈ items, Ordered v) : Ordered (.array items)
  | object {members : List (String × Value)} (hkeys : Ascending members)
      (hmembers : ∀ entry ∈ members, Ordered entry.2) : Ordered (.object members)

theorem Ordered.ascending {members : List (String × Value)} (h : (Value.object members).Ordered) :
    Ascending members := by
  cases h with
  | object hkeys _ => exact hkeys

theorem Ordered.of_mem {members : List (String × Value)} (h : (Value.object members).Ordered)
    {entry : String × Value} (hentry : entry ∈ members) : entry.2.Ordered := by
  cases h with
  | object _ hmembers => exact hmembers entry hentry

theorem Ordered.insert {members : List (String × Value)} (h : (Value.object members).Ordered)
    (key : String) {v : Value} (hv : v.Ordered) :
    (Value.object (Value.insert key v members)).Ordered := by
  refine .object (h.ascending.insert key v) fun entry hentry => ?_
  rcases mem_insert hentry with rfl | hold
  · exact hv
  · exact h.of_mem hold

end Value

/-! ## What is read -/

open Value

theorem eq_of_readConstant {α : Type} {letters : List Char} {constant a : α} {c c' : Cursor}
    (h : readConstant letters constant c = .ok (a, c')) : a = constant := by
  obtain ⟨_, -, heq⟩ := map_eq_ok_iff.1 h
  cases heq
  rfl

theorem exists_of_yielding {α β : Type} {result : Result α} {f : α → β} {b : β} {c : Cursor}
    (h : yielding result f = .ok (b, c)) : ∃ a, b = f a := by
  unfold yielding andThen at h
  split at h
  · next a _ =>
    cases h
    exact ⟨a, rfl⟩
  · cases h

section

variable {fuel depth : Nat} {c c' : Cursor} {v : Value}

/-- A value is a scalar, or an array or an object that is read from its first bracket on. -/
theorem ordered_or_of_readValue (h : readValue (fuel + 1) depth c = .ok (v, c')) :
    v.Ordered ∨ (∃ depth c, readItems fuel depth true [] c = .ok (v, c')) ∨
      ∃ depth c, readMembers fuel depth true [] c = .ok (v, c') := by
  rw [readValue] at h
  split at h
  · cases h
  · next ch _ _ =>
    -- The first character tells what it is.
    by_cases hnull : ch = 'n'
    · rw [if_pos hnull] at h
      exact .inl (eq_of_readConstant h ▸ .null)
    by_cases htrue : ch = 't'
    · rw [if_neg hnull, if_pos htrue] at h
      exact .inl (eq_of_readConstant h ▸ .bool true)
    by_cases hfalse : ch = 'f'
    · rw [if_neg hnull, if_neg htrue, if_pos hfalse] at h
      exact .inl (eq_of_readConstant h ▸ .bool false)
    rw [if_neg hnull, if_neg htrue, if_neg hfalse] at h
    by_cases hminus : ch = '-'
    · rw [if_pos hminus] at h
      obtain ⟨n, rfl⟩ := exists_of_yielding h
      exact .inl (.number n)
    by_cases hdigit : ch.isDigit = true
    · rw [if_neg hminus, if_pos hdigit] at h
      obtain ⟨n, rfl⟩ := exists_of_yielding h
      exact .inl (.number n)
    by_cases hquote : ch = '"'
    · rw [if_neg hminus, if_neg hdigit, if_pos hquote] at h
      obtain ⟨s, rfl⟩ := exists_of_yielding h
      exact .inl (.text s)
    rw [if_neg hminus, if_neg hdigit, if_neg hquote] at h
    split at h
    · split at h
      · cases h
      · exact .inr (.inl ⟨_, _, h⟩)
    · split at h
      · split at h
        · cases h
        · exact .inr (.inr ⟨_, _, h⟩)
      · cases h

end

/-- Each reader keeps the members in order, given that the others do with less fuel. -/
theorem ordered_of_read (fuel : Nat) :
    (∀ depth c v c', readValue fuel depth c = .ok (v, c') → v.Ordered) ∧
    (∀ depth first items c v c', (∀ w ∈ items, w.Ordered) →
      readItems fuel depth first items c = .ok (v, c') → v.Ordered) ∧
    ∀ depth first members c v c', (Value.object members).Ordered →
      readMembers fuel depth first members c = .ok (v, c') → v.Ordered := by
  induction fuel with
  | zero => exact ⟨fun _ _ _ _ h => (nomatch h), fun _ _ _ _ _ _ _ h => (nomatch h),
      fun _ _ _ _ _ _ _ h => (nomatch h)⟩
  | succ fuel ih =>
    obtain ⟨hvalue, hitems, hmembers⟩ := ih
    refine ⟨fun depth c v c' h => ?_, fun depth first items c v c' hbefore h => ?_,
      fun depth first members c v c' hbefore h => ?_⟩
    · rcases ordered_or_of_readValue h with hv | ⟨depth, c, h⟩ | ⟨depth, c, h⟩
      · exact hv
      · exact hitems _ _ _ _ _ _ (List.forall_mem_nil _) h
      · exact hmembers _ _ _ _ _ _ (.object .nil (List.forall_mem_nil _)) h
    · unfold readItems at h
      split at h
      · cases h
      · cases h
        exact .array fun w hw => hbefore w (List.mem_reverse.1 hw)
      · split at h
        · cases h
        · next w _ hw =>
          exact hitems _ _ _ _ _ _ (List.forall_mem_cons.2 ⟨hvalue _ _ _ _ hw, hbefore⟩) h
    · unfold readMembers at h
      split at h
      · cases h
      · cases h
        exact hbefore
      · split at h
        · cases h
        · split at h
          · cases h
          · split at h
            · cases h
            · next w _ hw =>
              exact hmembers _ _ _ _ _ _ (hbefore.insert _ (hvalue _ _ _ _ hw)) h

/-- Whatever is read from a text has the members of its objects in order. -/
theorem ordered_of_parse {text : String} {v : Value} (h : Value.parse text = .ok v) :
    v.Ordered := by
  unfold Value.parse parseWithin readWhole at h
  split at h
  · cases h
  · next hread =>
    dsimp only at h
    split at h
    · cases h
      exact (ordered_of_read _).1 _ _ _ _ hread
    · cases h

/-! ## Members by their keys -/

section

variable {members : List (String × Value)} {key : String} {v : Value}

theorem mem_of_lookup (h : members.lookup key = some v) : (key, v) ∈ members := by
  obtain ⟨before, behind, rfl, -⟩ := List.lookup_eq_some_iff.1 h
  exact List.mem_append_right _ (.head _)

theorem lookup_eq_none_iff_not_mem : members.lookup key = none ↔ ∀ v, (key, v) ∉ members := by
  rw [List.lookup_eq_none_iff]
  constructor
  · intro h v hv
    simpa using h _ hv
  · rintro h ⟨k, v⟩ hv
    simp only [bne_iff_ne, ne_eq]
    rintro rfl
    exact h v hv

/-- A member is found by its key, for no other member has it. -/
theorem lookup_eq_some_iff_mem (h : Ascending members) :
    members.lookup key = some v ↔ (key, v) ∈ members := by
  refine ⟨mem_of_lookup, fun hv => ?_⟩
  cases hlookup : members.lookup key with
  | none => exact absurd hv (lookup_eq_none_iff_not_mem.1 hlookup v)
  | some w =>
    have hdistinct : (members.map Prod.fst).Nodup := h.imp ne_of_lt
    have hsame := List.inj_on_of_nodup_map hdistinct (mem_of_lookup hlookup) hv rfl
    rw [(Prod.mk.inj hsame).2]

end

end ScriptAssist.Json
