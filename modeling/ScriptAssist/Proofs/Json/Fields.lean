import ScriptAssist.Proofs.Json.Keys
import ScriptAssist.Proofs.Json.Records

/-!
# Fields of records

What a value has to be for a decoder to accept it, as equivalences: for the plain decoders, for
fields that may be missing, and for records. Members that stand in order are checked and gathered in
one: a record is read from an object exactly if its fields are (`Record.convert_object_iff_gather`).
-/

namespace ScriptAssist.Json

open Value Decoder

/-! ## Plain decoders -/

namespace Decoder

theorem any_convert_eq_ok_iff {v w : Value} : any.convert v = .ok w ↔ v = w :=
  ⟨Except.ok.inj, congrArg _⟩

theorem text_convert_eq_ok_iff {v : Value} {s : String} :
    text.convert v = .ok s ↔ v = .text s := by
  constructor
  · intro h
    cases v with
    | text t => exact congrArg _ (Except.ok.inj h)
    | _ => cases h
  · rintro rfl
    rfl

theorem int32_convert_eq_ok_iff {v : Value} {i : Int} :
    int32.convert v = .ok i ↔ v = .int i ∧ -0x80000000 ≤ i ∧ i ≤ 0x7FFFFFFF := by
  constructor
  · intro h
    cases v with
    | number n =>
      cases n with
      | int j =>
        dsimp only [int32, intIn] at h
        split at h
        · next hrange =>
          cases h
          exact ⟨rfl, hrange⟩
        · cases h
      | real => cases h
    | _ => cases h
  · rintro ⟨rfl, hrange⟩
    exact if_pos hrange

/-- A value that may be null, which reads as nothing. -/
inductive OrNull {α : Type} (Reads : Value → α → Prop) : Value → Option α → Prop
  | null : OrNull Reads .null none
  | value {v : Value} {a : α} (hv : v ≠ .null) (hreads : Reads v a) : OrNull Reads v (some a)

theorem optional_convert_of_ne_null {α : Type} {d : Decoder α} {v : Value} (hv : v ≠ .null) :
    d.optional.convert v = (d.convert v).map some := by
  cases v with
  | null => contradiction
  | _ => rfl

theorem optional_convert_eq_ok_iff {α : Type} {d : Decoder α} {v : Value} {a? : Option α} :
    d.optional.convert v = .ok a? ↔ OrNull (fun v a => d.convert v = .ok a) v a? := by
  constructor
  · intro h
    by_cases hv : v = .null
    · subst hv
      cases h
      exact .null
    · rw [optional_convert_of_ne_null hv] at h
      obtain ⟨a, ha, rfl⟩ := map_eq_ok_iff.1 h
      exact .value hv ha
  · rintro (_ | ⟨hv, ha⟩)
    · rfl
    · rw [optional_convert_of_ne_null hv]
      exact map_eq_ok_iff.2 ⟨_, ha, rfl⟩

end Decoder

theorem Decoder.OrNull.congr {α : Type} {Reads Reads' : Value → α → Prop} {v : Value}
    {a? : Option α} (h : OrNull Reads v a?) (hreads : ∀ a, Reads v a → Reads' v a) :
    OrNull Reads' v a? := by
  cases h with
  | null => exact .null
  | value hv ha => exact .value hv (hreads _ ha)

/-- A member that may be missing or null. -/
inductive Possible {α : Type} (members : List (String × Value)) (key : String)
    (Reads : Value → α → Prop) : Option α → Prop
  | absent (h : ∀ v, (key, v) ∉ members) : Possible members key Reads none
  | present {v : Value} {a? : Option α} (h : (key, v) ∈ members) (hv : OrNull Reads v a?) :
      Possible members key Reads a?

theorem Possible.congr {α : Type} {members : List (String × Value)} {key : String}
    {Reads Reads' : Value → α → Prop} {a? : Option α} (h : Possible members key Reads a?)
    (hreads : ∀ v a, (key, v) ∈ members → Reads v a → Reads' v a) :
    Possible members key Reads' a? := by
  cases h with
  | absent h => exact .absent h
  | present h hv => exact .present h (hv.congr fun a => hreads _ a h)

/-! ## Fields among members -/

section Gather

variable {α β : Type} {members : List (String × Value)} (hkeys : Ascending members) {name : String}
  {content : Decoder α} {rest : Layout β} {a : α} {b : β}

include hkeys

omit hkeys in
theorem gather_done : Layout.done.gather members = .ok () :=
  rfl

theorem gather_required_eq_ok_iff :
    (Layout.required name content rest).gather members = .ok (a, b) ↔
      (∃ v, (name, v) ∈ members ∧ content.convert v = .ok a) ∧ rest.gather members = .ok b := by
  refine gather_field_eq_ok_iff.trans (and_congr_left fun _ => ?_)
  cases hlookup : members.lookup name with
  | none =>
    have hnone := lookup_eq_none_iff_not_mem.1 hlookup
    exact ⟨fun h => (nomatch h), fun ⟨v, hv, _⟩ => absurd hv (hnone v)⟩
  | some v =>
    have hmem (w : Value) : (name, w) ∈ members ↔ v = w := by
      rw [← lookup_eq_some_iff_mem hkeys, hlookup, Option.some.injEq]
    simp only [hmem, exists_eq_left']

theorem gather_possible_eq_ok_iff {a? : Option α} :
    (Layout.possible name content rest).gather members = .ok (a?, b) ↔
      Possible members name (fun v a => content.convert v = .ok a) a? ∧
        rest.gather members = .ok b := by
  refine gather_field_eq_ok_iff.trans (and_congr_left fun _ => ?_)
  cases hlookup : members.lookup name with
  | none =>
    have hnone := lookup_eq_none_iff_not_mem.1 hlookup
    constructor
    · intro h
      cases h
      exact .absent hnone
    · rintro (_ | ⟨h, -⟩)
      · rfl
      · exact absurd h (hnone _)
  | some v =>
    refine optional_convert_eq_ok_iff.trans ⟨.present (mem_of_lookup hlookup), ?_⟩
    rintro (hnone | ⟨h, hv⟩)
    · exact absurd (mem_of_lookup hlookup) (hnone v)
    · rw [← lookup_eq_some_iff_mem hkeys, hlookup] at h
      cases h
      exact hv

theorem gather_text_eq_ok_iff {s : String} :
    (Layout.required name .text rest).gather members = .ok (s, b) ↔
      (name, .text s) ∈ members ∧ rest.gather members = .ok b := by
  rw [gather_required_eq_ok_iff hkeys]
  simp only [text_convert_eq_ok_iff, exists_eq_right]

theorem gather_any_eq_ok_iff {v : Value} :
    (Layout.required name .any rest).gather members = .ok (v, b) ↔
      (name, v) ∈ members ∧ rest.gather members = .ok b := by
  rw [gather_required_eq_ok_iff hkeys]
  simp only [any_convert_eq_ok_iff, exists_eq_right]

theorem gather_possibleAny_eq_ok_iff {v? : Option Value} :
    (Layout.possible name .any rest).gather members = .ok (v?, b) ↔
      Possible members name Eq v? ∧ rest.gather members = .ok b := by
  rw [gather_possible_eq_ok_iff hkeys]
  simp only [any_convert_eq_ok_iff]

end Gather

/-- A field is gathered only if each member with its key is what the field asks for. -/
theorem checkMember_of_gather {τ : Type} {l : Layout τ} {members : List (String × Value)} {t : τ}
    (hkeys : Ascending members) (h : l.gather members = .ok t) :
    ∀ entry ∈ members, l.checkMember entry.1 entry.2 = .ok () := by
  intro entry hentry
  induction l with
  | done => rfl
  | field name content absent? rest ih =>
    obtain ⟨hfirst, hrest⟩ := gather_field_eq_ok_iff.1 h
    rw [Layout.checkMember]
    split
    · next hname =>
      rw [← hname, (lookup_eq_some_iff_mem hkeys).2 hentry] at hfirst
      exact map_eq_ok_iff.2 ⟨_, hfirst, rfl⟩
    · exact ih hrest

/-- An object is read as a record exactly if the record's fields are gathered from its members. -/
theorem Record.convert_object_iff_gather {τ α : Type} {r : Record τ α}
    {members : List (String × Value)} (hkeys : Ascending members) (fields : α → τ)
    (hfields : ∀ t, fields (r.build t) = t) (hbuild : ∀ a, r.build (fields a) = a) {a : α} :
    r.convert (.object members) = .ok a ↔ r.layout.gather members = .ok (fields a) := by
  have heq : ∀ t, r.build t = a ↔ t = fields a := fun t =>
    ⟨fun h => h ▸ (hfields t).symm, fun h => h ▸ hbuild a⟩
  rw [Json.convert_object_eq_ok_iff]
  simp only [heq, exists_eq_right]
  exact and_iff_right_of_imp (checkMember_of_gather hkeys)

end ScriptAssist.Json
