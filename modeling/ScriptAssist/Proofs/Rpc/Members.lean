import Mathlib.Tactic.MkIffOfInductiveProp
import ScriptAssist.Proofs.Json.Fields
import ScriptAssist.Rpc.Message

/-!
# Messages from members

What it takes for an object to be read as a message of a given shape: the message is made of the
object's members (`Message.ofShape_eq_ok_iff`). Optional members may be null, and other members are
passed over. An error may be written as an object, and also as an array of just its code, its
message and its data (`ErrorObject.convert_eq_ok_iff`).
-/

namespace ScriptAssist.Rpc

open Json Value Decoder

section

variable (IsError : Value → ErrorObject → Prop) (members : List (String × Value))

/-- The request is made of the members. -/
@[mk_iff]
structure Request.MadeOf (r : Request) : Prop where
  version : ("jsonrpc", .text r.version) ∈ members
  id : ("id", r.id) ∈ members
  method : ("method", .text r.method) ∈ members
  params : Possible members "params" Eq r.params?

/-- The response is made of the members. -/
@[mk_iff]
structure Response.MadeOf (r : Response) : Prop where
  version : ("jsonrpc", .text r.version) ∈ members
  id : ("id", r.id) ∈ members
  result : Possible members "result" Eq r.result?
  error : Possible members "error" IsError r.error?

/-- The notification is made of the members. -/
@[mk_iff]
structure Notification.MadeOf (n : Notification) : Prop where
  version : ("jsonrpc", .text n.version) ∈ members
  method : ("method", .text n.method) ∈ members
  params : Possible members "params" Eq n.params?

/-- The message is made of the members. -/
def Message.MadeOf : Message → Prop
  | request r => r.MadeOf members
  | response r => r.MadeOf IsError members
  | notification n => n.MadeOf members

end

namespace ErrorObject

/-- An error as an object of its members. -/
inductive Described : Value → ErrorObject → Prop
  | object {members : List (String × Value)} {e : ErrorObject}
      (hcode : ("code", .int e.code) ∈ members)
      (hrange : -0x80000000 ≤ e.code ∧ e.code ≤ 0x7FFFFFFF)
      (hmessage : ("message", .text e.message) ∈ members)
      (hdata : Possible members "data" Eq e.data?) : Described (.object members) e

/-- An error as an array of just its code, its message and its data. -/
inductive Listed : Value → ErrorObject → Prop
  | array {data : Value} {e : ErrorObject} (hrange : -0x80000000 ≤ e.code ∧ e.code ≤ 0x7FFFFFFF)
      (hdata : OrNull Eq data e.data?) : Listed (.array [.int e.code, .text e.message, data]) e

/-- An error in one of the two ways in which it may be written. -/
def Written (v : Value) (e : ErrorObject) : Prop :=
  Described v e ∨ Listed v e

end ErrorObject

/-! ## Reading records -/

section

variable {members : List (String × Value)} (hkeys : Ascending members)

include hkeys

theorem Request.convert_eq_ok_iff {r : Request} :
    record.convert (.object members) = .ok r ↔ r.MadeOf members := by
  rw [record.convert_object_iff_gather hkeys
    (fun r => (r.version, r.id, r.method, r.params?, ()))
    (fun _ => rfl) fun _ => rfl]
  simp only [record, gather_text_eq_ok_iff hkeys, gather_any_eq_ok_iff hkeys,
    gather_possibleAny_eq_ok_iff hkeys, gather_done, and_true, madeOf_iff]

theorem Notification.convert_eq_ok_iff {n : Notification} :
    record.convert (.object members) = .ok n ↔ n.MadeOf members := by
  rw [record.convert_object_iff_gather hkeys (fun n => (n.version, n.method, n.params?, ()))
    (fun _ => rfl) fun _ => rfl]
  simp only [record, gather_text_eq_ok_iff hkeys, gather_possibleAny_eq_ok_iff hkeys, gather_done,
    and_true, madeOf_iff]

theorem Response.convert_eq_ok_iff {r : Response} :
    record.convert (.object members) = .ok r ↔
      r.MadeOf (fun v e => ErrorObject.record.convert v = .ok e) members := by
  rw [record.convert_object_iff_gather hkeys (fun r => (r.version, r.id, r.result?, r.error?, ()))
    (fun _ => rfl) fun _ => rfl]
  simp only [record, gather_text_eq_ok_iff hkeys, gather_any_eq_ok_iff hkeys,
    gather_possibleAny_eq_ok_iff hkeys, gather_possible_eq_ok_iff hkeys, gather_done, and_true,
    madeOf_iff, Record.decoder]

theorem ErrorObject.convert_object_eq_ok_iff {e : ErrorObject} :
    record.convert (.object members) = .ok e ↔ Described (.object members) e := by
  rw [record.convert_object_iff_gather hkeys (fun e => (e.code, e.message, e.data?, ()))
    (fun _ => rfl) fun _ => rfl]
  simp only [record, gather_required_eq_ok_iff hkeys, int32_convert_eq_ok_iff,
    text_convert_eq_ok_iff, exists_eq_right, gather_possibleAny_eq_ok_iff hkeys, gather_done,
    and_true]
  constructor
  · rintro ⟨⟨_, hcode, rfl, hrange⟩, hmessage, hdata⟩
    exact .object hcode hrange hmessage hdata
  · rintro ⟨hcode, hrange, hmessage, hdata⟩
    exact ⟨⟨_, hcode, rfl, hrange⟩, hmessage, hdata⟩

end

theorem ErrorObject.convert_array_eq_ok_iff {items : List Value} {e : ErrorObject} :
    record.convert (.array items) = .ok e ↔ Listed (.array items) e := by
  rw [Json.convert_array_eq_ok_iff]
  constructor
  · rintro ⟨⟨code, message, data?, _⟩, h, rfl⟩
    obtain ⟨_, _, rfl, hcode, h⟩ := gatherItems_field_eq_ok_iff.1 h
    obtain ⟨_, _, rfl, hmessage, h⟩ := gatherItems_field_eq_ok_iff.1 h
    obtain ⟨data, _, rfl, hdata, h⟩ := gatherItems_field_eq_ok_iff.1 h
    obtain rfl := gatherItems_done_eq_ok_iff.1 h
    obtain ⟨rfl, hrange⟩ := int32_convert_eq_ok_iff.1 hcode
    obtain rfl := text_convert_eq_ok_iff.1 hmessage
    have hgiven := (optional_convert_eq_ok_iff.1 hdata).congr fun _ => any_convert_eq_ok_iff.1
    exact .array (e := ⟨_, _, data?⟩) hrange hgiven
  · rintro ⟨hrange, hdata⟩
    have hgiven : OrNull (fun v w => any.convert v = .ok w) _ e.data? :=
      hdata.congr fun _ => any_convert_eq_ok_iff.2
    refine ⟨(e.code, e.message, e.data?, ()), ?_, rfl⟩
    refine gatherItems_field_eq_ok_iff.2
      ⟨_, _, rfl, int32_convert_eq_ok_iff.2 ⟨rfl, hrange⟩, ?_⟩
    refine gatherItems_field_eq_ok_iff.2 ⟨_, _, rfl, text_convert_eq_ok_iff.2 rfl, ?_⟩
    refine gatherItems_field_eq_ok_iff.2 ⟨_, _, rfl, optional_convert_eq_ok_iff.2 hgiven, ?_⟩
    exact gatherItems_done_eq_ok_iff.2 rfl

/-- An error may be written as an object or as an array, and in no other way. -/
theorem ErrorObject.convert_eq_ok_iff {v : Value} (hv : v.Ordered) {e : ErrorObject} :
    record.convert v = .ok e ↔ Written v e := by
  cases hv with
  | object hkeys _ =>
    rw [convert_object_eq_ok_iff hkeys]
    exact ⟨.inl, Or.rec id nofun⟩
  | array =>
    rw [convert_array_eq_ok_iff]
    exact ⟨.inr, Or.rec nofun id⟩
  | _ => exact ⟨nofun, Or.rec nofun nofun⟩

section

variable {members : List (String × Value)}

theorem Response.MadeOf.congr {IsError IsError' : Value → ErrorObject → Prop} {r : Response}
    (h : r.MadeOf IsError members)
    (herror : ∀ v e, ("error", v) ∈ members → IsError v e → IsError' v e) :
    r.MadeOf IsError' members :=
  { h with error := h.error.congr herror }

/-- An object is read as a message of a shape exactly if the message is made of its members. -/
theorem Message.ofShape_eq_ok_iff (hordered : (Value.object members).Ordered) {shape : Shape}
    {m : Message} :
    ofShape shape (.object members) = .ok m ↔
      m.shape = shape ∧ m.MadeOf ErrorObject.Written members := by
  have hkeys := hordered.ascending
  have hresponse (r : Response) : Response.record.convert (.object members) = .ok r ↔
      r.MadeOf ErrorObject.Written members := by
    rw [Response.convert_eq_ok_iff hkeys]
    constructor <;> refine fun h => h.congr fun v e hv => ?_
    · exact (ErrorObject.convert_eq_ok_iff (hordered.of_mem hv)).1
    · exact (ErrorObject.convert_eq_ok_iff (hordered.of_mem hv)).2
  cases m <;> cases shape <;>
    simp [ofShape, Message.shape, Message.MadeOf, map_eq_ok_iff, Request.convert_eq_ok_iff hkeys,
      hresponse, Notification.convert_eq_ok_iff hkeys]

end

end ScriptAssist.Rpc
