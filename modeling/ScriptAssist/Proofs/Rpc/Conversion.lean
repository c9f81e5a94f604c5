import ScriptAssist.Proofs.Json.Sorting
import ScriptAssist.Proofs.Rpc.Shapes

/-!
# Messages from their members

A message that is put into members is read from them again once they are sorted (`ofValue_sorted`):
the keys tell its shape, and it is made of the members. Only optional members that are null are
lost. A response needs a result or an error, since nothing else tells it from the other shapes.
-/

namespace ScriptAssist.Rpc

open Json Value Decoder

/-- Null counts as nothing. -/
def unlessNull : Option Value → Option Value
  | some .null => none
  | value? => value?

/-- The error object as it is read back: data that are null are not there. -/
def ErrorObject.settled (e : ErrorObject) : ErrorObject :=
  { e with data? := unlessNull e.data? }

namespace Message

/-- The message as it is read back: optional members that are null are not there. -/
def settled : Message → Message
  | request r => .request { r with params? := unlessNull r.params? }
  | response r => .response { r with
      result? := unlessNull r.result?
      error? := r.error?.map ErrorObject.settled }
  | notification n => .notification { n with params? := unlessNull n.params? }

/-- The values in a message. -/
def values : Message → List Value
  | request r => r.id :: r.params?.toList
  | response r => r.id :: (r.result?.toList ++ (r.error?.bind ErrorObject.data?).toList)
  | notification n => n.params?.toList

/-- What the types of a message's members promise: the members of an object are in order, and the
code of an error is a 32-bit integer. -/
structure Proper (m : Message) : Prop where
  values_sorted : ∀ v ∈ m.values, v.sorted = v
  code_fits : ∀ r e, m = .response r → r.error? = some e →
    -0x80000000 ≤ e.code ∧ e.code ≤ 0x7FFFFFFF

/-- If it is a response, it has a result or an error. -/
def Answered : Message → Prop
  | response r => r.result?.isSome ∨ r.error?.isSome
  | _ => True

end Message

/-! ## Sorted members -/

section

variable {members : List (String × Value)} (hdistinct : (members.map Prod.fst).Nodup)

include hdistinct

theorem hasKey_insertAll_iff {key : String} :
    HasKey (insertAll [] members) key ↔ HasKey members key := by
  simp only [HasKey, mem_insertAll_iff hdistinct]
  exact ⟨fun ⟨_, v, hv, _⟩ => ⟨v, hv⟩, fun ⟨v, hv⟩ => ⟨_, v, hv, rfl⟩⟩

theorem mem_insertAll_of_sorted {key : String} {v : Value} (hv : (key, v) ∈ members)
    (hsorted : v.sorted = v) : (key, v) ∈ insertAll [] members :=
  (mem_insertAll_iff hdistinct).2 ⟨v, hv, hsorted⟩

/-- A member that is there only if it has a value is read as it was, unless it is null. -/
theorem possible_unlessNull {key : String} {v? : Option Value}
    (hmem : ∀ v, (key, v) ∈ members ↔ v? = some v) (hsorted : ∀ v, v? = some v → v.sorted = v) :
    Possible (insertAll [] members) key Eq (unlessNull v?) := by
  cases v? with
  | none =>
    refine .absent fun w hw => ?_
    obtain ⟨v, hv, -⟩ := (mem_insertAll_iff hdistinct).1 hw
    exact nomatch (hmem v).1 hv
  | some v =>
    refine .present (mem_insertAll_of_sorted hdistinct ((hmem v).2 rfl) (hsorted v rfl)) ?_
    cases v with
    | null => exact .null
    | _ => exact .value (by nofun) rfl

end

/-! ## Messages -/

theorem ErrorObject.written_sorted {e : ErrorObject}
    (hcode : -0x80000000 ≤ e.code ∧ e.code ≤ 0x7FFFFFFF)
    (hdata : ∀ v, e.data? = some v → v.sorted = v) : Written e.toValue.sorted e.settled := by
  have hdistinct : (([("code", Value.int e.code), ("message", Value.text e.message)] ++
      optionalMember "data" e.data?).map Prod.fst).Nodup := by
    cases e.data? <;> simp [optionalMember]
  exact .inl <| .object
    (mem_insertAll_of_sorted hdistinct (.head _) rfl) hcode
    (mem_insertAll_of_sorted hdistinct (.tail _ (.head _)) rfl)
    (possible_unlessNull hdistinct (fun v => by simp [optionalMember]) hdata)

theorem possible_error {members : List (String × Value)} {error? : Option ErrorObject}
    (hmem : ∀ w, ("error", w) ∈ members ↔ ∃ e, error? = some e ∧ e.toValue.sorted = w)
    (hwritten : ∀ e, error? = some e → ErrorObject.Written e.toValue.sorted e.settled) :
    Possible members "error" ErrorObject.Written (error?.map ErrorObject.settled) := by
  cases error? with
  | none =>
    refine .absent fun w hw => ?_
    obtain ⟨e, he, -⟩ := (hmem w).1 hw
    cases he
  | some e => exact .present ((hmem _).2 ⟨e, rfl, rfl⟩) (.value (by nofun) (hwritten e rfl))

theorem Message.ofValue_of_madeOf {members : List (String × Value)} {m : Message}
    (hordered : (Value.object members).Ordered) (htold : m.shape.Told members)
    (hmade : m.MadeOf ErrorObject.Written members) : ofValue (.object members) = .ok m := by
  rw [ofValue_of_told htold, (ofShape_eq_ok_iff hordered).2 ⟨rfl, hmade⟩]
  rfl

theorem Request.ofValue_sorted {r : Request} (hid : r.id.sorted = r.id)
    (hparams : ∀ v, r.params? = some v → v.sorted = v) :
    Message.ofValue r.toValue.sorted = .ok (Message.request r).settled := by
  have hdistinct : (([("jsonrpc", .text r.version), ("id", r.id), ("method", .text r.method)] ++
      optionalMember "params" r.params?).map Prod.fst).Nodup := by
    cases r.params? <;> simp [optionalMember]
  refine Message.ofValue_of_madeOf (ordered_sorted r.toValue) (.request ?_ ?_ ?_) ⟨?_, ?_, ?_, ?_⟩
  · simp only [Answers, hasKey_insertAll_iff hdistinct]
    simp [HasKey, optionalMember]
  · rw [hasKey_insertAll_iff hdistinct]
    simp [HasKey]
  · rw [hasKey_insertAll_iff hdistinct]
    simp [HasKey]
  · exact mem_insertAll_of_sorted hdistinct (.head _) rfl
  · exact mem_insertAll_of_sorted hdistinct (.tail _ (.head _)) hid
  · exact mem_insertAll_of_sorted hdistinct (.tail _ (.tail _ (.head _))) rfl
  · exact possible_unlessNull hdistinct (fun v => by simp [optionalMember]) hparams

theorem Notification.ofValue_sorted {n : Notification}
    (hparams : ∀ v, n.params? = some v → v.sorted = v) :
    Message.ofValue n.toValue.sorted = .ok (Message.notification n).settled := by
  have hdistinct : (([("jsonrpc", Value.text n.version), ("method", Value.text n.method)] ++
      optionalMember "params" n.params?).map Prod.fst).Nodup := by
    cases n.params? <;> simp [optionalMember]
  refine Message.ofValue_of_madeOf (ordered_sorted n.toValue) (.notification ?_ ?_ ?_) ⟨?_, ?_, ?_⟩
  · simp only [Answers, hasKey_insertAll_iff hdistinct]
    simp [HasKey, optionalMember]
  · rw [hasKey_insertAll_iff hdistinct]
    simp [HasKey]
  · rw [hasKey_insertAll_iff hdistinct]
    simp [HasKey, optionalMember]
  · exact mem_insertAll_of_sorted hdistinct (.head _) rfl
  · exact mem_insertAll_of_sorted hdistinct (.tail _ (.head _)) rfl
  · exact possible_unlessNull hdistinct (fun v => by simp [optionalMember]) hparams

theorem Response.ofValue_sorted {r : Response} (hid : r.id.sorted = r.id)
    (hresult : ∀ v, r.result? = some v → v.sorted = v)
    (hcode : ∀ e, r.error? = some e → -0x80000000 ≤ e.code ∧ e.code ≤ 0x7FFFFFFF)
    (hdata : ∀ e v, r.error? = some e → e.data? = some v → v.sorted = v)
    (hanswered : r.result?.isSome ∨ r.error?.isSome) :
    Message.ofValue r.toValue.sorted = .ok (Message.response r).settled := by
  have hdistinct : (([("jsonrpc", .text r.version), ("id", r.id)] ++
      optionalMember "result" r.result? ++
      optionalMember "error" (r.error?.map ErrorObject.toValue)).map Prod.fst).Nodup := by
    cases r.result? <;> cases r.error? <;> simp [optionalMember]
  refine Message.ofValue_of_madeOf (ordered_sorted r.toValue) (.response ?_) ⟨?_, ?_, ?_, ?_⟩
  · simp only [Answers, hasKey_insertAll_iff hdistinct]
    simpa [HasKey, optionalMember, Option.isSome_iff_exists] using hanswered
  · exact mem_insertAll_of_sorted hdistinct (.head _) rfl
  · exact mem_insertAll_of_sorted hdistinct (.tail _ (.head _)) hid
  · exact possible_unlessNull hdistinct (fun v => by simp [optionalMember]) hresult
  · refine possible_error (fun w => ?_) fun e he =>
      e.written_sorted (hcode e he) fun v => hdata e v he
    rw [mem_insertAll_iff hdistinct]
    simp [optionalMember]

namespace Message

/-- A message is read from its members as it was, but for members that are null. -/
theorem ofValue_sorted {m : Message} (hproper : m.Proper) (hanswered : m.Answered) :
    ofValue m.toValue.sorted = .ok m.settled := by
  have hsorted := hproper.values_sorted
  cases m with
  | request r =>
    refine r.ofValue_sorted (hsorted r.id (by simp [values])) fun v hv => hsorted v ?_
    simp [values, hv]
  | response r =>
    refine r.ofValue_sorted (hsorted r.id (by simp [values])) (fun v hv => hsorted v ?_)
      (fun e he => hproper.code_fits r e rfl he) (fun e v he hv => hsorted v ?_) hanswered
    · simp [values, hv]
    · simp [values, he, hv]
  | notification n =>
    refine n.ofValue_sorted fun v hv => hsorted v ?_
    simp [values, hv]

end Message

end ScriptAssist.Rpc
