import ScriptAssist.Proofs.Json.RoundTrip
import ScriptAssist.Proofs.Rpc.Members

/-!
# Shapes of messages

What a text is read as (`Message.ofText_eq_iff`): if it is JSON, the keys of the object alone tell
which of the three shapes it is meant to have, and then the members of that shape have to be as
they should. Whatever is wrong with them, no other shape is tried.
-/

namespace ScriptAssist.Rpc

open Json Value Decoder

/-! ## What is read -/

section

variable (IsError : Value → ErrorObject → Prop) (members : List (String × Value))

/-- There is a member with the key; it may be null. -/
def HasKey (key : String) : Prop :=
  ∃ v, (key, v) ∈ members

/-- There is a member with the key, and it is a text. -/
def HasText (key : String) : Prop :=
  ∃ s, (key, .text s) ∈ members

/-- There is one of the members that only responses have. -/
def Answers : Prop :=
  HasKey members "result" ∨ HasKey members "error"

/-- The shape that an object is meant to have, by its keys. -/
inductive Shape.Told : Shape → Prop
  | response (hanswer : Answers members) : Told .response
  | request (hanswer : ¬ Answers members) (hmethod : HasKey members "method")
      (hid : HasKey members "id") : Told .request
  | notification (hanswer : ¬ Answers members) (hmethod : HasKey members "method")
      (hid : ¬ HasKey members "id") : Told .notification

/-- What the members have to be, shape by shape. What an error may be is left open. -/
def Shape.Met : Shape → Prop
  | .request => HasText members "jsonrpc" ∧ HasKey members "id" ∧ HasText members "method"
  | .response =>
    HasText members "jsonrpc" ∧ HasKey members "id" ∧
      ∃ error?, Possible members "error" IsError error?
  | .notification => HasText members "jsonrpc" ∧ HasText members "method"

end

/-- What a text is read as, depending on what an error may be. -/
inductive Message.ReadAs (IsError : Value → ErrorObject → Prop) (text : String) :
    Except FaultKind Message → Prop
  | notJson (h : ∀ v, Value.parse text ≠ .ok v) : ReadAs IsError text (.error .parse)
  | accepted {members : List (String × Value)} {m : Message}
      (hparse : Value.parse text = .ok (.object members)) (htold : m.shape.Told members)
      (hmade : m.MadeOf IsError members) : ReadAs IsError text (.ok m)
  | misshapen {members : List (String × Value)} {shape : Shape}
      (hparse : Value.parse text = .ok (.object members)) (htold : shape.Told members)
      (hunmet : ¬ shape.Met IsError members) : ReadAs IsError text (.error .parse)
  | keyless {members : List (String × Value)} (hparse : Value.parse text = .ok (.object members))
      (hanswer : ¬ Answers members) (hmethod : ¬ HasKey members "method") :
      ReadAs IsError text (.error .invalidRequest)
  | noObject {v : Value} (hparse : Value.parse text = .ok v) (hv : ∀ members, v ≠ .object members) :
      ReadAs IsError text (.error .invalidRequest)

/-! ## Shapes by keys -/

section

variable {members : List (String × Value)} {shape : Shape}

theorem isSome_get?_iff {key : String} :
    ((Value.object members).get? key).isSome = true ↔ HasKey members key := by
  rw [← Option.ne_none_iff_isSome, ne_eq, ← not_iff_not, not_not]
  exact lookup_eq_none_iff_not_mem.trans not_exists.symm

theorem isSome_get?_or_iff :
    (((Value.object members).get? "result").isSome ||
        ((Value.object members).get? "error").isSome) = true ↔ Answers members := by
  rw [Bool.or_eq_true, isSome_get?_iff, isSome_get?_iff]
  rfl

theorem Shape.of?_of_told (h : shape.Told members) : of? (.object members) = some shape := by
  unfold of?
  rcases h with hanswer | ⟨hanswer, hmethod, hid⟩ | ⟨hanswer, hmethod, hid⟩
  · rw [if_pos (isSome_get?_or_iff.2 hanswer)]
  · rw [if_neg (isSome_get?_or_iff.not.2 hanswer), if_pos (isSome_get?_iff.2 hmethod),
      if_pos (isSome_get?_iff.2 hid)]
  · rw [if_neg (isSome_get?_or_iff.not.2 hanswer), if_pos (isSome_get?_iff.2 hmethod),
      if_neg (isSome_get?_iff.not.2 hid)]

theorem Shape.of?_of_not_answers (hanswer : ¬ Answers members)
    (hmethod : ¬ HasKey members "method") : of? (.object members) = none := by
  unfold of?
  rw [if_neg (isSome_get?_or_iff.not.2 hanswer), if_neg (isSome_get?_iff.not.2 hmethod)]

theorem Shape.of?_of_ne_object {v : Value} (hv : ∀ members, v ≠ .object members) :
    of? v = none := by
  cases v with
  | object members => exact absurd rfl (hv members)
  | _ => rfl

end

section

variable {IsError : Value → ErrorObject → Prop} {members : List (String × Value)} {shape : Shape}

theorem exists_possible (members : List (String × Value)) (key : String) :
    ∃ v?, Possible members key Eq v? := by
  by_cases h : HasKey members key
  · obtain ⟨v, hv⟩ := h
    by_cases hnull : v = .null
    · exact ⟨none, .present (hnull ▸ hv) .null⟩
    · exact ⟨some v, .present hv (.value hnull rfl)⟩
  · exact ⟨none, .absent (not_exists.1 h)⟩

/-- The conditions on a shape are what it takes to make a message of it. -/
theorem Shape.met_iff :
    shape.Met IsError members ↔ ∃ m : Message, m.shape = shape ∧ m.MadeOf IsError members := by
  constructor
  · intro h
    cases shape with
    | request =>
      obtain ⟨⟨version, hversion⟩, ⟨id, hid⟩, ⟨method, hmethod⟩⟩ := h
      obtain ⟨params?, hparams⟩ := exists_possible members "params"
      exact ⟨.request { version, id, method, params? }, rfl, hversion, hid, hmethod, hparams⟩
    | response =>
      obtain ⟨⟨version, hversion⟩, ⟨id, hid⟩, ⟨error?, herror⟩⟩ := h
      obtain ⟨result?, hresult⟩ := exists_possible members "result"
      exact ⟨.response { version, id, result?, error? }, rfl, hversion, hid, hresult, herror⟩
    | notification =>
      obtain ⟨⟨version, hversion⟩, ⟨method, hmethod⟩⟩ := h
      obtain ⟨params?, hparams⟩ := exists_possible members "params"
      exact ⟨.notification { version, method, params? }, rfl, hversion, hmethod, hparams⟩
  · rintro ⟨m, rfl, h⟩
    cases m with
    | request r => exact ⟨⟨_, h.version⟩, ⟨_, h.id⟩, ⟨_, h.method⟩⟩
    | response r => exact ⟨⟨_, h.version⟩, ⟨_, h.id⟩, ⟨_, h.error⟩⟩
    | notification n => exact ⟨⟨_, h.version⟩, ⟨_, h.method⟩⟩

end

/-! ## Texts -/

/-- The keys tell a shape, or there is none of those that tell one. -/
theorem Shape.exists_told_or (members : List (String × Value)) :
    (∃ shape, Told members shape) ∨ ¬ Answers members ∧ ¬ HasKey members "method" := by
  by_cases hanswer : Answers members
  · exact .inl ⟨_, .response hanswer⟩
  · by_cases hmethod : HasKey members "method"
    · by_cases hid : HasKey members "id"
      · exact .inl ⟨_, .request hanswer hmethod hid⟩
      · exact .inl ⟨_, .notification hanswer hmethod hid⟩
    · exact .inr ⟨hanswer, hmethod⟩

namespace Message

section

variable {text : String} {v : Value} {members : List (String × Value)} {shape : Shape}

theorem ofValue_of_told (htold : shape.Told members) :
    ofValue (.object members) =
      (ofShape shape (.object members)).mapError (.misshapen shape) := by
  rw [ofValue, Shape.of?_of_told htold]
  dsimp only
  cases ofShape shape (.object members) <;> rfl

theorem ofText_of_told (hparse : Value.parse text = .ok (.object members))
    (htold : shape.Told members) :
    ofText text = (ofShape shape (.object members)).mapError (.misshapen shape) := by
  simp only [ofText, hparse]
  exact ofValue_of_told htold

theorem ofText_of_shapeless (hparse : Value.parse text = .ok v) (hshape : Shape.of? v = none) :
    ofText text = .error .shapeless := by
  simp only [ofText, hparse, ofValue, hshape]

end

/-- A text is read as something. -/
theorem readAs_ofText (text : String) :
    ReadAs ErrorObject.Written text ((ofText text).mapError (·.fault.kind)) := by
  cases hparse : Value.parse text with
  | error fault =>
    simp only [ofText, hparse]
    exact .notJson fun v hv => nomatch hparse.symm.trans hv
  | ok v =>
    by_cases hobject : ∃ members, v = .object members
    · obtain ⟨members, rfl⟩ := hobject
      have hordered := ordered_of_parse hparse
      -- Once the keys have told the shape, its own record alone decides.
      rcases Shape.exists_told_or members with ⟨shape, htold⟩ | ⟨hanswer, hmethod⟩
      · rw [ofText_of_told hparse htold]
        cases hshape : ofShape shape (.object members) with
        | ok m =>
          obtain ⟨rfl, hmade⟩ := (ofShape_eq_ok_iff hordered).1 hshape
          exact .accepted hparse htold hmade
        | error mismatch =>
          refine .misshapen hparse htold fun hmet => ?_
          obtain ⟨m, hm⟩ := Shape.met_iff.1 hmet
          exact nomatch hshape.symm.trans ((ofShape_eq_ok_iff hordered).2 hm)
      · rw [ofText_of_shapeless hparse (Shape.of?_of_not_answers hanswer hmethod)]
        exact .keyless hparse hanswer hmethod
    · have hv := not_exists.1 hobject
      rw [ofText_of_shapeless hparse (Shape.of?_of_ne_object hv)]
      exact .noObject hparse hv

/-- A text is read as nothing else. -/
theorem ofText_of_readAs {text : String} {outcome : Except FaultKind Message}
    (h : ReadAs ErrorObject.Written text outcome) :
    (ofText text).mapError (·.fault.kind) = outcome := by
  cases h with
  | notJson h =>
    cases hparse : Value.parse text with
    | error fault =>
      simp only [ofText, hparse]
      rfl
    | ok v => exact absurd hparse (h v)
  | accepted hparse htold hmade =>
    rw [ofText_of_told hparse htold, (ofShape_eq_ok_iff (ordered_of_parse hparse)).2 ⟨rfl, hmade⟩]
    rfl
  | @misshapen members shape hparse htold hunmet =>
    rw [ofText_of_told hparse htold]
    cases hshape : ofShape shape (.object members) with
    | ok m =>
      have hm := (ofShape_eq_ok_iff (ordered_of_parse hparse)).1 hshape
      exact absurd (Shape.met_iff.2 ⟨m, hm⟩) hunmet
    | error mismatch => rfl
  | keyless hparse hanswer hmethod =>
    rw [ofText_of_shapeless hparse (Shape.of?_of_not_answers hanswer hmethod)]
    rfl
  | noObject hparse hv =>
    rw [ofText_of_shapeless hparse (Shape.of?_of_ne_object hv)]
    rfl

/-- Each text is read as one thing, and this says as which. -/
theorem ofText_eq_iff (text : String) (outcome : Except FaultKind Message) :
    (ofText text).mapError (·.fault.kind) = outcome ↔
      ReadAs ErrorObject.Written text outcome := by
  constructor
  · rintro rfl
    exact readAs_ofText text
  · exact ofText_of_readAs

end Message

namespace Sample

/-- A failed request's answer, with the error as an array. -/
def listed : Value :=
  .object [("jsonrpc", .text "2.0"), ("id", .int 1),
    ("error", .array [.int 1, .text "m", .null])]

theorem printable_listed : listed.Printable 127 := by
  have herror : (Value.array [.int 1, .text "m", .null]).Printable 126 :=
    .array (List.forall_mem_cons.2 ⟨.int (by decide) (by decide),
      List.forall_mem_cons.2 ⟨.text _, List.forall_mem_singleton.2 .null⟩⟩)
  exact .object (List.forall_mem_cons.2 ⟨.text _,
    List.forall_mem_cons.2 ⟨.int (by decide) (by decide), List.forall_mem_singleton.2 herror⟩⟩)

theorem parse_listed :
    Value.parse r#"{"jsonrpc":"2.0","id":1,"error":[1,"m",null]}"# =
      .ok (.object [("error", .array [.int 1, .text "m", .null]), ("id", .int 1),
        ("jsonrpc", .text "2.0")]) := by
  have hrender : listed.render =
      r#"{"jsonrpc":"2.0","id":1,"error":[1,"m",null]}"# := rfl
  rw [← hrender, parse_render printable_listed]
  rfl

end Sample

/-- It matters that an error may be listed: if it had to be described, this text would be none of a
message, but it is one of a response. -/
theorem Message.ofText_listed :
    ReadAs ErrorObject.Described
        r#"{"jsonrpc":"2.0","id":1,"error":[1,"m",null]}"# (.error .parse) ∧
      (ofText r#"{"jsonrpc":"2.0","id":1,"error":[1,"m",null]}"#).mapError
          (·.fault.kind) =
        .ok (.response { id := .int 1, error? := some { code := 1, message := "m" } }) := by
  constructor
  · refine .misshapen Sample.parse_listed (.response (.inr ⟨_, .head _⟩)) ?_
    rintro ⟨-, -, error?, habsent | ⟨hmem, hv⟩⟩
    · exact habsent _ (.head _)
    · simp only [List.mem_cons, Prod.mk.injEq, String.reduceEq, true_and, false_and, or_false,
        List.not_mem_nil] at hmem
      subst hmem
      cases hv with
      | value _ hdescribed => cases hdescribed
  · simp only [ofText, Sample.parse_listed]
    rfl

end ScriptAssist.Rpc
