import ScriptAssist.Proofs.Server.Step

/-!
# Parameters

What the server finds in the parameters of a query, told by the paths at which it looks. A document
and a position are found if they are there in the right types; a character counts as typed only if
the context says so, and says which one it was (`trigger_eq_typed_iff`).
-/

namespace ScriptAssist

open Json Rpc

/-! ## Values at paths -/

namespace Json.Value

theorem path?_cons (key : String) (keys : List String) (v : Value) :
    v.path? (key :: keys) = (v.get? key).bind (·.path? keys) := rfl

theorem path?_pair (key key' : String) (v : Value) :
    v.path? [key, key'] = (v.get? key).bind (·.get? key') := by
  rw [path?_cons]
  congr 1
  funext inner
  rw [path?_cons]
  cases inner.get? key' <;> rfl

theorem natural?_eq_some_iff {v : Value} {n : Nat} : v.natural? = some n ↔ v = .int n := by
  constructor
  · intro h
    match v, h with
    | .number (.int (.ofNat m)), h =>
      exact congrArg (fun n : Nat => Value.int n) (Option.some.inj h)
  · rintro rfl
    rfl

theorem text?_eq_some_iff {v : Value} {s : String} : v.text? = some s ↔ v = .text s := by
  constructor
  · intro h
    match v, h with
    | .text t, h => exact congrArg Value.text (Option.some.inj h)
  · rintro rfl
    rfl

end Json.Value

theorem head?_toList_eq_some_iff {s : String} {c : Char} :
    s.toList.head? = some c ↔ ∃ rest, s = String.ofList (c :: rest) := by
  rw [List.head?_eq_some_iff]
  constructor
  · rintro ⟨rest, hrest⟩
    exact ⟨rest, by rw [← hrest, String.ofList_toList]⟩
  · rintro ⟨rest, rfl⟩
    exact ⟨rest, String.toList_ofList⟩

/-! ## Documents, positions and triggers -/

/-- The context says that a character was typed. -/
def IsTyped (params : Value) (c : Char) : Prop :=
  params.path? ["context", "triggerKind"] = some (.int 2) ∧
    ∃ rest, params.path? ["context", "triggerCharacter"] = some (.text (String.ofList (c :: rest)))

namespace Params

theorem uri_eq_ok {params : Value} {uri : String}
    (h : params.path? ["textDocument", "uri"] = some (.text uri)) :
    Params.uri params = .ok uri := by
  rw [Value.path?_pair] at h
  obtain ⟨document, hdocument, huri⟩ := Option.bind_eq_some_iff.1 h
  refine bind_eq_ok_iff.2 ⟨document, congrArg (need "textDocument") hdocument, ?_⟩
  exact congrArg (fun v? => need "uri" (v?.bind Value.text?)) huri

theorem position_eq_ok {params : Value} {line character : Nat}
    (hline : params.path? ["position", "line"] = some (.int line))
    (hcharacter : params.path? ["position", "character"] = some (.int character)) :
    Params.position params = .ok ⟨saturate line, saturate character⟩ := by
  rw [Value.path?_pair] at hline hcharacter
  obtain ⟨position, hposition, hline⟩ := Option.bind_eq_some_iff.1 hline
  rw [hposition, Option.bind_some] at hcharacter
  refine bind_eq_ok_iff.2 ⟨position, congrArg (need "position") hposition, ?_⟩
  refine bind_eq_ok_iff.2 ⟨line, ?_, bind_eq_ok_iff.2 ⟨character, ?_, rfl⟩⟩
  · exact congrArg (fun v? => need "line" (v?.bind Value.natural?)) hline
  · exact congrArg (fun v? => need "character" (v?.bind Value.natural?)) hcharacter

theorem toNat_saturate (n : Nat) : (saturate n).toNat = min n 0xFFFFFFFF := by
  have hlt : min n 0xFFFFFFFF < UInt32.size := Nat.lt_of_le_of_lt (Nat.min_le_right _ _) (by decide)
  exact UInt32.toNat_ofNat_of_lt hlt

/-- A character counts as typed only if the context says so, and says which one it was. -/
theorem trigger_eq_typed_iff {params : Value} {c : Char} :
    trigger params = .typed c ↔ IsTyped params c := by
  have hkind : (params.path? ["context", "triggerKind"]).bind Value.natural? = some 2 ↔
      params.path? ["context", "triggerKind"] = some (.int 2) := by
    simp only [Option.bind_eq_some_iff, Value.natural?_eq_some_iff, exists_eq_right]
    rfl
  have htext : ((params.path? ["context", "triggerCharacter"]).bind Value.text?).bind
        (·.toList.head?) = some c ↔
      ∃ rest, params.path? ["context", "triggerCharacter"] =
        some (.text (String.ofList (c :: rest))) := by
    simp only [Option.bind_eq_some_iff, Value.text?_eq_some_iff, exists_eq_right,
      head?_toList_eq_some_iff]
    constructor
    · rintro ⟨s, hs, rest, rfl⟩
      exact ⟨rest, hs⟩
    · rintro ⟨rest, hrest⟩
      exact ⟨_, hrest, rest, rfl⟩
  -- The reader needs both members at once, so each is brought to what it finds there.
  unfold IsTyped trigger
  rw [← hkind, ← htext]
  dsimp only
  split
  · next kind d hkind' hchar =>
    rw [hkind', hchar]
    unfold typedCode
    split
    · next h => simp [h]
    · next h => simp [h]
  · next hnone =>
    refine ⟨fun h => (nomatch h), fun h => ?_⟩
    exact absurd h.2 (hnone 2 c h.1)

end Params

end ScriptAssist
