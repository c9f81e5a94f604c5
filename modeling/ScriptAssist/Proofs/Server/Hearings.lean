import ScriptAssist.Proofs.Server.CleanExit
import ScriptAssist.Proofs.Server.Completion
import ScriptAssist.Proofs.Server.ShortWrites

/-!
# Hearings

The readings of a session, each with the server that hears it: so it can be said of every single
one what the server was like and what it sent. What every message preserves holds of all these
servers (`forall_mem_hearings`), and a run writes what is sent in all hearings (`written_run`).
-/

namespace ScriptAssist

open Json Rpc

/-- A reading, and the server that hears it. -/
structure Hearing where
  server : Server
  reading : Reading

namespace Hearing

/-- What the server sends then. -/
def sent (h : Hearing) : List Message :=
  (h.server.hear h.reading).2

/-- The message that is heard, if it is one. -/
def message? (h : Hearing) : Option Message :=
  h.reading.message?

end Hearing

namespace Server

/-- The hearings of one reading after another. -/
def hearings (s : Server) : List Reading → List Hearing
  | [] => []
  | r :: rest => ⟨s, r⟩ :: (s.hear r).1.hearings rest

theorem hearAll_snd_eq_map (s : Server) (rs : List Reading) :
    (s.hearAll rs).2 = (s.hearings rs).map Hearing.sent := by
  induction rs generalizing s with
  | nil => rfl
  | cons r rs ih =>
    rw [hearAll, hearings, List.map_cons, ih]
    rfl

/-- A message changes the server as it is handled, and then nothing waits any more; any other
reading leaves it as it is. -/
theorem hear_eq (s : Server) (r : Reading) :
    (∃ m, r.message? = some m ∧
      s.hear r = ({ (s.handle m).1 with outbox := [] },
        (s.handle m).2.toList ++ (s.handle m).1.outbox)) ∨
    r.message? = none ∧ (s.hear r).1 = s ∧
      ∀ m ∈ (s.hear r).2, ∃ reply, m = .response reply := by
  unfold hear Reading.message?
  match r.outcome with
  | .ok (some m) => exact .inl ⟨m, rfl, rfl⟩
  | .ok none => exact .inr ⟨rfl, rfl, nofun⟩
  | .error fault => by_cases hio : fault.fault.kind = .io <;> simp [hio]

/-- What every message preserves is preserved when a reading is heard. -/
theorem hear_preserves {P : Server → Prop}
    (hhandle : ∀ s m, P s → P { (s.handle m).1 with outbox := [] }) {s : Server} (hs : P s)
    (r : Reading) : P (s.hear r).1 := by
  rcases s.hear_eq r with ⟨m, -, hheard⟩ | ⟨-, hsame, -⟩
  · rw [hheard]
    exact hhandle s m hs
  · rw [hsame]
    exact hs

theorem forall_mem_hearings {P : Server → Prop}
    (hhandle : ∀ s m, P s → P { (s.handle m).1 with outbox := [] }) {s : Server} (hs : P s)
    (rs : List Reading) : ∀ h ∈ s.hearings rs, P h.server := by
  induction rs generalizing s with
  | nil => exact List.forall_mem_nil _
  | cons r rs ih => exact List.forall_mem_cons.2 ⟨hs, ih (hear_preserves hhandle hs r)⟩

/-- Nothing waits when a reading is heard. -/
theorem outbox_of_mem_hearings {s : Server} (h : s.outbox = []) (rs : List Reading) :
    ∀ heard ∈ s.hearings rs, heard.server.outbox = [] :=
  forall_mem_hearings (P := fun s => s.outbox = []) (fun _ _ _ => rfl) h rs

theorem settings_hear (s : Server) (r : Reading) : (s.hear r).1.settings = s.settings :=
  hear_preserves (P := fun s' => s'.settings = s.settings)
    (fun s' m h => (step_handle s' m).settings_eq.trans h) rfl r

/-- The settings are the same in all hearings. -/
theorem settings_of_mem_hearings (s : Server) (rs : List Reading) :
    ∀ heard ∈ s.hearings rs, heard.server.settings = s.settings :=
  forall_mem_hearings (P := fun s' => s'.settings = s.settings)
    (fun s' m h => (step_handle s' m).settings_eq.trans h) rfl rs

/-- A run writes what is sent in its hearings, as far as there is room for it. -/
theorem written_run (settings : Settings) {input : List UInt8} {before : List Reading}
    {last : Reading} (h : Session input before last) :
    let bytes := ((hearings { settings } (before ++ [last])).flatMap Hearing.sent).flatMap
      Message.frame
    (run { settings } {} input).sink.written = bytes ∧
      ∀ room, (run { settings } { room? := some room } input).sink.written = bytes.take room := by
  have hfull := written_run_eq_frames settings h
  rw [hearAll_snd_eq_map, ← List.flatMap_def] at hfull
  refine ⟨hfull, fun room => ?_⟩
  obtain ⟨bytes, hshort⟩ := exists_shortens (input.length + 1) { settings } [] input room
  have hbytes : (run { settings } {} input).sink.written = bytes :=
    congrArg Sink.written hshort.full_sink
  rw [← hfull, hbytes]
  exact hshort.written_eq

end Server

/-- A message is answered at once, and then what waits is sent. -/
theorem Hearing.sent_of_message {h : Hearing} {m : Message} (hmessage : h.message? = some m) :
    h.sent = (h.server.handle m).2.toList ++ (h.server.handle m).1.outbox := by
  rcases h.server.hear_eq h.reading with ⟨m', hm', hheard⟩ | ⟨hnone, -, -⟩
  · obtain rfl : m' = m := Option.some.inj (hm'.symm.trans hmessage)
    exact congrArg Prod.snd hheard
  · cases hnone.symm.trans hmessage

/-! ## Clients -/

namespace Sample

theorem sendable_hello : (Message.request hello).Sendable := by
  have hid : Value.Printable 126 (.int 1) := .int (by decide) (by decide)
  have hvalues : ∀ v ∈ (Message.request hello).values, v.sorted = v ∧ v.Printable 126 := by
    refine List.forall_mem_cons.2 ⟨⟨rfl, hid⟩, List.forall_mem_singleton.2 ⟨rfl, ?_⟩⟩
    simp [Value.printable_object_iff, Value.Printable.bool]
  exact .of_call rfl hvalues (by decide +kernel)

theorem sendable_ready : (Message.notification ready).Sendable :=
  .of_call rfl (List.forall_mem_nil _) (by decide +kernel)

end Sample

end ScriptAssist
