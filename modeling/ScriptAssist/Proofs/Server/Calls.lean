import ScriptAssist.Proofs.Server.Lifecycle

/-!
# Sequences of calls

Whatever is done with a server, in whatever order, it goes forward through its phases, and by its
milestones only. From this it follows that it never lacks what it needs: a server that serves has
met its client and has an engine, so that the refusal for the want of one is never given.
-/

namespace ScriptAssist

open Json Rpc

theorem Stage.singleton_prefix_ahead_iff (st : Stage) (k : Milestone) :
    [k] <+: st.ahead ↔ st = k.due := by
  cases st <;> cases k <;> simp [ahead, Milestone.due]

namespace Server

/-- What a server becomes by calls. -/
def calls (s : Server) (cs : List Call) : Server :=
  cs.foldl (fun s c => (s.call c).1) s

/-- The milestone that a call passes: the one that it stands for, if it succeeds. -/
def gained : Option Milestone → (ok : Bool) → List Milestone
  | k?, true => k?.toList
  | _, false => []

/-- The milestones that calls pass, in order. -/
def passed (s : Server) : List Call → List Milestone
  | [] => []
  | c :: cs => gained c.milestone? (s.call c).2.isOk ++ (s.call c).1.passed cs

/-! ## Milestones -/

/-- What a call passes is what then lies no longer ahead, unless the end has come too early. -/
theorem Change.gained_append_ahead {s s' : Server} {k? : Option Milestone} {ok : Bool}
    (h : Change s k? ok s') :
    gained k? ok ++ s'.stage.ahead = s.stage.ahead ∨ gained k? ok = [] ∧ s'.stage = .ended := by
  rw [h.stage_eq]
  cases k? with
  | none => cases ok <;> exact .inl rfl
  | some k =>
    rw [h.ok_eq]
    show gained (some k) _ ++ (s.stage.after k).ahead = _ ∨ _ ∧ s.stage.after k = _
    by_cases hdue : s.stage = k.due
    · rw [decide_eq_true hdue, hdue, Stage.after_due]
      exact .inl (Stage.ahead_due k).symm
    · rw [decide_eq_false hdue]
      by_cases hexit : k = .exit
      · rw [hexit, Stage.after_exit]
        exact .inr ⟨rfl, rfl⟩
      · rw [Stage.after_of_ne hdue hexit]
        exact .inl rfl

/-- The milestones are passed in their order, each once at most. -/
theorem passed_prefix_ahead (s : Server) (cs : List Call) : s.passed cs <+: s.stage.ahead := by
  induction cs generalizing s with
  | nil => exact List.nil_prefix
  | cons c cs ih =>
    have hrest := ih (s.call c).1
    rcases (change_call s c).gained_append_ahead with h | ⟨hnone, hended⟩
    · rw [passed, ← h]
      exact (List.prefix_append_right_inj _).2 hrest
    · rw [hended] at hrest
      rw [passed, hnone, List.prefix_nil.1 hrest]
      exact List.nil_prefix

theorem stage_calls_of_ended {s : Server} (h : s.stage = .ended) (cs : List Call) :
    (s.calls cs).stage = .ended := by
  induction cs generalizing s with
  | nil => exact h
  | cons c cs ih =>
    refine ih ?_
    rw [(change_call s c).stage_eq, h]
    cases c.milestone? with
    | none => rfl
    | some k => cases k <;> rfl

/-- Unless it has ended, a server has passed all that does not lie ahead any more. -/
theorem passed_append_ahead {s : Server} {cs : List Call} (h : (s.calls cs).stage ≠ .ended) :
    s.passed cs ++ (s.calls cs).stage.ahead = s.stage.ahead := by
  induction cs generalizing s with
  | nil => rfl
  | cons c cs ih =>
    have hrest := ih (s := (s.call c).1) h
    rcases (change_call s c).gained_append_ahead with hgained | ⟨-, hended⟩
    · rw [passed, ← hgained, ← hrest, List.append_assoc]
      rfl
    · exact absurd (stage_calls_of_ended hended cs) h

/-- A milestone succeeds if it is the next one. -/
theorem isOk_call_iff {s : Server} {cs : List Call} {c : Call} {k : Milestone}
    (hk : c.milestone? = some k) (h : (s.calls cs).stage ≠ .ended) :
    ((s.calls cs).call c).2.isOk = true ↔ s.passed cs ++ [k] <+: s.stage.ahead := by
  have hchange := change_call (s.calls cs) c
  rw [hk] at hchange
  rw [hchange.ok_eq, decide_eq_true_iff, ← passed_append_ahead h, List.prefix_append_right_inj]
  exact (Stage.singleton_prefix_ahead_iff _ k).symm

/-- A milestone that succeeds, and the end in any case, leads to its stage. -/
theorem stage_call_of_isOk {s : Server} {c : Call} {k : Milestone} (hk : c.milestone? = some k)
    (h : (s.call c).2.isOk = true ∨ k = .exit) : (s.call c).1.stage = k.reached := by
  have hchange := change_call s c
  rw [hk] at hchange
  rw [hchange.ok_eq, decide_eq_true_iff] at h
  rw [hchange.stage_eq]
  exact if_pos h

/-! ## Phases -/

/-- How a call may change the phase, behind the milestones that have been passed before it. -/
inductive Passage (c : Call) (before : List Milestone) : Phase → Phase → Prop
  | stay (p : Phase) : Passage c before p p
  | serve (h : c.milestone? = some .ready) (hmet : .start ∈ before) :
      Passage c before .initializing .initialized
  | close (h : c.milestone? = some .close) : Passage c before .initialized .shuttingDown
  | exit (h : c.milestone? = some .exit) (p : Phase) : Passage c before p .shutDown

end Server

/-- The place of a phase among the others. -/
def Phase.rank : Phase → Nat
  | initializing => 0
  | initialized => 1
  | shuttingDown => 2
  | shutDown => 3

namespace Server

theorem Passage.rank_le {c : Call} {before : List Milestone} {p p' : Phase}
    (h : Passage c before p p') : p.rank ≤ p'.rank := by
  cases h with
  | stay => exact Nat.le_refl _
  | serve => decide
  | close => decide
  | exit => cases p <;> decide

theorem Change.passage {s s' : Server} {c : Call} {ok : Bool} {before : List Milestone}
    (h : Change s c.milestone? ok s') (hmet : s.stage = .met → .start ∈ before) :
    Passage c before s.phase s'.phase := by
  generalize hk : c.milestone? = k? at h
  cases h with
  | serve h =>
    rw [(stage_eq_met_iff.1 h).1, Step.phase_serve]
    exact .serve hk (hmet h)
  | close h =>
    rw [stage_eq_serving_iff.1 h]
    exact .close hk
  | exit => exact .exit hk s.phase
  | _ => exact .stay _

/-- No call leads back. -/
theorem rank_le_calls (s : Server) (cs : List Call) :
    s.phase.rank ≤ (s.calls cs).phase.rank := by
  induction cs generalizing s with
  | nil => exact Nat.le_refl _
  | cons c cs ih =>
    have hpassage : Passage c [.start] s.phase (s.call c).1.phase :=
      (change_call s c).passage fun _ => List.mem_singleton_self _
    exact Nat.le_trans hpassage.rank_le (ih (s.call c).1)

/-- A client that has been met is not forgotten by any number of calls. -/
theorem client?_calls {s : Server} (h : s.client?.isSome) (cs : List Call) :
    (s.calls cs).client? = s.client? := by
  induction cs generalizing s with
  | nil => rfl
  | cons c cs ih =>
    have hstep := (change_call s c).client?_eq h
    exact (ih (hstep ▸ h)).trans hstep

/-! ## What a server has -/

/-- The server has what it needs in its phase. -/
structure Sound (s : Server) : Prop where
  client : s.phase = .initialized ∨ s.phase = .shuttingDown → s.client?.isSome
  engine : s.client?.isSome → s.engine?.isSome

theorem Sound.change {s s' : Server} {k? : Option Milestone} {ok : Bool} (h : Sound s)
    (hchange : Change s k? ok s') : Sound s' := by
  cases hchange with
  | meet client => exact ⟨fun _ => rfl, fun _ => rfl⟩
  | serve hstage =>
    have hclient := (stage_eq_met_iff.1 hstage).2
    unfold Server.serve
    split <;> exact ⟨fun _ => hclient, h.engine⟩
  | close hstage =>
    have hclient := h.client (.inl (stage_eq_serving_iff.1 hstage))
    exact ⟨fun _ => hclient, h.engine⟩
  | exit =>
    refine ⟨fun hphase => ?_, h.engine⟩
    rcases hphase with hphase | hphase <;> cases hphase
  | equip e => exact ⟨h.client, fun _ => rfl⟩
  | refuse => exact h
  | _ => exact ⟨h.client, h.engine⟩

theorem Sound.calls {s : Server} (h : Sound s) (cs : List Call) : Sound (s.calls cs) := by
  induction cs generalizing s with
  | nil => exact h
  | cons c cs ih => exact ih (h.change (change_call s c))

theorem sound_new (settings : Settings) : Sound { settings } where
  client hphase := by rcases hphase with hphase | hphase <;> cases hphase
  engine hclient := nomatch hclient

/-! ## Refusals -/

theorem bind_ne_error {α β : Type} {x : Except Refusal α} {f : α → Except Refusal β}
    {refusal : Refusal} (hx : x ≠ .error refusal)
    (hf : ∀ a, x = .ok a → f a ≠ .error refusal) : x >>= f ≠ .error refusal := by
  cases x with
  | error other =>
    intro h
    obtain rfl : other = refusal := Except.error.inj h
    exact hx rfl
  | ok a => exact hf a rfl

theorem map_ne_error {α β : Type} {x : Except Refusal α} {f : α → β} {refusal : Refusal}
    (hx : x ≠ .error refusal) : x.map f ≠ .error refusal :=
  mt map_eq_error_iff.1 hx

theorem requireInitialized_ne_noEngine (s : Server) :
    s.requireInitialized ≠ .error .noEngine := by
  unfold requireInitialized
  split <;> exact fun h => nomatch h

theorem need_ne_noEngine {α : Type} (name : String) (a? : Option α) :
    Params.need name a? ≠ .error .noEngine := by
  cases a? <;> exact fun h => nomatch h

theorem uri_ne_noEngine (params : Value) : Params.uri params ≠ .error .noEngine :=
  bind_ne_error (need_ne_noEngine _ _) fun _ _ => need_ne_noEngine _ _

theorem position_ne_noEngine (params : Value) : Params.position params ≠ .error .noEngine :=
  bind_ne_error (need_ne_noEngine _ _) fun _ _ =>
    bind_ne_error (need_ne_noEngine _ _) fun _ _ =>
      bind_ne_error (need_ne_noEngine _ _) fun _ _ h => nomatch h

/-- Having an engine whenever it serves, a server never answers that it has none. -/
theorem Sound.completion_ne_noEngine {s : Server} (h : Sound s) (params : Value) :
    s.completion params ≠ .error .noEngine := by
  refine bind_ne_error s.requireInitialized_ne_noEngine fun _ hready => ?_
  refine bind_ne_error (uri_ne_noEngine params) fun uri _ => ?_
  refine bind_ne_error (position_ne_noEngine params) fun position _ => ?_
  have hphase := requireInitialized_eq_ok_iff.1 hready
  obtain ⟨engine, hengine⟩ :=
    Option.isSome_iff_exists.1 (h.engine (h.client (.inl hphase)))
  rw [hengine]
  cases s.documents.get? uri <;> exact fun h => nomatch h

theorem Sound.answer_ne_noEngine {s : Server} (h : Sound s) (r : Request) :
    s.answer r ≠ .error .noEngine := by
  unfold answer
  dsimp only
  split
  · unfold start
    split <;> exact fun h => nomatch h
  · exact bind_ne_error s.requireInitialized_ne_noEngine fun _ _ h => nomatch h
  · exact map_ne_error (h.completion_ne_noEngine _)
  · refine bind_ne_error s.requireInitialized_ne_noEngine fun _ _ => ?_
    refine bind_ne_error (need_ne_noEngine _ _) fun command _ => ?_
    refine bind_ne_error ?_ fun _ _ h => nomatch h
    unfold ClientAction.ofCommand
    split <;> exact fun h => nomatch h
  · exact fun h => nomatch h

end Server

/-- All refusals but one are the client's fault. -/
theorem Refusal.code_mem {refusal : Refusal} (h : refusal ≠ .noEngine) :
    refusal.fault.code ∈ [-32600, -32601, -32602] := by
  cases refusal with
  | noEngine => exact absurd rfl h
  | _ => simp [fault, Fault.code, FaultKind.code]

theorem Refusal.kind_eq_internal_iff {refusal : Refusal} :
    refusal.fault.kind = .internal ↔ refusal = .noEngine := by
  cases refusal <;> simp [fault]

namespace Server

/-- The codes of all errors that a sound server answers with. -/
theorem Sound.code_of_handle {s : Server} (h : Sound s) {m : Message} {reply : Response}
    {e : ErrorObject} (hreply : (s.handle m).2 = some (.response reply))
    (he : reply.error? = some e) : e.code ∈ [-32600, -32601, -32602] := by
  cases m with
  | request r =>
    cases hanswer : s.answer r with
    | ok outcome =>
      rw [handle_of_answer hanswer] at hreply
      cases hreply
      cases he
    | error refusal =>
      rw [handle_of_refusal hanswer] at hreply
      cases hreply
      cases he
      refine Refusal.code_mem ?_
      rintro rfl
      exact h.answer_ne_noEngine r hanswer
  | response r => cases hreply
  | notification n => cases hreply

/-! ## All of it -/

/-- A server that was new once, and all that can be done with it. The milestones succeed in their
order, each once at most, and as long as the end has not come the next one always does; the phase
changes with them only, and never back. A server that serves or waits for the end knows its client
and has an engine, and what it knows of the client does not change any more. Hence a query never
fails for the want of an engine, and every error that the server answers with is one of three,
which all blame the client. -/
theorem calls_lifecycle (settings : Settings) (cs : List Call) :
    let s := Server.calls { settings } cs
    let before := Server.passed { settings } cs
    before <+: [.start, .ready, .close, .exit] ∧
      (∀ c k, c.milestone? = some k →
        (s.phase ≠ .shutDown →
          ((s.call c).2.isOk = true ↔ before ++ [k] <+: [.start, .ready, .close, .exit])) ∧
        ((s.call c).2.isOk = true ∨ k = .exit → (s.call c).1.stage = k.reached)) ∧
      (∀ c, Passage c before s.phase (s.call c).1.phase) ∧
      (∀ later, s.phase.rank ≤ (s.calls later).phase.rank) ∧
      (s.phase = .initialized ∨ s.phase = .shuttingDown →
        s.client?.isSome ∧ s.engine?.isSome) ∧
      (∀ later client, s.client? = some client → (s.calls later).client? = some client) ∧
      (∀ params refusal, s.completion params = .error refusal →
        refusal.fault.kind ≠ .internal) ∧
      ∀ m reply e, (s.handle m).2 = some (.response reply) → reply.error? = some e →
        e.code ∈ [-32600, -32601, -32602] := by
  intro s before
  have hsound : Sound s := (sound_new settings).calls cs
  refine ⟨passed_prefix_ahead _ cs, fun c k hk => ⟨fun hphase => ?_, stage_call_of_isOk hk⟩,
    fun c => ?_, s.rank_le_calls, fun hphase => ?_, ?_, ?_, ?_⟩
  · exact isOk_call_iff hk (mt stage_eq_ended_iff.1 hphase)
  · refine (change_call s c).passage fun hmet => ?_
    -- A server that has met its client has passed that milestone, and no other.
    have hpassed : before ++ s.stage.ahead = Stage.new.ahead :=
      passed_append_ahead (hmet ▸ Stage.noConfusion)
    rw [hmet] at hpassed
    have hbefore : before = [.start] := List.append_cancel_right hpassed
    rw [hbefore]
    exact List.mem_singleton_self _
  · have hclient := hsound.client hphase
    exact ⟨hclient, hsound.engine hclient⟩
  · intro later client hclient
    rw [client?_calls (Option.isSome_of_eq_some hclient) later, hclient]
  · intro params refusal hrefusal hkind
    rw [Refusal.kind_eq_internal_iff.1 hkind] at hrefusal
    exact hsound.completion_ne_noEngine params hrefusal
  · intro m reply e hreply he
    exact hsound.code_of_handle hreply he

end Server

/-- A server is told too early that its client is ready, is given an engine, is introduced to the
client twice, serves, and is told that the end is near. -/
def Sample.hasty : List Call :=
  [.initialized, .useEngine ⟨fun _ _ _ => []⟩, .start .null, .start .null,
    .message (.notification { method := "initialized" }), .setDocument "a.js" "frappe.", .drain,
    .shutdown]

/-- It still knows its client, has an engine, and blames the client. -/
theorem Server.calls_lifecycle_hasty :
    let s := Server.calls { settings := {} } Sample.hasty
    (s.call .exit).2.isOk = true ∧ (s.call (.start .null)).2.isOk ≠ true ∧
      s.phase = .shuttingDown ∧ s.client?.isSome ∧ s.engine?.isSome ∧
      (∃ client, s.client? = some client ∧
        (s.calls [.start (.object []), .exit, .start .null]).client? = some client) ∧
      (∃ refusal, s.completion .null = .error refusal ∧ refusal.fault.kind ≠ .internal) ∧
      ∃ reply e, (s.handle (.request { id := .int 1, method := "initialize" })).2 =
          some (.response reply) ∧
        reply.error? = some e ∧ e.code ∈ [-32600, -32601, -32602] := by
  obtain ⟨-, hnext, -, -, hhas, hclient, hquery, hcode⟩ := Server.calls_lifecycle {} Sample.hasty
  have hserved : (Server.calls { settings := {} } Sample.hasty).phase ≠ .shutDown :=
    Phase.noConfusion
  obtain ⟨hmet, hequipped⟩ := hhas (.inr rfl)
  obtain ⟨client, hknown⟩ := Option.isSome_iff_exists.1 hmet
  refine ⟨((hnext .exit .exit rfl).1 hserved).2 (by decide), ?_, rfl, hmet, hequipped,
    ⟨client, hknown, hclient _ client hknown⟩, ?_, ?_⟩
  · intro hagain
    exact absurd (((hnext (.start .null) .start rfl).1 hserved).1 hagain) (by decide)
  · exact ⟨.notInitialized, rfl, hquery .null _ rfl⟩
  · have hreply : ((Server.calls { settings := {} } Sample.hasty).handle
        (.request { id := .int 1, method := "initialize" })).2 =
          some (.response (.failure (.int 1) Refusal.notInitializing.fault)) := rfl
    exact ⟨_, _, hreply, rfl, hcode _ _ _ hreply rfl⟩

end ScriptAssist
