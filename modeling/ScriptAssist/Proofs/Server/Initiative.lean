import ScriptAssist.Proofs.Server.Hearings

/-!
# Messages of the server's own accord

Apart from answers a client is sent two kinds of message: a greeting when the server begins to
serve, and a request to open the documentation behind the answer to each command that is carried
out. The requests are numbered from one on, as long as there are numbers (`run_initiative`).
-/

namespace ScriptAssist

open Json Rpc

namespace Rpc.Message

/-- Whether it is a request. -/
def isRequest : Message → Bool
  | request _ => true
  | _ => false

/-- Whether it is a notification. -/
def isNotification : Message → Bool
  | notification _ => true
  | _ => false

/-- Whether it is a response with a result. -/
def isSuccess : Message → Bool
  | response r => r.result?.isSome
  | _ => false

end Rpc.Message

/-- The greeting of the server. -/
def greeting : Message :=
  .notification { method := "window/showMessage", params? := some welcomeParams }

/-- The request of the server to open an address, with its number. -/
def documentRequest (url : String) (number : Int) : Message :=
  .request {
    id := .int number
    method := "window/showDocument"
    params? := some <| .ofMembers [("uri", .text url), ("external", .bool true),
      ("takeFocus", .bool true)] }

namespace Hearing

/-- A command is to be carried out, and the answer has a result. -/
def obeys (h : Hearing) : Bool :=
  match h.message? with
  | some (.request r) =>
    r.method = RequestMethod.executeCommand.name && h.sent.any Message.isSuccess
  | _ => false

/-- The client says that it is ready, and the server accepts this. -/
def begins (h : Hearing) : Bool :=
  match h.message? with
  | some (.notification n) =>
    n.method = NotificationMethod.initialized.name && (h.server.note n).2.isOk
  | _ => false

end Hearing

/-! ## One hearing -/

/-- What the server sends of its own accord in one hearing. -/
inductive Initiative (h : Hearing) (after : Server) : Prop
  | documents {r : Request} (hobeys : h.obeys = true) (hbegins : h.begins = false)
      (hmessage : h.message? = some (.request r))
      (hsent : h.sent = [.response (.success r.id .null),
        documentRequest h.server.settings.documentationUrl h.server.nextId.toInt])
      (hnext : after.nextId = h.server.nextId + 1)
  | greets (hobeys : h.obeys = false) (hbegins : h.begins = true)
      (hphase : h.server.phase = .initializing) (hafter : after.phase = .initialized)
      (hsent : h.sent = if h.server.settings.showWelcome then [greeting] else [])
      (hnext : after.nextId = h.server.nextId)
  | answers (hobeys : h.obeys = false) (hbegins : h.begins = false)
      (hsent : ∀ m ∈ h.sent, ∃ reply, m = .response reply)
      (hnext : after.nextId = h.server.nextId)

namespace Server

/-- Only commands make the server ask for something. -/
theorem answer_eq_ok_cases {s s' : Server} {r : Request} {result : Value}
    (h : s.answer r = .ok (s', result)) :
    (r.method = RequestMethod.executeCommand.name ∧ result = .null ∧
      s' = s.ask (.showDocument s.settings.documentationUrl)) ∨
    r.method ≠ RequestMethod.executeCommand.name ∧ s'.outbox = s.outbox ∧
      s'.nextId = s.nextId := by
  have hname : ∀ {m : RequestMethod}, RequestMethod.ofName? r.method = some m →
      m ≠ .executeCommand → r.method ≠ RequestMethod.executeCommand.name := by
    intro m hm hne hmethod
    rw [hmethod, RequestMethod.ofName?_name] at hm
    exact hne (Option.some.inj hm).symm
  unfold answer at h
  dsimp only at h
  split at h
  · next hmethod =>
    obtain ⟨-, -, rfl, -⟩ := start_eq_ok_iff.1 h
    exact .inr ⟨hname hmethod (by decide), rfl, rfl⟩
  · next hmethod =>
    obtain ⟨-, rfl, -⟩ := shutdown_eq_ok_iff.1 h
    exact .inr ⟨hname hmethod (by decide), rfl, rfl⟩
  · next hmethod =>
    obtain ⟨items, -, hsame⟩ := map_eq_ok_iff.1 h
    cases hsame
    exact .inr ⟨hname hmethod (by decide), rfl, rfl⟩
  · next hmethod =>
    obtain ⟨-, rfl, rfl⟩ := executeCommand_eq_ok h
    exact .inl ⟨eq_name_of_find? hmethod, rfl, rfl⟩
  · cases h

theorem outbox_serve (s : Server) :
    s.serve.outbox = s.outbox ++ if s.settings.showWelcome then [greeting] else [] := by
  unfold serve
  split
  · rfl
  · exact (List.append_nil _).symm

theorem nextId_serve (s : Server) : s.serve.nextId = s.nextId := by
  unfold serve
  split <;> rfl

theorem settle_edit {s : Server} {outcome : Except Refusal Server}
    (hok : ∀ s', outcome = .ok s' →
      s.phase = .initialized ∧ ∃ documents, s' = { s with documents }) :
    (s.settle outcome).1.outbox = s.outbox ∧ (s.settle outcome).1.nextId = s.nextId := by
  cases outcome with
  | error refusal => exact ⟨rfl, rfl⟩
  | ok s' =>
    obtain ⟨-, documents, rfl⟩ := hok s' rfl
    exact ⟨rfl, rfl⟩

/-- Only a client that is ready at the right time is greeted. -/
theorem note_cases (s : Server) (n : Notification) :
    (n.method = NotificationMethod.initialized.name ∧ s.phase = .initializing ∧
      s.note n = (s.serve, .ok ())) ∨
    (n.method = NotificationMethod.initialized.name → (s.note n).2.isOk = false) ∧
      (s.note n).1.outbox = s.outbox ∧ (s.note n).1.nextId = s.nextId := by
  by_cases hmethod : n.method = NotificationMethod.initialized.name
  · rw [note, hmethod, NotificationMethod.ofName?_name]
    dsimp only
    cases houtcome : s.initialized with
    | ok s' =>
      obtain ⟨hphase, -, rfl⟩ := initialized_eq_ok_iff.1 houtcome
      exact .inl ⟨rfl, hphase, rfl⟩
    | error refusal => exact .inr ⟨fun _ => rfl, rfl, rfl⟩
  · refine .inr ⟨fun h => absurd h hmethod, ?_⟩
    unfold note
    dsimp only
    split
    · next hname => exact absurd (eq_name_of_find? hname) hmethod
    · exact settle_edit fun s' h => didOpen_eq_ok h
    · exact settle_edit fun s' h => didChange_eq_ok h
    · exact settle_edit fun s' h => didClose_eq_ok h
    · exact ⟨rfl, rfl⟩
    · exact ⟨rfl, rfl⟩

end Server

namespace Hearing

variable {h : Hearing} {r : Request} {n : Notification}

theorem obeys_of_request (hmessage : h.message? = some (.request r)) :
    h.obeys =
      (decide (r.method = RequestMethod.executeCommand.name) && h.sent.any Message.isSuccess) := by
  unfold obeys
  rw [hmessage]

theorem begins_of_notification (hmessage : h.message? = some (.notification n)) :
    h.begins =
      (decide (n.method = NotificationMethod.initialized.name) && (h.server.note n).2.isOk) := by
  unfold begins
  rw [hmessage]

theorem obeys_eq_false (hmessage : ∀ r, h.message? ≠ some (.request r)) : h.obeys = false := by
  unfold obeys
  split
  · next heq => exact absurd heq (hmessage _)
  · rfl

theorem begins_eq_false (hmessage : ∀ n, h.message? ≠ some (.notification n)) :
    h.begins = false := by
  unfold begins
  split
  · next heq => exact absurd heq (hmessage _)
  · rfl

theorem initiative_request (houtbox : h.server.outbox = [])
    (hmessage : h.message? = some (.request r)) :
    Initiative h (h.server.handle (.request r)).1.drain.1 := by
  have hbegins : h.begins = false := begins_eq_false (by simp [hmessage])
  have hsent := sent_of_message hmessage
  cases hanswer : h.server.answer r with
  | error refusal =>
    rw [Server.handle_of_refusal hanswer, houtbox] at hsent
    rw [Server.handle_of_refusal hanswer]
    refine .answers ?_ hbegins ?_ rfl
    · rw [obeys_of_request hmessage, hsent]
      simp [Message.isSuccess, Response.failure]
    · simp [hsent]
  | ok outcome =>
    obtain ⟨s', result⟩ := outcome
    rw [Server.handle_of_answer hanswer] at hsent ⊢
    rcases Server.answer_eq_ok_cases hanswer with ⟨hmethod, rfl, rfl⟩ | ⟨hmethod, hsame, hnext⟩
    · rw [Server.ask, houtbox] at hsent
      refine .documents ?_ hbegins hmessage hsent rfl
      rw [obeys_of_request hmessage, decide_eq_true hmethod, hsent]
      rfl
    · rw [hsame, houtbox] at hsent
      refine .answers ?_ hbegins ?_ hnext
      · rw [obeys_of_request hmessage, decide_eq_false hmethod, Bool.false_and]
      · simp [hsent]

theorem initiative_notification (houtbox : h.server.outbox = [])
    (hmessage : h.message? = some (.notification n)) :
    Initiative h (h.server.handle (.notification n)).1.drain.1 := by
  have hobeys : h.obeys = false := obeys_eq_false (by simp [hmessage])
  have hsent : h.sent = (h.server.note n).1.outbox := sent_of_message hmessage
  show Initiative h (h.server.note n).1.drain.1
  rcases h.server.note_cases n with ⟨hmethod, hphase, hnote⟩ | ⟨hrefused, hsame, hnext⟩
  · have hbegins : h.begins = true := by
      rw [begins_of_notification hmessage, decide_eq_true hmethod, hnote]
      rfl
    rw [hnote] at hsent ⊢
    refine .greets hobeys hbegins hphase (Server.Step.phase_serve _) ?_ (Server.nextId_serve _)
    rw [hsent, Server.outbox_serve, houtbox, List.nil_append]
  · have hbegins : h.begins = false := by
      rw [begins_of_notification hmessage]
      exact Bool.and_eq_false_imp.2 fun hmethod => hrefused (of_decide_eq_true hmethod)
    refine .answers hobeys hbegins ?_ hnext
    rw [hsent, hsame, houtbox]
    exact List.forall_mem_nil _

/-- There is no other way in which the server sends something of its own accord. -/
theorem initiative (houtbox : h.server.outbox = []) :
    Initiative h (h.server.hear h.reading).1 := by
  rcases h.server.hear_eq h.reading with ⟨m, hmessage, hheard⟩ | ⟨hnone, hsame, hsent⟩
  · rw [hheard]
    have hmessage : h.message? = some m := hmessage
    cases m with
    | response r =>
      refine .answers (obeys_eq_false ?_) (begins_eq_false ?_) ?_ rfl
      · simp [hmessage]
      · simp [hmessage]
      · rw [sent_of_message hmessage]
        simp [Server.handle, houtbox]
    | request r => exact initiative_request houtbox hmessage
    | notification n => exact initiative_notification houtbox hmessage
  · have hnone : h.message? = none := hnone
    refine .answers (obeys_eq_false ?_) (begins_eq_false ?_) hsent (congrArg Server.nextId hsame)
    · simp [hnone]
    · simp [hnone]

end Hearing

/-! ## All hearings -/

namespace Initiative

variable {h : Hearing} {after : Server}

theorem filter_isRequest_sent (hi : Initiative h after) :
    h.sent.filter Message.isRequest =
      if h.obeys then [documentRequest h.server.settings.documentationUrl h.server.nextId.toInt]
      else [] := by
  cases hi with
  | documents hobeys _ _ hsent =>
    rw [hobeys, hsent]
    rfl
  | greets hobeys _ _ _ hsent =>
    rw [hobeys, hsent]
    cases h.server.settings.showWelcome <;> rfl
  | answers hobeys _ hsent =>
    rw [hobeys]
    refine List.filter_eq_nil_iff.2 fun m hm => ?_
    obtain ⟨reply, rfl⟩ := hsent m hm
    exact Bool.false_ne_true

theorem filter_isNotification_sent (hi : Initiative h after) :
    h.sent.filter Message.isNotification =
      if h.server.settings.showWelcome && h.begins then [greeting] else [] := by
  cases hi with
  | documents _ hbegins _ hsent =>
    rw [hbegins, hsent, Bool.and_false]
    rfl
  | greets _ hbegins _ _ hsent =>
    rw [hbegins, hsent]
    cases h.server.settings.showWelcome <;> rfl
  | answers _ hbegins hsent =>
    rw [hbegins, Bool.and_false]
    refine List.filter_eq_nil_iff.2 fun m hm => ?_
    obtain ⟨reply, rfl⟩ := hsent m hm
    exact Bool.false_ne_true

theorem nextId_eq (hi : Initiative h after) :
    after.nextId = if h.obeys then h.server.nextId + 1 else h.server.nextId := by
  cases hi with
  | documents hobeys _ _ _ hnext =>
    rw [hobeys, hnext]
    rfl
  | greets hobeys _ _ _ _ hnext =>
    rw [hobeys, hnext]
    rfl
  | answers hobeys _ _ hnext =>
    rw [hobeys, hnext]
    rfl

end Initiative

namespace Server

/-- The requests in all that is sent have numbers one after another, one for each command. -/
theorem filter_isRequest_hearings {s : Server} (houtbox : s.outbox = []) (rs : List Reading) :
    ((s.hearings rs).flatMap Hearing.sent).filter Message.isRequest =
      (List.range ((s.hearings rs).countP Hearing.obeys)).map fun n =>
        documentRequest s.settings.documentationUrl (s.nextId + .ofNat n).toInt := by
  induction rs generalizing s with
  | nil => rfl
  | cons r rs ih =>
    have hi := Hearing.initiative (h := ⟨s, r⟩) houtbox
    rw [hearings, List.flatMap_cons, List.filter_append, hi.filter_isRequest_sent,
      ih (outbox_hear houtbox r), settings_hear, hi.nextId_eq, List.countP_cons]
    cases Hearing.obeys ⟨s, r⟩ with
    | false => rfl
    | true =>
      have hnumber (n : Nat) : s.nextId + 1 + .ofNat n = s.nextId + .ofNat (n + 1) := by
        rw [Int64.ofNat_add, Int64.add_assoc, Int64.add_comm 1]
        rfl
      simp [List.range_succ_eq_map, hnumber]

/-- A new server numbers its requests from one on. The numbers have 64 bits. -/
theorem filter_isRequest_of_new (settings : Settings) (rs : List Reading) :
    let hearings := hearings { settings } rs
    (hearings.flatMap Hearing.sent).filter Message.isRequest =
      (List.range' 1 (hearings.countP Hearing.obeys)).map fun n =>
        documentRequest settings.documentationUrl (Int64.ofNat n).toInt := by
  intro hearings
  rw [filter_isRequest_hearings rfl, List.range'_eq_map_range, List.map_map]
  refine List.map_congr_left fun n _ => ?_
  show _ = documentRequest settings.documentationUrl (Int64.ofNat (1 + n)).toInt
  rw [Int64.ofNat_add]
  rfl

/-- Numbers of 64 bits are enough for less than `2 ^ 63` requests. -/
theorem map_documentRequest_range' (url : String) {k : Nat} (hk : k < 2 ^ 63) :
    ((List.range' 1 k).map fun n => documentRequest url (Int64.ofNat n).toInt) =
      (List.range' 1 k).map fun n : Nat => documentRequest url n := by
  refine List.map_congr_left fun n hn => ?_
  have hle := (List.mem_range'_1.1 hn).2
  rw [Int64.toInt_ofNat_of_lt (by omega)]

theorem filter_isNotification_hearings {s : Server} (houtbox : s.outbox = []) (rs : List Reading) :
    ((s.hearings rs).flatMap Hearing.sent).filter Message.isNotification =
      List.replicate ((s.hearings rs).countP fun h => s.settings.showWelcome && h.begins)
        greeting := by
  induction rs generalizing s with
  | nil => rfl
  | cons r rs ih =>
    have hi := Hearing.initiative (h := ⟨s, r⟩) houtbox
    rw [hearings, List.flatMap_cons, List.filter_append, hi.filter_isNotification_sent,
      ih (outbox_hear houtbox r), settings_hear, List.countP_cons]
    cases s.settings.showWelcome && Hearing.begins ⟨s, r⟩ with
    | false => rfl
    | true => rfl

/-- A server that no longer waits to be initialized never does so again. -/
theorem Step.phase_ne_initializing {s s' : Server} {m : Message} (h : Step s m s')
    (hphase : s.phase ≠ .initializing) : s'.phase ≠ .initializing := by
  cases h with
  | keep => exact hphase
  | meet _ hnew => exact absurd hnew hphase
  | serve _ hnew => exact absurd hnew hphase
  | edit => exact hphase
  | ask => exact hphase
  | close => exact Phase.noConfusion
  | exit => exact Phase.noConfusion

theorem begins_eq_false_of_phase {s : Server} (houtbox : s.outbox = [])
    (hphase : s.phase ≠ .initializing) (rs : List Reading) :
    ∀ h ∈ s.hearings rs, h.begins = false := by
  intro h hmem
  have hlate : h.server.phase ≠ .initializing :=
    forall_mem_hearings (P := fun s => s.phase ≠ .initializing)
      (fun s m hs => (step_handle s m).phase_ne_initializing hs) hphase rs h hmem
  cases Hearing.initiative (outbox_of_mem_hearings houtbox rs h hmem) with
  | documents _ hbegins => exact hbegins
  | greets _ _ hnew => exact absurd hnew hlate
  | answers _ hbegins => exact hbegins

/-- The server begins to serve once at most. -/
theorem countP_begins_le_one {s : Server} (houtbox : s.outbox = []) (rs : List Reading) :
    (s.hearings rs).countP Hearing.begins ≤ 1 := by
  induction rs generalizing s with
  | nil => exact Nat.zero_le 1
  | cons r rs ih =>
    have hrest := ih (outbox_hear houtbox r)
    rw [hearings, List.countP_cons]
    cases Hearing.initiative (h := ⟨s, r⟩) houtbox with
    | documents _ hbegins => simpa [hbegins] using hrest
    | answers _ hbegins => simpa [hbegins] using hrest
    | greets _ hbegins _ hafter =>
      have hnone : ((s.hear r).1.hearings rs).countP Hearing.begins = 0 := by
        refine List.countP_eq_zero.2 fun h hmem => ?_
        rw [begins_eq_false_of_phase (outbox_hear houtbox r) (by simp [hafter]) rs h hmem]
        exact Bool.false_ne_true
      rw [hnone, hbegins]
      exact Nat.le_refl 1

/-- A run into a sink that never fills up writes, apart from responses, only this. Right behind the
result of each command that is carried out, and nowhere else, stands a request to open the
documentation at the address of the settings; these requests are numbered from one on, in 64 bits,
which is enough for less than `2 ^ 63` of them. When the server begins to serve, which happens once
at most, it sends the greeting if the settings say so, and no other notification is sent at any
time. -/
theorem run_initiative (settings : Settings) (input : List UInt8) :
    ∃ before last, Session input before last ∧
      let hearings := hearings { settings } (before ++ [last])
      let sent := hearings.flatMap Hearing.sent
      (run { settings } {} input).sink.written = sent.flatMap Message.frame ∧
      (∀ h ∈ hearings, h.obeys = true → ∃ r number, h.message? = some (.request r) ∧
        h.sent = [.response (.success r.id .null),
          documentRequest settings.documentationUrl number]) ∧
      (∀ h ∈ hearings, h.begins = true →
        h.sent = if settings.showWelcome then [greeting] else []) ∧
      (∀ h ∈ hearings, h.obeys = false → h.begins = false →
        ∀ m ∈ h.sent, ∃ reply, m = .response reply) ∧
      let k := hearings.countP Hearing.obeys
      sent.filter Message.isRequest =
        ((List.range' 1 k).map fun n =>
          documentRequest settings.documentationUrl (Int64.ofNat n).toInt) ∧
      (k < 2 ^ 63 → sent.filter Message.isRequest =
        (List.range' 1 k).map fun n : Nat => documentRequest settings.documentationUrl n) ∧
      hearings.countP Hearing.begins ≤ 1 ∧
      sent.filter Message.isNotification =
        List.replicate (hearings.countP fun h => settings.showWelcome && h.begins) greeting := by
  obtain ⟨before, last, hsession⟩ := exists_session input
  have hall : ∀ h ∈ hearings { settings } (before ++ [last]),
      h.server.settings = settings ∧ Initiative h (h.server.hear h.reading).1 :=
    fun h hmem => ⟨settings_of_mem_hearings _ _ h hmem,
      Hearing.initiative (outbox_of_mem_hearings rfl _ h hmem)⟩
  have hrequests := filter_isRequest_of_new settings (before ++ [last])
  refine ⟨before, last, hsession, (written_run settings hsession).1, ?_, ?_, ?_, hrequests,
    fun hk => hrequests.trans (map_documentRequest_range' _ hk), countP_begins_le_one rfl _,
    filter_isNotification_hearings rfl _⟩
  · intro h hmem hobeys
    obtain ⟨hsettings, hi⟩ := hall h hmem
    cases hi with
    | documents _ _ hmessage hsent => exact ⟨_, _, hmessage, hsettings ▸ hsent⟩
    | greets hnot => cases hobeys.symm.trans hnot
    | answers hnot => cases hobeys.symm.trans hnot
  · intro h hmem hbegins
    obtain ⟨hsettings, hi⟩ := hall h hmem
    cases hi with
    | documents _ hnot => cases hbegins.symm.trans hnot
    | greets _ _ _ _ hsent => exact hsettings ▸ hsent
    | answers _ hnot => cases hbegins.symm.trans hnot
  · intro h hmem hobeys hbegins
    obtain ⟨-, hi⟩ := hall h hmem
    cases hi with
    | documents hyes => cases hobeys.symm.trans hyes
    | greets _ hyes => cases hbegins.symm.trans hyes
    | answers _ _ hsent => exact hsent

end Server

namespace Sample

/-- A client asks for a command to be carried out. -/
def command (id : Int) (name : String) : Request where
  id := .int id
  method := "workspace/executeCommand"
  params? := some <| .object [("command", .text name)]

/-- It says twice that it is ready, and one of its commands is not known. -/
def curious : List Message :=
  [.request hello, .notification ready, .request (command 2 openDocsCommand),
    .request (command 3 "openDocs"), .notification ready, .request (command 4 openDocsCommand)]

theorem sendable_command {id : Int} {name : String} (hid : 0 ≤ id ∧ id < 10)
    (hsize : (Message.request (command id name)).render.utf8ByteSize ≤ Frame.maxLength) :
    (Message.request (command id name)).Sendable := by
  have hnumber : Value.Printable 126 (.int id) := .int (by omega) (by omega)
  have hparams : Value.Printable 126 (.object [("command", .text name)]) :=
    .object (List.forall_mem_singleton.2 (.text name))
  exact .of_call rfl (List.forall_mem_cons.2
    ⟨⟨rfl, hnumber⟩, List.forall_mem_singleton.2 ⟨rfl, hparams⟩⟩) hsize

theorem sendable_curious : ∀ m ∈ curious, m.Sendable := by
  have hfirst : (Message.request (command 2 openDocsCommand)).Sendable :=
    sendable_command (by decide) (by decide +kernel)
  have hunknown : (Message.request (command 3 "openDocs")).Sendable :=
    sendable_command (by decide) (by decide +kernel)
  have hsecond : (Message.request (command 4 openDocsCommand)).Sendable :=
    sendable_command (by decide) (by decide +kernel)
  simp [curious, sendable_hello, sendable_ready, hfirst, hunknown, hsecond]

end Sample

open Sample in
/-- The documentation is asked for twice, and the client is greeted once. -/
theorem Server.run_initiative_curious :
    ∃ before last, Session (curious.flatMap Message.frame) before last ∧
      let hearings := hearings { settings := { documentationUrl := "docs" } } (before ++ [last])
      let sent := hearings.flatMap Hearing.sent
      hearings.countP Hearing.obeys = 2 ∧
      sent.filter Message.isRequest = [documentRequest "docs" 1, documentRequest "docs" 2] ∧
      sent.filter Message.isNotification = [greeting] ∧
      ∃ h ∈ hearings, ∃ number,
        h.sent = [.response (.success (.int 4) .null), documentRequest "docs" number] := by
  obtain ⟨before, last, hsession, -, hdocuments, -, -, -, hrequests, -, hgreetings⟩ :=
    run_initiative { documentationUrl := "docs" } (curious.flatMap Message.frame)
  refine ⟨before, last, hsession, ?_⟩
  obtain ⟨rfl, rfl⟩ := hsession.unique (session_frames sendable_curious (by decide))
  have hcount : (Server.hearings { settings := { documentationUrl := "docs" } }
      (readingsOf curious ++ [⟨.ok none, []⟩])).countP Hearing.obeys = 2 := by rfl
  rw [hcount] at hrequests
  refine ⟨hcount, hrequests (by decide), hgreetings, ?_⟩
  let s : Server := (Server.replay { settings := { documentationUrl := "docs" } }
    (curious.take 5)).2.drain.1
  let asked : Hearing := ⟨s, ⟨.ok (some (.request (command 4 openDocsCommand))), []⟩⟩
  have hmem : asked ∈ Server.hearings { settings := { documentationUrl := "docs" } }
      (readingsOf curious ++ [⟨.ok none, []⟩]) := by
    show asked ∈ [_, _, _, _, _, asked, _]
    simp
  obtain ⟨r, number, hmessage, hsent⟩ := hdocuments asked hmem rfl
  cases hmessage
  exact ⟨asked, hmem, number, hsent⟩

end ScriptAssist
