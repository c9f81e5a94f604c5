import ScriptAssist.Proofs.Server.Params

/-!
# Answers to queries

What a client is told when it asks for completions. The server has a history by then: documents
have come and gone, requests have been refused, queries answered. Of all this only two things
matter, the text of the document and what the client said about snippets when it was accepted.
`Known` is the invariant behind it: the one request that was accepted determines the assistant.
-/

namespace ScriptAssist

open Json Rpc

/-! ## Histories -/

/-- A message, and how it was answered. -/
structure Exchange where
  message : Message
  reply? : Option Message

/-- The request in an exchange if it is one to initialize the server, and was accepted. -/
def Exchange.accepted? (e : Exchange) : Option Request :=
  match e.message, e.reply? with
  | .request r, some (.response reply) =>
    if r.method = RequestMethod.start.name ∧ reply.result?.isSome then some r else none
  | _, _ => none

/-- The requests to initialize the server that it has accepted. -/
def accepted (transcript : List Exchange) : List Request :=
  transcript.filterMap Exchange.accepted?

/-- A server that was new once, and all that it has handled since then. The messages that wait may
be taken at any time. -/
inductive Reached (settings : Settings) : List Exchange → Server → Prop
  | new : Reached settings [] { settings }
  | handle {transcript : List Exchange} {s : Server} (h : Reached settings transcript s)
      (m : Message) : Reached settings (transcript ++ [⟨m, (s.handle m).2⟩]) (s.handle m).1
  | drain {transcript : List Exchange} {s : Server} (h : Reached settings transcript s) :
      Reached settings transcript s.drain.1

theorem accepted_concat (transcript : List Exchange) (e : Exchange) :
    accepted (transcript ++ [e]) = accepted transcript ++ e.accepted?.toList := by
  unfold accepted
  rw [List.filterMap_append]
  cases h : e.accepted? <;> simp [h]

/-! ## The invariant -/

/-- What is known of a server that has accepted the given requests. -/
structure Known (settings : Settings) (requests : List Request) (s : Server) : Prop where
  settings_eq : s.settings = settings
  client_eq : s.client?.toList = requests.map Request.client
  engine_eq : s.engine? =
    s.client?.map fun client => .ofAssistant (Server.assistantFor settings client)
  met : s.phase = .initialized ∨ s.phase = .shuttingDown → s.client?.isSome

namespace Known

variable {settings : Settings} {requests : List Request} {s : Server}

/-- Being introduced to its client, the server takes on the engine for it. -/
theorem meet (h : Known settings requests s) (hclient : s.client? = none) (r : Request) :
    Known settings (requests ++ [r]) (s.meet r.client) where
  settings_eq := h.settings_eq
  client_eq := by
    -- Nobody has been accepted before, or there would be a client.
    have hnone : requests = [] := by
      rw [← List.map_eq_nil_iff (f := Request.client), ← h.client_eq, hclient]
      rfl
    rw [hnone]
    rfl
  engine_eq := by
    have hengine : s.engine? = none := by
      rw [h.engine_eq, hclient]
      rfl
    show some (s.engine?.getD (.ofAssistant (Server.assistantFor s.settings r.client))) = _
    rw [hengine, h.settings_eq]
    rfl
  met _ := rfl

/-- No other message changes what is known. -/
theorem step (h : Known settings requests s) {m : Message} {s' : Server}
    (hstep : Server.Step s m s')
    (hother : ∀ r, m = .request r → r.method ≠ RequestMethod.start.name) :
    Known settings requests s' := by
  cases hstep with
  | keep => exact h
  | meet hmethod => exact absurd hmethod (hother _ rfl)
  | serve hexit hphase hclient =>
    unfold Server.serve
    split <;> exact ⟨h.settings_eq, h.client_eq, h.engine_eq, fun _ => hclient⟩
  | edit hexit hphase documents => exact ⟨h.settings_eq, h.client_eq, h.engine_eq, h.met⟩
  | ask hphase action => exact ⟨h.settings_eq, h.client_eq, h.engine_eq, h.met⟩
  | close hphase =>
    exact ⟨h.settings_eq, h.client_eq, h.engine_eq, fun _ => h.met (.inl hphase)⟩
  | exit hexit =>
    refine ⟨h.settings_eq, h.client_eq, h.engine_eq, fun hphase => ?_⟩
    rcases hphase with hphase | hphase <;> cases hphase

end Known

/-- What is known of every server that can be reached. -/
theorem Reached.known {settings : Settings} {transcript : List Exchange} {s : Server}
    (h : Reached settings transcript s) : Known settings (accepted transcript) s := by
  induction h with
  | new => exact ⟨rfl, rfl, rfl, fun hphase => by rcases hphase with h | h <;> cases h⟩
  | drain _ ih => exact ⟨ih.settings_eq, ih.client_eq, ih.engine_eq, ih.met⟩
  | @handle transcript s _ m ih =>
    rw [accepted_concat]
    -- Requests to initialize the server are set apart, since only they can be accepted.
    by_cases hstart : ∃ r, m = .request r ∧ r.method = RequestMethod.start.name
    · obtain ⟨r, rfl, hmethod⟩ := hstart
      by_cases hnew : s.phase = .initializing ∧ s.client? = none
      · rw [Server.handle_start_of_new hmethod hnew.1 hnew.2]
        have haccepted : Exchange.accepted? ⟨.request r,
            some (.response (.success r.id Server.introduction))⟩ = some r :=
          if_pos ⟨hmethod, rfl⟩
        rw [haccepted]
        exact ih.meet hnew.2 r
      · rw [Server.handle_start_of_met hmethod hnew]
        have hrefused : Exchange.accepted? ⟨.request r,
            some (.response (.failure r.id Refusal.notInitializing.fault))⟩ = none :=
          if_neg fun hboth => nomatch hboth.2
        rw [hrefused, Option.toList_none, List.append_nil]
        exact ih
    · have hother : ∀ r, m = .request r → r.method ≠ RequestMethod.start.name :=
        fun r hm hmethod => hstart ⟨r, hm, hmethod⟩
      have hnone : Exchange.accepted? ⟨m, (s.handle m).2⟩ = none := by
        unfold Exchange.accepted?
        split
        · next r reply hm _ =>
          exact if_neg fun hboth => hother r hm hboth.1
        · rfl
      rw [hnone, Option.toList_none, List.append_nil]
      exact ih.step (Server.step_handle s m) hother

/-- What a server becomes that handles messages one after another, and how it answers them. -/
def Server.replay (s : Server) : List Message → List Exchange × Server
  | [] => ([], s)
  | m :: rest =>
    (⟨m, (s.handle m).2⟩ :: ((s.handle m).1.replay rest).1, ((s.handle m).1.replay rest).2)

theorem Reached.replay {settings : Settings} {transcript : List Exchange} {s : Server}
    (h : Reached settings transcript s) (ms : List Message) :
    Reached settings (transcript ++ (s.replay ms).1) (s.replay ms).2 := by
  induction ms generalizing transcript s with
  | nil =>
    rw [Server.replay, List.append_nil]
    exact h
  | cons m ms ih =>
    have hrest := ih (h.handle m)
    rw [List.append_assoc] at hrest
    exact hrest

/-! ## Queries -/

/-- The request asks for completions at a place of a document. -/
structure Asks (r : Request) (uri : String) (line character : Nat) : Prop where
  method_eq : r.method = RequestMethod.completion.name
  uri_eq : r.args.path? ["textDocument", "uri"] = some (.text uri)
  line_eq : r.args.path? ["position", "line"] = some (.int line)
  character_eq : r.args.path? ["position", "character"] = some (.int character)

/-- The client says that it understands snippets. -/
def Rpc.Request.ShowsSnippets (r : Request) : Prop :=
  r.args.path? ("capabilities" :: ClientCapabilities.snippetPath) = some (.bool true)

theorem Rpc.Request.snippets_client_iff (r : Request) :
    r.client.snippets = true ↔ r.ShowsSnippets := by
  unfold Request.ShowsSnippets ClientCapabilities.snippets Request.client
  rw [Value.path?_cons]
  cases hcapabilities : r.args.get? "capabilities" with
  | none => exact ⟨fun h => (nomatch h), fun h => (nomatch h)⟩
  | some raw =>
    show ((raw.path? _).bind Value.bool?).getD false = true ↔ raw.path? _ = some (.bool true)
    constructor
    · intro h
      match raw.path? ClientCapabilities.snippetPath, h with
      | some (.bool b), h => exact congrArg (fun b => some (Value.bool b)) h
    · intro h
      rw [h]
      rfl

/-! ## The answer -/

/-- The list of items that the built-in assistant gives for a place of a text, with snippets only
if both the settings and the client want them. -/
def listed (settings : Settings) (snippets : Bool) (text : String) (position : Position)
    (trigger : Trigger) : Value :=
  let a : Assistant := .ofSettings { settings with snippets := settings.snippets && snippets }
  let q : Query := .ofCursor text.toList (Text.offsetAt text.toList position) trigger
  .ofMembers [("isIncomplete", .bool false),
    ("items", .array ((a.complete q).map Item.toEditorValue))]

theorem Server.completion_eq_ok {s : Server} {params : Value} {uri text : String}
    {position : Position} {engine : Engine} (hphase : s.phase = .initialized)
    (huri : Params.uri params = .ok uri) (hposition : Params.position params = .ok position)
    (htext : s.documents.get? uri = some text) (hengine : s.engine? = some engine) :
    s.completion params = .ok (engine.answerAt text position (Params.trigger params)) := by
  refine bind_eq_ok_iff.2 ⟨(), requireInitialized_eq_ok_iff.2 hphase, ?_⟩
  refine bind_eq_ok_iff.2 ⟨uri, huri, bind_eq_ok_iff.2 ⟨position, hposition, ?_⟩⟩
  rw [htext, hengine]
  rfl

/-- A server that serves has met its client. -/
theorem Known.exists_client {settings : Settings} {requests : List Request} {s : Server}
    (h : Known settings requests s) (hphase : s.phase = .initialized) :
    ∃ q, requests = [q] ∧
      s.engine? = some (.ofAssistant (Server.assistantFor settings q.client)) := by
  obtain ⟨client, hclient⟩ := Option.isSome_iff_exists.1 (h.met (.inl hphase))
  have hmap : requests.map Request.client = [client] := by
    rw [← h.client_eq, hclient]
    rfl
  obtain ⟨q, hq, rfl⟩ := List.map_eq_singleton_iff.1 hmap
  exact ⟨q, hq, by rw [h.engine_eq, hclient]; rfl⟩

theorem Reached.handle_completion {settings : Settings} {transcript : List Exchange} {s : Server}
    (h : Reached settings transcript s) (hphase : s.phase = .initialized) {q : Request}
    (hq : accepted transcript = [q]) {r : Request} {uri text : String} {line character : Nat}
    (hasks : Asks r uri line character) (htext : s.documents.get? uri = some text) :
    s.handle (.request r) = (s, some (.response (.success r.id
      (listed settings q.client.snippets text ⟨Params.saturate line, Params.saturate character⟩
        (Params.trigger r.args))))) := by
  obtain ⟨q', hq', hengine⟩ := h.known.exists_client hphase
  obtain rfl : q' = q := by
    rw [hq] at hq'
    exact (List.singleton_inj.1 hq').symm
  apply Server.handle_of_answer
  have hcompletion := Server.completion_eq_ok hphase (Params.uri_eq_ok hasks.uri_eq)
    (Params.position_eq_ok hasks.line_eq hasks.character_eq) htext hengine
  rw [Server.answer, hasks.method_eq, RequestMethod.ofName?_name]
  show (s.completion r.args).map _ = _
  rw [hcompletion]
  rfl

/-- A server that serves has accepted one request to initialize it. It answers a query about an
open document with the list of the built-in assistant, and the list depends on nothing but the
settings, what the accepted request says about snippets, the text of the document and the
parameters of the query: two servers that agree in these give the same list, whatever else has
happened to them. -/
theorem reached_handle_completion (settings : Settings) :
    (∀ {transcript : List Exchange} {s : Server}, Reached settings transcript s →
      s.phase = .initialized →
      ∃ q snippets, accepted transcript = [q] ∧ (snippets = true ↔ q.ShowsSnippets) ∧
        ∀ {r : Request} {uri text : String} {line character : Nat},
          Asks r uri line character → s.documents.get? uri = some text →
          ∃ position trigger, position.line.toNat = min line 0xFFFFFFFF ∧
            position.character.toNat = min character 0xFFFFFFFF ∧
            (∀ c, trigger = .typed c ↔ IsTyped r.args c) ∧
            s.handle (.request r) = (s, some (.response (.success r.id
              (listed settings snippets text position trigger))))) ∧
    (∀ {transcript transcript' : List Exchange} {s s' : Server} {q q' r r' : Request}
      {uri text : String} {line character : Nat},
      Reached settings transcript s → Reached settings transcript' s' →
      s.phase = .initialized → s'.phase = .initialized →
      accepted transcript = [q] → accepted transcript' = [q'] →
      (q.ShowsSnippets ↔ q'.ShowsSnippets) →
      s.documents.get? uri = some text → s'.documents.get? uri = some text →
      Asks r uri line character → r'.method = r.method → r'.args = r.args →
      ∃ result, (s.handle (.request r)).2 = some (.response (.success r.id result)) ∧
        (s'.handle (.request r')).2 = some (.response (.success r'.id result))) := by
  constructor
  · intro transcript s h hphase
    obtain ⟨q, hq, -⟩ := h.known.exists_client hphase
    refine ⟨q, q.client.snippets, hq, q.snippets_client_iff, ?_⟩
    intro r uri text line character hasks htext
    exact ⟨⟨Params.saturate line, Params.saturate character⟩, Params.trigger r.args,
      Params.toNat_saturate line, Params.toNat_saturate character,
      fun _ => Params.trigger_eq_typed_iff, h.handle_completion hphase hq hasks htext⟩
  · intro transcript transcript' s s' q q' r r' uri text line character h h' hphase hphase' hq hq'
      hflag htext htext' hasks hmethod hargs
    have hasks' : Asks r' uri line character :=
      ⟨hmethod.trans hasks.method_eq, hargs ▸ hasks.uri_eq, hargs ▸ hasks.line_eq,
        hargs ▸ hasks.character_eq⟩
    have hsnippets : q'.client.snippets = q.client.snippets := by
      rw [Bool.eq_iff_iff, q'.snippets_client_iff, q.snippets_client_iff, hflag]
    refine ⟨_, congrArg Prod.snd (h.handle_completion hphase hq hasks htext), ?_⟩
    rw [h'.handle_completion hphase' hq' hasks' htext', hsnippets, hargs]

namespace Sample

/-- A client that understands snippets asks to be served. -/
def hello : Request where
  id := .int 1
  method := "initialize"
  params? := some <| .object [("capabilities", .object [("textDocument", .object [("completion",
    .object [("completionItem", .object [("snippetSupport", .bool true)])])])])]

/-- It is ready. -/
def ready : Notification where
  method := "initialized"

/-- It opens a document. -/
def opened (uri text : String) : Notification where
  method := "textDocument/didOpen"
  params? := some <| .object [("textDocument", .object [("uri", .text uri), ("text", .text text)])]

/-- It asks for completions behind the seventh character of the first line. -/
def query (uri : String) : Request where
  id := .text "q"
  method := "textDocument/completion"
  params? := some <| .object [("textDocument", .object [("uri", .text uri)]),
    ("position", .object [("line", .int 0), ("character", .int 7)])]

/-- A client that does what it has to do. -/
def brief : List Message :=
  [.request hello, .notification ready, .notification (opened "a.js" "frappe.")]

/-- A client that also edits another document, and asks to be served once more. -/
def lengthy : List Message :=
  [.request hello, .notification ready, .notification (opened "b.js" "cur_frm."),
    .request (query "b.js"), .request hello, .notification (opened "a.js" "frappe.")]

/-- A server that has heard them out. -/
def served (ms : List Message) : Server :=
  (({ settings := {} } : Server).replay ms).2

end Sample

open Sample in
/-- Both clients are told the same. -/
theorem reached_handle_completion_sample :
    (∃ position trigger, position.character.toNat = 7 ∧ (∀ c, trigger ≠ .typed c) ∧
      (served brief).handle (.request (query "a.js")) =
        (served brief, some (.response (.success (.text "q")
          (listed {} true "frappe." position trigger))))) ∧
    ∃ result,
      ((served brief).handle (.request (query "a.js"))).2 =
        some (.response (.success (.text "q") result)) ∧
      ((served lengthy).handle (.request (query "a.js"))).2 =
        some (.response (.success (.text "q") result)) := by
  have hnew : Reached {} [] { settings := {} } := .new
  have hbrief := hnew.replay brief
  have hlengthy := hnew.replay lengthy
  have hasks : Asks (query "a.js") "a.js" 0 7 := ⟨rfl, rfl, rfl, rfl⟩
  constructor
  · obtain ⟨q, snippets, hq, hsnippets, hanswer⟩ := (reached_handle_completion {}).1 hbrief rfl
    obtain rfl : hello = q := List.singleton_inj.1 hq
    obtain rfl : snippets = true := hsnippets.2 rfl
    obtain ⟨position, trigger, -, hcharacter, htyped, hreply⟩ := hanswer hasks rfl
    refine ⟨position, trigger, hcharacter, fun c hc => ?_, hreply⟩
    cases ((htyped c).1 hc).1
  · have hq : accepted (({ settings := {} } : Server).replay brief).1 = [hello] := rfl
    have hq' : accepted (({ settings := {} } : Server).replay lengthy).1 = [hello] := rfl
    exact (reached_handle_completion {}).2 hbrief hlengthy rfl rfl hq hq' Iff.rfl rfl rfl hasks rfl
      rfl

end ScriptAssist
