import ScriptAssist.Proofs.Server.Completion
import ScriptAssist.Proofs.Server.Lifecycle

/-!
# The store of documents

A document is what the notifications about it have made of it while the server served. What a
notification says is told here by the paths in its parameters (`edit?`), and one step of the server
follows it (`get?_handle`); so the text of a document is found by replaying the edits of this
document alone, and does not depend on what happened to others in between.
-/

namespace ScriptAssist

open Json Rpc

/-! ## Edits -/

/-- What can be done to a document. -/
inductive Edit where
  | put (text : String)
  | remove
  deriving DecidableEq, Repr

namespace Edit

/-- The text that a document has after an edit, whatever it was before. -/
def result : Edit → Option String
  | put text => some text
  | remove => none

/-- The store after an edit of a document. -/
def apply (d : Documents) (uri : String) : Edit → Documents
  | put text => d.set uri text
  | remove => d.remove uri

theorem get?_apply_self (d : Documents) (uri : String) (e : Edit) :
    (e.apply d uri).get? uri = e.result := by
  cases e with
  | put text => exact d.get?_set_self uri text
  | remove => exact d.get?_remove_self uri

theorem get?_apply_of_ne (d : Documents) {uri other : String} (hne : other ≠ uri) (e : Edit) :
    (e.apply d uri).get? other = d.get? other := by
  cases e with
  | put text => exact d.get?_set_of_ne text hne
  | remove => exact d.get?_remove_of_ne hne

end Edit

namespace Rpc.Notification

/-- The address that a notification names. -/
def uri? (n : Notification) : Option String :=
  (n.args.path? ["textDocument", "uri"]).bind Value.text?

/-- The text in a notification that a document has been opened. -/
def openedText? (n : Notification) : Option String :=
  (n.args.path? ["textDocument", "text"]).bind Value.text?

/-- The text of the last change in a notification that a document has changed. -/
def changedText? (n : Notification) : Option String :=
  ((n.args.get? "contentChanges").bind Value.items?).bind fun changes =>
    (changes.getLast?.bind (·.get? "text")).bind Value.text?

/-- What a notification says that is to be done to the document that it names. -/
def change? (n : Notification) : Option Edit :=
  match NotificationMethod.ofName? n.method with
  | some .didOpen => n.openedText?.map .put
  | some .didChange => n.changedText?.map .put
  | some .didClose => some .remove
  | _ => none

/-- What a notification says that is to be done to a given document. -/
def edit? (n : Notification) (uri : String) : Option Edit :=
  if n.uri? = some uri then n.change? else none

end Rpc.Notification

/-- What a message says that is to be done to a given document. Only notifications do. -/
def Rpc.Message.edit? (uri : String) : Message → Option Edit
  | notification n => n.edit? uri
  | _ => none

/-! ## Readers as partial functions -/

section Readers

variable {α β : Type}

theorem toOption_bind (x : Except Refusal α) (f : α → Except Refusal β) :
    (x >>= f).toOption = x.toOption.bind fun a => (f a).toOption := by
  cases x <;> rfl

theorem toOption_need (name : String) (a? : Option α) : (Params.need name a?).toOption = a? := by
  cases a? <;> rfl

theorem toOption_uri (n : Notification) : (Params.uri n.args).toOption = n.uri? := by
  unfold Params.uri Params.document Notification.uri?
  simp only [toOption_bind, toOption_need, Value.path?_pair, Option.bind_assoc]

theorem toOption_openedText (n : Notification) :
    (Params.openedText n.args).toOption = n.openedText? := by
  unfold Params.openedText Params.document Notification.openedText?
  simp only [toOption_bind, toOption_need, Value.path?_pair, Option.bind_assoc]

/-- Changes without a text are no changes. -/
theorem toOption_changedText (n : Notification) :
    (Params.changedText n.args).toOption.bind id = n.changedText? := by
  unfold Params.changedText Notification.changedText?
  rw [toOption_bind, toOption_need, Option.bind_assoc]
  rfl

end Readers

namespace Server

theorem settle_fst (s : Server) (outcome : Except Refusal Server) :
    (s.settle outcome).1 = outcome.toOption.getD s := by
  cases outcome <;> rfl

/-! ## One message -/

section Serving

variable {s : Server} (hphase : s.phase = .initialized) (n : Notification)
include hphase

theorem documents_didOpen :
    (s.settle (s.didOpen n.args)).1.documents =
      (n.uri?.bind fun uri => n.openedText?.map (s.documents.set uri)).getD s.documents := by
  have hready : s.requireInitialized = .ok () := requireInitialized_eq_ok_iff.2 hphase
  unfold didOpen
  simp only [settle_fst, hready, toOption_bind, toOption_uri, toOption_openedText]
  cases n.uri? <;> cases n.openedText? <;> rfl

theorem documents_didChange :
    (s.settle (s.didChange n.args)).1.documents =
      (n.uri?.bind fun uri => n.changedText?.map (s.documents.set uri)).getD s.documents := by
  have hready : s.requireInitialized = .ok () := requireInitialized_eq_ok_iff.2 hphase
  unfold didChange
  simp only [settle_fst, hready, toOption_bind, toOption_uri, ← toOption_changedText]
  cases n.uri? with
  | none => rfl
  | some uri =>
    cases (Params.changedText n.args).toOption with
    | none => rfl
    | some text? => cases text? <;> rfl

theorem documents_didClose :
    (s.settle (s.didClose n.args)).1.documents =
      (n.uri?.map s.documents.remove).getD s.documents := by
  have hready : s.requireInitialized = .ok () := requireInitialized_eq_ok_iff.2 hphase
  unfold didClose
  simp only [settle_fst, hready, toOption_bind, toOption_uri]
  cases n.uri? <;> rfl

/-- A server that serves does what a notification says. -/
theorem documents_note :
    (s.note n).1.documents =
      (n.uri?.bind fun uri => n.change?.map (·.apply s.documents uri)).getD s.documents := by
  unfold note Notification.change?
  cases NotificationMethod.ofName? n.method with
  | none => cases n.uri? <;> rfl
  | some method =>
    cases method with
    | initialized =>
      have hrefused : s.initialized = .error .notInitializing := by
        unfold Server.initialized
        rw [if_pos (hphase ▸ Phase.noConfusion)]
      simp only [hrefused]
      cases n.uri? <;> rfl
    | didOpen =>
      refine (documents_didOpen hphase n).trans ?_
      simp only [Option.map_map]
      rfl
    | didChange =>
      refine (documents_didChange hphase n).trans ?_
      simp only [Option.map_map]
      rfl
    | didClose =>
      refine (documents_didClose hphase n).trans ?_
      cases n.uri? <;> rfl
    | exit => cases n.uri? <;> rfl

end Serving

/-- Nothing but notifications touches the documents, and they only while the server serves. -/
theorem Step.documents_eq {s s' : Server} {m : Message} (h : Step s m s')
    (hidle : s.phase = .initialized → ∀ n, m ≠ .notification n) : s'.documents = s.documents := by
  cases h with
  | serve =>
    unfold Server.serve
    split <;> rfl
  | edit hexit hphase => exact absurd rfl (hidle hphase _)
  | _ => rfl

theorem get?_note {s : Server} (hphase : s.phase = .initialized) (n : Notification) (uri : String) :
    (s.note n).1.documents.get? uri = (n.edit? uri).elim (s.documents.get? uri) Edit.result := by
  rw [documents_note hphase, Notification.edit?]
  cases n.uri? with
  | none => rfl
  | some named =>
    by_cases hnamed : named = uri
    · rw [hnamed, if_pos rfl]
      cases n.change? with
      | none => rfl
      | some e => exact e.get?_apply_self s.documents uri
    · rw [if_neg fun h => hnamed (Option.some.inj h)]
      cases n.change? with
      | none => rfl
      | some e => exact e.get?_apply_of_ne s.documents (Ne.symm hnamed)

/-- What becomes of a document when a message is handled. -/
theorem get?_handle (s : Server) (m : Message) (uri : String) :
    (s.handle m).1.documents.get? uri =
      if s.phase = .initialized then (m.edit? uri).elim (s.documents.get? uri) Edit.result
      else s.documents.get? uri := by
  by_cases hphase : s.phase = .initialized
  · rw [if_pos hphase]
    cases m with
    | notification n => exact get?_note hphase n uri
    | request r =>
      rw [(step_handle s (.request r)).documents_eq fun _ _ => Message.noConfusion]
      rfl
    | response r => rfl
  · rw [if_neg hphase, (step_handle s m).documents_eq fun h => absurd h hphase]

/-! ## Whole histories -/

/-- Messages that are handled one after another, each with the phase in which it is handled. -/
def phased (s : Server) : List Message → List (Phase × Message)
  | [] => []
  | m :: ms => (s.phase, m) :: (s.handle m).1.phased ms

/-- The edits of a document: what the messages say that are handled while the server serves. -/
def edits (s : Server) (uri : String) (ms : List Message) : List Edit :=
  ((s.phased ms).filter fun (phase, _) => phase = .initialized).filterMap fun (_, m) => m.edit? uri

/-- The text of a document is found by replaying its edits. -/
theorem get?_replay (s : Server) (uri : String) (ms : List Message) :
    (s.replay ms).2.documents.get? uri =
      (s.edits uri ms).foldl (fun _ e => e.result) (s.documents.get? uri) := by
  induction ms generalizing s with
  | nil => rfl
  | cons m ms ih =>
    show ((s.handle m).1.replay ms).2.documents.get? uri = _
    rw [ih, get?_handle]
    unfold edits
    by_cases hphase : s.phase = .initialized
    · cases hedit : m.edit? uri <;> simp [phased, hphase, hedit]
    · simp [phased, hphase]

end Server

/-- Whether a message matters for a document: it is a milestone, or is about this document. -/
def Rpc.Message.concerns (uri : String) (m : Message) : Bool :=
  m.milestone?.isSome || (m.edit? uri).isSome

/-- The part of a server that one document depends on. -/
structure View where
  stage : Stage
  text? : Option String

/-- What a message makes of it. -/
def View.after (uri : String) (v : View) (m : Message) : View where
  stage := m.milestone?.elim v.stage v.stage.after
  text? := if v.stage = .serving then (m.edit? uri).elim v.text? Edit.result else v.text?

theorem View.after_of_not_concerns {uri : String} {m : Message} (h : m.concerns uri = false)
    (v : View) : v.after uri m = v := by
  obtain ⟨hmilestone, hedit⟩ := Bool.or_eq_false_iff.1 h
  rw [Option.isSome_eq_false_iff, Option.isNone_iff_eq_none] at hmilestone hedit
  simp [View.after, hmilestone, hedit]

namespace Server

/-- The view of a document. -/
def view (s : Server) (uri : String) : View :=
  ⟨s.stage, s.documents.get? uri⟩

theorem view_handle (s : Server) (m : Message) (uri : String) :
    (s.handle m).1.view uri = (s.view uri).after uri m := by
  have hstage : (s.handle m).1.stage = m.milestone?.elim s.stage s.stage.after :=
    (change_message s m).stage_eq
  unfold view View.after
  rw [hstage, get?_handle]
  simp only [stage_eq_serving_iff]

/-- Messages that do not matter for a document may as well be left out. -/
theorem view_replay (s : Server) (uri : String) (ms : List Message) :
    (s.replay ms).2.view uri =
      (ms.filter (·.concerns uri)).foldl (View.after uri) (s.view uri) := by
  rw [List.foldl_filter]
  induction ms generalizing s with
  | nil => rfl
  | cons m ms ih =>
    show ((s.handle m).1.replay ms).2.view uri = _
    rw [ih, view_handle, List.foldl_cons]
    cases h : m.concerns uri with
    | true => rfl
    | false =>
      rw [View.after_of_not_concerns h]
      rfl

/-- The text of a document is found by replaying, from nothing, what the messages say about it that
are handled while the server serves. Messages that are neither milestones nor about this document
do not matter, neither what they are nor where they stand among the others. -/
theorem replay_documents (settings : Settings) (uri : String) :
    (∀ ms, (Server.replay { settings } ms).2.documents.get? uri =
      (Server.edits { settings } uri ms).foldl (fun _ e => e.result) none) ∧
    ∀ ms ms', ms.filter (·.concerns uri) = ms'.filter (·.concerns uri) →
      (Server.replay { settings } ms).2.documents.get? uri =
        (Server.replay { settings } ms').2.documents.get? uri := by
  refine ⟨fun ms => get?_replay _ uri ms, fun ms ms' h => ?_⟩
  have hview := view_replay { settings } uri ms
  rw [h, ← view_replay] at hview
  exact congrArg View.text? hview

end Server

namespace Sample

/-- The text of a document changes twice at once. -/
def changed (uri text : String) : Notification where
  method := "textDocument/didChange"
  params? := some <| .object [("textDocument", .object [("uri", .text uri)]),
    ("contentChanges", .array [.object [("text", .text "")], .object [("text", .text text)]])]

/-- A document is closed. -/
def closed (uri : String) : Notification where
  method := "textDocument/didClose"
  params? := some <| .object [("textDocument", .object [("uri", .text uri)])]

/-- Two documents are edited by turns, and one of them once more when it is too late. -/
def byTurns : List Message :=
  [.request hello, .notification ready, .notification (opened "a.js" "frm."),
    .notification (opened "b.js" "frm."), .notification (changed "a.js" "frappe."),
    .notification (closed "b.js"), .request { id := .int 2, method := "shutdown" },
    .notification (opened "b.js" "frappe.")]

/-- The same edits, first those of the one document and then those of the other. -/
def inBlocks : List Message :=
  [.request hello, .notification ready, .notification (opened "b.js" "frm."),
    .notification (closed "b.js"), .notification (opened "a.js" "frm."),
    .notification (changed "a.js" "frappe."), .request { id := .int 2, method := "shutdown" },
    .notification (opened "b.js" "frappe.")]

end Sample

open Sample in
/-- In both orders one document is left, with its last text. -/
theorem Server.replay_documents_byTurns :
    (Server.replay { settings := {} } byTurns).2.documents.get? "a.js" = some "frappe." ∧
      (Server.replay { settings := {} } inBlocks).2.documents.get? "a.js" = some "frappe." ∧
      (Server.replay { settings := {} } byTurns).2.documents.get? "b.js" = none ∧
      (Server.replay { settings := {} } inBlocks).2.documents.get? "b.js" = none := by
  obtain ⟨hreplay, hsame⟩ := replay_documents {} "a.js"
  obtain ⟨hreplay', hsame'⟩ := replay_documents {} "b.js"
  have htext := hreplay byTurns
  have htext' := hreplay' byTurns
  exact ⟨htext, (hsame byTurns inBlocks rfl).symm.trans htext, htext',
    (hsame' byTurns inBlocks rfl).symm.trans htext'⟩

end ScriptAssist
