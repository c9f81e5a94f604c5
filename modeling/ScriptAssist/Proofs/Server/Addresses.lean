import ScriptAssist.Proofs.Server.Initiative
import ScriptAssist.Proofs.Settings.Addresses

/-!
# Addresses that a client is given

A client is given one address only: that of the settings, in every request to open the
documentation and in the links of the items. If the settings have been loaded it is a web address,
but blanks in front of it are passed on as they were written (`Server.run_addresses`).
-/

namespace ScriptAssist

open Json Rpc Text

namespace Server

/-- Queries, if the server answers any, are answered by an assistant whose items have the link that
the settings ask for. -/
def LinksBySettings (s : Server) : Prop :=
  ∀ engine ∈ s.engine?, ∃ assistant : Assistant,
    engine = .ofAssistant assistant ∧ assistant.style.link? = s.settings.link?

theorem Step.linksBySettings {s s' : Server} {m : Message} (h : Step s m s')
    (hlinks : s.LinksBySettings) : s'.LinksBySettings := by
  cases h with
  | keep => exact hlinks
  | @meet r _ _ _ =>
    intro engine hengine
    cases hold : s.engine? with
    | none =>
      obtain rfl : .ofAssistant (assistantFor s.settings r.client) = engine := by
        simpa [Server.meet, hold] using hengine
      exact ⟨_, rfl, rfl⟩
    | some old =>
      obtain rfl : old = engine := by simpa [Server.meet, hold] using hengine
      exact hlinks old hold
  | serve =>
    unfold Server.serve
    split
    · exact hlinks
    · exact hlinks
  | edit => exact hlinks
  | ask => exact hlinks
  | close => exact hlinks
  | exit => exact hlinks

theorem linksBySettings_of_mem_hearings {s : Server} (h : s.LinksBySettings) (rs : List Reading) :
    ∀ heard ∈ s.hearings rs, heard.server.LinksBySettings :=
  forall_mem_hearings (P := LinksBySettings)
    (fun s m hs => (step_handle s m).linksBySettings hs) h rs

/-- Every request that is sent in a session asks to open the documentation. -/
theorem exists_documentRequest {s : Server} (houtbox : s.outbox = []) (rs : List Reading)
    {r : Request} (h : .request r ∈ (s.hearings rs).flatMap Hearing.sent) :
    ∃ number, .request r = documentRequest s.settings.documentationUrl number := by
  have hmem : .request r ∈ ((s.hearings rs).flatMap Hearing.sent).filter Message.isRequest :=
    List.mem_filter.2 ⟨h, rfl⟩
  rw [filter_isRequest_hearings houtbox] at hmem
  obtain ⟨n, -, hr⟩ := List.mem_map.1 hmem
  exact ⟨_, hr.symm⟩

end Server

/-- The address that a request asks to open. -/
def Rpc.Request.uri? (r : Request) : Option String :=
  (r.args.get? "uri").bind Value.text?

/-- What the items of a style say of a symbol: its detail, and the link if there is one. -/
theorem Style.documentation_present {style : Style} {settings : Settings}
    (h : style.link? = settings.link?) (s : Symbol) :
    (style.present s).documentation = s.detail ++
      if settings.appendLink then
        "\n\n[Frappe Framework documentation](" ++ settings.documentationUrl ++ ")"
      else "" := by
  show style.documentation s.detail = _
  rw [documentation, h, Settings.link?]
  cases settings.appendLink with
  | true => simp [String.append_assoc]
  | false => simp

/-- A run on loaded settings writes what is sent in its hearings, as far as there is room for it.
The address of the settings is a web address behind blanks, and begins like one exactly if there are
no blanks. This is the address in every request to open a document; and whatever answers queries in
the run is an assistant that links every item it presents to this address, if items have a link. -/
theorem Server.run_addresses {settings : Settings} (hloaded : settings.Loaded)
    (input : List UInt8) :
    (∃ blanks address, settings.documentationUrl.toList = blanks ++ address ∧ AllBlank blanks ∧
      WebAddress address ∧ (WebAddress settings.documentationUrl.toList ↔ blanks = [])) ∧
    ∃ before last, Session input before last ∧
      let hearings := hearings { settings } (before ++ [last])
      let sent := hearings.flatMap Hearing.sent
      let bytes := sent.flatMap Message.frame
      (run { settings } {} input).sink.written = bytes ∧
      (∀ room, (run { settings } { room? := some room } input).sink.written = bytes.take room) ∧
      (∀ r, .request r ∈ sent → r.method = "window/showDocument" ∧
        r.uri? = some settings.documentationUrl) ∧
      ∀ h ∈ hearings, ∀ engine ∈ h.server.engine?, ∃ assistant : Assistant,
        engine = .ofAssistant assistant ∧ ∀ symbol,
          (assistant.style.present symbol).documentation = symbol.detail ++
            if settings.appendLink then
              "\n\n[Frappe Framework documentation](" ++ settings.documentationUrl ++ ")"
            else "" := by
  obtain ⟨blanks, address, hurl, hblanks, hweb⟩ := Settings.flaw?_eq_none_iff.1 hloaded.flaw?_eq
  refine ⟨⟨blanks, address, hurl, hblanks, hweb, ?_⟩, ?_⟩
  · rw [hurl]
    exact hweb.append_iff hblanks
  · obtain ⟨before, last, hsession⟩ := exists_session input
    obtain ⟨hwritten, hroom⟩ := written_run settings hsession
    refine ⟨before, last, hsession, hwritten, hroom, ?_, ?_⟩
    · intro r hr
      obtain ⟨number, hdocument⟩ := exists_documentRequest (s := { settings }) rfl _ hr
      cases hdocument
      exact ⟨rfl, rfl⟩
    · intro h hmem engine hengine
      have hnew : LinksBySettings { settings } := fun _ hnone => nomatch hnone
      obtain ⟨assistant, hassistant, hlink⟩ :=
        linksBySettings_of_mem_hearings hnew _ h hmem engine hengine
      rw [settings_of_mem_hearings _ _ h hmem] at hlink
      exact ⟨assistant, hassistant, Style.documentation_present hlink⟩

namespace Sample

/-- Items have a link to an address. -/
def linked (url : String) : Settings :=
  { documentationUrl := url, appendLink := true }

/-- The text of such settings. -/
def linkedText : String :=
  "append_doc_link: true\ndocumentation_url: https://docs\n"

/-- A file with this text, in a directory of its own. -/
def linkedFiles : FileSystem where
  root.entries := [(["etc".toList, "s.yaml".toList], .file (Utf8.encode linkedText))]

theorem load_linkedFiles :
    Settings.load linkedFiles "/etc/s.yaml" = .ok (linked "https://docs") := by
  have hread : linkedFiles.readText "/etc/s.yaml" = .ok linkedText :=
    FileSystem.readText_eq_ok_iff.2 rfl
  have hdecode : Settings.ofYaml? linkedText = some (linked "https://docs") := by decide +kernel
  have hformat : Settings.Format.ofPath? "/etc/s.yaml" = some .yaml := rfl
  rw [Settings.load_eq_ofReading hformat, hread, Settings.ofReading, Settings.ofText,
    Settings.decode, hdecode]
  rfl

/-- The same settings with a blank in front of the address. -/
def paddedText : String :=
  r#"{"append_doc_link":true,"documentation_url":" https://docs"}"#

theorem ofText_paddedText : Settings.ofText .json paddedText = .ok (linked " https://docs") := by
  rfl

theorem documentRequest_mem_curious (url : String) :
    documentRequest url 1 ∈ (Server.hearings { settings := linked url }
      (readingsOf curious ++ [⟨.ok none, []⟩])).flatMap Hearing.sent := by
  have hcount : (Server.hearings { settings := linked url }
      (readingsOf curious ++ [⟨.ok none, []⟩])).countP Hearing.obeys = 2 := by rfl
  have hrequests := Server.filter_isRequest_of_new (linked url)
    (readingsOf curious ++ [⟨.ok none, []⟩])
  dsimp only at hrequests
  rw [hcount, Server.map_documentRequest_range' _ (by decide)] at hrequests
  have hfirst : documentRequest url 1 ∈
      (List.range' 1 2).map fun n : Nat => documentRequest url n := .head _
  exact (List.mem_filter.1 (hrequests ▸ hfirst)).1

end Sample

open Sample in
/-- The settings come from a file, and the client is asked to open a web address. -/
theorem Server.run_addresses_file :
    (linked "https://docs").Loaded ∧
      ∃ before last, Session (curious.flatMap Message.frame) before last ∧
        ∃ r, .request r ∈
            (hearings { settings := linked "https://docs" } (before ++ [last])).flatMap
              Hearing.sent ∧
          r.method = "window/showDocument" ∧ r.uri? = some "https://docs" ∧
          WebAddress "https://docs".toList := by
  have hloaded : (linked "https://docs").Loaded := .byExtension load_linkedFiles
  obtain ⟨⟨blanks, address, hurl, hblanks, hweb, hbegins⟩, before, last, hsession, -, -, hsent,
      -⟩ :=
    run_addresses hloaded (curious.flatMap Message.frame)
  refine ⟨hloaded, before, last, hsession, ?_⟩
  obtain ⟨rfl, rfl⟩ := hsession.unique (session_frames sendable_curious (by decide))
  have hmem := documentRequest_mem_curious "https://docs"
  obtain ⟨hmethod, huri⟩ := hsent _ hmem
  refine ⟨_, hmem, hmethod, huri, hbegins.2 ?_⟩
  cases blanks with
  | nil => rfl
  | cons c blanks =>
    have hc : c = 'h' := (List.cons.inj hurl).1.symm
    exact absurd (hblanks c (.head _)) (hc ▸ by decide)

open Sample in
/-- Settings with a blank in front of the address are handed out, and the client is asked to open
this text as it is; the items link to it, too. -/
theorem Server.run_addresses_padded :
    Settings.ofText .json paddedText = .ok (linked " https://docs") ∧
      ∃ before last, Session (curious.flatMap Message.frame) before last ∧
        (∃ r, .request r ∈
            (hearings { settings := linked " https://docs" } (before ++ [last])).flatMap
              Hearing.sent ∧
          r.method = "window/showDocument" ∧ r.uri? = some " https://docs") ∧
        (linked " https://docs").style.link? = some " https://docs" ∧
        ¬ WebAddress " https://docs".toList := by
  refine ⟨ofText_paddedText, _, _, session_frames sendable_curious (by decide), ?_, rfl, ?_⟩
  · exact ⟨_, documentRequest_mem_curious " https://docs", rfl, rfl⟩
  · intro hweb
    obtain ⟨rest, hrest⟩ := hweb.exists_cons
    cases hrest

end ScriptAssist
