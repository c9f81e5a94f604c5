import ScriptAssist.Proofs.Text.Bytes
import ScriptAssist.Proofs.Text.Trim
import ScriptAssist.Settings.Loading

/-!
# Addresses in settings

The check of settings looks at the address without the blanks around it, and settings that pass it
are handed out with the address as it was written. So the address of loaded settings is a web
address, but there may be blanks in front of it (`Settings.flaw?_eq_none_iff`, `Loaded.flaw?_eq`).
-/

namespace ScriptAssist

open Text

/-- A text that begins like a web address. -/
def WebAddress (s : List Char) : Prop :=
  ∃ scheme ∈ ["http://", "https://"], scheme.toList <+: s

namespace WebAddress

variable {s : List Char}

theorem tight_scheme : ∀ scheme ∈ ["http://", "https://"], Tight scheme.toList := by
  have hblank : ∀ scheme ∈ ["http://", "https://"],
      scheme.toList ≠ [] ∧ scheme.toList.any isBlank = false := by
    decide
  intro scheme h
  obtain ⟨hne, hany⟩ := hblank scheme h
  exact .of_forall hne (by simpa using hany)

theorem exists_cons (h : WebAddress s) : ∃ rest, s = 'h' :: rest := by
  obtain ⟨scheme, hscheme, rest, rfl⟩ := h
  have hall : ∀ scheme ∈ ["http://", "https://"], scheme.toList = 'h' :: scheme.toList.tail := by
    decide
  rw [hall scheme hscheme]
  exact ⟨_, rfl⟩

theorem trimStart_eq (h : WebAddress s) : trimStart s = s := by
  obtain ⟨rest, rfl⟩ := h.exists_cons
  exact List.dropWhile_cons_of_neg (by decide)

theorem trimEnd_iff : WebAddress (trimEnd s) ↔ WebAddress s := by
  constructor
  · rintro ⟨scheme, hscheme, hprefix⟩
    exact ⟨scheme, hscheme, ((tight_scheme scheme hscheme).prefix_trimEnd_iff s).1 hprefix⟩
  · rintro ⟨scheme, hscheme, hprefix⟩
    exact ⟨scheme, hscheme, ((tight_scheme scheme hscheme).prefix_trimEnd_iff s).2 hprefix⟩

/-- Blanks in front of a web address are no part of one. -/
theorem append_iff {blanks : List Char} (hblanks : AllBlank blanks) (h : WebAddress s) :
    WebAddress (blanks ++ s) ↔ blanks = [] := by
  constructor
  · intro hall
    cases blanks with
    | nil => rfl
    | cons c blanks =>
      obtain ⟨rest, hrest⟩ := hall.exists_cons
      cases hrest
      exact absurd (hblanks 'h' (.head _)) (by decide)
  · rintro rfl
    exact h

end WebAddress

namespace Settings

theorem isWebUrl_iff {s : List Char} : isWebUrl s = true ↔ WebAddress s := by
  simp only [isWebUrl, webSchemes, WebAddress, List.any_eq_true, List.isPrefixOf_iff_prefix]

/-- Settings pass the check exactly if their address is a web address behind any number of
blanks. -/
theorem flaw?_eq_none_iff {s : Settings} :
    s.flaw? = none ↔ ∃ blanks address, s.documentationUrl.toList = blanks ++ address ∧
      AllBlank blanks ∧ WebAddress address := by
  have hcheck : s.flaw? = none ↔ WebAddress (trim s.documentationUrl.toList) := by
    rw [← isWebUrl_iff]
    unfold flaw?
    dsimp only
    split
    · next hempty =>
      rw [List.isEmpty_iff.1 hempty]
      exact ⟨fun h => (nomatch h), fun h => (nomatch h)⟩
    · split
      · next hweb => exact ⟨fun _ => hweb, fun _ => rfl⟩
      · next hweb => exact ⟨fun h => (nomatch h), fun h => absurd h hweb⟩
  rw [hcheck, trim, WebAddress.trimEnd_iff]
  constructor
  · intro hweb
    obtain ⟨blanks, hurl, hblanks⟩ := exists_append_trimStart s.documentationUrl.toList
    exact ⟨blanks, _, hurl, hblanks, hweb⟩
  · rintro ⟨blanks, address, hurl, hblanks, hweb⟩
    rw [hurl, trimStart_append hblanks, hweb.trimStart_eq]
    exact hweb

/-! ## Loaded settings -/

/-- What loading comes to, given what reading the file has come to. -/
def ofReading (format : Format) (reading : Except FileFault String) : Except LoadFault Settings :=
  match reading with
  | .ok text => ofText format text
  | .error fault => .error (.unreadable fault)

/-- The file is read once, and all else follows from what reading it has come to. -/
theorem loadAsWith_eq {m : Type → Type} [Monad m] [LawfulMonad m]
    (readText : String → m (Except FileFault String)) (format : Format) (path : String) :
    loadAsWith readText format path = ofReading format <$> readText path := by
  rw [loadAsWith, ← bind_pure_comp]
  refine bind_congr fun reading => ?_
  cases reading with
  | error fault => rfl
  | ok text =>
    simp only [ofReading, ofText]
    cases decode format text with
    | error fault => rfl
    | ok s => rfl

/-- Settings that are handed out, by whatever way they are loaded and files are read. -/
inductive Loaded : Settings → Prop
  | ofText {format : Format} {text : String} {s : Settings} (h : ofText format text = .ok s) :
      Loaded s
  | ofFile {format : Format} {readText : String → Except FileFault String} {path : String}
      {s : Settings} (h : Id.run (loadAsWith readText format path) = .ok s) : Loaded s
  | byExtension {readText : String → Except FileFault String} {path : String} {s : Settings}
      (h : Id.run (loadWith readText path) = .ok s) : Loaded s
  | orDefault {readText : String → Except FileFault String} {path? : Option String} {s : Settings}
      (h : Id.run (loadOrDefaultWith readText path?) = .ok s) : Loaded s

section

variable {format : Format} {readText : String → Except FileFault String} {s : Settings}

theorem check_eq_ok {s' : Settings} (h : s.check = .ok s') : s' = s ∧ s.flaw? = none := by
  unfold check at h
  split at h
  · next hnone =>
    cases h
    exact ⟨rfl, hnone⟩
  · cases h

theorem flaw?_of_ofText {text : String} (h : ofText format text = .ok s) : s.flaw? = none := by
  unfold Settings.ofText at h
  split at h
  · next decoded _ =>
    cases hcheck : decoded.check with
    | error flaw =>
      rw [hcheck] at h
      cases h
    | ok checked =>
      rw [hcheck] at h
      cases h
      obtain ⟨rfl, hnone⟩ := check_eq_ok hcheck
      exact hnone
  · cases h

theorem flaw?_of_loadAsWith {path : String}
    (h : Id.run (loadAsWith readText format path) = .ok s) : s.flaw? = none := by
  have hreading : ofReading format (readText path) = .ok s :=
    (congrArg Id.run (loadAsWith_eq (m := Id) readText format path)).symm.trans h
  cases hread : readText path with
  | ok text =>
    rw [hread] at hreading
    exact flaw?_of_ofText hreading
  | error fault =>
    rw [hread] at hreading
    cases hreading

theorem flaw?_of_loadWith {path : String} (h : Id.run (loadWith readText path) = .ok s) :
    s.flaw? = none := by
  unfold loadWith at h
  split at h
  · exact flaw?_of_loadAsWith h
  · cases h

end

/-- Settings that are handed out have passed the check. -/
theorem Loaded.flaw?_eq {s : Settings} (h : Loaded s) : s.flaw? = none := by
  cases h with
  | ofText h => exact flaw?_of_ofText h
  | ofFile h => exact flaw?_of_loadAsWith h
  | byExtension h => exact flaw?_of_loadWith h
  | @orDefault readText path? _ h =>
    cases path? with
    | some path => exact flaw?_of_loadWith h
    | none =>
      -- The default settings are not checked, but nothing is wrong with them.
      cases h
      decide

end Settings

/-! ## The files of a system -/

/-- A file has a text if its bytes spell it. -/
theorem FileSystem.readText_eq_ok_iff {files : FileSystem} {path text : String} :
    files.readText path = .ok text ↔ files.read path = .ok (Utf8.encode text) := by
  unfold FileSystem.readText
  cases files.read path with
  | error fault => exact ⟨fun h => (nomatch h), fun h => (nomatch h)⟩
  | ok bytes =>
    rw [Except.ok.injEq, ← Utf8.decode_eq_ok_iff]
    show (Utf8.decode bytes).mapError _ = _ ↔ _
    cases Utf8.decode bytes with
    | error fault => exact ⟨fun h => (nomatch h), fun h => (nomatch h)⟩
    | ok s =>
      exact ⟨fun h => congrArg Except.ok (Except.ok.inj h),
        fun h => congrArg Except.ok (Except.ok.inj h)⟩

theorem Settings.load_eq_ofReading {path : String} {format : Format}
    (h : Format.ofPath? path = some format) (files : FileSystem) :
    load files path = ofReading format (files.readText path) := by
  rw [load, loadWith, h]
  exact congrArg Id.run (loadAsWith_eq (m := Id) files.readText format path)

end ScriptAssist
