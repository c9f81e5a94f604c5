import ScriptAssist.Proofs.Settings.Addresses
import ScriptAssist.Proofs.Text.Lines

/-!
# Loaders

A file of settings is loaded in steps: its path tells the format, the file is read as a text, the
text is decoded, and the settings are checked. A file whose extension stands for no format is
refused before it is read, and any other loads as its text does (`load_of_extension`); this holds
for the files of a system as for any other way to read files, which may have effects of its own.
All settings that are handed out have passed the check.
-/

namespace ScriptAssist

open Text

/-! ## Extensions -/

namespace Path

/-- The name of the file consists of a part that is not empty, a dot, and the extension. -/
def HasExtension (path extension : String) : Prop :=
  ∃ stem, stem ≠ [] ∧ fileName? path.toList = some (stem ++ '.' :: extension.toList)

theorem extensionOfName?_append {extension : List Char} (hdot : '.' ∉ extension)
    (stem : List Char) :
    extensionOfName? (stem ++ '.' :: extension) = if stem = [] then none else some extension := by
  have hreverse : (stem ++ '.' :: extension).reverse =
      extension.reverse ++ '.' :: stem.reverse := by simp
  have htake : ((stem ++ '.' :: extension).reverse.takeWhile (· != '.')).reverse = extension := by
    rw [hreverse, List.takeWhile_append_of_pos (bne_of_mem_reverse hdot),
      List.takeWhile_cons_of_neg (by decide), List.append_nil, List.reverse_reverse]
  rw [extensionOfName?, htake]
  cases stem with
  | nil => simp
  | cons c stem => simp [Nat.add_comm, Nat.add_left_comm]

theorem extensionOfName?_of_no_dot {name : List Char} (hdot : '.' ∉ name) :
    extensionOfName? name = none := by
  rw [extensionOfName?, List.takeWhile_eq_self_iff.2 (bne_of_mem_reverse hdot),
    List.reverse_reverse]
  simp

theorem extension?_eq_some_iff {path extension : String} (hdot : '.' ∉ extension.toList) :
    extension? path.toList = some extension.toList ↔ HasExtension path extension := by
  unfold extension? HasExtension
  rw [Option.bind_eq_some_iff]
  constructor
  · rintro ⟨name, hname, hextension⟩
    by_cases hmem : '.' ∈ name
    · obtain ⟨stem, behind, rfl, hbehind⟩ := exists_append_last hmem
      rw [extensionOfName?_append hbehind] at hextension
      split at hextension
      · cases hextension
      · next hstem =>
        cases hextension
        exact ⟨stem, hstem, hname⟩
    · rw [extensionOfName?_of_no_dot hmem] at hextension
      cases hextension
  · rintro ⟨stem, hstem, hname⟩
    refine ⟨_, hname, ?_⟩
    rw [extensionOfName?_append hdot, if_neg hstem]

end Path

namespace Settings

open ScriptAssist.Path

namespace Format

/-- The extensions, and the formats that they stand for. -/
def named : List (String × Format) :=
  [("yaml", yaml), ("yml", yaml), ("json", json)]

theorem extensions_eq :
    extensions = named.map fun (extension, format) => (extension.toList, format) :=
  rfl

theorem ofPath?_eq_some_iff {path : String} {format : Format} :
    ofPath? path = some format ↔
      ∃ extension, (extension, format) ∈ named ∧ HasExtension path extension := by
  have hplain : ∀ entry ∈ named, '.' ∉ entry.1.toList ∧
      extensions.lookup entry.1.toList = some entry.2 := by
    decide
  rw [ofPath?, Option.bind_eq_some_iff]
  constructor
  · rintro ⟨letters, hextension, hformat⟩
    obtain ⟨before, behind, hentry, -⟩ := List.lookup_eq_some_iff.1 hformat
    have hmem : (letters, format) ∈ extensions := by rw [hentry]; simp
    obtain ⟨⟨extension, format'⟩, hnamed, heq⟩ := List.mem_map.1 (extensions_eq ▸ hmem)
    cases heq
    exact ⟨extension, hnamed, (extension?_eq_some_iff (hplain _ hnamed).1).1 hextension⟩
  · rintro ⟨extension, hnamed, hextension⟩
    exact ⟨_, (extension?_eq_some_iff (hplain _ hnamed).1).2 hextension, (hplain _ hnamed).2⟩

theorem ofPath?_eq_none_iff {path : String} :
    ofPath? path = none ↔ ∀ entry ∈ named, ¬ HasExtension path entry.1 := by
  rw [Option.eq_none_iff_forall_ne_some]
  constructor
  · rintro h ⟨extension, format⟩ hnamed hextension
    exact h format (ofPath?_eq_some_iff.2 ⟨extension, hnamed, hextension⟩)
  · intro h format hformat
    obtain ⟨extension, hnamed, hextension⟩ := ofPath?_eq_some_iff.1 hformat
    exact h _ hnamed hextension

end Format

/-! ## Any way to read files -/

section

variable {m : Type → Type} [Monad m] (readText : String → m (Except FileFault String))
  {path : String}

theorem loadWith_eq [LawfulMonad m] {format : Format} (h : Format.ofPath? path = some format) :
    loadWith readText path = ofReading format <$> readText path := by
  rw [loadWith, h]
  exact loadAsWith_eq readText format path

theorem loadWith_of_unknown (h : Format.ofPath? path = none) :
    loadWith readText path = pure (.error (.unknownFormat path)) := by
  rw [loadWith, h]

end

/-! ## Files of a system -/

section

variable {files : FileSystem} {path : String} {format : Format}
  (hformat : Format.ofPath? path = some format)

include hformat

/-- A file whose extension stands for a format loads as its text does. -/
theorem load_of_text {text : String} (htext : files.readText path = .ok text) :
    load files path = ofText format text := by
  rw [load_eq_ofReading hformat, htext]
  rfl

theorem load_of_unreadable (htext : ∀ text, files.readText path ≠ .ok text) :
    ∃ fault, load files path = .error fault ∧ fault.kind = .file := by
  rw [load_eq_ofReading hformat]
  cases hread : files.readText path with
  | ok text => exact absurd hread (htext text)
  | error fault => exact ⟨.unreadable fault, rfl, rfl⟩

end

/-- By its extension alone a file is refused or read. A file that is read is read once, loads as
its text does in the format that the extension stands for, and fails as a file if it has no text;
one that is refused is not read, whatever it takes to read it. The files may be those of a system,
or be read in any other way. Settings that are handed out, by whatever way, pass the check. -/
theorem load_of_extension (path : String) :
    (∀ entry ∈ Format.named, HasExtension path entry.1 →
      (∀ (m : Type → Type) [Monad m] [LawfulMonad m]
        (readText : String → m (Except FileFault String)),
        loadWith readText path = (fun reading =>
          match reading with
          | .ok text => ofText entry.2 text
          | .error fault => .error (.unreadable fault)) <$> readText path) ∧
      ∀ files : FileSystem,
        (∀ text, files.read path = .ok (Utf8.encode text) →
          load files path = ofText entry.2 text) ∧
        ((∀ text, files.read path ≠ .ok (Utf8.encode text)) →
          ∃ fault, load files path = .error fault ∧ fault.kind = .file)) ∧
    ((∀ entry ∈ Format.named, ¬ HasExtension path entry.1) →
      (∀ (m : Type → Type) [Monad m] (readText : String → m (Except FileFault String)),
        loadWith readText path = pure (.error (.unknownFormat path))) ∧
      ∀ files : FileSystem, load files path = .error (.unknownFormat path)) ∧
    (∀ (m : Type → Type) [Monad m] (readText : String → m (Except FileFault String)),
      loadOrDefaultWith readText (some path) = loadWith readText path) ∧
    (∀ files : FileSystem, load files path = Id.run (loadWith files.readText path) ∧
      loadOrDefault files (some path) = load files path) ∧
    (∀ fault, (LoadFault.unreadable fault).kind = .file) ∧
    (LoadFault.unknownFormat path).kind = .config ∧
    ∀ s, Loaded s → s.check = .ok s := by
  refine ⟨fun entry hentry hextension => ?_, fun hunknown => ?_, fun m _ readText => rfl,
    fun files => ⟨rfl, rfl⟩, fun fault => rfl, rfl, fun s hloaded => ?_⟩
  · have hformat : Format.ofPath? path = some entry.2 :=
      Format.ofPath?_eq_some_iff.2 ⟨entry.1, hentry, hextension⟩
    refine ⟨fun m _ _ readText => loadWith_eq readText hformat, fun files => ⟨?_, ?_⟩⟩
    · intro text hread
      exact load_of_text hformat (FileSystem.readText_eq_ok_iff.2 hread)
    · intro hread
      exact load_of_unreadable hformat fun text htext => hread text (FileSystem.readText_eq_ok_iff.1 htext)
  · have hformat := Format.ofPath?_eq_none_iff.2 hunknown
    exact ⟨fun m _ readText => loadWith_of_unknown readText hformat,
      fun files => congrArg Id.run (loadWith_of_unknown (m := Id) files.readText hformat)⟩
  · rw [check, hloaded.flaw?_eq]

namespace Sample

/-- The same text under two names, not in the working directory. -/
def twins : FileSystem where
  root.entries := [(["etc".toList, "app.yml".toList],
      .file (Utf8.encode "append_doc_link: true\n")),
    (["etc".toList, "app.toml".toList], .file (Utf8.encode "append_doc_link: true\n"))]
  workDir := ["home".toList]

/-- Reads a file and counts how often this is done. -/
def readCounting (path : String) : StateM Nat (Except FileFault String) := do
  modify (· + 1)
  return twins.readText path

end Sample

open ScriptAssist.Settings.Sample in
/-- The first file loads by two paths, unless the path asks for more behind it. The second one is
refused, and is not read. -/
theorem load_of_extension_twins :
    (HasExtension "/etc/app.yml" "yml" ∧
      load twins "/etc/app.yml" = ofText .yaml "append_doc_link: true\n" ∧
      (loadWith readCounting "/etc/app.yml").run 0 =
        (ofText .yaml "append_doc_link: true\n", 1)) ∧
    load twins "../etc/app.yml" = ofText .yaml "append_doc_link: true\n" ∧
    (HasExtension "/etc/app.yml/." "yml" ∧
      ∃ fault, load twins "/etc/app.yml/." = .error fault ∧ fault.kind = .file) ∧
    ((∀ entry ∈ Format.named, ¬ HasExtension "/etc/app.toml" entry.1) ∧
      load twins "/etc/app.toml" = .error (.unknownFormat "/etc/app.toml") ∧
      (loadWith readCounting "/etc/app.toml").run 0 =
        (.error (.unknownFormat "/etc/app.toml"), 0)) ∧
    Loaded {} ∧ check {} = .ok {} := by
  have hyml : ("yml", Format.yaml) ∈ Format.named := .tail _ (.head _)
  have hroot : HasExtension "/etc/app.yml" "yml" := ⟨"app".toList, by decide, by decide⟩
  have habove : HasExtension "../etc/app.yml" "yml" := ⟨"app".toList, by decide, by decide⟩
  have hbehind : HasExtension "/etc/app.yml/." "yml" := ⟨"app".toList, by decide, by decide⟩
  have hunknown : ∀ entry ∈ Format.named, ¬ HasExtension "/etc/app.toml" entry.1 :=
    Format.ofPath?_eq_none_iff.1 (by decide)
  have hfault : twins.read "/etc/app.yml/." = .error .notADirectory := rfl
  have hread : twins.read "/etc/app.yml" = .ok (Utf8.encode "append_doc_link: true\n") := rfl
  have hdefault : Loaded {} := @Loaded.orDefault twins.readText none _ rfl
  obtain ⟨hknown, -⟩ := load_of_extension "/etc/app.yml"
  obtain ⟨hany, hfiles⟩ := hknown _ hyml hroot
  obtain ⟨-, hrefused, -⟩ := load_of_extension "/etc/app.toml"
  obtain ⟨hanyRefused, hfilesRefused⟩ := hrefused hunknown
  refine ⟨⟨hroot, (hfiles twins).1 _ hread, ?_⟩, ?_, ⟨hbehind, ?_⟩,
    ⟨hunknown, hfilesRefused twins, ?_⟩, hdefault, ?_⟩
  · rw [hany (StateM Nat) readCounting]
    show (ofReading .yaml (twins.readText "/etc/app.yml"), 1) = _
    rw [FileSystem.readText_eq_ok_iff.2 hread]
    rfl
  · exact (((load_of_extension "../etc/app.yml").1 _ hyml habove).2 twins).1 _ rfl
  · refine (((load_of_extension "/etc/app.yml/.").1 _ hyml hbehind).2 twins).2 fun text h => ?_
    rw [hfault] at h
    cases h
  · rw [hanyRefused (StateM Nat) readCounting]
    rfl
  · exact (load_of_extension "").2.2.2.2.2.2 _ hdefault

end Settings

end ScriptAssist
