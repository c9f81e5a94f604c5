import Mathlib.Algebra.Order.BigOperators.Group.List
import Mathlib.Algebra.Order.Group.Nat
import ScriptAssist.Completion.Style
import ScriptAssist.Proofs.Symbols.Soundness

/-!
# Symbols that are inserted as their label

In a sound catalog the plain text of a property or a variable is its label, so that is what is
inserted as long as no slots are shown. The check does not look at slots: a template may have some
whose defaults make up the label, and a style that shows slots then inserts a snippet, which is
longer than the label (`Style.present_of_not_callable`).
-/

namespace ScriptAssist

open Snippet

/-! ## The length of a template in the two dialects -/

namespace Snippet

theorem length_le_length_escape (special : List Char) (s : String) :
    s.length ≤ (escape special s).length := by
  have hchars : ∀ cs : List Char,
      cs.length ≤ (cs.flatMap fun c => if c ∈ special then ['\\', c] else [c]).length := by
    intro cs
    induction cs with
    | nil => exact Nat.le_refl _
    | cons c cs ih =>
      rw [List.flatMap_cons, List.length_append, List.length_cons]
      split
      · rw [List.length_cons, List.length_singleton]
        omega
      · rw [List.length_singleton]
        omega
  rw [escape, String.length_ofList]
  exact hchars s.toList

/-- A slot takes more room than its default. -/
theorem Piece.length_render_plain_lt {p : Piece} (h : p.isSlot = true) :
    (p.render .plain).length < (p.render .slots).length := by
  cases p with
  | literal text => cases h
  | placeholder index default =>
    have hdefault := length_le_length_escape ['$', '}', '\\'] default
    have hopen : (r"${" : String).length = 2 := rfl
    simp only [Piece.render, String.length_append, hopen]
    omega
  | finalCursor => exact Nat.zero_lt_two

theorem Piece.length_render_plain_le (p : Piece) :
    (p.render .plain).length ≤ (p.render .slots).length := by
  cases hslot : p.isSlot with
  | true => exact Nat.le_of_lt (length_render_plain_lt hslot)
  | false =>
    cases p with
    | literal text => exact length_le_length_escape _ text
    | placeholder index default => cases hslot
    | finalCursor => cases hslot

/-- A template that has a slot is longer with its slots shown. -/
theorem Template.length_plainText_lt {t : Template} (h : t.hasSlot = true) :
    t.plainText.length < t.snippet.length := by
  obtain ⟨p, hp, hslot⟩ := List.any_eq_true.1 h
  simp only [plainText, snippet, render, String.length_join, List.map_map]
  exact List.sum_lt_sum _ _ (fun q _ => q.length_render_plain_le)
    ⟨p, hp, Piece.length_render_plain_lt hslot⟩

end Snippet

/-! ## Properties and variables -/

theorem Style.showsSlots_iff {style : Style} {s : Symbol} :
    style.showsSlots s = true ↔ style.dialect = .slots ∧ s.template.hasSlot = true := by
  rw [showsSlots, Bool.and_eq_true, decide_eq_true_iff]

/-- A property or a variable of a sound catalog is inserted as its label and as plain text, unless
its template has a slot and the style shows slots. Then it is inserted as a snippet, and the text is
not its label. -/
theorem Style.present_of_not_callable {c : Catalog} (hsound : c.flaw? = none) {d : Domain}
    {s : Symbol} (hs : s ∈ c.symbols d) (hkind : s.kind = .property ∨ s.kind = .binding)
    (style : Style) :
    (¬ (style.dialect = .slots ∧ s.template.hasSlot = true) →
      (style.present s).insertText = s.label ∧ (style.present s).insertFormat = .plain) ∧
    (style.dialect = .slots ∧ s.template.hasSlot = true →
      (style.present s).insertText = s.template.snippet ∧
        (style.present s).insertText ≠ s.label ∧ (style.present s).insertFormat = .snippet) := by
  have hlabel : s.template.plainText = s.label :=
    ((Catalog.flaw?_eq_none_iff.1 hsound d).1 s hs).plainText_eq
      (SymbolKind.isCallable_eq_false_iff.2 hkind)
  rw [← showsSlots_iff]
  constructor
  · intro hshows
    exact ⟨(if_neg hshows).trans hlabel, if_neg hshows⟩
  · intro hshows
    have htext : (style.present s).insertText = s.template.snippet := if_pos hshows
    refine ⟨htext, fun hsame => ?_, if_pos hshows⟩
    have hlonger := Template.length_plainText_lt (showsSlots_iff.1 hshows).2
    rw [hlabel, ← hsame, htext] at hlonger
    exact Nat.lt_irrefl _ hlonger

namespace Style.Sample

/-- A property whose template is a slot with the label as its default. -/
def userSlot : Symbol :=
  ⟨"user", .property, "", .parse "${1:user}"⟩

/-- A table with this property and one that is inserted as it is. -/
def sessionTable : Catalog :=
  Catalog.empty.insert .session [userSlot, .plain "sid" .property ""]

end Style.Sample

open Style.Sample

/-- Both properties are inserted as their label if no slots are shown, and the one without slots is
so in any case. -/
theorem Style.present_sessionTable :
    sessionTable.flaw? = none ∧
      (Style.present { dialect := .plain } userSlot).insertText = "user" ∧
      (Style.present {} (.plain "sid" .property "")).insertText = "sid" := by
  have hsound : sessionTable.flaw? = none := by decide
  have huser := present_of_not_callable hsound (d := .session) (.head _) (.inl rfl)
    { dialect := .plain }
  have hsid := present_of_not_callable hsound (d := .session) (.tail _ (.head _)) (.inl rfl) {}
  exact ⟨hsound, (huser.1 (by decide)).1, (hsid.1 (by decide)).1⟩

/-- The catalog is sound, yet one of its properties is inserted as a snippet. -/
theorem Style.present_userSlot :
    sessionTable.flaw? = none ∧ userSlot ∈ sessionTable.symbols .session ∧
      userSlot.kind = .property ∧
      (Style.present {} userSlot).insertText = "${1:user}" ∧
      (Style.present {} userSlot).insertText ≠ userSlot.label ∧
      (Style.present {} userSlot).insertFormat = .snippet := by
  decide

end ScriptAssist
