import Mathlib.Data.List.TakeWhile
import ScriptAssist.Proofs.Snippet.Matches

/-!
# Cutting a piece of a text

How a text is cut depends on nothing but the text itself (`Cuts`), and a piece of it that is cut on
its own falls into the same chunks, as long as it begins and ends where chunks do (`Cuts.left`,
`Cuts.right`). Nothing behind a piece can bring forth a marker in it or take one away: a marker in
braces ends with its brace, and one without ends where its digits do
(`Marker.leading?_eq_some_iff`).
-/

namespace ScriptAssist.Snippet

open ScriptAssist.Text

theorem takeWhile_ne_append {c : Char} {s : List Char} (h : c ∉ s) (rest : List Char) :
    (s ++ c :: rest).takeWhile (· != c) = s := by
  have hall : ∀ d ∈ s, (d != c) = true := fun d hd => bne_iff_ne.2 fun heq => h (heq ▸ hd)
  rw [List.takeWhile_append_of_pos hall, List.takeWhile_cons_of_neg (by simp), List.append_nil]

namespace Marker

/-- A marker that can be found: it has digits, and no closing brace in its default. -/
structure WellFormed (m : Marker) : Prop where
  digits_ne : m.digits ≠ []
  isDecimalDigit : ∀ c ∈ m.digits, isDecimalDigit c = true
  brace_not_mem : ∀ default ∈ m.default?, '}' ∉ default

/-- The marker ends before what follows. Without braces it would take further digits in. -/
def EndsBefore (m : Marker) (rest : List Char) : Prop :=
  m.default? = none → ∀ c ∈ rest.head?, isDecimalDigit c = false

theorem leadingDigits_append {digits rest : List Char}
    (hdigits : ∀ c ∈ digits, isDecimalDigit c = true)
    (hrest : ∀ c ∈ rest.head?, isDecimalDigit c = false) :
    leadingDigits (digits ++ rest) = digits ∧ afterDigits (digits ++ rest) = rest := by
  rw [leadingDigits, afterDigits, List.takeWhile_append_of_pos hdigits,
    List.dropWhile_append_of_pos hdigits]
  cases rest with
  | nil => exact ⟨List.append_nil _, rfl⟩
  | cons c rest =>
    have hc : ¬ isDecimalDigit c = true := by simp [hrest c rfl]
    rw [List.takeWhile_cons_of_neg hc, List.dropWhile_cons_of_neg hc]
    exact ⟨List.append_nil _, rfl⟩

theorem isDecimalDigit_of_mem_leadingDigits {c : Char} {s : List Char}
    (h : c ∈ leadingDigits s) : isDecimalDigit c = true :=
  List.mem_takeWhile_imp h

theorem head?_afterDigits (s : List Char) :
    ∀ c ∈ (afterDigits s).head?, isDecimalDigit c = false := by
  intro c hc
  have hstop := List.head?_dropWhile_not isDecimalDigit s
  rw [← afterDigits, hc] at hstop
  simpa using hstop

theorem leading?_text_append {m : Marker} (hm : m.WellFormed) (rest : List Char)
    (hrest : m.EndsBefore rest) : leading? (m.text ++ rest) = some m := by
  obtain ⟨digits, default?⟩ := m
  have hne : digits ≠ [] := hm.digits_ne
  have hdigits : ∀ c ∈ digits, isDecimalDigit c = true := hm.isDecimalDigit
  cases default? with
  | none =>
    obtain ⟨hlead, -⟩ := leadingDigits_append hdigits (hrest rfl)
    obtain ⟨c, more, rfl⟩ := List.exists_cons_of_ne_nil hne
    have hbrace : c ≠ '{' := Pattern.digit_ne (hdigits c (.head _)) (by decide)
    rw [text, List.cons_append, leading?, hlead, if_pos hne]
    intro rest' heq
    exact hbrace (List.cons.inj heq).1
  | some default =>
    have hcolon : ∀ c ∈ (':' :: (default ++ '}' :: rest)).head?, isDecimalDigit c = false := by
      simp [show isDecimalDigit ':' = false by decide]
    obtain ⟨hlead, hafter⟩ := leadingDigits_append hdigits hcolon
    have hdefault := takeWhile_ne_append (hm.brace_not_mem default rfl) rest
    have htext : text ⟨digits, some default⟩ ++ rest =
        '$' :: '{' :: (digits ++ ':' :: (default ++ '}' :: rest)) := by
      simp [text]
    simp only [htext, leading?, hafter, hlead, hdefault]
    exact if_pos ⟨hne, by simp⟩

theorem wellFormed_of_leading? {s : List Char} {m : Marker} (h : leading? s = some m) :
    m.WellFormed ∧ ∀ rest, s = m.text ++ rest → m.EndsBefore rest := by
  unfold leading? at h
  split at h
  · split at h
    · split at h
      · next hfound =>
        cases h
        refine ⟨⟨hfound.1, fun c hc => isDecimalDigit_of_mem_leadingDigits hc, ?_⟩, nofun⟩
        rintro default ⟨rfl⟩ hmem
        exact absurd (List.mem_takeWhile_imp hmem) (by simp)
      · cases h
    · cases h
  · next s _ =>
    split at h
    · next hfound =>
      cases h
      refine ⟨⟨hfound, fun c hc => isDecimalDigit_of_mem_leadingDigits hc, nofun⟩, ?_⟩
      intro rest heq _
      have hrest : rest = afterDigits s := by
        have hsplit : leadingDigits s ++ afterDigits s = leadingDigits s ++ rest := by
          rw [leadingDigits, afterDigits, List.takeWhile_append_dropWhile]
          exact (List.cons.inj heq).2
        exact (List.append_cancel_left hsplit).symm
      rw [hrest]
      exact head?_afterDigits s
    · cases h
  · cases h

/-- The marker that a text starts with. -/
theorem leading?_eq_some_iff {s : List Char} {m : Marker} :
    leading? s = some m ↔ m.WellFormed ∧ ∃ rest, s = m.text ++ rest ∧ m.EndsBefore rest := by
  constructor
  · intro h
    obtain ⟨hm, hends⟩ := wellFormed_of_leading? h
    obtain ⟨rest, hrest⟩ := exists_append_of_leading? h
    exact ⟨hm, rest, hrest, hends rest hrest⟩
  · rintro ⟨hm, rest, rfl, hends⟩
    exact leading?_text_append hm rest hends

/-! ## What stands behind -/

theorem EndsBefore.of_append {m : Marker} {s t : List Char} (h : m.EndsBefore (s ++ t)) :
    m.EndsBefore s := by
  intro hshort c hc
  refine h hshort c ?_
  rw [List.head?_append, hc]
  rfl

/-- A marker is found whether or not the text goes on behind it. -/
theorem leading?_of_append {m : Marker} {s t : List Char}
    (h : leading? (m.text ++ (s ++ t)) = some m) : leading? (m.text ++ s) = some m := by
  obtain ⟨hm, hends⟩ := wellFormed_of_leading? h
  exact leading?_text_append hm s (hends _ rfl).of_append

/-- What follows a text cannot undo that it starts with a marker. At most it makes it longer. -/
theorem leading?_eq_none_of_append {s t : List Char} (h : leading? (s ++ t) = none) :
    leading? s = none := by
  cases hs : leading? s with
  | none => rfl
  | some m =>
    obtain ⟨hm, rest, rfl, -⟩ := leading?_eq_some_iff.1 hs
    obtain ⟨digits, default?⟩ := m
    cases default? with
    | some default =>
      have hfound := leading?_text_append hm (rest ++ t) nofun
      rw [← List.append_assoc, h] at hfound
      cases hfound
    | none =>
      -- further digits belong to a longer marker
      have hlonger : WellFormed ⟨digits ++ leadingDigits (rest ++ t), none⟩ := by
        refine ⟨by simp [hm.digits_ne], fun c hc => ?_, nofun⟩
        rcases List.mem_append.1 hc with hc | hc
        · exact hm.isDecimalDigit c hc
        · exact isDecimalDigit_of_mem_leadingDigits hc
      have hfound := leading?_text_append hlonger (afterDigits (rest ++ t))
        fun _ => head?_afterDigits _
      have htext : text ⟨digits ++ leadingDigits (rest ++ t), none⟩ ++ afterDigits (rest ++ t) =
          text ⟨digits, none⟩ ++ rest ++ t := by
        simp [text, leadingDigits, afterDigits]
      rw [htext, h] at hfound
      cases hfound

end Marker

/-! ## Cutting -/

/-- A text falls into chunks: each is the marker that the text from there on starts with, or a
character where it starts with none. -/
inductive Cuts : List Char → List Chunk → Prop
  | nil : Cuts [] []
  | char {c : Char} {s : List Char} {chunks : List Chunk} (hnone : Marker.leading? (c :: s) = none)
      (hrest : Cuts s chunks) : Cuts (c :: s) (.char c :: chunks)
  | marker {m : Marker} {s : List Char} {chunks : List Chunk}
      (hfound : Marker.leading? (m.text ++ s) = some m) (hrest : Cuts s chunks) :
      Cuts (m.text ++ s) (.marker m :: chunks)

theorem cuts_cutFrom (inside : Nat) (s : List Char) : Cuts (s.drop inside) (cutFrom inside s) := by
  fun_induction cutFrom inside s with
  | case1 inside =>
    rw [List.drop_nil]
    exact .nil
  | case2 inside c rest ih => exact ih
  | case3 c rest m hm ih =>
    obtain ⟨after, ha⟩ := Marker.exists_append_of_leading? hm
    have hafter : rest.drop (m.text.length - 1) = after := by
      obtain ⟨d, t, htext⟩ := List.exists_cons_of_ne_nil m.text_ne_nil
      rw [htext] at ha ⊢
      cases ha
      simp
    rw [hafter] at ih
    rw [List.drop_zero, ha]
    exact .marker (ha ▸ hm) ih
  | case4 c rest hm ih => exact .char hm ih

theorem cuts_cut (s : List Char) : Cuts s (cut s) :=
  cuts_cutFrom 0 s

namespace Cuts

variable {s : List Char} {chunks : List Chunk}

theorem text_eq (h : Cuts s chunks) : s = chunks.flatMap Chunk.text := by
  induction h with
  | nil => rfl
  | char _ _ ih => exact congrArg _ ih
  | marker _ _ ih => exact congrArg _ ih

theorem unique (h : Cuts s chunks) {chunks' : List Chunk} (h' : Cuts s chunks') :
    chunks = chunks' := by
  induction h generalizing chunks' with
  | nil =>
    generalize hs : ([] : List Char) = s at h'
    cases h' with
    | nil => rfl
    | char => cases hs
    | @marker m =>
      exact absurd (List.append_eq_nil_iff.1 hs.symm).1 m.text_ne_nil
  | @char c s chunks hnone hrest ih =>
    generalize hs : c :: s = s' at h'
    cases h' with
    | nil => cases hs
    | char _ hrest' =>
      cases hs
      rw [ih hrest']
    | marker hfound =>
      rw [← hs, hnone] at hfound
      cases hfound
  | @marker m s chunks hfound hrest ih =>
    generalize hs : m.text ++ s = s' at h'
    cases h' with
    | nil => exact absurd (List.append_eq_nil_iff.1 hs).1 m.text_ne_nil
    | char hnone =>
      rw [← hs, hfound] at hnone
      cases hnone
    | marker hfound' hrest' =>
      rw [← hs, hfound] at hfound'
      cases hfound'
      rw [ih (List.append_cancel_left hs ▸ hrest')]

theorem cut_eq (h : Cuts s chunks) : cut s = chunks :=
  (cuts_cut s).unique h

/-- The markers among the chunks are the matches in the text. -/
theorem finds (h : Cuts s chunks) : Pattern.marker.Finds s 0 (occurrences 0 chunks) := by
  rw [← h.cut_eq]
  exact finds_cut s

/-- The first chunks are those of their own text. -/
theorem left {front back : List Chunk} (h : Cuts s (front ++ back)) :
    Cuts (front.flatMap Chunk.text) front := by
  induction front generalizing s with
  | nil => exact .nil
  | cons chunk front ih =>
    rw [List.cons_append] at h
    cases h with
    | char hnone hrest =>
      refine .char ?_ (ih hrest)
      rw [hrest.text_eq, List.flatMap_append, ← List.cons_append] at hnone
      exact Marker.leading?_eq_none_of_append hnone
    | marker hfound hrest =>
      rw [List.flatMap_cons]
      refine .marker ?_ (ih hrest)
      rw [hrest.text_eq, List.flatMap_append] at hfound
      exact Marker.leading?_of_append hfound

/-- The last chunks are those of their own text. -/
theorem right {front back : List Chunk} (h : Cuts s (front ++ back)) :
    Cuts (back.flatMap Chunk.text) back := by
  induction front generalizing s with
  | nil =>
    rw [List.nil_append] at h
    exact h.text_eq ▸ h
  | cons chunk front ih =>
    cases h with
    | char _ hrest => exact ih hrest
    | marker _ hrest => exact ih hrest

/-- The markers among the chunks can be found. -/
theorem wellFormed (h : Cuts s chunks) {m : Marker} (hm : .marker m ∈ chunks) : m.WellFormed := by
  induction h with
  | nil => cases hm
  | char _ _ ih => exact ih (by simpa using hm)
  | marker hfound _ ih =>
    rcases List.mem_cons.1 hm with heq | hm
    · cases heq
      exact (Marker.wellFormed_of_leading? hfound).1
    · exact ih hm

end Cuts

end ScriptAssist.Snippet
