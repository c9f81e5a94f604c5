import ScriptAssist.Proofs.Snippet.Cuts
import ScriptAssist.Proofs.Snippet.RoundTrip
import ScriptAssist.Proofs.Snippet.Stretches

/-!
# Sources that are shown as they are written

A source is tidy if it has no backslashes and each of its dollar signs opens a marker in the form in
which slots are shown (`Tidy`). That is, none of the chunks that it is cut into changes when it is
shown (`tidy_iff`), and so neither does the source (`Tidy.shown_join_cut`).
-/

namespace ScriptAssist.Snippet

open ScriptAssist.Text

/-! ## Tidy sources -/

/-- The form in which slots are shown: `$0`, or a number above 0 that has no leading zeros and fits
in 32 bits, with a default. -/
inductive Canonical : List Char → Prop
  | finalCursor : Canonical ['$', '0']
  | placeholder {index : Nat} (hpos : 1 ≤ index) (hlt : index < UInt32.size) (default : List Char) :
      Canonical ('$' :: '{' :: (Nat.toDigits 10 index ++ ':' :: (default ++ ['}'])))

/-- There is no backslash, and each dollar sign is the first character of a match that reads as
slots are shown. -/
structure Tidy (source : List Char) : Prop where
  slash_not_mem : '\\' ∉ source
  opens : ∃ found, Pattern.marker.Finds source 0 found ∧
    ∀ i, source[i]? = some '$' → ∃ o ∈ found, o.start = i ∧ Canonical o.found.text

/-- The marker is `$0`, or its number is written as numbers are shown and its default has no dollar
signs. -/
def Marker.ShownAsIs (m : Marker) : Prop :=
  match m.default? with
  | none => m.digits = ['0']
  | some default =>
    '$' ∉ default ∧ ∃ index ∈ m.index?, 1 ≤ index ∧ m.digits = Nat.toDigits 10 index

instance (m : Marker) : Decidable m.ShownAsIs :=
  match h : m.default? with
  | none => decidable_of_iff (m.digits = ['0']) (by rw [Marker.ShownAsIs, h])
  | some default =>
    decidable_of_iff
      ('$' ∉ default ∧ ∃ index ∈ m.index?, 1 ≤ index ∧ m.digits = Nat.toDigits 10 index)
      (by rw [Marker.ShownAsIs, h])

/-- The chunk is a marker that is shown as it is written, or a character other than the dollar
sign. -/
def Chunk.ShownAsIs : Chunk → Prop
  | .char c => c ≠ '$'
  | .marker m => m.ShownAsIs

instance : DecidablePred Chunk.ShownAsIs
  | .char _ => inferInstanceAs (Decidable (_ ≠ _))
  | .marker m => inferInstanceAs (Decidable m.ShownAsIs)

/-! ## Markers -/

theorem guarded_eq_self {special s : List Char} (h : ∀ c ∈ s, c ∉ special) :
    guarded special s = s := by
  induction s with
  | nil => rfl
  | cons c s ih =>
    rw [guarded_cons_of_not_mem (h c (.head _)), ih fun d hd => h d (.tail _ hd)]

namespace Marker

theorem index?_toDigits {index : Nat} (hlt : index < UInt32.size) (default? : Option (List Char)) :
    index? ⟨Nat.toDigits 10 index, default?⟩ = some index := by
  have hdigits : (Nat.toDigits 10 index).all Char.isDigit = true :=
    List.all_eq_true.2 fun c hc => Nat.isDigit_of_mem_toDigits (by decide) (by decide) hc
  rw [index?, decimal?_eq, if_pos hdigits, Nat.ofDigitChars_ten_toDigits,
    Option.filter_some_pos (by simpa using hlt)]

theorem index_lt {m : Marker} {index : Nat} (h : m.index? = some index) : index < UInt32.size := by
  simpa using (Option.filter_eq_some_iff.1 h).2

/-- A marker that reads as slots are shown has the digits and the default that it is shown with. -/
theorem eq_of_canonical {m : Marker} (hm : m.WellFormed) (h : Canonical m.text) :
    m = ⟨['0'], none⟩ ∨ ∃ index default, 1 ≤ index ∧ index < UInt32.size ∧
      m = ⟨Nat.toDigits 10 index, some default⟩ := by
  obtain ⟨digits, default?⟩ := m
  have hdecimal : ∀ c ∈ digits, isDecimalDigit c = true := hm.isDecimalDigit
  generalize htext : text ⟨digits, default?⟩ = t at h
  cases h with
  | finalCursor =>
    cases default? with
    | none =>
      cases htext
      exact .inl rfl
    | some default => cases htext
  | @placeholder index hpos hlt default =>
    cases default? with
    | none =>
      cases htext
      exact absurd (hdecimal '{' (.head _)) (by decide)
    | some default' =>
      have hcolon : ':' ∉ digits := fun hmem => absurd (hdecimal ':' hmem) (by decide)
      have hcolon' : ':' ∉ Nat.toDigits 10 index := fun hmem =>
        absurd (Nat.isDigit_of_mem_toDigits (by decide) (by decide) hmem) (by decide)
      have hinner : digits ++ ':' :: (default' ++ ['}']) =
          Nat.toDigits 10 index ++ ':' :: (default ++ ['}']) := by
        simpa [text] using htext
      have hdigits : digits = Nat.toDigits 10 index :=
        calc
          digits = (digits ++ ':' :: (default' ++ ['}'])).takeWhile (· != ':') :=
            (takeWhile_ne_append hcolon _).symm
          _ = (Nat.toDigits 10 index ++ ':' :: (default ++ ['}'])).takeWhile (· != ':') := by
            rw [hinner]
          _ = Nat.toDigits 10 index := takeWhile_ne_append hcolon' _
      exact .inr ⟨index, default', hpos, hlt, by rw [hdigits]⟩

theorem shownAsIs_iff {m : Marker} (hm : m.WellFormed) :
    m.ShownAsIs ↔ Canonical m.text ∧ '$' ∉ m.text.tail := by
  constructor
  · obtain ⟨digits, default?⟩ := m
    cases default? with
    | none =>
      rintro rfl
      exact ⟨.finalCursor, by decide⟩
    | some default =>
      rintro ⟨hdollar, index, hindex, hpos, rfl⟩
      have hdigits : '$' ∉ Nat.toDigits 10 index := fun hmem =>
        absurd (hm.isDecimalDigit '$' hmem) (by decide)
      refine ⟨?_, by simp [text, hdollar, hdigits]⟩
      simpa [text] using Canonical.placeholder hpos (index_lt hindex) default
  · rintro ⟨hcanonical, hdollar⟩
    rcases eq_of_canonical hm hcanonical with rfl | ⟨index, default, hpos, hlt, rfl⟩
    · rfl
    · exact ⟨fun hmem => hdollar (by simp [text, hmem]), index, index?_toDigits hlt _, hpos, rfl⟩

theorem ShownAsIs.exists_piece {m : Marker} (h : m.ShownAsIs) (hm : m.WellFormed)
    (hslash : '\\' ∉ m.text) :
    ∃ slot, m.piece? = some slot ∧ (slot.render .slots).toList = m.text := by
  obtain ⟨digits, default?⟩ := m
  cases default? with
  | none =>
    cases h
    exact ⟨.finalCursor, rfl, by decide⟩
  | some default =>
    obtain ⟨hdollar, index, hindex, hpos, rfl⟩ := h
    have hplain : ∀ c ∈ default, c ∉ escapable := by
      intro c hc hspecial
      simp only [escapable, List.mem_cons, List.not_mem_nil, or_false] at hspecial
      rcases hspecial with rfl | rfl | rfl
      · exact hdollar hc
      · exact hm.brace_not_mem default rfl hc
      · exact hslash (by simp [text, hc])
    refine ⟨.placeholder index (String.ofList default), ?_, ?_⟩
    · rw [piece?, hindex, Option.map_some, if_neg (Nat.ne_of_gt hpos)]
      rfl
    · rw [toList_render_placeholder, toList_escape, String.toList_ofList, guarded_eq_self hplain]
      simp [text]

theorem ShownAsIs.not_mem_default {m : Marker} (h : m.ShownAsIs) (hm : m.WellFormed) {index : Nat}
    {default : String} (hpiece : m.piece? = some (.placeholder index default)) :
    '$' ∉ default.toList ∧ '}' ∉ default.toList := by
  obtain ⟨digits, default?⟩ := m
  cases default? with
  | none =>
    cases h
    cases hpiece
  | some default' =>
    obtain ⟨hdollar, index', hindex, hpos, -⟩ := h
    rw [piece?, hindex, Option.map_some, if_neg (Nat.ne_of_gt hpos)] at hpiece
    cases hpiece
    rw [Option.getD_some, String.toList_ofList]
    exact ⟨hdollar, hm.brace_not_mem default' rfl⟩

end Marker

/-! ## Chunks -/

theorem le_start_of_mem_occurrences {place : Nat} {chunks : List Chunk} {o : Occurrence}
    (h : o ∈ occurrences place chunks) : place ≤ o.start := by
  induction chunks generalizing place with
  | nil => cases h
  | cons chunk chunks ih =>
    cases chunk with
    | char c => exact Nat.le_of_succ_le (ih h)
    | marker m =>
      rcases List.mem_cons.1 h with rfl | h
      · exact Nat.le_refl _
      · exact (Nat.le_add_right _ _).trans (ih h)

/-- Each dollar sign of a text with `place` characters before it is at the start of an occurrence
that reads as slots are shown. -/
def Opens (place : Nat) (s : List Char) (found : List Occurrence) : Prop :=
  ∀ i, s[i]? = some '$' → ∃ o ∈ found, o.start = place + i ∧ Canonical o.found.text

theorem opens_cons_iff {place : Nat} {c : Char} {s : List Char} {found : List Occurrence} :
    Opens place (c :: s) found ↔
      (c = '$' → ∃ o ∈ found, o.start = place ∧ Canonical o.found.text) ∧
        Opens (place + 1) s found := by
  constructor
  · intro h
    refine ⟨fun hc => h 0 (congrArg some hc), fun i hi => ?_⟩
    rw [Nat.add_right_comm]
    exact h (i + 1) hi
  · rintro ⟨hfirst, hrest⟩ i hi
    cases i with
    | zero => exact hfirst (Option.some.inj hi)
    | succ i =>
      rw [← Nat.add_assoc, Nat.add_right_comm]
      exact hrest i hi

theorem opens_append_iff {place : Nat} {t s : List Char} {found : List Occurrence} :
    Opens place (t ++ s) found ↔ Opens place t found ∧ Opens (place + t.length) s found := by
  induction t generalizing place with
  | nil => simp [Opens]
  | cons c t ih =>
    rw [List.cons_append, opens_cons_iff, opens_cons_iff, ih, and_assoc, List.length_cons,
      Nat.add_right_comm place 1, Nat.add_assoc place]

/-- Where no occurrence starts, there is no dollar sign. -/
theorem opens_iff_not_mem {place : Nat} {s : List Char} {found : List Occurrence}
    (h : ∀ o ∈ found, o.start < place ∨ place + s.length ≤ o.start) :
    Opens place s found ↔ '$' ∉ s := by
  constructor
  · intro hopens hmem
    obtain ⟨i, hi, hc⟩ := List.getElem_of_mem hmem
    obtain ⟨o, ho, hstart, -⟩ := hopens i (hc ▸ List.getElem?_eq_getElem hi)
    rcases h o ho with hlt | hle
    · omega
    · omega
  · intro hnone i hi
    exact absurd (List.mem_of_getElem? hi) hnone

theorem opens_found_cons_iff {place : Nat} {s : List Char} {o : Occurrence}
    {found : List Occurrence} (h : o.start < place) :
    Opens place s (o :: found) ↔ Opens place s found := by
  refine forall_congr' fun i => imp_congr_right fun _ => ?_
  rw [List.exists_mem_cons_iff]
  exact or_iff_right fun hfirst => by omega

theorem Marker.text_eq_cons (m : Marker) : ∃ t, m.text = '$' :: t := by
  unfold text
  split
  · exact ⟨_, rfl⟩
  · exact ⟨_, rfl⟩

theorem Marker.leading?_cons_of_ne {c : Char} {s : List Char} (h : c ≠ '$') :
    leading? (c :: s) = none := by
  refine Option.eq_none_iff_forall_ne_some.2 fun m hm => h ?_
  obtain ⟨t, ht⟩ := m.text_eq_cons
  obtain ⟨rest, hrest⟩ := exists_append_of_leading? hm
  rw [ht] at hrest
  exact (List.cons.inj hrest).1

/-- At a marker, the dollar signs are at the start of occurrences in the form in which slots are
shown exactly if the marker has that form and no other dollar sign in it. -/
theorem opens_marker_iff {place : Nat} {m : Marker} {s : List Char} {chunks : List Chunk} :
    Opens place (m.text ++ s) (occurrences place (.marker m :: chunks)) ↔
      (Canonical m.text ∧ '$' ∉ m.text.tail) ∧
        Opens (place + m.text.length) s (occurrences (place + m.text.length) chunks) := by
  obtain ⟨t, ht⟩ := m.text_eq_cons
  have hlength : place + m.text.length = place + 1 + t.length := by
    rw [ht, List.length_cons]
    omega
  have hbehind : ∀ o ∈ occurrences (place + m.text.length) chunks,
      place + m.text.length ≤ o.start := fun _ => le_start_of_mem_occurrences
  have hfirst : ('$' = '$' → ∃ o ∈ occurrences place (.marker m :: chunks),
      o.start = place ∧ Canonical o.found.text) ↔ Canonical m.text := by
    constructor
    · intro hopens
      obtain ⟨o, ho, hstart, hcanonical⟩ := hopens rfl
      rcases List.mem_cons.1 ho with rfl | ho
      · exact hcanonical
      · have := hbehind o ho
        omega
    · exact fun hcanonical _ => ⟨_, .head _, rfl, hcanonical⟩
  have hinner : Opens (place + 1) t (occurrences place (.marker m :: chunks)) ↔ '$' ∉ t := by
    refine opens_iff_not_mem fun o ho => ?_
    rcases List.mem_cons.1 ho with rfl | ho
    · exact .inl (Nat.lt_succ_self _)
    · exact .inr (hlength ▸ hbehind o ho)
  have hlater : Opens (place + m.text.length) s (occurrences place (.marker m :: chunks)) ↔
      Opens (place + m.text.length) s (occurrences (place + m.text.length) chunks) :=
    opens_found_cons_iff (Nat.lt_add_of_pos_right (List.length_pos_iff.2 m.text_ne_nil))
  have hsplit : m.text ++ s = '$' :: (t ++ s) := by rw [ht, List.cons_append]
  have htail : m.text.tail = t := by rw [ht, List.tail_cons]
  rw [hsplit, opens_cons_iff, opens_append_iff, hinner, hfirst, ← hlength, hlater, htail, and_assoc]

/-- The dollar signs of a text are all at the start of markers in the form in which slots are shown
exactly if every chunk is shown as it is written. -/
theorem Cuts.opens_iff {s : List Char} {chunks : List Chunk} (h : Cuts s chunks) (place : Nat) :
    Opens place s (occurrences place chunks) ↔ ∀ chunk ∈ chunks, chunk.ShownAsIs := by
  induction h generalizing place with
  | nil => simp [Opens]
  | @char c s chunks hnone hrest ih =>
    rw [List.forall_mem_cons, ← ih (place + 1), opens_cons_iff]
    refine and_congr_left' ⟨fun hfirst hc => ?_, fun hc hdollar => absurd hdollar hc⟩
    obtain ⟨o, ho, hstart, -⟩ := hfirst hc
    have hlater : place + 1 ≤ o.start :=
      le_start_of_mem_occurrences (show o ∈ occurrences (place + 1) chunks from ho)
    omega
  | @marker m s chunks hfound hrest ih =>
    rw [opens_marker_iff, ih, List.forall_mem_cons,
      ← Marker.shownAsIs_iff (Marker.wellFormed_of_leading? hfound).1]
    rfl

/-- A source is tidy exactly if it has no backslash and every chunk is shown as it is written. -/
theorem tidy_iff {s : List Char} :
    Tidy s ↔ '\\' ∉ s ∧ ∀ chunk ∈ cut s, chunk.ShownAsIs := by
  have hopens : ∀ found, Opens 0 s found ↔
      ∀ i, s[i]? = some '$' → ∃ o ∈ found, o.start = i ∧ Canonical o.found.text := by
    simp [Opens]
  constructor
  · rintro ⟨hslash, found, hfinds, hstarts⟩
    obtain rfl := hfinds.unique (finds_cut s)
    exact ⟨hslash, ((cuts_cut s).opens_iff 0).1 ((hopens _).2 hstarts)⟩
  · rintro ⟨hslash, hshown⟩
    exact ⟨hslash, _, finds_cut s, (hopens _).1 (((cuts_cut s).opens_iff 0).2 hshown)⟩

instance (s : List Char) : Decidable (Tidy s) :=
  decidable_of_iff' _ tidy_iff

/-! ## Templates -/

theorem shown_append (pieces pieces' : List Piece) :
    shown (pieces ++ pieces') = shown pieces ++ shown pieces' :=
  List.flatMap_append

theorem shown_literal {pending : List Char} (h : ∀ c ∈ pending, c ∉ ['$', '\\']) :
    shown (literal pending) = pending.reverse := by
  unfold literal
  split
  · next hempty =>
    rw [List.isEmpty_iff.1 hempty]
    rfl
  · rw [shown, List.flatMap_singleton]
    show (escape ['$', '\\'] (String.ofList pending.reverse)).toList = pending.reverse
    rw [toList_escape, String.toList_ofList, guarded_eq_self]
    simpa using h

/-- Chunks are joined to pieces that show the chunks' own text, if there is nothing to be guarded
outside markers and every marker makes a slot that is shown as the marker is written. -/
theorem shown_join {pending : List Char} {chunks : List Chunk}
    (hpending : ∀ c ∈ pending, c ∉ ['$', '\\'])
    (hchars : ∀ c, .char c ∈ chunks → c ∉ ['$', '\\'])
    (hmarkers : ∀ m, .marker m ∈ chunks →
      ∃ slot, m.piece? = some slot ∧ (slot.render .slots).toList = m.text) :
    shown (join pending chunks) = pending.reverse ++ chunks.flatMap Chunk.text := by
  fun_induction join pending chunks with
  | case1 pending => rw [shown_literal hpending, List.flatMap_nil, List.append_nil]
  | case2 pending c rest ih =>
    have hplain : ∀ d ∈ c :: pending, d ∉ ['$', '\\'] :=
      List.forall_mem_cons.2 ⟨hchars c (.head _), hpending⟩
    rw [ih hplain (fun d hd => hchars d (.tail _ hd)) fun m hm => hmarkers m (.tail _ hm),
      List.reverse_cons, List.append_assoc]
    rfl
  | case3 pending m rest slot hslot ih =>
    obtain ⟨slot', hslot', hshown⟩ := hmarkers m (.head _)
    obtain rfl : slot = slot' := Option.some.inj (hslot.symm.trans hslot')
    rw [shown_append, shown_literal hpending, shown_cons, hshown,
      ih (List.forall_mem_nil _) (fun c hc => hchars c (.tail _ hc))
        fun m hm => hmarkers m (.tail _ hm)]
    rfl
  | case4 pending m rest hslot ih =>
    obtain ⟨slot, hslot', -⟩ := hmarkers m (.head _)
    rw [hslot] at hslot'
    cases hslot'

/-- The slots of joined chunks are those of their markers. -/
theorem exists_marker_of_mem_join {pending : List Char} {chunks : List Chunk} {p : Piece}
    (h : p ∈ join pending chunks) (hp : p.isSlot = true) :
    ∃ m, .marker m ∈ chunks ∧ m.piece? = some p := by
  have hliteral : ∀ {pending : List Char}, p ∉ literal pending := by
    intro pending hmem
    rw [literal_eq_stretch] at hmem
    rw [eq_literal_of_mem_stretch hmem] at hp
    cases hp
  fun_induction join pending chunks with
  | case1 pending => exact absurd h hliteral
  | case2 pending c rest ih =>
    obtain ⟨m, hm, hpiece⟩ := ih h
    exact ⟨m, .tail _ hm, hpiece⟩
  | case3 pending m rest slot hslot ih =>
    rcases List.mem_append.1 h with h | h
    · exact absurd h hliteral
    · rcases List.mem_cons.1 h with rfl | h
      · exact ⟨m, .head _, hslot⟩
      · obtain ⟨m', hm', hpiece⟩ := ih h
        exact ⟨m', .tail _ hm', hpiece⟩
  | case4 pending m rest hslot ih =>
    obtain ⟨m', hm', hpiece⟩ := ih h
    exact ⟨m', .tail _ hm', hpiece⟩

/-- A tidy source is shown as it is written. -/
theorem Tidy.shown_join_cut {s : List Char} (h : Tidy s) : shown (join [] (cut s)) = s := by
  obtain ⟨hslash, hchunks⟩ := tidy_iff.1 h
  have hmem : ∀ chunk ∈ cut s, ∀ c ∈ chunk.text, c ∈ s := by
    intro chunk hchunk c hc
    rw [← text_cut s]
    exact List.mem_flatMap_of_mem hchunk hc
  have hchars : ∀ c, .char c ∈ cut s → c ∉ ['$', '\\'] := by
    intro c hc hspecial
    simp only [List.mem_cons, List.not_mem_nil, or_false] at hspecial
    rcases hspecial with rfl | rfl
    · exact hchunks _ hc rfl
    · exact hslash (hmem _ hc _ (.head _))
  have hmarkers : ∀ m, .marker m ∈ cut s →
      ∃ slot, m.piece? = some slot ∧ (slot.render .slots).toList = m.text := fun m hm =>
    (hchunks _ hm).exists_piece ((cuts_cut s).wellFormed hm) fun hslash' =>
      hslash (hmem _ hm _ hslash')
  rw [shown_join (List.forall_mem_nil _) hchars hmarkers, text_cut]
  rfl

/-- A default in a tidy source has neither dollar signs nor closing braces. -/
theorem Tidy.not_mem_default {s : List Char} (h : Tidy s) {index : Nat} {default : String}
    (hp : .placeholder index default ∈ join [] (cut s)) :
    '$' ∉ default.toList ∧ '}' ∉ default.toList := by
  obtain ⟨m, hm, hpiece⟩ := exists_marker_of_mem_join hp rfl
  have hshown : m.ShownAsIs := (tidy_iff.1 h).2 _ hm
  exact hshown.not_mem_default ((cuts_cut s).wellFormed hm) hpiece

/-- Text without dollar signs and backslashes may stand before a tidy source. -/
theorem Tidy.append_left {s t : List Char} (hs : '$' ∉ s ∧ '\\' ∉ s) (h : Tidy t) :
    Tidy (s ++ t) := by
  obtain ⟨hdollar, hslash⟩ := hs
  induction s with
  | nil => exact h
  | cons c s ih =>
    rw [List.mem_cons, not_or] at hdollar hslash
    obtain ⟨hslash', hchunks⟩ := tidy_iff.1 (ih hdollar.2 hslash.2)
    have hcut : Cuts (c :: (s ++ t)) (.char c :: cut (s ++ t)) :=
      .char (Marker.leading?_cons_of_ne (Ne.symm hdollar.1)) (cuts_cut _)
    rw [List.cons_append, tidy_iff, hcut.cut_eq, List.mem_cons, not_or]
    exact ⟨⟨hslash.1, hslash'⟩, List.forall_mem_cons.2 ⟨Ne.symm hdollar.1, hchunks⟩⟩

end ScriptAssist.Snippet
