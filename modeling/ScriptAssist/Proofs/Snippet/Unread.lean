import ScriptAssist.Proofs.Snippet.Cuts
import ScriptAssist.Proofs.Snippet.Stretches

/-!
# Markers that are left unread

Whether a template has a marker that could not be read is found out by searching its literal texts
once more, each on its own. The texts are pieces of the source, cut out between the markers that
were read. The second search finds just the matches that the first one found and did not accept
(`Template.hasUnreadMarker_parse_iff`): none is missed because the text behind it is gone, and none
comes up that was not there before.
-/

namespace ScriptAssist.Snippet

/-! ## Searching literal texts -/

/-- A text has a marker if the pattern matches in it. -/
theorem any_isMarker_cut_iff (s : List Char) :
    (cut s).any Chunk.isMarker = true ↔ Pattern.marker.OccursIn s := by
  rw [← (finds_cut s).ne_nil_iff_occursIn]
  generalize 0 = place
  induction cut s generalizing place with
  | nil => simp [occurrences]
  | cons chunk chunks ih =>
    cases chunk with
    | char c => exact ih (place + 1)
    | marker m => exact ⟨fun _ => List.cons_ne_nil _ _, fun _ => rfl⟩

theorem Template.hasUnreadMarker_iff (t : Template) :
    t.hasUnreadMarker = true ↔
      ∃ text, .literal text ∈ t.pieces ∧ Pattern.marker.OccursIn text.toList := by
  rw [hasUnreadMarker, List.any_eq_true]
  constructor
  · rintro ⟨p, hp, hfound⟩
    cases p with
    | literal text => exact ⟨text, hp, (any_isMarker_cut_iff _).1 hfound⟩
    | placeholder => cases hfound
    | finalCursor => cases hfound
  · rintro ⟨text, hp, hfound⟩
    exact ⟨.literal text, hp, (any_isMarker_cut_iff _).2 hfound⟩

/-- The matches in the literal texts of pieces, one text after the other. Each text is searched from
its start to its end, and nothing else is looked at. -/
inductive FindsInTexts : List Piece → List Match → Prop
  | nil : FindsInTexts [] []
  | literal {text : String} {found : List Occurrence} {rest : List Piece} {more : List Match}
      (hfound : Pattern.marker.Finds text.toList 0 found) (hrest : FindsInTexts rest more) :
      FindsInTexts (.literal text :: rest) (found.map (·.found) ++ more)
  | slot {p : Piece} {rest : List Piece} {more : List Match} (hp : p.isSlot = true)
      (hrest : FindsInTexts rest more) : FindsInTexts (p :: rest) more

theorem FindsInTexts.ne_nil_iff {pieces : List Piece} {found : List Match}
    (h : FindsInTexts pieces found) :
    found ≠ [] ↔ ∃ text, .literal text ∈ pieces ∧ Pattern.marker.OccursIn text.toList := by
  induction h with
  | nil => simp
  | @literal text found rest more hfound _ ih =>
    have hsplit : found.map (·.found) ++ more ≠ [] ↔ found ≠ [] ∨ more ≠ [] := by
      simp only [ne_eq, List.append_eq_nil_iff, List.map_eq_nil_iff, not_and_or]
    rw [hsplit, hfound.ne_nil_iff_occursIn, ih]
    constructor
    · rintro (hfirst | ⟨text', hmem, hoccurs⟩)
      · exact ⟨text, .head _, hfirst⟩
      · exact ⟨text', .tail _ hmem, hoccurs⟩
    · rintro ⟨text', hmem, hoccurs⟩
      rcases List.mem_cons.1 hmem with heq | hmem
      · cases heq
        exact .inl hoccurs
      · exact .inr ⟨text', hmem, hoccurs⟩
  | @slot p rest more hp _ ih =>
    rw [ih]
    have hne : ∀ text, Piece.literal text ≠ p := by
      rintro text rfl
      cases hp
    simp [hne]

/-! ## Chunks -/

/-- The matches of the markers among chunks. -/
def matchesOf (chunks : List Chunk) : List Match :=
  chunks.filterMap fun
    | .marker m => some m.toMatch
    | .char _ => none

theorem map_occurrences (place : Nat) (chunks : List Chunk) :
    (occurrences place chunks).map (·.found) = matchesOf chunks := by
  induction chunks generalizing place with
  | nil => rfl
  | cons chunk chunks ih =>
    cases chunk with
    | char c => exact ih (place + 1)
    | marker m => exact congrArg (m.toMatch :: ·) (ih (place + m.text.length))

theorem matchesOf_append (chunks chunks' : List Chunk) :
    matchesOf (chunks ++ chunks') = matchesOf chunks ++ matchesOf chunks' :=
  List.filterMap_append

/-- The literal text for chunks has the matches of their markers. -/
theorem FindsInTexts.literal_append {run : List Chunk} (hrun : Cuts (run.flatMap Chunk.text) run)
    {rest : List Piece} {more : List Match} (hrest : FindsInTexts rest more) :
    FindsInTexts (Snippet.literal (run.flatMap Chunk.text).reverse ++ rest)
      (matchesOf run ++ more) := by
  rw [literal_eq_stretch, List.reverse_reverse, stretch]
  split
  · next hempty =>
    have hnone : run = [] := hrun.unique (hempty ▸ .nil)
    rw [hnone]
    exact hrest
  · rw [← map_occurrences 0]
    exact .literal (String.toList_ofList.symm ▸ hrun.finds) hrest

/-- The literal texts of joined chunks have the matches that are not accepted. -/
theorem findsInTexts_join (run : List Chunk) {chunks : List Chunk} {s : List Char}
    (h : Cuts s (run ++ chunks))
    (hrun : ∀ m ∈ matchesOf run, ¬ m.Accepted) :
    FindsInTexts (join (run.flatMap Chunk.text).reverse chunks)
      (matchesOf run ++ (matchesOf chunks).filter fun m => ¬ m.Accepted) := by
  -- `run` holds the chunks since the last slot, and what gathers behind it is their text
  induction chunks generalizing run s with
  | nil =>
    rw [join, ← List.append_nil (Snippet.literal _)]
    exact .literal_append h.left .nil
  | cons chunk chunks ih =>
    have hgathered := List.append_cons run chunk chunks ▸ h
    cases chunk with
    | char c =>
      have hrest := ih _ hgathered (by simpa [matchesOf] using hrun)
      simpa [matchesOf, Chunk.text, join] using hrest
    | marker m =>
      cases hslot : m.piece? with
      | some slot =>
        have haccepted := (Marker.accepted_of_piece? hslot).1
        have hrest := ih [] hgathered.right (List.forall_mem_nil _)
        have hpieces := FindsInTexts.literal_append h.left
          (.slot (m.isSlot_of_piece? hslot) hrest)
        simpa [matchesOf, haccepted, join, hslot] using hpieces
      | none =>
        have hrejected := Marker.not_accepted_of_piece? hslot
        have hgather : ∀ m' ∈ matchesOf (run ++ [.marker m]), ¬ m'.Accepted := by
          intro m' hm'
          rw [matchesOf_append] at hm'
          rcases List.mem_append.1 hm' with hm' | hm'
          · exact hrun m' hm'
          · rw [List.mem_singleton.1 hm']
            exact hrejected
        have hrest := ih _ hgathered hgather
        simpa [matchesOf, Chunk.text, hrejected, join, hslot] using hrest

/-! ## Templates -/

/-- A template has a marker left unread exactly if one of the matches in its source is not accepted.
Searched on their own, its literal texts have just the matches that are not accepted, in their
order. -/
theorem Template.hasUnreadMarker_parse_iff (source : String) :
    ∃ found, Pattern.marker.Finds source.toList 0 found ∧
      (∀ found', Pattern.marker.Finds source.toList 0 found' → found' = found) ∧
      ((parse source).hasUnreadMarker = true ↔ ∃ o ∈ found, ¬ o.found.Accepted) ∧
      FindsInTexts (parse source).pieces
        ((found.map (·.found)).filter fun m => ¬ m.Accepted) := by
  have hfinds := finds_cut source.toList
  have htexts : FindsInTexts (parse source).pieces
      ((matchesOf (cut source.toList)).filter fun m => ¬ m.Accepted) :=
    findsInTexts_join [] (cuts_cut source.toList) (List.forall_mem_nil _)
  rw [← map_occurrences 0] at htexts
  refine ⟨_, hfinds, fun _ h => h.unique hfinds, ?_, htexts⟩
  rw [hasUnreadMarker_iff, ← htexts.ne_nil_iff]
  simp

end ScriptAssist.Snippet
