import ScriptAssist.Snippet.Template

/-!
# Pieces of a template

In a template that has been read, literal text is never empty, two literal texts never stand side by
side, and no placeholder has the number 0 (`Template.regular_parse`).
-/

namespace ScriptAssist.Snippet

/-- Pieces as they are read from the notation. -/
inductive Regular : List Piece → Prop
  | nil : Regular []
  | literal {text : String} {rest : List Piece} (hne : text ≠ "")
      (hnext : ∀ p ∈ rest.head?, p.isSlot = true) (hrest : Regular rest) :
      Regular (.literal text :: rest)
  | placeholder {index : Nat} {default : String} {rest : List Piece} (hindex : index ≠ 0)
      (hrest : Regular rest) : Regular (.placeholder index default :: rest)
  | finalCursor {rest : List Piece} (hrest : Regular rest) : Regular (.finalCursor :: rest)

theorem Regular.literal_append {rest : List Piece} (hrest : Regular rest)
    (hnext : ∀ p ∈ rest.head?, p.isSlot = true) (pending : List Char) :
    Regular (Snippet.literal pending ++ rest) := by
  unfold Snippet.literal
  split
  · exact hrest
  · next hne =>
    refine .literal (fun hempty => hne ?_) hnext hrest
    simpa using congrArg String.toList hempty

theorem Marker.isSlot_of_piece? {m : Marker} {p : Piece} (h : m.piece? = some p) :
    p.isSlot = true := by
  obtain ⟨index, -, rfl⟩ := Option.map_eq_some_iff.1 h
  split
  · rfl
  · rfl

theorem Regular.slot_cons {m : Marker} {p : Piece} (h : m.piece? = some p) {rest : List Piece}
    (hrest : Regular rest) : Regular (p :: rest) := by
  obtain ⟨index, -, rfl⟩ := Option.map_eq_some_iff.1 h
  split
  · exact .finalCursor hrest
  · next hindex => exact .placeholder hindex hrest

theorem regular_join (pending : List Char) (chunks : List Chunk) :
    Regular (join pending chunks) := by
  fun_induction join pending chunks with
  | case1 pending =>
    rw [← List.append_nil (literal pending)]
    exact Regular.nil.literal_append (fun _ h => nomatch h) pending
  | case2 _ _ _ ih => exact ih
  | case3 pending m rest slot hslot ih =>
    refine (Regular.slot_cons hslot ih).literal_append (fun p hp => ?_) pending
    obtain rfl : slot = p := by simpa using hp
    exact m.isSlot_of_piece? hslot
  | case4 _ _ _ _ ih => exact ih

theorem Template.regular_parse (source : String) : Regular (parse source).pieces :=
  regular_join [] _

end ScriptAssist.Snippet
