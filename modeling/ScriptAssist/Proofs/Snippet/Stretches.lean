import Mathlib.Data.List.Chain
import Mathlib.Data.List.Induction
import ScriptAssist.Proofs.Snippet.Matches
import ScriptAssist.Proofs.Snippet.Pieces
import ScriptAssist.Proofs.Snippet.Reader

/-!
# What templates keep of their source

A match of the pattern of markers is accepted if its number is written in ASCII digits and fits in
32 bits. A template has a slot for each accepted match of its source, and literal text for each
stretch of the source between them, rejected matches included (`Template.madeOf_parse`). Nothing of
the source is lost, and nothing is there twice.
-/

namespace ScriptAssist.Snippet

/-! ## Accepted matches -/

namespace Match

/-- The number of a marker, as it is written. -/
def digits (m : Match) : List Char :=
  ((m.groups.lookup 1).or (m.groups.lookup 3)).getD []

/-- The default of a marker. The short form has none. -/
def default (m : Match) : List Char :=
  (m.groups.lookup 2).getD []

/-- The number that ASCII digits spell. -/
def number (m : Match) : Nat :=
  Nat.ofDigitChars 10 m.digits 0

/-- The number is written in ASCII digits and fits in 32 bits. -/
def Accepted (m : Match) : Prop :=
  (∀ c ∈ m.digits, c.isDigit = true) ∧ m.number < UInt32.size

instance (m : Match) : Decidable m.Accepted :=
  inferInstanceAs (Decidable (_ ∧ _))

/-- The slot of an accepted match. -/
def slot (m : Match) : Piece :=
  slotOf m.digits m.default

/-- What stands for the slot in plain text. -/
def inlined (m : Match) : List Char :=
  if m.number = 0 then [] else m.default

theorem toList_render_slot (m : Match) : (m.slot.render .plain).toList = m.inlined := by
  unfold slot slotOf inlined number
  dsimp only
  split
  · rfl
  · exact String.toList_ofList

end Match

namespace Marker

theorem decimal?_concat (digits : List Char) (c : Char) :
    decimal? (digits ++ [c]) = (decimal? digits).bind fun value =>
      if c.isDigit then some (value * 10 + (c.toNat - '0'.toNat)) else none := by
  rw [decimal?, decimal?, List.foldl_append, List.foldl_cons, List.foldl_nil]
  split
  · next h => rw [h]; rfl
  · next h => rw [h]; rfl

theorem decimal?_eq (digits : List Char) :
    decimal? digits =
      if digits.all Char.isDigit then some (Nat.ofDigitChars 10 digits 0) else none := by
  induction digits using List.reverseRecOn with
  | nil => rfl
  | append_singleton digits c ih =>
    rw [decimal?_concat, ih, List.all_append, Nat.ofDigitChars_append, Nat.ofDigitChars_cons,
      Nat.mul_comm 10, Nat.ofDigitChars_nil, List.all_cons, List.all_nil, Bool.and_true]
    cases digits.all Char.isDigit <;> rfl

theorem digits_toMatch (m : Marker) : m.toMatch.digits = m.digits := by
  unfold Match.digits toMatch
  cases m.default? <;> rfl

theorem default_toMatch (m : Marker) : m.toMatch.default = m.default?.getD [] := by
  unfold Match.default toMatch
  cases m.default? <;> rfl

/-- A marker is a slot exactly if its match is accepted. -/
theorem piece?_eq (m : Marker) :
    m.piece? = if m.toMatch.Accepted then some m.toMatch.slot else none := by
  have hslot : m.toMatch.slot = slotOf m.digits (m.default?.getD []) := by
    rw [Match.slot, digits_toMatch, default_toMatch]
  have haccepted : m.toMatch.Accepted ↔
      m.digits.all Char.isDigit = true ∧ Nat.ofDigitChars 10 m.digits 0 < UInt32.size := by
    unfold Match.Accepted Match.number
    rw [digits_toMatch, List.all_eq_true]
  simp only [haccepted, hslot, piece?, index?, decimal?_eq]
  by_cases hascii : m.digits.all Char.isDigit = true
  · rw [if_pos hascii]
    by_cases hlt : Nat.ofDigitChars 10 m.digits 0 < UInt32.size
    · rw [if_pos ⟨hascii, hlt⟩, Option.filter_some_pos (by simpa using hlt)]
      rfl
    · rw [if_neg fun h => hlt h.2, Option.filter_some_neg (by simpa using hlt)]
      rfl
  · rw [if_neg hascii, if_neg fun h => hascii h.1]
    rfl

theorem accepted_of_piece? {m : Marker} {slot : Piece} (h : m.piece? = some slot) :
    m.toMatch.Accepted ∧ slot = m.toMatch.slot := by
  rw [piece?_eq] at h
  split at h
  · next haccepted => exact ⟨haccepted, (Option.some.inj h).symm⟩
  · cases h

theorem not_accepted_of_piece? {m : Marker} (h : m.piece? = none) : ¬ m.toMatch.Accepted := by
  intro haccepted
  rw [piece?_eq, if_pos haccepted] at h
  cases h

/-- A default has no closing brace. -/
theorem brace_not_mem_default {s : List Char} {m : Marker} (h : leading? s = some m) :
    '}' ∉ m.toMatch.default := by
  rw [default_toMatch]
  unfold leading? at h
  split at h
  · split at h
    · split at h
      · cases h
        exact fun hmem => absurd (List.mem_takeWhile_imp hmem) (by simp)
      · cases h
    · cases h
  · split at h
    · cases h
      exact List.not_mem_nil
    · cases h
  · cases h

end Marker

/-! ## Weaving -/

/-- Goes through a text from a place on, and puts `part` in the place of each occurrence and `plain`
in the place of each stretch between them. -/
def weave {α : Type} (plain : List Char → List α) (part : Occurrence → List α) (s : List Char) :
    Nat → List Occurrence → List α
  | place, [] => plain (s.drop place)
  | place, o :: more =>
    plain ((s.drop place).take (o.start - place)) ++ (part o ++ weave plain part s o.stop more)

theorem flatMap_weave {α β : Type} (f : α → List β) (plain : List Char → List α)
    (part : Occurrence → List α) (s : List Char) (place : Nat) (found : List Occurrence) :
    (weave plain part s place found).flatMap f =
      weave (fun t => (plain t).flatMap f) (fun o => (part o).flatMap f) s place found := by
  induction found generalizing place with
  | nil => rfl
  | cons o more ih => rw [weave, weave, List.flatMap_append, List.flatMap_append, ih]

theorem mem_weave {α : Type} {a : α} {plain : List Char → List α} {part : Occurrence → List α}
    {s : List Char} {place : Nat} {found : List Occurrence}
    (h : a ∈ weave plain part s place found) :
    (∃ t, a ∈ plain t) ∨ ∃ o ∈ found, a ∈ part o := by
  induction found generalizing place with
  | nil => exact .inl ⟨_, h⟩
  | cons o more ih =>
    rcases List.mem_append.1 h with h | h
    · exact .inl ⟨_, h⟩
    · rcases List.mem_append.1 h with h | h
      · exact .inr ⟨o, .head _, h⟩
      · rcases ih h with hplain | ⟨o', ho', hpart⟩
        · exact .inl hplain
        · exact .inr ⟨o', .tail _ ho', hpart⟩

/-! ## Pieces -/

/-- The literal text for a stretch of the source. There is none for an empty stretch. -/
def stretch (s : List Char) : List Piece :=
  if s = [] then [] else [.literal (String.ofList s)]

theorem literal_eq_stretch (pending : List Char) : literal pending = stretch pending.reverse := by
  unfold literal stretch
  simp

/-- The text of pieces, with the given texts in the places of the slots. -/
def fill : List Piece → List (List Char) → List Char
  | [], _ => []
  | .literal text :: rest, texts => text.toList ++ fill rest texts
  | _ :: rest, text :: texts => text ++ fill rest texts
  | _ :: rest, [] => fill rest []

theorem fill_stretch (s : List Char) (rest : List Piece) (texts : List (List Char)) :
    fill (stretch s ++ rest) texts = s ++ fill rest texts := by
  unfold stretch
  split
  · next h => rw [h]; rfl
  · rw [List.singleton_append, fill, String.toList_ofList]

theorem fill_slot {p : Piece} (h : p.isSlot = true) (rest : List Piece) (text : List Char)
    (texts : List (List Char)) : fill (p :: rest) (text :: texts) = text ++ fill rest texts := by
  cases p with
  | literal => cases h
  | placeholder => rfl
  | finalCursor => rfl

/-! ## Joining -/

/-- Joined chunks weave slots into what the chunks were cut from. -/
theorem join_eq_weave (passed pending : List Char) (chunks : List Chunk) :
    join pending chunks =
      weave stretch (fun o => [o.found.slot])
        (passed ++ (pending.reverse ++ chunks.flatMap Chunk.text)) passed.length
        ((occurrences (passed.length + pending.length) chunks).filter (·.found.Accepted)) := by
  -- `passed` ends with the last slot, and `pending` is what has gathered behind it
  fun_induction join pending chunks generalizing passed with
  | case1 pending =>
    rw [occurrences, List.filter_nil, weave, List.drop_left, List.flatMap_nil, List.append_nil,
      literal_eq_stretch]
  | case2 pending c rest ih =>
    rw [ih passed, occurrences, List.flatMap_cons, List.reverse_cons, List.length_cons,
      List.append_assoc, Nat.add_assoc]
    rfl
  | case3 pending m rest slot hslot ih =>
    obtain ⟨haccepted, rfl⟩ := Marker.accepted_of_piece? hslot
    have hrest := ih (passed ++ (pending.reverse ++ m.text))
    have hlength : (passed ++ (pending.reverse ++ m.text)).length =
        passed.length + pending.length + m.text.length := by
      simp only [List.length_append, List.length_reverse, Nat.add_assoc]
    have htext : passed ++ (pending.reverse ++ m.text) ++
          (([] : List Char).reverse ++ rest.flatMap Chunk.text) =
        passed ++ (pending.reverse ++ (Chunk.marker m :: rest).flatMap Chunk.text) := by
      simp [Chunk.text]
    have hstretch : ((passed ++ (pending.reverse ++
          (Chunk.marker m :: rest).flatMap Chunk.text)).drop passed.length).take
          (passed.length + pending.length - passed.length) = pending.reverse := by
      rw [List.drop_left, Nat.add_sub_cancel_left, List.take_left' List.length_reverse]
    rw [htext, hlength, List.length_nil, Nat.add_zero] at hrest
    rw [occurrences, List.filter_cons_of_pos (by simpa using haccepted), weave, hstretch, hrest,
      literal_eq_stretch]
    rfl
  | case4 pending m rest hslot ih =>
    -- a rejected match gathers like any other text: the next stretch begins where this one did
    have hrejected := Marker.not_accepted_of_piece? hslot
    have hlength : (m.text.reverse ++ pending).length = pending.length + m.text.length := by
      rw [List.length_append, List.length_reverse, Nat.add_comm]
    rw [ih passed, occurrences, List.filter_cons_of_neg (by simpa using hrejected), hlength,
      List.reverse_append, List.reverse_reverse, List.append_assoc, List.flatMap_cons,
      Nat.add_assoc]
    rfl

/-- With the markers' own texts in the places of the slots, joined chunks have the text that they
were cut from. -/
theorem fill_join (place : Nat) (pending : List Char) (chunks : List Chunk) :
    fill (join pending chunks)
        (((occurrences place chunks).filter (·.found.Accepted)).map (·.found.text)) =
      pending.reverse ++ chunks.flatMap Chunk.text := by
  fun_induction join pending chunks generalizing place with
  | case1 pending =>
    rw [literal_eq_stretch, ← List.append_nil (stretch _), fill_stretch]
    rfl
  | case2 pending c rest ih =>
    rw [occurrences, ih, List.reverse_cons, List.append_assoc, List.flatMap_cons]
    rfl
  | case3 pending m rest slot hslot ih =>
    have haccepted := (Marker.accepted_of_piece? hslot).1
    rw [occurrences, List.filter_cons_of_pos (by simpa using haccepted), List.map_cons,
      literal_eq_stretch, fill_stretch, fill_slot (m.isSlot_of_piece? hslot), ih, List.reverse_nil,
      List.nil_append, List.flatMap_cons]
    rfl
  | case4 pending m rest hslot ih =>
    have hrejected := Marker.not_accepted_of_piece? hslot
    rw [occurrences, List.filter_cons_of_neg (by simpa using hrejected), ih, List.reverse_append,
      List.reverse_reverse, List.append_assoc, List.flatMap_cons]
    rfl

/-! ## What holds of the pieces -/

theorem Regular.literal_ne {pieces : List Piece} (h : Regular pieces) {text : String}
    (htext : .literal text ∈ pieces) : text ≠ "" := by
  induction h with
  | nil => cases htext
  | literal hne _ _ ih =>
    rcases List.mem_cons.1 htext with heq | htext
    · cases heq
      exact hne
    · exact ih htext
  | placeholder _ _ ih => exact ih (by simpa using htext)
  | finalCursor _ ih => exact ih (by simpa using htext)

/-- Of two pieces side by side, one is a slot. -/
theorem Regular.isChain {pieces : List Piece} (h : Regular pieces) :
    pieces.IsChain fun p q => p.isSlot = true ∨ q.isSlot = true := by
  induction h with
  | nil => exact .nil
  | literal _ hnext _ ih => exact List.isChain_cons.2 ⟨fun q hq => .inr (hnext q hq), ih⟩
  | placeholder _ _ ih => exact List.isChain_cons.2 ⟨fun _ _ => .inl rfl, ih⟩
  | finalCursor _ ih => exact List.isChain_cons.2 ⟨fun _ _ => .inl rfl, ih⟩

theorem eq_literal_of_mem_stretch {p : Piece} {s : List Char} (h : p ∈ stretch s) :
    p = .literal (String.ofList s) := by
  unfold stretch at h
  split at h
  · cases h
  · exact List.mem_singleton.1 h

namespace Template

theorem toList_plainText (t : Template) :
    t.plainText.toList = t.pieces.flatMap fun p => (p.render .plain).toList := by
  rw [plainText, render, String.toList_join, List.flatMap_map]

theorem flatMap_stretch (s : List Char) :
    ((stretch s).flatMap fun p => (p.render .plain).toList) = s := by
  unfold stretch
  split
  · next h => exact h.symm
  · exact (List.flatMap_singleton ..).trans String.toList_ofList

/-- A template as it is made of a source and the accepted matches in it. -/
structure MadeOf (t : Template) (source : List Char) (accepted : List Occurrence) : Prop where
  /-- A slot for each match, and literal text for each stretch between them. -/
  pieces_eq : t.pieces = weave stretch (fun o => [o.found.slot]) source 0 accepted
  /-- With the matches' own texts in the places of the slots, the template is the source. -/
  fill_eq : fill t.pieces (accepted.map (·.found.text)) = source
  /-- In plain text, defaults stand for the matches. -/
  plainText_eq : t.plainText.toList = weave (fun s => s) (·.found.inlined) source 0 accepted
  literal_ne : ∀ text, .literal text ∈ t.pieces → text ≠ ""
  isChain : t.pieces.IsChain fun p q => p.isSlot = true ∨ q.isSlot = true
  bounds : ∀ index default, .placeholder index default ∈ t.pieces →
    1 ≤ index ∧ index < UInt32.size ∧ '}' ∉ default.toList

/-- A placeholder among woven slots has the number and the default of an accepted match. -/
theorem bounds_of_mem_weave {s : List Char} {found : List Occurrence}
    (hfound : Pattern.marker.Finds s 0 found) {index : Nat} {default : String}
    (h : .placeholder index default ∈
      weave stretch (fun o => [o.found.slot]) s 0 (found.filter (·.found.Accepted))) :
    1 ≤ index ∧ index < UInt32.size ∧ '}' ∉ default.toList := by
  rcases mem_weave h with ⟨t, ht⟩ | ⟨o, ho, hslot⟩
  · cases eq_literal_of_mem_stretch ht
  · obtain ⟨hmem, haccepted⟩ := List.mem_filter.1 ho
    have haccepted : o.found.Accepted := by simpa using haccepted
    have hfirst := hfound.first?_eq hmem
    rw [Pattern.first?_marker] at hfirst
    obtain ⟨m, hleading, htext⟩ := Option.map_eq_some_iff.1 hfirst
    have hslot := List.mem_singleton.1 hslot
    unfold Match.slot slotOf at hslot
    dsimp only at hslot
    split at hslot
    · cases hslot
    · next hindex =>
      cases hslot
      refine ⟨Nat.pos_of_ne_zero hindex, haccepted.2, ?_⟩
      rw [String.toList_ofList, ← htext]
      exact Marker.brace_not_mem_default hleading

/-- A template is made of the accepted ones among the matches of its source. -/
theorem madeOf_parse (source : String) :
    ∃ found, Pattern.marker.Finds source.toList 0 found ∧
      (∀ found', Pattern.marker.Finds source.toList 0 found' → found' = found) ∧
      (parse source).MadeOf source.toList (found.filter (·.found.Accepted)) := by
  have hfinds := finds_cut source.toList
  have hpieces := join_eq_weave [] [] (cut source.toList)
  have hfill := fill_join 0 [] (cut source.toList)
  have hregular := regular_parse source
  simp only [List.nil_append, List.reverse_nil, text_cut, List.length_nil, Nat.add_zero]
    at hpieces hfill
  refine ⟨_, hfinds, fun _ h => h.unique hfinds, hpieces, hfill, ?_, fun _ => hregular.literal_ne,
    hregular.isChain, fun index default h => bounds_of_mem_weave hfinds (hpieces ▸ h)⟩
  rw [toList_plainText, parse, hpieces, flatMap_weave]
  simp only [flatMap_stretch, List.flatMap_singleton, Match.toList_render_slot]

/-- A number of more than 32 bits leaves its marker in the literal text. -/
example : (parse "get(${99999999999:name}, $1)").pieces =
    [.literal "get(${99999999999:name}, ", .placeholder 1 "", .literal ")"] := by
  decide

end Template

end ScriptAssist.Snippet
