import Mathlib.Data.List.Chain
import ScriptAssist.Proofs.Snippet.Pieces
import ScriptAssist.Proofs.Snippet.Reader

/-!
# Snippets are read as they were meant

What an editor reads from a template with its slots shown. Literal text and defaults are read as
they are, whatever stands behind them, and so are placeholders, as their braces close them. The
final cursor is shown without braces, so an ASCII digit behind it is taken for a digit of its
number. This is all that can go wrong (`Template.read_snippet_iff`).
-/

namespace ScriptAssist.Snippet

/-! ## What is shown -/

/-- The characters of pieces with their slots shown. -/
def shown (pieces : List Piece) : List Char :=
  pieces.flatMap fun p => (p.render .slots).toList

theorem shown_cons (p : Piece) (rest : List Piece) :
    shown (p :: rest) = (p.render .slots).toList ++ shown rest :=
  List.flatMap_cons

theorem Template.toList_snippet (t : Template) : t.snippet.toList = shown t.pieces := by
  rw [snippet, render, String.toList_join, List.flatMap_map, shown]

/-- A text with a backslash before each of the given characters. -/
def guarded (special s : List Char) : List Char :=
  s.flatMap fun c => if c ∈ special then ['\\', c] else [c]

theorem toList_escape (special : List Char) (s : String) :
    (escape special s).toList = guarded special s.toList :=
  String.toList_ofList

theorem guarded_cons_of_mem {special : List Char} {c : Char} (h : c ∈ special) (s : List Char) :
    guarded special (c :: s) = '\\' :: c :: guarded special s := by
  rw [guarded, List.flatMap_cons, if_pos h]
  rfl

theorem guarded_cons_of_not_mem {special : List Char} {c : Char} (h : c ∉ special)
    (s : List Char) : guarded special (c :: s) = c :: guarded special s := by
  rw [guarded, List.flatMap_cons, if_neg h]
  rfl

theorem toList_render_placeholder (index : Nat) (default : String) :
    ((Piece.placeholder index default).render .slots).toList =
      '$' :: '{' :: (Nat.toDigits 10 index ++ ':' ::
        ((escape escapable default).toList ++ ['}'])) := by
  simp [Piece.render, escapable]

/-! ## Characters -/

theorem readFrom_nil (pending : List Char) : readFrom pending [] = literal pending := by
  rw [readFrom]

theorem readFrom_escaped {c : Char} (h : c ∈ escapable) (pending rest : List Char) :
    readFrom pending ('\\' :: c :: rest) = readFrom (c :: pending) rest := by
  rw [readFrom, if_pos h]

theorem readSlot?_eq_none {c : Char} (h : c ≠ '$') (rest : List Char) :
    readSlot? (c :: rest) = none := by
  unfold readSlot?
  split
  · next heq =>
    cases heq
    exact absurd rfl h
  · next heq =>
    cases heq
    exact absurd rfl h
  · rfl

theorem readFrom_ordinary {c : Char} (hdollar : c ≠ '$') (hslash : c ≠ '\\')
    (pending rest : List Char) : readFrom pending (c :: rest) = readFrom (c :: pending) rest := by
  rw [readFrom]
  · split
    · next slot after h =>
      rw [readSlot?_eq_none hdollar] at h
      cases h
    · rfl
  · intro d rest' hc
    exact absurd hc hslash

/-- Literal text is read as it is. -/
theorem readFrom_literal (pending : List Char) (text : String) (rest : List Char) :
    readFrom pending (((Piece.literal text).render .slots).toList ++ rest) =
      readFrom (text.toList.reverse ++ pending) rest := by
  show readFrom pending ((escape ['$', '\\'] text).toList ++ rest) = _
  rw [toList_escape]
  generalize text.toList = s
  induction s generalizing pending with
  | nil => rfl
  | cons c s ih =>
    rw [List.reverse_cons, List.append_assoc]
    by_cases hspecial : c ∈ ['$', '\\']
    · have hescapable : c ∈ escapable := by
        revert hspecial
        simp only [escapable, List.mem_cons]
        tauto
      rw [guarded_cons_of_mem hspecial]
      exact (readFrom_escaped hescapable _ _).trans (ih _)
    · rw [guarded_cons_of_not_mem hspecial]
      simp only [List.mem_cons, List.not_mem_nil, or_false, not_or] at hspecial
      exact (readFrom_ordinary hspecial.1 hspecial.2 _ _).trans (ih _)

/-! ## Slots -/

/-- A slot ends the literal text before it. -/
theorem readFrom_slot {s after : List Char} {p : Piece} (h : readSlot? s = some (p, after))
    (pending : List Char) : readFrom pending s = literal pending ++ p :: readFrom [] after := by
  cases s with
  | nil => cases h
  | cons c rest =>
    have hdollar : c = '$' := by
      by_contra hc
      rw [readSlot?_eq_none hc] at h
      cases h
    subst hdollar
    rw [readFrom]
    · split
      · next slot after' h' =>
        cases h.symm.trans h'
        rfl
      · next hnone =>
        cases h.symm.trans hnone
    · intro d rest' hc
      cases hc

theorem readDefault?_brace (rest : List Char) : readDefault? ('}' :: rest) = some ([], rest) := by
  rw [readDefault?]
  · rfl
  · intro d rest' hc
    cases hc

theorem readDefault?_escaped {c : Char} (h : c ∈ escapable) (rest : List Char) :
    readDefault? ('\\' :: c :: rest) =
      (readDefault? rest).map fun (default, after) => (c :: default, after) := by
  rw [readDefault?, if_pos h]

theorem readDefault?_ordinary {c : Char} (h : c ∉ escapable) (rest : List Char) :
    readDefault? (c :: rest) =
      (readDefault? rest).map fun (default, after) => (c :: default, after) := by
  simp only [escapable, List.mem_cons, List.not_mem_nil, or_false, not_or] at h
  rw [readDefault?, if_neg h.2.1]
  intro d rest' hc
  exact absurd hc h.2.2

/-- A default is read as it is, up to the brace behind it. -/
theorem readDefault?_escape (default : String) (rest : List Char) :
    readDefault? ((escape escapable default).toList ++ '}' :: rest) =
      some (default.toList, rest) := by
  rw [toList_escape]
  generalize default.toList = s
  induction s with
  | nil => exact readDefault?_brace rest
  | cons c s ih =>
    by_cases hspecial : c ∈ escapable
    · rw [guarded_cons_of_mem hspecial, List.cons_append, List.cons_append,
        readDefault?_escaped hspecial, ih]
      rfl
    · rw [guarded_cons_of_not_mem hspecial, List.cons_append, readDefault?_ordinary hspecial, ih]
      rfl

/-- A placeholder is read as it is, whatever stands behind it. -/
theorem readSlot?_placeholder {index : Nat} (hindex : index ≠ 0) (default : String)
    (rest : List Char) :
    readSlot? (((Piece.placeholder index default).render .slots).toList ++ rest) =
      some (.placeholder index default, rest) := by
  have hdigits : ∀ c ∈ Nat.toDigits 10 index, c.isDigit = true :=
    fun _ hc => Nat.isDigit_of_mem_toDigits (by decide) (by decide) hc
  have htake : ∀ body, (Nat.toDigits 10 index ++ ':' :: body).takeWhile Char.isDigit =
      Nat.toDigits 10 index := by
    intro body
    rw [List.takeWhile_append_of_pos hdigits, List.takeWhile_cons_of_neg (by decide),
      List.append_nil]
  have hdrop : ∀ body, (Nat.toDigits 10 index ++ ':' :: body).dropWhile Char.isDigit =
      ':' :: body := by
    intro body
    rw [List.dropWhile_append_of_pos hdigits, List.dropWhile_cons_of_neg (by decide)]
  have hslot : slotOf (Nat.toDigits 10 index) default.toList = .placeholder index default := by
    rw [slotOf, Nat.ofDigitChars_ten_toDigits]
    simp [hindex]
  rw [toList_render_placeholder]
  simp only [List.cons_append, List.append_assoc, List.nil_append, readSlot?,
    hdrop, htake, Nat.toDigits_ne_nil, if_false, readDefault?_escape, Option.map_some, hslot]

/-- The text does not begin with an ASCII digit. -/
def NoDigit (s : List Char) : Prop :=
  ∀ c ∈ s.head?, c.isDigit = false

theorem noDigit_dropWhile (s : List Char) : NoDigit (s.dropWhile Char.isDigit) := by
  intro c hc
  have hstop := List.head?_dropWhile_not Char.isDigit s
  rw [hc] at hstop
  simpa using hstop

/-- The final cursor is shown as a dollar sign and the first digit of a number. -/
theorem readSlot?_zero (rest : List Char) :
    readSlot? ('$' :: '0' :: rest) =
      some (slotOf ('0' :: rest.takeWhile Char.isDigit) [], rest.dropWhile Char.isDigit) := by
  have htake : ('0' :: rest).takeWhile Char.isDigit = '0' :: rest.takeWhile Char.isDigit :=
    List.takeWhile_cons_of_pos (by decide)
  have hdrop : ('0' :: rest).dropWhile Char.isDigit = rest.dropWhile Char.isDigit :=
    List.dropWhile_cons_of_pos (by decide)
  rw [readSlot?]
  · rw [htake, hdrop, if_neg (List.cons_ne_nil _ _)]
  · intro rest' h
    cases h

theorem readSlot?_finalCursor {rest : List Char} (h : NoDigit rest) :
    readSlot? ('$' :: '0' :: rest) = some (.finalCursor, rest) := by
  rw [readSlot?_zero]
  cases rest with
  | nil => rfl
  | cons c rest =>
    have hc : c.isDigit = false := h c rfl
    rw [List.takeWhile_cons_of_neg (by simp [hc]), List.dropWhile_cons_of_neg (by simp [hc])]
    rfl

/-! ## Digits behind the final cursor -/

theorem reverse_prefix_of_cons {c : Char} {pending s : List Char}
    (h : (c :: pending).reverse <+: s) : pending.reverse <+: s := by
  rw [List.reverse_cons] at h
  exact (List.prefix_append _ _).trans h

/-- Literal text that has begun goes on, or ends. -/
theorem prefix_of_readFrom {pending s : List Char} {text : String} {rest : List Piece}
    (hpending : pending ≠ []) (h : readFrom pending s = .literal text :: rest) :
    pending.reverse <+: text.toList := by
  fun_induction readFrom pending s with
  | case1 pending =>
    rw [literal, if_neg (by simpa using hpending)] at h
    cases h
    exact String.toList_ofList.symm ▸ List.prefix_rfl
  | case2 pending c s hc ih =>
    exact reverse_prefix_of_cons (ih (List.cons_ne_nil _ _) h)
  | case3 pending c s hc ih =>
    exact reverse_prefix_of_cons (ih (List.cons_ne_nil _ _) h)
  | case4 pending c s hc slot after hslot ih =>
    rw [literal, if_neg (by simpa using hpending)] at h
    cases h
    exact String.toList_ofList.symm ▸ List.prefix_rfl
  | case5 pending c s hc hslot ih =>
    exact reverse_prefix_of_cons (ih (List.cons_ne_nil _ _) h)

theorem not_isDigit_of_escapable {c : Char} (h : c ∈ escapable) : c.isDigit = false := by
  simp only [escapable, List.mem_cons, List.not_mem_nil, or_false] at h
  rcases h with rfl | rfl | rfl
  · rfl
  · rfl
  · rfl

theorem isSlot_of_readSlot? {s after : List Char} {p : Piece}
    (h : readSlot? s = some (p, after)) : p.isSlot = true := by
  have hslot : ∀ digits default, (slotOf digits default).isSlot = true := by
    intro digits default
    unfold slotOf
    dsimp only
    split
    · rfl
    · rfl
  unfold readSlot? at h
  split at h
  · split at h
    · split at h
      · cases h
      · obtain ⟨_, -, heq⟩ := Option.map_eq_some_iff.1 h
        cases heq
        exact hslot _ _
    · cases h
  · split at h
    · cases h
    · cases h
      exact hslot _ _
  · cases h

/-- Literal text begins with a digit only if the snippet does: digits are never written behind a
backslash. -/
theorem head?_of_readFrom {s : List Char} {text : String} {rest : List Piece} {d : Char}
    (h : readFrom [] s = .literal text :: rest) (hd : d ∈ text.toList.head?)
    (hdigit : d.isDigit = true) : s.head? = some d := by
  have hfirst : ∀ {c : Char}, [c] <+: text.toList → c = d := by
    rintro c ⟨more, hmore⟩
    rw [← hmore] at hd
    simpa using hd
  unfold readFrom at h
  split at h
  · cases h
  · next c rest =>
    split at h
    · next hc =>
      obtain rfl : c = d := hfirst (prefix_of_readFrom (List.cons_ne_nil _ _) h)
      exact absurd hdigit (by simp [not_isDigit_of_escapable hc])
    · obtain rfl : '\\' = d := hfirst (prefix_of_readFrom (List.cons_ne_nil _ _) h)
      exact absurd hdigit (by decide)
  · next c rest _ =>
    split at h
    · next slot after hslot =>
      have hkind := isSlot_of_readSlot? hslot
      cases h
      cases hkind
    · obtain rfl : c = d := hfirst (prefix_of_readFrom (List.cons_ne_nil _ _) h)
      rfl

/-! ## Pieces -/

/-- Literal text that begins with an ASCII digit stands right behind a final cursor. -/
def RunTogether (p q : Piece) : Prop :=
  p = .finalCursor ∧ ∃ text, q = .literal text ∧ ∃ c ∈ text.toList.head?, c.isDigit = true

theorem isChain_cons_iff (p : Piece) (hp : p ≠ .finalCursor) (rest : List Piece) :
    (p :: rest).IsChain (fun p q => ¬ RunTogether p q) ↔
      rest.IsChain fun p q => ¬ RunTogether p q := by
  rw [List.isChain_cons]
  exact and_iff_right fun _ _ hrun => hp hrun.1

theorem noDigit_guarded_iff {special : List Char} (hspecial : special ⊆ escapable)
    (c : Char) (s rest : List Char) :
    NoDigit (guarded special (c :: s) ++ rest) ↔ c.isDigit = false := by
  by_cases hc : c ∈ special
  · rw [guarded_cons_of_mem hc]
    have hslash : '\\'.isDigit = false := by decide
    simp [NoDigit, not_isDigit_of_escapable (hspecial hc), hslash]
  · rw [guarded_cons_of_not_mem hc]
    simp [NoDigit]

/-- What is shown begins with a digit only if literal text does. -/
theorem noDigit_shown_iff {pieces : List Piece} (h : Regular pieces) :
    NoDigit (shown pieces) ↔ ∀ p ∈ pieces.head?, ¬ RunTogether .finalCursor p := by
  have hdollar : '$'.isDigit = false := by decide
  cases h with
  | nil => simp [NoDigit, shown]
  | @literal text rest hne =>
    have hshown : shown (.literal text :: rest) = guarded ['$', '\\'] text.toList ++ shown rest :=
      (shown_cons _ _).trans (congrArg (· ++ shown rest) (toList_escape _ text))
    obtain ⟨c, s, htext⟩ := List.exists_cons_of_ne_nil (l := text.toList) (by simpa using hne)
    rw [hshown, htext, noDigit_guarded_iff (by simp [escapable])]
    simp [RunTogether, htext]
  | placeholder =>
    rw [shown_cons, toList_render_placeholder]
    simp [NoDigit, RunTogether, hdollar]
  | finalCursor =>
    rw [shown_cons]
    simp [NoDigit, RunTogether, hdollar, Piece.render]

/-- A slot ends the literal text before it, whatever is read from the slot. -/
theorem readFrom_shown_pending {rest : List Piece} (h : Regular rest)
    (hnext : ∀ p ∈ rest.head?, p.isSlot = true) (pending : List Char) :
    readFrom pending (shown rest) = literal pending ++ readFrom [] (shown rest) := by
  have hslot : ∀ {s after : List Char} {p : Piece}, readSlot? s = some (p, after) →
      readFrom pending s = literal pending ++ readFrom [] s := by
    intro s after p hs
    rw [readFrom_slot hs, readFrom_slot hs]
    rfl
  cases h with
  | nil =>
    rw [shown, List.flatMap_nil, readFrom_nil, readFrom_nil]
    exact (List.append_nil _).symm
  | literal => exact nomatch hnext _ rfl
  | placeholder hindex =>
    rw [shown_cons]
    exact hslot (readSlot?_placeholder hindex _ _)
  | finalCursor => exact hslot (readSlot?_zero _)

/-- Pieces are read as they are exactly if no digits run together with a final cursor. -/
theorem readFrom_shown_iff {pieces : List Piece} (h : Regular pieces) :
    readFrom [] (shown pieces) = pieces ↔ pieces.IsChain fun p q => ¬ RunTogether p q := by
  induction h with
  | nil => exact ⟨fun _ => .nil, fun _ => readFrom_nil []⟩
  | @literal text rest hne hnext hrest ih =>
    have hlit : literal text.toList.reverse = [.literal text] := by
      rw [literal, if_neg]
      · simp
      · simpa using hne
    have hread : readFrom [] (shown (.literal text :: rest)) =
        .literal text :: readFrom [] (shown rest) := by
      rw [shown_cons, readFrom_literal, List.append_nil, readFrom_shown_pending hrest hnext, hlit]
      rfl
    rw [hread, List.cons_eq_cons, ih, isChain_cons_iff (.literal text) nofun, and_iff_right rfl]
  | @placeholder index default rest hindex hrest ih =>
    have hread : readFrom [] (shown (.placeholder index default :: rest)) =
        .placeholder index default :: readFrom [] (shown rest) := by
      rw [shown_cons]
      exact readFrom_slot (readSlot?_placeholder hindex _ _) []
    rw [hread, List.cons_eq_cons, ih, isChain_cons_iff (.placeholder index default) nofun,
      and_iff_right rfl]
  | @finalCursor rest hrest ih =>
    rw [List.isChain_cons, ← noDigit_shown_iff hrest]
    have hshown : shown (.finalCursor :: rest) = '$' :: '0' :: shown rest := rfl
    by_cases hdigit : NoDigit (shown rest)
    · have hread : readFrom [] (shown (.finalCursor :: rest)) =
          .finalCursor :: readFrom [] (shown rest) := by
        rw [hshown]
        exact readFrom_slot (readSlot?_finalCursor hdigit) []
      rw [hread, List.cons_eq_cons, ih]
      exact and_congr_left' ⟨fun _ => hdigit, fun _ => rfl⟩
    · refine ⟨fun hsame => ?_, fun h => absurd h.1 hdigit⟩
      -- The number goes on, and what is read behind it does not begin with a digit any more.
      exfalso
      obtain ⟨p, hp, -, text, rfl, d, hd, hd'⟩ :
          ∃ p ∈ rest.head?, RunTogether .finalCursor p := by
        simpa [noDigit_shown_iff hrest] using hdigit
      obtain ⟨more, rfl⟩ := List.head?_eq_some_iff.1 hp
      rw [hshown, readFrom_slot (readSlot?_zero _)] at hsame
      have hfirst := head?_of_readFrom (List.cons.inj hsame).2 hd hd'
      have hstop := noDigit_dropWhile _ d hfirst
      rw [hd'] at hstop
      cases hstop

/-- An editor reads the pieces of a template from what is shown of it, exactly if no final cursor
has literal text right behind it that begins with an ASCII digit. -/
theorem Template.read_snippet_iff (source : String) :
    Template.read (parse source).snippet = parse source ↔
      ∀ text, [.finalCursor, .literal text] <:+: (parse source).pieces →
        ∀ c ∈ text.toList.head?, c.isDigit = false := by
  have hpieces : Template.read (parse source).snippet = parse source ↔
      readFrom [] (shown (parse source).pieces) = (parse source).pieces := by
    rw [Template.read, toList_snippet]
    exact ⟨congrArg Template.pieces, congrArg Template.mk⟩
  rw [hpieces, readFrom_shown_iff (regular_parse source)]
  constructor
  · intro hchain text hbeside c hc
    have happart := List.isChain_pair.1 <| List.IsChain.infix hchain hbeside
    by_contra hdigit
    exact happart ⟨rfl, text, rfl, c, hc, by simpa using hdigit⟩
  · intro happart
    refine (List.isChain_isInfix _).imp fun p q hbeside hrun => ?_
    obtain ⟨rfl, text, rfl, c, hc, hdigit⟩ := hrun
    rw [happart text hbeside c hc] at hdigit
    cases hdigit

/-- The digit behind the final cursor is read as part of its number. -/
example : (Template.parse "${0:}5").snippet = "$05" ∧
    Template.read "$05" = ⟨[.placeholder 5 ""]⟩ :=
  ⟨by decide, by cbv⟩

end ScriptAssist.Snippet
