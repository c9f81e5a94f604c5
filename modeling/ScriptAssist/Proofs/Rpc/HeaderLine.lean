import ScriptAssist.Proofs.Text.Bytes
import ScriptAssist.Proofs.Text.Decimal
import ScriptAssist.Proofs.Text.Trim
import ScriptAssist.Rpc.Frame

/-!
# Header lines

What a header line says, told by the shape of the line alone: `LengthHeader` is a line with the
name of the length header before its first colon, and `GivesLength` one whose value spells a
number, both with blanks in any place where they do not matter. `Block.lengthOf` finds exactly
that in the trimmed line (`lengthOf_trim_of_lengthHeader`, `lengthOf_trim_of_other`).
-/

namespace ScriptAssist.Rpc

open Text

/-! ## The grammar of lines -/

/-- The name of the length header, in any mixture of upper and lower case. -/
def IsLengthKey (name : List Char) : Prop :=
  name.map Char.toLower = Frame.lengthKey.toList.map Char.toLower

/-- The line is a length header with the given value: what stands behind its first colon. -/
inductive LengthHeader : (line value : List Char) → Prop
  | intro {name a b value : List Char} (hname : IsLengthKey name) (ha : AllBlank a)
      (hb : AllBlank b) : LengthHeader (a ++ name ++ b ++ ':' :: value) value

/-- The line is a length header whose value spells a number, with blanks around it. -/
inductive GivesLength (line : List Char) (length : Nat) : Prop
  | intro {a number b : List Char} (hline : LengthHeader line (a ++ number ++ b))
      (ha : AllBlank a) (hb : AllBlank b) (hnumber : Word64.Spells number length)

theorem GivesLength.lengthHeader {line : List Char} {n : Nat} (h : GivesLength line n) :
    ∃ value, LengthHeader line value := by
  obtain ⟨hline, -, -, -⟩ := h
  exact ⟨_, hline⟩

/-! ## Names and numbers are tight -/

/-- No blank is a letter, so none has a lower case of its own. -/
theorem toLower_of_isBlank {c : Char} (h : isBlank c = true) : c.toLower = c := by
  have hletter : ¬ (c.val ≥ 'A'.val ∧ c.val ≤ 'Z'.val) := by
    rintro ⟨hA, hZ⟩
    have hA' : 65 ≤ c.toNat := hA
    have hZ' : c.toNat ≤ 90 := hZ
    rcases toNat_of_isBlank h with hlow | hhigh <;> omega
  exact dif_neg hletter

theorem not_isBlank_of_toLower {c d : Char} (h : c.toLower = d) (hd : isBlank d = false) :
    isBlank c = false := by
  rw [Bool.eq_false_iff]
  intro hc
  rw [toLower_of_isBlank hc] at h
  rw [h, hd] at hc
  cases hc

theorem IsLengthKey.tight {name : List Char} (h : IsLengthKey name) : Tight name where
  head := by
    -- Blanks have no case, so what is a letter when the case is folded has been one before.
    have hhead : name.head?.map Char.toLower = some 'c' := by
      rw [← List.head?_map, h]
      rfl
    obtain ⟨c, hc, hlower⟩ := Option.map_eq_some_iff.1 hhead
    obtain ⟨rest, hrest⟩ := List.head?_eq_some_iff.1 hc
    exact ⟨c, rest, hrest, not_isBlank_of_toLower hlower (by decide)⟩
  last := by
    have hlast : name.getLast?.map Char.toLower = some 'h' := by
      rw [← List.getLast?_map, h]
      rfl
    obtain ⟨c, hc, hlower⟩ := Option.map_eq_some_iff.1 hlast
    obtain ⟨front, hfront⟩ := List.getLast?_eq_some_iff.1 hc
    exact ⟨front, c, hfront, not_isBlank_of_toLower hlower (by decide)⟩

theorem IsLengthKey.colon_not_mem {name : List Char} (h : IsLengthKey name) : ':' ∉ name := by
  intro hcolon
  have hlower : ':' ∈ name.map Char.toLower := List.mem_map.2 ⟨':', hcolon, by decide⟩
  rw [h] at hlower
  revert hlower
  decide

theorem colon_not_mem_of_allBlank {a : List Char} (ha : AllBlank a) : ':' ∉ a := by
  intro hcolon
  exact absurd (ha ':' hcolon) (by decide)

theorem not_isBlank_of_isDigit {c : Char} (h : c.isDigit = true) : isBlank c = false := by
  rw [Bool.eq_false_iff]
  intro hc
  simp only [Char.isDigit, Bool.and_eq_true, decide_eq_true_eq, ge_iff_le] at h
  have h0 : 48 ≤ c.toNat := h.1
  have h9 : c.toNat ≤ 57 := h.2
  rcases toNat_of_isBlank hc with hlow | hhigh <;> omega

theorem tight_of_digits {s : List Char} (hne : s ≠ []) (h : ∀ c ∈ s, c.isDigit = true) :
    Tight s :=
  .of_forall hne fun c hc => not_isBlank_of_isDigit (h c hc)

theorem tight_of_spells {s : List Char} {n : Nat} (h : Word64.Spells s n) : Tight s := by
  cases h with
  | digits hne hdigits => exact tight_of_digits hne hdigits
  | @signed s hne hdigits =>
    obtain ⟨front, c, hlast, hc⟩ := (tight_of_digits hne hdigits).last
    exact ⟨⟨'+', s, rfl, by decide⟩, ⟨'+' :: front, c, by rw [hlast, List.cons_append], hc⟩⟩

/-! ## Splitting at the colon -/

theorem splitHeader_append {key : List Char} (hkey : ':' ∉ key) (value : List Char) :
    splitHeader (key ++ ':' :: value) = some (key, value) := by
  have hall : ∀ c ∈ key, (c != ':') = true := by
    intro c hc
    exact bne_iff_ne.2 fun h => hkey (h ▸ hc)
  rw [splitHeader, List.dropWhile_append_of_pos hall, List.takeWhile_append_of_pos hall]
  simp

theorem eq_append_of_splitHeader {line key value : List Char}
    (h : splitHeader line = some (key, value)) : line = key ++ ':' :: value := by
  unfold splitHeader at h
  split at h
  · next c rest hdrop =>
    have hc : c = ':' := by
      have hhead := List.head?_dropWhile_not (· != ':') line
      rw [hdrop] at hhead
      simpa using hhead
    subst hc
    cases h
    rw [← hdrop, List.takeWhile_append_dropWhile]
  · cases h

/-- A length header has one value: what stands behind the first colon. -/
theorem LengthHeader.unique {line value value' : List Char} (h : LengthHeader line value)
    (h' : LengthHeader line value') : value = value' := by
  have hsplit : ∀ {v}, LengthHeader line v → (splitHeader line).map Prod.snd = some v := by
    rintro v @⟨name, a, b, v, hname, ha, hb⟩
    rw [splitHeader_append]
    · rfl
    · simp only [List.mem_append, not_or]
      exact ⟨⟨colon_not_mem_of_allBlank ha, hname.colon_not_mem⟩, colon_not_mem_of_allBlank hb⟩
  exact Option.some.inj ((hsplit h).symm.trans (hsplit h'))

/-- A line gives one length at most. -/
theorem GivesLength.unique {line : List Char} {m n : Nat} (hm : GivesLength line m)
    (hn : GivesLength line n) : m = n := by
  obtain @⟨a, number, b, hline, ha, hb, hnumber⟩ := hm
  obtain @⟨a', number', b', hline', ha', hb', hnumber'⟩ := hn
  have hsame : number = number' := by
    rw [← (tight_of_spells hnumber).trim ha hb, ← (tight_of_spells hnumber').trim ha' hb',
      hline.unique hline']
  exact hnumber.unique (hsame ▸ hnumber')

/-! ## What a line gives -/

theorem trim_lengthHeader {name a b : List Char} (hname : IsLengthKey name) (ha : AllBlank a)
    (value : List Char) :
    trim (a ++ name ++ b ++ ':' :: value) = name ++ b ++ ':' :: trimEnd value := by
  obtain ⟨c, rest, rfl, hc⟩ := hname.tight.head
  have hstart : trimStart (c :: rest ++ b ++ ':' :: value) = c :: rest ++ b ++ ':' :: value :=
    List.dropWhile_cons_of_neg (by simpa using hc)
  rw [List.append_assoc, List.append_assoc, trim_append ha, ← List.append_assoc, trim, hstart,
    trimEnd_append_cons (by decide)]

/-- A length header gives the number that its value spells, if it spells one that is not too
large. -/
theorem lengthOf_trim_of_lengthHeader {line value : List Char} (h : LengthHeader line value) :
    Block.lengthOf (trim line) =
      match Word64.ofText (trim value) with
      | .error fault => .error (.badLength fault)
      | .ok length =>
        if length ≤ Frame.maxLength then .ok (some length) else .error (.tooLong length) := by
  obtain @⟨name, a, b, value, hname, ha, hb⟩ := h
  have hcolon : ':' ∉ name ++ b := by
    rw [List.mem_append, not_or]
    exact ⟨hname.colon_not_mem, colon_not_mem_of_allBlank hb⟩
  have hkey : trim (name ++ b) = name := hname.tight.trim .nil hb
  have hsame : sameName (trim (name ++ b)) Frame.lengthKey.toList = true := by
    rw [hkey]
    exact beq_iff_eq.2 hname
  rw [← trim_trimEnd value, trim_lengthHeader hname ha, Block.lengthOf, splitHeader_append hcolon]
  exact if_pos hsame

/-- Every other line gives none. -/
theorem lengthOf_trim_of_other {line : List Char} (h : ∀ value, ¬ LengthHeader line value) :
    Block.lengthOf (trim line) = .ok none := by
  unfold Block.lengthOf
  split
  · rfl
  · next key value hsplit =>
    refine if_neg fun hsame => ?_
    -- Put back what the two trimmings have cut off, and the line is a length header after all.
    obtain ⟨a, b, hline, ha, hb⟩ := exists_append_trim line
    obtain ⟨a', b', hkey, ha', hb'⟩ := exists_append_trim key
    have hshape : line = (a ++ a') ++ trim key ++ b' ++ ':' :: (value ++ b) := by
      calc
        line = a ++ trim line ++ b := hline
        _ = a ++ (key ++ ':' :: value) ++ b := by rw [eq_append_of_splitHeader hsplit]
        _ = a ++ (a' ++ trim key ++ b' ++ ':' :: value) ++ b := by rw [← hkey]
        _ = (a ++ a') ++ trim key ++ b' ++ ':' :: (value ++ b) := by simp
    apply h (value ++ b)
    rw [hshape]
    exact .intro (beq_iff_eq.1 hsame) (ha.append ha') hb'

/-- Where a line is not refused, what it gives can be told from its shape. -/
theorem givesLength_of_lengthOf {line value : List Char} (h : LengthHeader line value)
    {length? : Option Nat} (hlength : Block.lengthOf (trim line) = .ok length?) :
    ∃ n ≤ Frame.maxLength, GivesLength line n ∧ length? = some n := by
  rw [lengthOf_trim_of_lengthHeader h] at hlength
  split at hlength
  · cases hlength
  · next n hread =>
    split at hlength
    · next hn =>
      obtain ⟨a, b, hvalue, ha, hb⟩ := exists_append_trim value
      have hgives : GivesLength line n :=
        .intro (hvalue ▸ h) ha hb (Word64.ofText_eq_ok_iff.1 hread).1
      exact ⟨n, hn, hgives, (Except.ok.inj hlength).symm⟩
    · cases hlength

theorem lengthOf_trim_of_givesLength {line : List Char} {n : Nat} (h : GivesLength line n)
    (hn : n ≤ Frame.maxLength) : Block.lengthOf (trim line) = .ok (some n) := by
  obtain @⟨a, number, b, hline, ha, hb, hnumber⟩ := h
  have hread : Word64.ofText (trim (a ++ number ++ b)) = .ok n := by
    rw [(tight_of_spells hnumber).trim ha hb, Word64.ofText_eq_ok_iff]
    have hmax : Frame.maxLength < UInt64.size := by decide
    exact ⟨hnumber, by omega⟩
  rw [lengthOf_trim_of_lengthHeader hline, hread]
  exact if_pos hn

end ScriptAssist.Rpc
