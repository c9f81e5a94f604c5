import ScriptAssist.Proofs.Trigger.History

/-!
# Reported characters

The characters that a roster reports are those of its sources, each once. They can be gathered in
one pass over all that the sources want reported: a character that comes up for the first time is
put behind those before it (`Roster.triggers_eq`). What has been gathered lists what has been
passed, in the order in which it first came up, and one more character keeps this so
(`ListsFirsts.keepNew`). A pass only ever adds at the end, and so does a source for a domain that
had none (`Roster.triggers_ofCalls`).
-/

namespace ScriptAssist

/-! ## Gathering characters -/

/-- The characters with one more behind them, unless it is there. -/
def keepNew (kept : List Char) (c : Char) : List Char :=
  if c ∈ kept then kept else kept ++ [c]

/-- The characters that were passed are listed, each once, in the order in which they first came
up. -/
structure ListsFirsts (kept passed : List Char) : Prop where
  nodup : kept.Nodup
  mem_iff : ∀ c, c ∈ kept ↔ c ∈ passed
  ordered : kept.Pairwise fun c d => passed.idxOf c < passed.idxOf d

namespace ListsFirsts

variable {kept passed : List Char}

theorem nil : ListsFirsts [] [] where
  nodup := List.nodup_nil
  mem_iff _ := Iff.rfl
  ordered := List.Pairwise.nil

/-- What comes up later does not move what has been passed. -/
theorem idxOf_append (h : ListsFirsts kept passed) {c : Char} (hc : c ∈ kept) (more : List Char) :
    (passed ++ more).idxOf c = passed.idxOf c :=
  List.idxOf_append_of_mem ((h.mem_iff c).1 hc)

theorem keepNew (h : ListsFirsts kept passed) (c : Char) :
    ListsFirsts (keepNew kept c) (passed ++ [c]) := by
  have hordered : kept.Pairwise fun a b =>
      (passed ++ [c]).idxOf a < (passed ++ [c]).idxOf b := by
    refine h.ordered.imp_of_mem fun ha hb hlt => ?_
    rwa [h.idxOf_append ha, h.idxOf_append hb]
  unfold ScriptAssist.keepNew
  split
  · next hold =>
    refine ⟨h.nodup, fun a => ?_, hordered⟩
    rw [List.mem_append, List.mem_singleton, h.mem_iff]
    have hpassed : a = c → a ∈ passed := by
      rintro rfl
      exact (h.mem_iff a).1 hold
    exact (or_iff_left_of_imp hpassed).symm
  · next hnew =>
    -- It has not been passed before, so it stands behind all that has.
    have hpassed : c ∉ passed := fun hc => hnew ((h.mem_iff c).2 hc)
    have hlast : ∀ a ∈ kept, (passed ++ [c]).idxOf a < (passed ++ [c]).idxOf c := by
      intro a ha
      rw [h.idxOf_append ha, List.idxOf_append_of_notMem hpassed, List.idxOf_cons_self]
      exact List.idxOf_lt_length_of_mem ((h.mem_iff a).1 ha)
    constructor
    · rw [← List.concat_eq_append]
      exact (List.nodup_concat _ _).2 ⟨hnew, h.nodup⟩
    · intro a
      rw [List.mem_append, List.mem_append, h.mem_iff]
    · refine List.pairwise_append.2 ⟨hordered, List.pairwise_singleton _ _, fun a ha b hb => ?_⟩
      obtain rfl := List.mem_singleton.1 hb
      exact hlast a ha

theorem foldl (h : ListsFirsts kept passed) (cs : List Char) :
    ListsFirsts (cs.foldl ScriptAssist.keepNew kept) (passed ++ cs) := by
  induction cs generalizing kept passed with
  | nil => simpa using h
  | cons c cs ih =>
    have hrest := ih (h.keepNew c)
    rwa [List.append_assoc] at hrest

end ListsFirsts

theorem prefix_keepNew (kept : List Char) (c : Char) : kept <+: keepNew kept c := by
  unfold keepNew
  split
  · exact List.prefix_rfl
  · exact List.prefix_append _ _

theorem prefix_foldl_keepNew (kept cs : List Char) : kept <+: cs.foldl keepNew kept := by
  induction cs generalizing kept with
  | nil => exact List.prefix_rfl
  | cons c cs ih => exact (prefix_keepNew kept c).trans (ih _)

/-- Erasing repetitions keeps the first of each kind. -/
theorem eraseDups_eq_foldl (cs : List Char) : cs.eraseDups = cs.foldl keepNew [] := by
  -- The library's pass holds what it keeps the other way round.
  have hpass : ∀ kept : List Char,
      List.eraseDupsBy.loop (· == ·) cs kept.reverse = cs.foldl keepNew kept := by
    induction cs with
    | nil => simp [List.eraseDupsBy.loop]
    | cons c cs ih =>
      intro kept
      have hseen : (kept.reverse.any fun k => c == k) = decide (c ∈ kept) := by
        rw [List.any_reverse, List.any_beq, List.contains_eq_mem]
      rw [List.foldl_cons, ← ih, List.eraseDupsBy.loop, hseen]
      unfold keepNew
      by_cases hc : c ∈ kept <;> simp [hc]
  exact hpass []

namespace Roster

/-! ## What the sources want reported -/

/-- The characters that the sources want reported, source by source and with repetitions. -/
def wanted (r : Roster) : List Char :=
  r.sources.flatMap (·.triggers)

/-- The characters of a roster, gathered in one pass. -/
theorem triggers_eq (r : Roster) : r.triggers = r.wanted.foldl keepNew [] :=
  eraseDups_eq_foldl r.wanted

theorem listsFirsts_triggers (r : Roster) : ListsFirsts r.triggers r.wanted := by
  rw [triggers_eq]
  exact ListsFirsts.nil.foldl r.wanted

/-- A source for a new domain adds what it wants reported at the end. -/
theorem triggers_register {r : Roster} {source : Source} (h : source.domain ∉ r.domains) :
    (r.register source).triggers = source.triggers.foldl keepNew r.triggers := by
  have hwanted : (r.register source).wanted = r.wanted ++ source.triggers := by
    simp [wanted, register, place_of_not_mem h]
  rw [triggers_eq, triggers_eq, hwanted, List.foldl_append]

/-- After any calls, the characters that are reported are those that some source wants reported,
each once, in the order in which they first come up among all that the sources want reported. A
source for a new domain leaves them where they are and adds those of its own that are not among
them. -/
theorem triggers_ofCalls (calls : List Call) :
    (ofCalls calls).triggers.Nodup ∧
    (∀ c, c ∈ (ofCalls calls).triggers ↔ ∃ source ∈ (ofCalls calls).sources, c ∈ source.triggers) ∧
    ((ofCalls calls).triggers.Pairwise fun c d =>
      ((ofCalls calls).sources.flatMap (·.triggers)).idxOf c <
        ((ofCalls calls).sources.flatMap (·.triggers)).idxOf d) ∧
    ∀ source, source.domain ∉ (ofCalls calls).domains →
      ∃ more, (ofCalls (calls ++ [.register source])).triggers = (ofCalls calls).triggers ++ more ∧
        ∀ c, c ∈ more ↔ c ∈ source.triggers ∧ c ∉ (ofCalls calls).triggers := by
  have hlists := (ofCalls calls).listsFirsts_triggers
  refine ⟨hlists.nodup, fun c => ?_, hlists.ordered, fun source hnew => ?_⟩
  · rw [hlists.mem_iff, wanted, List.mem_flatMap]
  · have hcalls : ofCalls (calls ++ [.register source]) = (ofCalls calls).register source := by
      rw [ofCalls, List.foldl_concat]
      rfl
    have hlater : ListsFirsts ((ofCalls calls).register source).triggers
        ((ofCalls calls).wanted ++ source.triggers) := by
      rw [triggers_register hnew]
      exact hlists.foldl source.triggers
    obtain ⟨more, hmore⟩ := triggers_register hnew ▸
      prefix_foldl_keepNew (ofCalls calls).triggers source.triggers
    refine ⟨more, by rw [hcalls, hmore], fun c => ?_⟩
    -- No character is there twice, so those that are added are not among the others.
    have hdisjoint := (List.nodup_append'.1 (hmore ▸ hlater.nodup)).2.2
    have hmem := hlater.mem_iff c
    rw [← hmore, List.mem_append, List.mem_append, ← hlists.mem_iff] at hmem
    constructor
    · intro hc
      have hold : c ∉ (ofCalls calls).triggers := fun h => hdisjoint h hc
      exact ⟨(hmem.1 (.inr hc)).resolve_left hold, hold⟩
    · rintro ⟨hc, hold⟩
      exact (hmem.2 (.inr hc)).resolve_left hold

/-- A source that repeats itself, and others, adds the two characters that are new. -/
theorem triggers_ofCalls_repetitive :
    let calls : List Call := [.registerBuiltin, .unregister .root]
    let source : Source :=
      { domain := .root, accepts := fun _ => false, triggers := ['x', 'f', 'x', '.', 'y'] }
    (source.domain ∉ (ofCalls calls).domains) ∧
    (ofCalls calls).triggers = ['.', ',', '{', '(', '"', '\'', 'f', 'c', 'l'] ∧
    ∃ more, (ofCalls (calls ++ [.register source])).triggers = (ofCalls calls).triggers ++ more ∧
      ∀ c, c ∈ more ↔ c ∈ source.triggers ∧ c ∉ (ofCalls calls).triggers :=
  have hnew : Domain.root ∉ (ofCalls [.registerBuiltin, .unregister .root]).domains := by decide
  ⟨hnew, by decide, (triggers_ofCalls _).2.2.2 _ hnew⟩

end Roster

end ScriptAssist
