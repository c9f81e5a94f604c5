import ScriptAssist.Symbols.Catalog

/-!
# Sound catalogs

What the check of a catalog asks of every symbol (`Symbol.Sound`), and that it finds nothing
exactly if this holds of all symbols and no label comes up twice in a table
(`Catalog.flaw?_eq_none_iff`).
-/

namespace ScriptAssist

open Snippet

theorem SymbolKind.isCallable_eq_false_iff {kind : SymbolKind} :
    kind.isCallable = false ↔ kind = .property ∨ kind = .binding := by
  cases kind <;> simp [isCallable]

/-- What is asked of a symbol, whatever stands before it in its table. -/
structure Symbol.Sound (s : Symbol) : Prop where
  label_ne : s.label ≠ ""
  finalCursors_le : s.template.finalCursors ≤ 1
  hasUnreadMarker_eq : s.template.hasUnreadMarker = false
  plainText_eq : s.kind.isCallable = false → s.template.plainText = s.label

namespace Catalog

private theorem ite_some_eq_none_iff {α : Type} {p : Prop} [Decidable p] {a : α} {next : Option α} :
    (if p then some a else next) = none ↔ ¬ p ∧ next = none := by
  by_cases h : p <;> simp [h]

theorem symbolFlaw?_eq_none_iff {d : Domain} {earlier : List String} {s : Symbol} :
    symbolFlaw? d earlier s = none ↔ s.label ∉ earlier ∧ s.Sound := by
  have htext : ¬ (!s.kind.isCallable && s.template.plainText != s.label) = true ↔
      (s.kind.isCallable = false → s.template.plainText = s.label) := by
    cases s.kind.isCallable <;> simp
  simp only [symbolFlaw?, ite_some_eq_none_iff, htext, Nat.not_lt, Bool.not_eq_true, and_true]
  constructor
  · rintro ⟨hlabel, hnew, hcursors, hmarker, hplain⟩
    exact ⟨hnew, hlabel, hcursors, hmarker, hplain⟩
  · rintro ⟨hnew, hlabel, hcursors, hmarker, hplain⟩
    exact ⟨hlabel, hnew, hcursors, hmarker, hplain⟩

theorem tableFlaw?_eq_none_iff {d : Domain} {earlier : List String} {symbols : List Symbol} :
    tableFlaw? d earlier symbols = none ↔
      (∀ s ∈ symbols, s.Sound) ∧ (∀ s ∈ symbols, s.label ∉ earlier) ∧
        (symbols.map Symbol.label).Nodup := by
  induction symbols generalizing earlier with
  | nil => simp [tableFlaw?]
  | cons s rest ih =>
    rw [tableFlaw?, Option.or_eq_none_iff, symbolFlaw?_eq_none_iff, ih, List.forall_mem_cons,
      List.forall_mem_cons, List.map_cons, List.nodup_cons]
    constructor
    · rintro ⟨⟨hnew, hsound⟩, hall, hearlier, hdistinct⟩
      refine ⟨⟨hsound, hall⟩, ⟨hnew, fun s' hs' => ?_⟩, fun hlabel => ?_, hdistinct⟩
      · exact fun h => hearlier s' hs' (.tail _ h)
      · obtain ⟨s', hs', hsame⟩ := List.mem_map.1 hlabel
        exact hearlier s' hs' (hsame ▸ .head _)
    · rintro ⟨⟨hsound, hall⟩, ⟨hnew, hearlier⟩, hlabel, hdistinct⟩
      refine ⟨⟨hnew, hsound⟩, hall, fun s' hs' h => ?_, hdistinct⟩
      rcases List.mem_cons.1 h with hsame | h
      · exact hlabel (hsame ▸ List.mem_map_of_mem hs')
      · exact hearlier s' hs' h

/-- The check finds nothing exactly if all symbols keep to the rules, and every label stands for one
symbol of its table. -/
theorem flaw?_eq_none_iff {c : Catalog} :
    c.flaw? = none ↔
      ∀ d, (∀ s ∈ c.symbols d, s.Sound) ∧ ((c.symbols d).map Symbol.label).Nodup := by
  have htable : ∀ d, tableFlaw? d [] (c.symbols d) = none ↔
      (∀ s ∈ c.symbols d, s.Sound) ∧ ((c.symbols d).map Symbol.label).Nodup := by
    intro d
    simp [tableFlaw?_eq_none_iff]
  simp only [flaw?, List.findSome?_eq_none_iff, htable]
  refine ⟨fun h d => ?_, fun h d _ => h d⟩
  by_cases hd : d ∈ c.domains
  · exact h d hd
  · -- A domain without table has no symbols.
    have hnone : c.table? d = none := by
      simpa [domains, Domain.mem_all] using hd
    simp [symbols, hnone]

end Catalog

end ScriptAssist
