import Mathlib.Data.List.Nodup
import ScriptAssist.Proofs.Snippet.Unread
import ScriptAssist.Proofs.Symbols.Soundness

/-!
# The flaw that is reported

A catalog that is not sound is reported with one flaw: the first clause that is broken by the first
symbol that breaks any, with the domains in their order and symbols in table order
(`Catalog.flaw?_eq_first`). In what order the tables were put in does not matter.
-/

namespace ScriptAssist

open Snippet

/-! ## Standing ahead in a list -/

/-- One element stands somewhere before another. -/
def Ahead {α : Type} (l : List α) (a b : α) : Prop :=
  ∃ front back, l = front ++ b :: back ∧ a ∈ front

/-- In a list without repetition, the first result is that of the element that has none ahead. -/
theorem findSome?_eq_some_iff_ahead {α β : Type} {l : List α} (hl : l.Nodup) {f : α → Option β}
    {b : β} :
    l.findSome? f = some b ↔ ∃ a ∈ l, f a = some b ∧ ∀ a', Ahead l a' a → f a' = none := by
  rw [List.findSome?_eq_some_iff]
  constructor
  · rintro ⟨front, a, back, rfl, hresult, hnone⟩
    refine ⟨a, by simp, hresult, ?_⟩
    rintro a' ⟨front', back', hsame, ha'⟩
    have hfresh := List.nodup_middle.1 hl
    rw [List.nodup_cons, List.mem_append, not_or] at hfresh
    obtain ⟨rfl, -, -⟩ := (List.append_cons_inj_of_notMem hfresh.1.1 hfresh.1.2).1 hsame
    exact hnone a' ha'
  · rintro ⟨a, ha, hresult, hnone⟩
    obtain ⟨front, back, rfl⟩ := List.append_of_mem ha
    exact ⟨front, a, back, rfl, hresult, fun a' ha' => hnone a' ⟨front, back, rfl, ha'⟩⟩

theorem findSome?_filter_of_none {α β : Type} {p : α → Bool} {f : α → Option β}
    (hnone : ∀ a, p a = false → f a = none) (l : List α) :
    (l.filter p).findSome? f = l.findSome? f := by
  induction l with
  | nil => rfl
  | cons a l ih =>
    cases hp : p a with
    | true => rw [List.filter_cons_of_pos hp, List.findSome?_cons, List.findSome?_cons, ih]
    | false => rw [List.filter_cons_of_neg (by simp [hp]), List.findSome?_cons, hnone a hp, ih]

namespace Catalog

/-! ## Clauses -/

/-- What is asked of a symbol, in the order in which it is checked. -/
inductive Clause where
  | hasLabel
  | newLabel
  | oneFinalCursor
  | noMarkerLeft
  | insertsLabel
  deriving DecidableEq

namespace Clause

/-- All clauses, in order. -/
def all : List Clause :=
  [hasLabel, newLabel, oneFinalCursor, noMarkerLeft, insertsLabel]

/-- A symbol breaks the clause where it stands, with the symbols before it in its table. -/
def Broken (before : List Symbol) (s : Symbol) : Clause → Prop
  | hasLabel => s.label = ""
  | newLabel => ∃ s' ∈ before, s'.label = s.label
  | oneFinalCursor => 1 < s.template.pieces.count .finalCursor
  | noMarkerLeft =>
    ∃ text, .literal text ∈ s.template.pieces ∧ Pattern.marker.OccursIn text.toList
  | insertsLabel => (s.kind = .property ∨ s.kind = .binding) ∧ s.template.plainText ≠ s.label

/-- What is reported of a symbol that breaks the clause. -/
def flaw (domain : Domain) (s : Symbol) : Clause → Flaw
  | hasLabel => .emptyLabel domain
  | newLabel => .duplicateLabel s.label domain
  | oneFinalCursor => .manyFinalCursors s.label domain
  | noMarkerLeft => .unreadMarker s.label domain
  | insertsLabel => .templateNotLabel s.label domain

/-- The report in words. -/
def report (domain : Domain) (s : Symbol) (clause : Clause) : String :=
  "Invalid knowledge base: " ++ match clause with
    | hasLabel => "empty label in domain " ++ domain.name
    | newLabel => "duplicate label '" ++ s.label ++ "' in domain " ++ domain.name
    | oneFinalCursor =>
      "template of '" ++ s.label ++ "' in domain " ++ domain.name ++
        " has more than one final cursor"
    | noMarkerLeft =>
      "template of '" ++ s.label ++ "' in domain " ++ domain.name ++
        " has an unparsable placeholder"
    | insertsLabel =>
      "template of '" ++ s.label ++ "' in domain " ++ domain.name ++ " must equal its label"

theorem message_flaw (domain : Domain) (s : Symbol) (clause : Clause) :
    (clause.flaw domain s).message = clause.report domain s := by
  cases clause <;> rfl

/-- The clause is the first one that the symbol breaks. -/
def FirstBroken (before : List Symbol) (s : Symbol) (clause : Clause) : Prop :=
  clause.Broken before s ∧ ∀ earlier, Ahead all earlier clause → ¬ earlier.Broken before s

theorem mem_all (clause : Clause) : clause ∈ all := by
  cases clause <;> decide

end Clause

theorem finalCursors_eq_count (t : Template) :
    t.finalCursors = t.pieces.count .finalCursor := by
  rw [Template.finalCursors, List.count]
  refine List.countP_congr fun p _ => ?_
  cases p <;> simp

/-! ## Symbols -/

open Classical in
/-- The check goes through the clauses in order. -/
theorem symbolFlaw?_eq_findSome? (domain : Domain) (before : List Symbol) (s : Symbol) :
    symbolFlaw? domain (before.map Symbol.label).reverse s =
      Clause.all.findSome? fun clause =>
        if clause.Broken before s then some (clause.flaw domain s) else none := by
  have hnew : s.label ∈ (before.map Symbol.label).reverse ↔ Clause.newLabel.Broken before s := by
    simp [Clause.Broken]
  have hcursor : 1 < s.template.finalCursors ↔ Clause.oneFinalCursor.Broken before s := by
    rw [finalCursors_eq_count]
    rfl
  have hmarker : s.template.hasUnreadMarker = true ↔ Clause.noMarkerLeft.Broken before s :=
    s.template.hasUnreadMarker_iff
  have hlabel : (!s.kind.isCallable && s.template.plainText != s.label) = true ↔
      Clause.insertsLabel.Broken before s := by
    rw [Clause.Broken, ← SymbolKind.isCallable_eq_false_iff, Bool.and_eq_true, bne_iff_ne,
      Bool.not_eq_true']
  have hempty : s.label = "" ↔ Clause.hasLabel.Broken before s := .rfl
  have hstep : ∀ (clause : Clause) (rest : List Clause),
      ((clause :: rest).findSome? fun clause =>
          if clause.Broken before s then some (clause.flaw domain s) else none) =
        if clause.Broken before s then some (clause.flaw domain s)
        else rest.findSome? fun clause =>
          if clause.Broken before s then some (clause.flaw domain s) else none := by
    intro clause rest
    rw [List.findSome?_cons]
    by_cases hbroken : clause.Broken before s
    · rw [if_pos hbroken, if_pos hbroken]
    · rw [if_neg hbroken, if_neg hbroken]
  simp only [symbolFlaw?, hempty, hnew, hcursor, hmarker, hlabel, Clause.all, hstep]
  rfl

theorem symbolFlaw?_eq_some_iff {domain : Domain} {before : List Symbol} {s : Symbol}
    {flaw : Flaw} :
    symbolFlaw? domain (before.map Symbol.label).reverse s = some flaw ↔
      ∃ clause : Clause, clause.FirstBroken before s ∧ flaw = clause.flaw domain s := by
  classical
  rw [symbolFlaw?_eq_findSome?, findSome?_eq_some_iff_ahead (by decide)]
  constructor
  · rintro ⟨clause, -, hflaw, hahead⟩
    obtain ⟨hbroken, hflaw⟩ := Option.ite_none_right_eq_some.1 hflaw
    refine ⟨clause, ⟨hbroken, fun earlier hearlier hbroken' => ?_⟩, (Option.some.inj hflaw).symm⟩
    have hnone := hahead earlier hearlier
    rw [if_pos hbroken'] at hnone
    cases hnone
  · rintro ⟨clause, ⟨hbroken, hahead⟩, rfl⟩
    exact ⟨clause, clause.mem_all, if_pos hbroken,
      fun earlier hearlier => if_neg (hahead earlier hearlier)⟩

theorem symbolFlaw?_eq_none_iff_forall {domain : Domain} {before : List Symbol} {s : Symbol} :
    symbolFlaw? domain (before.map Symbol.label).reverse s = none ↔
      ∀ clause : Clause, ¬ clause.Broken before s := by
  classical
  rw [symbolFlaw?_eq_findSome?, List.findSome?_eq_none_iff]
  simp [Clause.mem_all]

/-! ## Tables -/

/-- No symbol breaks a clause. -/
def Kept (passed symbols : List Symbol) : Prop :=
  ∀ before s after, symbols = before ++ s :: after →
    ∀ clause : Clause, ¬ clause.Broken (passed ++ before) s

theorem kept_nil (passed : List Symbol) : Kept passed [] := by
  intro before s after hsplit
  cases before <;> cases hsplit

theorem kept_cons_iff {passed : List Symbol} {s : Symbol} {rest : List Symbol} :
    Kept passed (s :: rest) ↔
      (∀ clause : Clause, ¬ clause.Broken passed s) ∧ Kept (passed ++ [s]) rest := by
  constructor
  · intro h
    refine ⟨by simpa using h [] s rest rfl, ?_⟩
    rintro before s' after rfl
    simpa using h (s :: before) s' after rfl
  · rintro ⟨hfirst, hrest⟩ before s' after hsplit
    cases before with
    | nil =>
      cases hsplit
      simpa using hfirst
    | cons s before =>
      cases hsplit
      simpa using hrest before s' after rfl

theorem tableFlaw?_passed_cons (domain : Domain) (passed : List Symbol) (s : Symbol)
    (rest : List Symbol) :
    tableFlaw? domain (passed.map Symbol.label).reverse (s :: rest) =
      (symbolFlaw? domain (passed.map Symbol.label).reverse s).or
        (tableFlaw? domain ((passed ++ [s]).map Symbol.label).reverse rest) := by
  rw [tableFlaw?, List.map_append, List.reverse_append]
  rfl

theorem tableFlaw?_eq_none_iff_kept {domain : Domain} {passed symbols : List Symbol} :
    tableFlaw? domain (passed.map Symbol.label).reverse symbols = none ↔ Kept passed symbols := by
  induction symbols generalizing passed with
  | nil => exact iff_of_true rfl (kept_nil passed)
  | cons s rest ih =>
    rw [tableFlaw?_passed_cons, Option.or_eq_none_iff, symbolFlaw?_eq_none_iff_forall, ih,
      kept_cons_iff]

/-- A flaw in a table is that of a symbol before which none breaks a clause. -/
theorem tableFlaw?_eq_some_iff {domain : Domain} {passed symbols : List Symbol} {flaw : Flaw} :
    tableFlaw? domain (passed.map Symbol.label).reverse symbols = some flaw ↔
      ∃ before s after, symbols = before ++ s :: after ∧ Kept passed before ∧
        ∃ clause : Clause, clause.FirstBroken (passed ++ before) s ∧
          flaw = clause.flaw domain s := by
  induction symbols generalizing passed with
  | nil => simp [tableFlaw?]
  | cons s rest ih =>
    rw [tableFlaw?_passed_cons, Option.or_eq_some_iff, symbolFlaw?_eq_some_iff,
      symbolFlaw?_eq_none_iff_forall, ih]
    constructor
    · rintro (hfirst | ⟨hkept, before, s', after, rfl, hbefore, hfirst⟩)
      · exact ⟨[], s, rest, rfl, kept_nil passed, by simpa using hfirst⟩
      · exact ⟨s :: before, s', after, rfl, kept_cons_iff.2 ⟨hkept, hbefore⟩, by simpa using hfirst⟩
    · rintro ⟨before, s', after, hsplit, hbefore, hfirst⟩
      cases before with
      | nil =>
        cases hsplit
        exact .inl (by simpa using hfirst)
      | cons s before =>
        cases hsplit
        obtain ⟨hkept, hbefore⟩ := kept_cons_iff.1 hbefore
        exact .inr ⟨hkept, before, s', after, rfl, hbefore, by simpa using hfirst⟩

/-! ## Catalogs -/

/-- A symbol where it stands in a catalog. -/
structure Entry (c : Catalog) where
  domain : Domain
  before : List Symbol
  symbol : Symbol
  after : List Symbol
  table_eq : c.table? domain = some (before ++ symbol :: after)

/-- Domains are taken in their order, and the symbols of a domain in table order. -/
def Entry.Precedes {c : Catalog} (e e' : c.Entry) : Prop :=
  Ahead Domain.all e.domain e'.domain ∨
    e.domain = e'.domain ∧ e.before.length < e'.before.length

/-- A domain without table has no flaws, so it makes no difference that it is left out. -/
theorem flaw?_eq_findSome? (c : Catalog) :
    c.flaw? = Domain.all.findSome? fun d => tableFlaw? d [] (c.symbols d) := by
  refine findSome?_filter_of_none (fun d hd => ?_) Domain.all
  rw [symbols, Option.isSome_eq_false_iff.1 hd |> Option.isNone_iff_eq_none.1]
  rfl

theorem table?_eq_some_of_symbols {c : Catalog} {d : Domain} {table : List Symbol}
    (h : c.symbols d = table) (hne : table ≠ []) : c.table? d = some table := by
  rw [symbols] at h
  cases htable : c.table? d with
  | none => exact absurd (by simpa [htable] using h.symm) hne
  | some table' => simpa [htable] using h

/-- Of two places in one table, the one with fewer symbols before it stands before the other. -/
theorem exists_append_of_length_lt {before before' after after' : List Symbol} {s s' : Symbol}
    (hsplit : before' ++ s' :: after' = before ++ s :: after)
    (hlt : before'.length < before.length) : ∃ between, before = before' ++ s' :: between := by
  rcases List.append_eq_append_iff.1 hsplit with ⟨between, hbefore, hrest⟩ | ⟨between, hbefore, -⟩
  · cases between with
    | nil => simp [hbefore] at hlt
    | cons s₁ between =>
      obtain ⟨rfl, -⟩ := List.cons.inj hrest
      exact ⟨between, hbefore⟩
  · rw [hbefore, List.length_append] at hlt
    omega

theorem kept_symbols_iff {c : Catalog} {d : Domain} :
    Kept [] (c.symbols d) ↔
      ∀ e : c.Entry, e.domain = d → ∀ clause : Clause, ¬ clause.Broken e.before e.symbol := by
  constructor
  · rintro h ⟨d, before, s, after, htable⟩ rfl
    exact h before s after (by rw [symbols, htable]; rfl)
  · intro h before s after hsplit
    exact h ⟨d, before, s, after, table?_eq_some_of_symbols hsplit (by simp)⟩ rfl

theorem flaw?_eq_some_iff {c : Catalog} {flaw : Flaw} :
    c.flaw? = some flaw ↔
      ∃ (e : c.Entry) (clause : Clause), clause.FirstBroken e.before e.symbol ∧
        (∀ e' : c.Entry, e'.Precedes e → ∀ clause : Clause, ¬ clause.Broken e'.before e'.symbol) ∧
        flaw = clause.flaw e.domain e.symbol := by
  have htable : ∀ d, tableFlaw? d [] (c.symbols d) =
      tableFlaw? d (([] : List Symbol).map Symbol.label).reverse (c.symbols d) := fun _ => rfl
  simp only [flaw?_eq_findSome?, findSome?_eq_some_iff_ahead (l := Domain.all) (by decide), htable,
    tableFlaw?_eq_some_iff, tableFlaw?_eq_none_iff_kept, List.nil_append]
  constructor
  · rintro ⟨d, -, ⟨before, s, after, hsplit, hbefore, clause, hfirst, rfl⟩, hahead⟩
    have hentry := table?_eq_some_of_symbols hsplit (by simp)
    refine ⟨⟨d, before, s, after, hentry⟩, clause, hfirst, ?_, rfl⟩
    rintro ⟨d', before', s', after', hentry'⟩ (hdomain | ⟨hdomain, hlt⟩)
    · exact kept_symbols_iff.1 (hahead d' hdomain) ⟨d', before', s', after', hentry'⟩ rfl
    · obtain rfl : d' = d := hdomain
      have hsame := Option.some.inj (hentry'.symm.trans hentry)
      obtain ⟨between, hbetween⟩ := exists_append_of_length_lt hsame hlt
      exact hbefore before' s' between hbetween
  · rintro ⟨⟨d, before, s, after, hentry⟩, clause, hfirst, hearlier, rfl⟩
    refine ⟨d, Domain.mem_all d, ⟨before, s, after, ?_, ?_, clause, hfirst, rfl⟩, ?_⟩
    · rw [symbols, hentry]
      rfl
    · rintro before' s' between rfl
      have hentry' : c.table? d = some (before' ++ s' :: (between ++ s :: after)) := by
        rw [hentry, List.append_assoc, List.cons_append]
      exact hearlier ⟨d, before', s', _, hentry'⟩ (.inr ⟨rfl, by simp⟩)
    · intro d' hahead
      refine kept_symbols_iff.2 fun e' hdomain => hearlier e' (.inl ?_)
      rw [hdomain]
      exact hahead

/-! ## The order in which tables are put in -/

/-- The catalog that is made by putting tables in, one after the other. -/
def ofTables (tables : List (Domain × List Symbol)) : Catalog :=
  tables.foldl (fun c (d, table) => c.insert d table) empty

/-- A domain has the last table that was put in for it. -/
theorem table?_ofTables (tables : List (Domain × List Symbol)) (d : Domain) :
    (ofTables tables).table? d = (tables.filter (·.1 = d)).getLast?.map (·.2) := by
  induction tables using List.reverseRecOn with
  | nil => rfl
  | append_singleton tables last ih =>
    obtain ⟨d', table⟩ := last
    rw [ofTables, List.foldl_append, List.filter_append]
    show (if d = d' then some table else (ofTables tables).table? d) = _
    by_cases hd : d = d'
    · simp [hd]
    · rw [if_neg hd, ih, List.filter_cons_of_neg (by simpa using Ne.symm hd), List.filter_nil,
        List.append_nil]

/-- Only the order of the tables of one and the same domain matters. -/
theorem ofTables_eq {tables tables' : List (Domain × List Symbol)}
    (h : ∀ d, tables'.filter (·.1 = d) = tables.filter (·.1 = d)) :
    ofTables tables' = ofTables tables := by
  have htable : (ofTables tables').table? = (ofTables tables).table? := by
    funext d
    rw [table?_ofTables, table?_ofTables, h]
  exact congrArg Catalog.mk htable

/-! ## What is reported -/

/-- A table of which all symbols keep to the rules. -/
structure SoundTable (table : List Symbol) : Prop where
  label_ne : ∀ s ∈ table, s.label ≠ ""
  nodup : (table.map Symbol.label).Nodup
  finalCursors_le : ∀ s ∈ table, s.template.pieces.count .finalCursor ≤ 1
  noMarkerLeft : ∀ s ∈ table, ∀ text, .literal text ∈ s.template.pieces →
    ¬ Pattern.marker.OccursIn text.toList
  plainText_eq : ∀ s ∈ table, s.kind = .property ∨ s.kind = .binding →
    s.template.plainText = s.label

theorem soundTable_iff {table : List Symbol} :
    SoundTable table ↔ (∀ s ∈ table, s.Sound) ∧ (table.map Symbol.label).Nodup := by
  constructor
  · intro h
    refine ⟨fun s hs => ⟨h.label_ne s hs, ?_, ?_, fun hkind => h.plainText_eq s hs ?_⟩, h.nodup⟩
    · rw [finalCursors_eq_count]
      exact h.finalCursors_le s hs
    · rw [← Bool.not_eq_true, s.template.hasUnreadMarker_iff]
      rintro ⟨text, htext, hoccurs⟩
      exact h.noMarkerLeft s hs text htext hoccurs
    · exact SymbolKind.isCallable_eq_false_iff.1 hkind
  · rintro ⟨hsound, hnodup⟩
    refine ⟨fun s hs => (hsound s hs).label_ne, hnodup, fun s hs => ?_, fun s hs text htext => ?_,
      fun s hs hkind => (hsound s hs).plainText_eq ?_⟩
    · rw [← finalCursors_eq_count]
      exact (hsound s hs).finalCursors_le
    · intro hoccurs
      have hmarker := s.template.hasUnreadMarker_iff.2 ⟨text, htext, hoccurs⟩
      rw [(hsound s hs).hasUnreadMarker_eq] at hmarker
      cases hmarker
    · exact SymbolKind.isCallable_eq_false_iff.2 hkind

theorem forall_soundTable_iff {c : Catalog} :
    (∀ d table, c.table? d = some table → SoundTable table) ↔ ∀ d, SoundTable (c.symbols d) := by
  constructor
  · intro h d
    cases htable : c.table? d with
    | none =>
      rw [symbols, htable]
      exact soundTable_iff.2 ⟨List.forall_mem_nil _, .nil⟩
    | some table =>
      rw [symbols, htable]
      exact h d table htable
  · intro h d table htable
    have hsymbols := h d
    rwa [symbols, htable] at hsymbols

/-- Nothing is reported exactly if all tables keep to the rules. Otherwise the report is about the
first symbol that breaks a clause, and names the first clause that it breaks. A catalog made of the
same tables has the same report, in whatever order its domains came. -/
theorem flaw?_eq_first (c : Catalog) :
    (c.flaw? = none ↔ ∀ d table, c.table? d = some table → SoundTable table) ∧
    (∀ flaw, c.flaw? = some flaw ↔
      ∃ (e : c.Entry) (clause : Clause), clause.FirstBroken e.before e.symbol ∧
        (∀ e' : c.Entry, e'.Precedes e → ∀ clause : Clause, ¬ clause.Broken e'.before e'.symbol) ∧
        flaw = clause.flaw e.domain e.symbol ∧ flaw.message = clause.report e.domain e.symbol) ∧
    ∀ tables tables', ofTables tables = c →
      (∀ d, tables'.filter (·.1 = d) = tables.filter (·.1 = d)) →
        (ofTables tables').flaw? = c.flaw? := by
  refine ⟨?_, fun flaw => ?_, ?_⟩
  · rw [flaw?_eq_none_iff, forall_soundTable_iff]
    simp only [soundTable_iff]
  · rw [flaw?_eq_some_iff]
    constructor
    · rintro ⟨e, clause, hfirst, hearlier, rfl⟩
      exact ⟨e, clause, hfirst, hearlier, rfl, clause.message_flaw _ _⟩
    · rintro ⟨e, clause, hfirst, hearlier, hflaw, -⟩
      exact ⟨e, clause, hfirst, hearlier, hflaw⟩
  · rintro tables tables' rfl hsame
    rw [ofTables_eq hsame]

namespace Sample

/-- Globals of which one comes twice. -/
def repeated : List Symbol :=
  [.plain "frappe" .binding "", .plain "frappe" .binding ""]

/-- A session table whose second symbol breaks two clauses: its marker has too great a number, and
what is inserted is not its label. -/
def overgrown : List Symbol :=
  [.plain "sid" .property "", ⟨"user", .property, "", .parse "${4294967296:user}"⟩]

end Sample

open Sample in
/-- Of two tables with flaws, that of the earlier domain is reported, though it was put in last. -/
theorem flaw?_eq_first_overgrown :
    let c := ofTables [(.session, overgrown), (.globals, repeated)]
    (ofTables [(.globals, repeated), (.session, overgrown)]).flaw? =
        some (.unreadMarker "user" .session) ∧
      (∃ (e : c.Entry) (clause : Clause), clause.FirstBroken e.before e.symbol ∧
        clause.report e.domain e.symbol =
          "Invalid knowledge base: template of 'user' in domain session has an unparsable placeholder") ∧
      ¬ ∀ d table, c.table? d = some table → SoundTable table := by
  intro c
  obtain ⟨hsound, hfirst, hsame⟩ := flaw?_eq_first c
  have hflaw : c.flaw? = some (.unreadMarker "user" .session) := by decide
  have hswapped := hsame _ [(.globals, repeated), (.session, overgrown)] rfl
    fun d => by cases d <;> rfl
  obtain ⟨e, clause, hbroken, -, -, hmessage⟩ := (hfirst _).1 hflaw
  refine ⟨hswapped.trans hflaw, ⟨e, clause, hbroken, hmessage.symm.trans (by decide)⟩, ?_⟩
  rw [← hsound, hflaw]
  exact Option.some_ne_none _

end Catalog

end ScriptAssist
