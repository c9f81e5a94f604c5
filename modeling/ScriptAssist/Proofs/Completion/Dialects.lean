import ScriptAssist.Completion.Assistant
import ScriptAssist.Proofs.Trigger.History

/-!
# Answers in either dialect

An answer in a dialect of the caller's choice is the answer of the assistant whose style has that
dialect, and presents what the source of the offered domain provides, symbol by symbol, whichever
table the source draws on. The answers in the two dialects differ in what is inserted for the
symbols that have slots, and in nothing else (`Assistant.completeIn_eq`).
-/

namespace ScriptAssist

open Snippet

/-! ## The specification -/

/-- The same style in another dialect. -/
def Style.inDialect (style : Style) (dialect : Dialect) : Style :=
  { style with dialect }

/-- Two items that differ in what is inserted at most. -/
structure Item.Alike (i j : Item) : Prop where
  label_eq : i.label = j.label
  kind_eq : i.kind = j.kind
  detail_eq : i.detail = j.detail
  documentation_eq : i.documentation = j.documentation
  sortText_eq : i.sortText = j.sortText
  filterText_eq : i.filterText = j.filterText
  preselect_eq : i.preselect = j.preselect

namespace Assistant

/-- The same assistant with its style in another dialect. -/
def inDialect (a : Assistant) (dialect : Dialect) : Assistant :=
  { a with style := a.style.inDialect dialect }

/-- What the source of a domain provides; nothing if there is no domain or no source for it. -/
def provided (a : Assistant) (domain? : Option Domain) : List Symbol :=
  match domain?.bind a.roster.source? with
  | some source => source.symbols a.catalog
  | none => []

end Assistant

/-! ## One symbol in the two dialects -/

namespace Style

variable (style : Style) (s : Symbol)

theorem showsSlots_plain : (style.inDialect .plain).showsSlots s = false := rfl

theorem showsSlots_slots : (style.inDialect .slots).showsSlots s = s.template.hasSlot :=
  Bool.true_and _

theorem alike_present (dialect dialect' : Dialect) :
    ((style.inDialect dialect).present s).Alike ((style.inDialect dialect').present s) :=
  ⟨rfl, rfl, rfl, rfl, rfl, rfl, rfl⟩

theorem insertFormat_present_plain :
    ((style.inDialect .plain).present s).insertFormat = .plain := rfl

/-- The dialect matters exactly for the symbols whose template has a slot. -/
theorem present_plain_eq_iff :
    (style.inDialect .plain).present s = (style.inDialect .slots).present s ↔
      s.template.hasSlot = false := by
  constructor
  · intro h
    have hformat := congrArg Item.insertFormat h
    simp only [present, showsSlots_plain, showsSlots_slots] at hformat
    cases hslot : s.template.hasSlot with
    | false => rfl
    | true => simp [hslot] at hformat
  · intro h
    simp only [present, showsSlots_plain, showsSlots_slots, h]
    rfl

end Style

/-! ## Answers -/

namespace Assistant

/-- Whether or not the style has the dialect already makes no difference. -/
theorem completeIn_eq_complete (a : Assistant) (dialect : Dialect) (q : Query) :
    a.completeIn dialect q = (a.inDialect dialect).complete q := by
  unfold completeIn
  split
  · next hsame =>
    have hstyle : a.style.inDialect dialect = a.style := by
      rw [hsame]
      rfl
    rw [inDialect, hstyle]
  · rfl

/-- Where no domain has two sources, the source of the offered domain gives what is presented. -/
theorem symbols_eq_provided {a : Assistant} (hdistinct : a.roster.domains.Nodup) (q : Query) :
    a.symbols q = a.provided (a.domain? q) := by
  unfold symbols provided domain?
  cases hfind : a.roster.find? q with
  | none => rfl
  | some source =>
    have hsource := ((Roster.find?_eq_some_iff hdistinct).1 hfind).1
    simp only [Option.map_some, Option.bind_some, hsource]

/-- Symbol by symbol, the answers in the two dialects present the same. -/
theorem getElem?_completeIn (a : Assistant) (q : Query) {i : Nat} {s : Symbol}
    (h : (a.symbols q)[i]? = some s) (dialect : Dialect) :
    (a.completeIn dialect q)[i]? = some ((a.style.inDialect dialect).present s) := by
  rw [completeIn_eq_complete, complete, List.getElem?_map]
  exact congrArg (Option.map _) h

end Assistant

theorem Roster.nodup_domains_ofCalls (calls : List Call) : (ofCalls calls).domains.Nodup := by
  rw [ofCalls_eq]
  exact (follows_ofChanges _).distinct

/-- Of an assistant with any catalog, with a roster made by any calls and with any style, an answer
in a dialect is the answer of the assistant that has this dialect, and presents in order what the
source of the offered domain provides. The answers in the two dialects are equally long and alike
item by item; in the plain one nothing is a snippet, and two items are the same exactly if the
template of their symbol has no slot. -/
theorem Assistant.completeIn_eq (catalog : Catalog) (calls : List Roster.Call) (style : Style)
    (text : List Char) (offset : Nat) (trigger : Trigger) :
    let a : Assistant := ⟨catalog, .ofCalls calls, style⟩
    let q : Query := .ofCursor text offset trigger
    let symbols := a.provided (a.domain? q)
    (∀ dialect, a.completeIn dialect q = (a.inDialect dialect).complete q) ∧
    (∀ dialect, a.completeIn dialect q = symbols.map (style.inDialect dialect).present) ∧
    (∀ d, a.domain? q = some d → ∃ source, a.roster.source? d = some source ∧
      source.accepts q = true ∧ symbols = source.symbols catalog) ∧
    (a.domain? q = none → symbols = []) ∧
    (a.completeIn .plain q).length = (a.completeIn .slots q).length ∧
    ∀ (i : Nat) (s : Symbol), symbols[i]? = some s → ∃ plain slots : Item,
      (a.completeIn .plain q)[i]? = some plain ∧ (a.completeIn .slots q)[i]? = some slots ∧
        plain.Alike slots ∧ plain.insertFormat = .plain ∧
        (plain = slots ↔ s.template.hasSlot = false) := by
  intro a q symbols
  have hdistinct : a.roster.domains.Nodup := Roster.nodup_domains_ofCalls calls
  have hsymbols : a.symbols q = symbols := symbols_eq_provided hdistinct q
  have hitems : ∀ dialect,
      a.completeIn dialect q = symbols.map (style.inDialect dialect).present := by
    intro dialect
    rw [completeIn_eq_complete, ← hsymbols]
    rfl
  refine ⟨fun dialect => a.completeIn_eq_complete dialect q, hitems, fun d hd => ?_,
    fun hnone => ?_, ?_, fun i s hs => ?_⟩
  · obtain ⟨source, hfind, rfl⟩ := Option.map_eq_some_iff.1 hd
    obtain ⟨hsource, haccepts, -⟩ := (Roster.find?_eq_some_iff hdistinct).1 hfind
    refine ⟨source, hsource, haccepts, ?_⟩
    rw [← hsymbols, Assistant.symbols, hfind]
  · show a.provided (a.domain? q) = []
    rw [hnone]
    rfl
  · rw [hitems, hitems, List.length_map, List.length_map]
  · rw [← hsymbols] at hs
    exact ⟨_, _, a.getElem?_completeIn q hs .plain, a.getElem?_completeIn q hs .slots,
      style.alike_present s .plain .slots, style.insertFormat_present_plain s,
      style.present_plain_eq_iff s⟩

namespace Assistant.Sample

/-- A method with a place for its argument. -/
def save : Symbol :=
  ⟨"save", .method, "", ⟨[.literal "save(", .placeholder 1 "action", .literal ")"]⟩⟩

/-- The method, and a property. -/
def formTable : Catalog :=
  Catalog.empty.insert .form [save, .plain "doc" .property ""]

/-- A source for the session that draws on the table of the form. -/
def borrower : Source where
  domain := .session
  accepts q := q.trigger = .invoked
  symbols catalog := catalog.symbols .form

end Assistant.Sample

open Assistant.Sample in
/-- The source takes the place of the built-in one, and only the first of its two items depends on
the dialect. -/
theorem Assistant.completeIn_eq_borrower :
    let a : Assistant := ⟨formTable, .ofCalls [.registerBuiltin, .register borrower], {}⟩
    let q : Query := .ofCursor "frm".toList 3 .invoked
    a.domain? q = some .session ∧ a.provided (a.domain? q) = formTable.symbols .form ∧
      (∃ plain slots, (a.completeIn .plain q)[0]? = some plain ∧
        (a.completeIn .slots q)[0]? = some slots ∧ plain.Alike slots ∧ plain ≠ slots) ∧
      (a.completeIn .plain q)[1]? = (a.completeIn .slots q)[1]? := by
  intro a q
  obtain ⟨-, -, hsource, -, -, hitems⟩ := Assistant.completeIn_eq formTable
    [.registerBuiltin, .register borrower] {} "frm".toList 3 .invoked
  have hdomain : a.domain? q = some .session := by decide
  obtain ⟨source, hheld, -, hsymbols⟩ := hsource .session hdomain
  obtain rfl : borrower = source := Option.some.inj hheld
  have hprovided : a.provided (a.domain? q) = formTable.symbols .form := hsymbols
  obtain ⟨plain, slots, hplain, hslots, halike, -, hsame⟩ := hitems 0 save (by rw [hprovided]; rfl)
  obtain ⟨plain', slots', hplain', hslots', -, -, hsame'⟩ :=
    hitems 1 (.plain "doc" .property "") (by rw [hprovided]; rfl)
  refine ⟨hdomain, hprovided, ⟨plain, slots, hplain, hslots, halike, ?_⟩, ?_⟩
  · rw [ne_eq, hsame]
    decide
  · rw [hplain', hslots', hsame'.2 (by decide)]

end ScriptAssist
