import ScriptAssist.Completion.Assistant
import ScriptAssist.Proofs.Text.Slices
import ScriptAssist.Proofs.Trigger.Changes

/-!
# Nothing behind the cursor matters

An inquiry is made with the whole text and an offset. Its answer can be found by slicing: every
condition slices what it looks at from the whole text, and clamps the offset once more where it
looks for the line. `answer?` works so. No slice is missing, and the answer is the one that the
assistant gives to a query, which holds the text before the cursor alone. So two texts with the same
part before the cursor have the same answer (`Assistant.answer_of_standsBefore`).
-/

namespace ScriptAssist

open Text Snippet

/-! ## What stands before a cursor -/

/-- As many whole characters as fit in the offset. -/
def StandsBefore (b text : List Char) (offset : Nat) : Prop :=
  ∃ rest, text = b ++ rest ∧ utf8Size b ≤ offset ∧
    ∀ c ∈ rest.head?, offset < utf8Size b + c.utf8Size

theorem standsBefore_before (offset : Nat) (text : List Char) :
    StandsBefore (before offset text) text offset :=
  exists_append_before offset text

theorem StandsBefore.before_eq {b text : List Char} {offset : Nat}
    (h : StandsBefore b text offset) :
    before offset text = b := by
  obtain ⟨rest, rfl, hfits, hfull⟩ := h
  induction b generalizing offset with
  | nil =>
    cases rest with
    | nil => rfl
    | cons c rest =>
      have hlarge := hfull c rfl
      rw [utf8Size_nil, Nat.zero_add] at hlarge
      rw [List.nil_append, before_cons, if_neg (by omega)]
  | cons c b ih =>
    rw [utf8Size_cons] at hfits hfull
    rw [List.cons_append, before_cons, if_pos (by omega), ih (by omega)]
    intro d hd
    have := hfull d hd
    omega

/-- The offset to which a cursor is clamped has the same text before it. -/
theorem standsBefore_clamp (text : List Char) (offset : Nat) :
    StandsBefore (before offset text) text (clamp text offset) := by
  obtain ⟨rest, htext, hfits, -⟩ := standsBefore_before offset text
  refine ⟨rest, htext, Nat.le_refl _, fun c _ => ?_⟩
  have := c.utf8Size_pos
  rw [clamp]
  omega

theorem before_clamp (text : List Char) (offset : Nat) :
    before (clamp text offset) text = before offset text :=
  (standsBefore_clamp text offset).before_eq

/-! ## Inquiries -/

/-- A whole text, a place in it, and what brought the inquiry about. -/
structure Inquiry where
  text : List Char
  offset : Nat
  trigger : Trigger
  /-- A character begins at the offset, or the text ends there. -/
  clamped : clamp text offset = offset

namespace Inquiry

/-- The inquiry at a byte offset, which may lie anywhere. -/
def ofCursor (text : List Char) (offset : Nat) (trigger : Trigger) : Inquiry where
  text
  offset := clamp text offset
  trigger
  clamped := by rw [clamp, before_clamp, clamp]

/-- The text up to the place. -/
def before? (i : Inquiry) : Option (List Char) :=
  sliceTo? i.text i.offset

/-- The line of the place, up to the place. -/
def line? (i : Inquiry) : Option (List Char) :=
  linePart? i.text i.offset

/-- What the assistant is asked. -/
def query (i : Inquiry) : Query :=
  .ofCursor i.text i.offset i.trigger

theorem before?_eq (i : Inquiry) : i.before? = some i.query.before := by
  have hslice := sliceTo?_clamp i.text i.offset
  rwa [i.clamped] at hslice

theorem line?_eq (i : Inquiry) : i.line? = some i.query.line :=
  linePart?_eq i.text i.offset

theorem query_ofCursor (text : List Char) (offset : Nat) (trigger : Trigger) :
    (ofCursor text offset trigger).query = .ofCursor text offset trigger :=
  congrArg (Query.mk · trigger) (before_clamp text offset)

end Inquiry

/-! ## Answers by slicing -/

/-- Whether an inquiry meets a condition; none if a slice is missing. -/
def Condition.meets? : Condition → Inquiry → Option Bool
  | lineEndsWith literal, i => i.line?.map literal.toList.isSuffixOf
  | trimmedLineEndsWith literal, i => i.line?.map fun line => literal.toList.isSuffixOf (trim line)
  | documentContains literal, i => i.before?.map (occursIn literal.toList)
  | always, _ => some true

/-- Whether a rule is for an inquiry. -/
def Rule.accepts? (rule : Rule) (i : Inquiry) : Option Bool :=
  if rule.admits i.trigger then rule.condition.meets? i else some false

/-- The first of the rules that is for an inquiry. No later rule is tried. -/
def Rule.first? (i : Inquiry) : List Rule → Option (Option Rule)
  | [] => some none
  | rule :: rest => do
    if ← rule.accepts? i then return rule
    else first? i rest

/-- What is told about an inquiry: the domain, the items, and the items in a dialect of choice. -/
structure Answer where
  domain? : Option Domain
  items : List Item
  itemsIn : Dialect → List Item

/-- The answer of an assistant. -/
def Assistant.answer (a : Assistant) (q : Query) : Answer where
  domain? := a.domain? q
  items := a.complete q
  itemsIn dialect := a.completeIn dialect q

/-- The symbols of a rule's domain. -/
def Rule.items (catalog : Catalog) (style : Style) : Option Rule → List Item
  | some rule => (catalog.symbols rule.domain).map style.present
  | none => []

/-- The answer to an inquiry, found by slicing. -/
def Inquiry.answer? (i : Inquiry) (catalog : Catalog) (rules : List Rule) (style : Style) :
    Option Answer := do
  let rule? ← Rule.first? i rules
  return {
    domain? := rule?.map Rule.domain
    items := Rule.items catalog style rule?
    itemsIn := fun dialect =>
      if dialect = style.dialect then Rule.items catalog style rule?
      else Rule.items catalog { style with dialect } rule? }

theorem Condition.meets?_eq (condition : Condition) (i : Inquiry) :
    condition.meets? i = some (condition.holds i.query) := by
  cases condition with
  | lineEndsWith literal => rw [meets?, i.line?_eq, Option.map_some, holds]
  | trimmedLineEndsWith literal => rw [meets?, i.line?_eq, Option.map_some, holds]
  | documentContains literal => rw [meets?, i.before?_eq, Option.map_some, holds]
  | always => rfl

theorem Rule.accepts?_eq (rule : Rule) (i : Inquiry) :
    rule.accepts? i = some (rule.source.accepts i.query) := by
  have haccepts : rule.source.accepts i.query =
      (rule.admits i.trigger && rule.condition.holds i.query) := rfl
  rw [accepts?, rule.condition.meets?_eq, haccepts]
  cases rule.admits i.trigger <;> rfl

theorem Rule.first?_eq (i : Inquiry) (rules : List Rule) :
    first? i rules = some (rules.find? fun rule => rule.source.accepts i.query) := by
  induction rules with
  | nil => rfl
  | cons rule rest ih =>
    rw [first?, rule.accepts?_eq, List.find?_cons]
    simp only [Option.bind_eq_bind, Option.bind_some]
    cases rule.source.accepts i.query with
    | true => rfl
    | false => exact ih

/-! ## The two answers -/

/-- What is found by slicing is the answer of the assistant. -/
theorem Inquiry.answer?_eq (i : Inquiry) {a : Assistant} {rules : List Rule}
    (h : a.roster.Holds rules) :
    i.answer? a.catalog rules a.style = some (a.answer i.query) := by
  have hitems : ∀ style : Style,
      Rule.items a.catalog style (rules.find? fun rule => rule.source.accepts i.query) =
        (a.symbols i.query).map style.present := by
    intro style
    rw [Assistant.symbols, h.find?]
    cases rules.find? fun rule => rule.source.accepts i.query <;> rfl
  have hdomain : (rules.find? fun rule => rule.source.accepts i.query).map Rule.domain =
      a.domain? i.query := by
    rw [Assistant.domain?, h.find?, Option.map_map]
    rfl
  rw [answer?, Rule.first?_eq]
  simp only [Option.bind_eq_bind, Option.bind_some, hitems, hdomain]
  rfl

/-- Two texts with the same part before their cursors have the same answer, whatever stands behind,
and so have a cursor anywhere and the place to which it is clamped. This is also what is found by
slicing the whole texts. -/
theorem Assistant.answer_of_standsBefore (catalog : Catalog) (style : Style)
    (changes : List (Roster.Change Rule)) (trigger : Trigger) {b text text' : List Char}
    {offset offset' : Nat}
    (h : StandsBefore b text offset) (h' : StandsBefore b text' offset') :
    let a : Assistant := ⟨catalog, .ofChanges (changes.map (.map Rule.source)), style⟩
    ∃ rules, a.roster.Holds rules ∧
      (Inquiry.ofCursor text offset trigger).answer? catalog rules style =
        some (a.answer (.ofCursor text offset trigger)) ∧
      (Inquiry.ofCursor text' offset' trigger).answer? catalog rules style =
        some (a.answer (.ofCursor text offset trigger)) ∧
      a.answer (.ofCursor text' offset' trigger) = a.answer (.ofCursor text offset trigger) ∧
      a.answer (.ofCursor text (clamp text offset) trigger) =
        a.answer (.ofCursor text offset trigger) := by
  intro a
  obtain ⟨rules, hrules⟩ := Roster.exists_holds_ofChanges changes
  have hslices : ∀ text offset, (Inquiry.ofCursor text offset trigger).answer? catalog rules style =
      some (a.answer (.ofCursor text offset trigger)) := by
    intro text offset
    have hanswer := (Inquiry.ofCursor text offset trigger).answer?_eq (a := a) hrules
    rwa [Inquiry.query_ofCursor] at hanswer
  have hquery : Query.ofCursor text' offset' trigger = .ofCursor text offset trigger :=
    congrArg (Query.mk · trigger) (h'.before_eq.trans h.before_eq.symm)
  have hclamp : Query.ofCursor text (clamp text offset) trigger = .ofCursor text offset trigger :=
    congrArg (Query.mk · trigger) (before_clamp text offset)
  refine ⟨rules, hrules, hslices text offset, ?_, congrArg a.answer hquery,
    congrArg a.answer hclamp⟩
  rw [hslices, hquery]

/-- The rule of the form's members alone. -/
def formOnly : List (Roster.Change Rule) :=
  [.register (.suffix .root "frappe."), .register (.suffix .form "frm."), .unregister .root]

/-- A cursor inside a character and one past the end of the text. -/
theorem Assistant.answer_of_standsBefore_inside :
    let a : Assistant := ⟨.builtin, .ofChanges (formOnly.map (.map Rule.source)), {}⟩
    StandsBefore "frm.".toList "frm.é".toList 5 ∧ StandsBefore "frm.".toList "frm.".toList 99 ∧
      a.answer (.ofCursor "frm.".toList 99 .invoked) =
        a.answer (.ofCursor "frm.é".toList 5 .invoked) ∧
      (a.answer (.ofCursor "frm.é".toList 5 .invoked)).domain? = some .form := by
  intro a
  have hinside : StandsBefore "frm.".toList "frm.é".toList 5 :=
    ⟨['é'], rfl, by decide, fun c hc => by cases hc; decide⟩
  have hpast : StandsBefore "frm.".toList "frm.".toList 99 := ⟨[], rfl, by decide, nofun⟩
  obtain ⟨-, -, -, -, hsame, -⟩ :=
    Assistant.answer_of_standsBefore .builtin {} formOnly .invoked hinside hpast
  exact ⟨hinside, hpast, hsame, by decide⟩

end ScriptAssist
