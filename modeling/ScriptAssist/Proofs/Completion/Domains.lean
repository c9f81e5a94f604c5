import ScriptAssist.Completion.Assistant
import ScriptAssist.Proofs.Text.LastLine

/-!
# Domains that are offered

Which domain the built-in assistant offers, told from the text before the cursor alone. Six domains
have an opener, a text that stands before their members, and no text ends with two openers
(`Opens.unique`), so it does not matter in which order these six are tried. The events come next,
behind their marker, and the globals are left for what nothing else has answered.
-/

namespace ScriptAssist

open Text

/-! ## The specification -/

/-- The text that stands before the members of a domain. -/
def Domain.opener? : Domain → Option String
  | root => some "frappe."
  | session => some "frappe.session."
  | database => some "frappe.db."
  | ui => some "frappe.ui."
  | attach => some "frappe.ui.form."
  | form => some "frm."
  | events => none
  | globals => none

/-- A text ends with the opener of a domain. Only where handler maps are attached may there be
blanks behind it. -/
def Opens (b : List Char) (d : Domain) : Prop :=
  ∃ opener, d.opener? = some opener ∧ opener.toList <:+ if d = .attach then bare b else b

/-- The domain that is offered behind a text. -/
inductive Offered (b : List Char) (trigger : Trigger) : Domain → Prop
  | opened {d : Domain} (h : Opens b d) : Offered b trigger d
  | events (hopen : ∀ d, ¬ Opens b d) (hmarker : "frappe.ui.form.on".toList <:+: b) :
      Offered b trigger .events
  | globals (hopen : ∀ d, ¬ Opens b d) (hmarker : ¬ "frappe.ui.form.on".toList <:+: b)
      (htrigger : trigger = .invoked ∨ ∃ c ∈ ['f', 'c', 'l'], trigger = .typed c) :
      Offered b trigger .globals

/-! ## Conditions on the text before the cursor -/

namespace Condition

variable {literal : String} {q : Query}

theorem lineEndsWith_holds_iff (hfeed : '\n' ∉ literal.toList) :
    (lineEndsWith literal).holds q = true ↔ literal.toList <:+ q.before := by
  rw [holds, List.isSuffixOf_iff_suffix, Query.line, suffix_lastLine_iff hfeed]

theorem trimmedLineEndsWith_holds_iff (h : Tight literal.toList) (hfeed : '\n' ∉ literal.toList) :
    (trimmedLineEndsWith literal).holds q = true ↔ literal.toList <:+ bare q.before := by
  rw [holds, List.isSuffixOf_iff_suffix, Query.line, suffix_trim_lastLine_iff h hfeed]

theorem documentContains_holds_iff :
    (documentContains literal).holds q = true ↔ literal.toList <:+: q.before :=
  occursIn_iff

end Condition

/-! ## Openers -/

namespace Domain

variable {d : Domain} {opener : String}

theorem not_isBlank_of_opener (h : d.opener? = some opener) :
    ∀ c ∈ opener.toList, isBlank c = false := by
  have hall : (opener.toList.all fun c => !isBlank c) = true := by
    cases d <;> cases h <;> rfl
  intro c hc
  simpa using List.all_eq_true.1 hall c hc

theorem tight_opener (h : d.opener? = some opener) : Tight opener.toList := by
  refine .of_forall ?_ (not_isBlank_of_opener h)
  cases d <;> cases h <;> decide

theorem feed_not_mem_opener (h : d.opener? = some opener) : '\n' ∉ opener.toList := by
  intro hfeed
  have := not_isBlank_of_opener h _ hfeed
  revert this
  decide

/-- No opener ends with another one. -/
theorem eq_of_opener_suffix {d d' : Domain} {opener opener' : String}
    (h : d.opener? = some opener) (h' : d'.opener? = some opener')
    (hsuffix : opener.toList <:+ opener'.toList) : d = d' := by
  revert hsuffix
  cases d <;> cases h <;> cases d' <;> cases h' <;> decide

end Domain

namespace Opens

variable {b : List Char} {d d' : Domain}

theorem suffix_bare (h : Opens b d) : ∃ opener, d.opener? = some opener ∧
    opener.toList <:+ bare b := by
  obtain ⟨opener, hopener, hsuffix⟩ := h
  refine ⟨opener, hopener, ?_⟩
  by_cases hattach : d = .attach
  · rwa [if_pos hattach] at hsuffix
  · rw [if_neg hattach] at hsuffix
    obtain ⟨front, rfl⟩ := hsuffix
    rw [(Domain.tight_opener hopener).bare_append]
    exact List.suffix_append _ _

/-- No text ends with two openers. -/
theorem unique (h : Opens b d) (h' : Opens b d') : d = d' := by
  obtain ⟨opener, hopener, hsuffix⟩ := h.suffix_bare
  obtain ⟨opener', hopener', hsuffix'⟩ := h'.suffix_bare
  rcases List.suffix_or_suffix_of_suffix hsuffix hsuffix' with hle | hle
  · exact Domain.eq_of_opener_suffix hopener hopener' hle
  · exact (Domain.eq_of_opener_suffix hopener' hopener hle).symm

end Opens

/-! ## The built-in rules -/

/-- The built-in rule of a domain. -/
def Domain.rule (d : Domain) : Rule :=
  (Roster.builtinRules.find? (·.domain = d)).getD (.always d [])

/-- The domains that are tried first. -/
def Domain.opened : List Domain :=
  [root, session, database, ui, attach, form]

theorem Domain.mem_opened_iff {d : Domain} : d ∈ opened ↔ ∃ opener, d.opener? = some opener := by
  cases d <;> simp [opened, opener?]

/-- An opener is looked for in the line, and in the trimmed line where blanks may follow it. -/
theorem Domain.rule_of_opener {d : Domain} {opener : String} (h : d.opener? = some opener) :
    d.rule = if d = .attach then .trimmedSuffix d opener else .suffix d opener := by
  cases d <;> cases h <;> rfl

section Rules

variable {q : Query}

theorem Domain.rule_accepts_iff {d : Domain} {opener : String} (h : d.opener? = some opener) :
    d.rule.source.accepts q = true ↔ Opens q.before d := by
  have hopens : Opens q.before d ↔
      opener.toList <:+ if d = .attach then bare q.before else q.before := by
    simp [Opens, h]
  have hfeed := Domain.feed_not_mem_opener h
  rw [hopens, Domain.rule_of_opener h]
  by_cases hattach : d = .attach
  · simp only [hattach, if_true]
    exact Condition.trimmedLineEndsWith_holds_iff (Domain.tight_opener h) hfeed
  · simp only [hattach, if_false]
    exact Condition.lineEndsWith_holds_iff hfeed

theorem Domain.rule_events_accepts_iff :
    Domain.events.rule.source.accepts q = true ↔ "frappe.ui.form.on".toList <:+: q.before :=
  Condition.documentContains_holds_iff

theorem Domain.rule_globals_accepts_iff :
    Domain.globals.rule.source.accepts q = true ↔
      q.trigger = .invoked ∨ ∃ c ∈ ['f', 'c', 'l'], q.trigger = .typed c := by
  obtain ⟨before, trigger⟩ := q
  cases trigger with
  | invoked =>
    have haccepts : Domain.globals.rule.source.accepts ⟨before, .invoked⟩ = true := rfl
    simp [haccepts]
  | typed c =>
    have haccepts : Domain.globals.rule.source.accepts ⟨before, .typed c⟩ =
        (['f', 'c', 'l'].contains c && true) := rfl
    simp [haccepts]

/-- Of the domains with an opener at most one accepts a query. -/
theorem find?_opened_eq_some_iff {d : Domain} :
    (Domain.opened.find? fun d => d.rule.source.accepts q) = some d ↔ Opens q.before d := by
  constructor
  · intro h
    obtain ⟨opener, hopener⟩ := Domain.mem_opened_iff.1 (List.mem_of_find?_eq_some h)
    have haccepts := List.find?_some h
    exact (Domain.rule_accepts_iff hopener).1 haccepts
  · intro h
    obtain ⟨opener, hopener, -⟩ := id h
    have hsome : (Domain.opened.find? fun d => d.rule.source.accepts q).isSome := by
      rw [List.find?_isSome]
      exact ⟨d, Domain.mem_opened_iff.2 ⟨opener, hopener⟩, (Domain.rule_accepts_iff hopener).2 h⟩
    obtain ⟨found, hfound⟩ := Option.isSome_iff_exists.1 hsome
    obtain ⟨opener', hopener'⟩ := Domain.mem_opened_iff.1 (List.mem_of_find?_eq_some hfound)
    have haccepts := List.find?_some hfound
    rw [hfound, ((Domain.rule_accepts_iff hopener').1 haccepts).unique h]

/-- The other two are tried after them, and the events first. -/
theorem find?_unopened_eq_some_iff {d : Domain} :
    ([.events, .globals].find? fun d : Domain => d.rule.source.accepts q) = some d ↔
      d = .events ∧ "frappe.ui.form.on".toList <:+: q.before ∨
      d = .globals ∧ ¬ "frappe.ui.form.on".toList <:+: q.before ∧
        (q.trigger = .invoked ∨ ∃ c ∈ ['f', 'c', 'l'], q.trigger = .typed c) := by
  rw [← Domain.rule_events_accepts_iff, ← Domain.rule_globals_accepts_iff, List.find?_cons]
  by_cases hevents : Domain.events.rule.source.accepts q = true
  · simp [hevents, @eq_comm _ d]
  · by_cases hglobals : Domain.globals.rule.source.accepts q = true
    · simp [hevents, hglobals, @eq_comm _ d]
    · simp [hevents, hglobals]

end Rules

/-- The built-in rules stand in the order of the domains. -/
theorem Roster.find?_builtin (q : Query) :
    builtin.find? q =
      (Domain.all.find? fun d => d.rule.source.accepts q).map fun d => d.rule.source := by
  have hsources : builtin.sources = Domain.all.map fun d => d.rule.source := rfl
  rw [Roster.find?, hsources, List.find?_map]
  rfl

theorem Offered.of_ne_globals {b : List Char} {trigger : Trigger} {d : Domain}
    (h : Offered b trigger d) (hne : d ≠ .globals) (other : Trigger) : Offered b other d := by
  cases h with
  | opened h => exact .opened h
  | events hopen hmarker => exact .events hopen hmarker
  | globals => exact absurd rfl hne

theorem Symbols.builtin_ne_nil (d : Domain) : Symbols.builtin d ≠ [] := by
  cases d <;> exact List.cons_ne_nil _ _

/-! ## The answer of the built-in assistant -/

namespace Assistant

variable {style : Style} {q : Query}

theorem domain?_builtin :
    (builtin style).domain? q = Domain.all.find? fun d => d.rule.source.accepts q := by
  have hdomain : ∀ d : Domain, d.rule.source.domain = d := fun d => by cases d <;> rfl
  rw [domain?, builtin, Roster.find?_builtin, Option.map_map]
  simp only [Function.comp_def, hdomain]
  exact Option.map_id'

theorem domain?_builtin_eq_some_iff {d : Domain} :
    (builtin style).domain? q = some d ↔ Offered q.before q.trigger d := by
  have hall : Domain.all = Domain.opened ++ [.events, .globals] := rfl
  rw [domain?_builtin, hall, List.find?_append]
  by_cases hopen : ∃ d, Opens q.before d
  · obtain ⟨found, hfound⟩ := hopen
    rw [find?_opened_eq_some_iff.2 hfound, Option.some_or, Option.some_inj]
    constructor
    · rintro rfl
      exact .opened hfound
    · intro h
      cases h with
      | opened h => exact hfound.unique h
      | events hnone => exact absurd hfound (hnone found)
      | globals hnone => exact absurd hfound (hnone found)
  · have hopen : ∀ d, ¬ Opens q.before d := not_exists.1 hopen
    have hnone : (Domain.opened.find? fun d => d.rule.source.accepts q) = none :=
      Option.eq_none_iff_forall_ne_some.2 fun d h => hopen d (find?_opened_eq_some_iff.1 h)
    rw [hnone, Option.none_or, find?_unopened_eq_some_iff]
    constructor
    · rintro (⟨rfl, hmarker⟩ | ⟨rfl, hmarker, htrigger⟩)
      · exact .events hopen hmarker
      · exact .globals hopen hmarker htrigger
    · intro h
      cases h with
      | opened h => exact absurd h (hopen d)
      | events _ hmarker => exact .inl ⟨rfl, hmarker⟩
      | globals _ hmarker htrigger => exact .inr ⟨rfl, hmarker, htrigger⟩

/-- The table of the domain that is offered, if one is, in its order. -/
theorem complete_builtin :
    (builtin style).complete q =
      match (builtin style).domain? q with
      | some d => (Symbols.builtin d).map style.present
      | none => [] := by
  rw [domain?_builtin, complete, symbols, builtin, Roster.find?_builtin]
  cases Domain.all.find? fun d => d.rule.source.accepts q with
  | none => rfl
  | some d => cases d <;> rfl

theorem complete_builtin_eq_nil_iff :
    (builtin style).complete q = [] ↔ (builtin style).domain? q = none := by
  rw [complete_builtin]
  cases (builtin style).domain? q with
  | none => simp
  | some d => simp [Symbols.builtin_ne_nil d]

/-- What the built-in assistant answers depends on the text before the cursor, and on what brought
the query about only as far as the globals go. A domain is offered as `Offered` says, with its
whole table in the order of the table, and nothing is answered exactly if no domain is offered. -/
theorem domain?_ofCursor_builtin_iff (style : Style) (text : List Char) (offset : Nat)
    (trigger : Trigger) :
    let a : Assistant := builtin style
    let q : Query := .ofCursor text offset trigger
    ∃ b rest, text = b ++ rest ∧ utf8Size b ≤ offset ∧
      (∀ c ∈ rest.head?, offset < utf8Size b + c.utf8Size) ∧
      (∀ d, a.domain? q = some d ↔ Offered b trigger d) ∧
      (a.domain? q = none ↔ ∀ d, ¬ Offered b trigger d) ∧
      (∀ other, (a.domain? (.ofCursor text offset other)).filter (· ≠ .globals) =
        (a.domain? q).filter (· ≠ .globals)) ∧
      a.complete q =
        (match a.domain? q with
        | some d => (Symbols.builtin d).map style.present
        | none => []) ∧
      (a.complete q = [] ↔ a.domain? q = none) := by
  intro a q
  obtain ⟨rest, htext, hfits, hfull⟩ := exists_append_before offset text
  have hdomain : ∀ d, a.domain? q = some d ↔ Offered (before offset text) trigger d :=
    fun d => domain?_builtin_eq_some_iff
  refine ⟨before offset text, rest, htext, hfits, hfull, hdomain, ?_, ?_, complete_builtin,
    complete_builtin_eq_nil_iff⟩
  · rw [Option.eq_none_iff_forall_ne_some]
    exact forall_congr' fun d => not_congr (hdomain d)
  · intro other
    ext d
    simp only [Option.filter_eq_some_iff, decide_eq_true_eq]
    refine and_congr_left fun hne => ?_
    rw [hdomain]
    exact domain?_builtin_eq_some_iff.trans
      ⟨fun h => h.of_ne_globals hne trigger, fun h => h.of_ne_globals hne other⟩

/-- Blanks on the last line do not keep the attached handlers from being offered, not even in a
block of event handlers. -/
example : (builtin {}).domain? (.ofCursor
    (r"frappe.ui.form.on('ToDo', {" ++ "\n\tfrappe.ui.form. \u00a0").toList 99 .invoked) =
      some .attach := by
  decide

end Assistant

end ScriptAssist
