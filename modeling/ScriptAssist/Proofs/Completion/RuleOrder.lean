import Mathlib.Data.List.Perm.Basic
import ScriptAssist.Proofs.Completion.Domains
import ScriptAssist.Proofs.Trigger.Changes

/-!
# The order of the rules

No text meets the conditions of two rules that look for an opener (`countP_suffixRules_le_one`). So
it does not matter in which order these rules are tried, as long as the loose ones come behind them:
every order answers as the built-in one does (`Roster.find?_eq_builtin`).
-/

namespace ScriptAssist

/-! ## The rules -/

/-- The rules that look for an opener. -/
def suffixRules : List Rule :=
  [.suffix .root "frappe.", .suffix .session "frappe.session.", .suffix .database "frappe.db.",
    .suffix .ui "frappe.ui.", .trimmedSuffix .attach "frappe.ui.form.", .suffix .form "frm."]

/-- The rules whose conditions may be met together with others. -/
def looseRules : List Rule :=
  [.contains .events Roster.eventsMarker Roster.eventsTriggers,
    .always .globals Roster.globalsTriggers]

theorem suffixRules_eq : suffixRules = Domain.opened.map Domain.rule := rfl

/-! ## Lists of which one element at most is met -/

section Lists

variable {α : Type} {p : α → Bool} {l l' : List α}

theorem countP_le_one (hdistinct : l.Nodup)
    (hsame : ∀ a ∈ l, ∀ b ∈ l, p a = true → p b = true → a = b) : l.countP p ≤ 1 := by
  have hfilter : (l.filter p).Nodup := hdistinct.filter p
  have hmem : ∀ a ∈ l.filter p, a ∈ l ∧ p a = true := fun a => List.mem_filter.1
  rw [List.countP_eq_length_filter]
  match hfound : l.filter p with
  | [] => exact Nat.zero_le 1
  | [a] => exact Nat.le_refl 1
  | a :: b :: rest =>
    rw [hfound] at hfilter hmem
    obtain ⟨ha, hpa⟩ := hmem a (by simp)
    obtain ⟨hb, hpb⟩ := hmem b (by simp)
    have hne : a ≠ b := by
      rintro rfl
      simp at hfilter
    exact absurd (hsame a ha b hb hpa hpb) hne

/-- Where one element at most is met, any order finds it. -/
theorem find?_eq_of_perm (h : l.Perm l') (hone : l.countP p ≤ 1) : l.find? p = l'.find? p := by
  have hfilter : (l.filter p).Perm (l'.filter p) := h.filter p
  rw [List.countP_eq_length_filter] at hone
  rw [← List.head?_filter, ← List.head?_filter]
  match hfound : l.filter p with
  | [] =>
    rw [hfound] at hfilter
    rw [hfilter.nil_eq]
  | [a] =>
    rw [hfound] at hfilter
    rw [List.singleton_perm.1 hfilter]
  | a :: b :: rest =>
    rw [hfound] at hone
    simp at hone

end Lists

/-! ## Openers -/

theorem countP_accepts_suffixRules_le_one (q : Query) :
    (suffixRules.countP fun rule => rule.source.accepts q) ≤ 1 := by
  rw [suffixRules_eq, List.countP_map]
  refine countP_le_one (by decide) fun d hd d' hd' haccepts haccepts' => ?_
  obtain ⟨opener, hopener⟩ := Domain.mem_opened_iff.1 hd
  obtain ⟨opener', hopener'⟩ := Domain.mem_opened_iff.1 hd'
  exact ((Domain.rule_accepts_iff hopener).1 haccepts).unique
    ((Domain.rule_accepts_iff hopener').1 haccepts')

/-- These rules are for everything that brings a query about. -/
theorem accepts_of_mem_suffixRules {rule : Rule} (h : rule ∈ suffixRules) (q : Query) :
    rule.source.accepts q = rule.condition.holds q := by
  have honly : ∀ rule ∈ suffixRules, rule.only? = none := by decide
  have hadmits : rule.admits q.trigger = true := by
    simp only [Rule.admits, honly rule h]
  show (rule.admits q.trigger && rule.condition.holds q) = _
  rw [hadmits, Bool.true_and]

/-- No text meets the conditions of two of them. -/
theorem countP_suffixRules_le_one (q : Query) :
    (suffixRules.countP fun rule => rule.condition.holds q) ≤ 1 := by
  have hsame : (suffixRules.countP fun rule => rule.condition.holds q) =
      suffixRules.countP fun rule => rule.source.accepts q :=
    List.countP_congr fun rule hrule => by rw [accepts_of_mem_suffixRules hrule]
  rw [hsame]
  exact countP_accepts_suffixRules_le_one q

/-! ## Rosters -/

namespace Roster

/-- Rules for different domains are held in the order in which they are registered. -/
theorem holds_registerRules {rules : List Rule} (h : (rules.map (·.domain)).Nodup) :
    (empty.registerRules rules).Holds rules := by
  induction rules using List.reverseRecOn with
  | nil => rfl
  | append_singleton rules rule ih =>
    rw [List.map_append, List.map_singleton, List.nodup_append] at h
    obtain ⟨hrules, -, hnew⟩ := h
    have hheld : (empty.registerRules rules).sources = rules.map Rule.source := ih hrules
    have hdomain : rule.source.domain ∉ (rules.map Rule.source).map (·.domain) := by
      rw [List.map_map]
      intro hmem
      exact hnew _ hmem _ (List.mem_singleton.2 rfl) rfl
    rw [registerRules, List.foldl_concat, ← registerRules, Holds, register, hheld,
      place_of_not_mem hdomain, List.map_append, List.map_singleton]

theorem holds_builtin : builtin.Holds (suffixRules ++ looseRules) := rfl

/-- Whatever the order of the rules that look for an opener, the source that answers is the same. -/
theorem find?_eq_builtin {r : Roster} {rules : List Rule} (hperm : rules.Perm suffixRules)
    (h : r.Holds (rules ++ looseRules)) (q : Query) : r.find? q = builtin.find? q := by
  have hfind : (rules.find? fun rule => rule.source.accepts q) =
      suffixRules.find? fun rule => rule.source.accepts q :=
    (find?_eq_of_perm hperm.symm (countP_accepts_suffixRules_le_one q)).symm
  rw [h.find?, holds_builtin.find?, List.find?_append, List.find?_append, hfind]

/-- The rules that look for an opener may be registered in any order. -/
theorem holds_of_perm {rules : List Rule} (hperm : rules.Perm suffixRules) :
    (empty.registerRules (rules ++ looseRules)).Holds (rules ++ looseRules) := by
  refine holds_registerRules ?_
  have hdomains : ((suffixRules ++ looseRules).map (·.domain)).Nodup := by decide
  exact ((hperm.append_right looseRules).map _).nodup_iff.2 hdomains

end Roster

/-- At every place in every text one condition of the rules that look for an opener is met at most.
So whatever the order in which these rules are registered, with the loose ones behind them, the
roster holds them in this order, and any such roster answers from the source of the built-in one and
offers the same domain. -/
theorem Assistant.domain?_of_perm :
    (∀ text offset trigger,
      (suffixRules.countP fun rule =>
        rule.condition.holds (.ofCursor text offset trigger)) ≤ 1) ∧
    ∀ {rules : List Rule}, rules.Perm suffixRules →
      (Roster.empty.registerRules (rules ++ looseRules)).Holds (rules ++ looseRules) ∧
      ∀ a : Assistant, a.roster.Holds (rules ++ looseRules) → ∀ text offset trigger,
        let q : Query := .ofCursor text offset trigger
        a.roster.find? q = Roster.builtin.find? q ∧
          a.domain? q = { a with roster := .builtin }.domain? q := by
  refine ⟨fun text offset trigger => countP_suffixRules_le_one _, fun hperm => ?_⟩
  refine ⟨Roster.holds_of_perm hperm, fun a hholds text offset trigger => ?_⟩
  have hfind := Roster.find?_eq_builtin hperm hholds (.ofCursor text offset trigger)
  exact ⟨hfind, congrArg (Option.map Source.domain) hfind⟩

/-- The rules are registered last one first, and the openers of three domains stand in the text, one
behind the other. -/
theorem Assistant.domain?_of_perm_reverse :
    let roster := Roster.empty.registerRules (suffixRules.reverse ++ looseRules)
    let a : Assistant := ⟨.builtin, roster, {}⟩
    let q : Query := .ofCursor "frm.frappe.ui.form. ".toList 99 .invoked
    suffixRules.reverse.Perm suffixRules ∧ roster.Holds (suffixRules.reverse ++ looseRules) ∧
      a.domain? q = { a with roster := .builtin }.domain? q ∧ a.domain? q = some .attach := by
  intro roster a q
  have hperm : suffixRules.reverse.Perm suffixRules := List.reverse_perm suffixRules
  obtain ⟨hholds, hsame⟩ := domain?_of_perm.2 hperm
  exact ⟨hperm, hholds, (hsame a hholds _ _ _).2, by decide⟩

end ScriptAssist
