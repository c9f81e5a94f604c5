import ScriptAssist.Trigger.Roster

/-!
# Changes to rosters

A roster is made by registering sources and taking them out again, in any order. If all the sources
that are registered come from rules, so do those that the roster holds in the end
(`Roster.exists_holds_ofChanges`).
-/

namespace ScriptAssist.Roster

/-- A change to a roster. What is registered may be anything that gives a source. -/
inductive Change (α : Type) where
  | register (a : α)
  | unregister (domain : Domain)

/-- The same change, with something else registered. -/
def Change.map {α β : Type} (f : α → β) : Change α → Change β
  | register a => .register (f a)
  | unregister domain => .unregister domain

/-- Makes a change. -/
def apply (r : Roster) : Change Source → Roster
  | .register source => r.register source
  | .unregister domain => r.unregister domain

/-- The roster that changes make of the empty one. -/
def ofChanges (changes : List (Change Source)) : Roster :=
  changes.foldl apply empty

/-- A source for a new domain comes last. -/
theorem place_of_not_mem {source : Source} {sources : List Source}
    (h : source.domain ∉ sources.map (·.domain)) : place source sources = sources ++ [source] := by
  induction sources with
  | nil => rfl
  | cons s rest ih =>
    rw [List.map_cons, List.mem_cons, not_or] at h
    rw [place, if_neg (Ne.symm h.1), ih h.2, List.cons_append]

/-! ## Rosters of rules -/

/-- The roster holds the sources of the rules, in their order. -/
def Holds (r : Roster) (rules : List Rule) : Prop :=
  r.sources = rules.map Rule.source

theorem exists_place (rule : Rule) (rules : List Rule) :
    ∃ rules' : List Rule,
      place rule.source (rules.map Rule.source) = rules'.map Rule.source := by
  induction rules with
  | nil => exact ⟨[rule], rfl⟩
  | cons first rest ih =>
    rw [List.map_cons, place]
    split
    · exact ⟨rule :: rest, rfl⟩
    · obtain ⟨rules', hrest⟩ := ih
      exact ⟨first :: rules', by rw [hrest, List.map_cons]⟩

theorem Holds.apply {r : Roster} {rules : List Rule} (h : r.Holds rules) (change : Change Rule) :
    ∃ rules', (r.apply (change.map Rule.source)).Holds rules' := by
  cases change with
  | register rule =>
    obtain ⟨rules', hplace⟩ := exists_place rule rules
    exact ⟨rules', (congrArg (place rule.source) h).trans hplace⟩
  | unregister domain =>
    refine ⟨rules.eraseP fun rule => rule.source.domain = domain, ?_⟩
    show r.sources.eraseP _ = _
    rw [h, List.eraseP_map]
    rfl

/-- A roster made with rules holds rules. -/
theorem exists_holds_ofChanges (changes : List (Change Rule)) :
    ∃ rules, (ofChanges (changes.map (Change.map Rule.source))).Holds rules := by
  have hfold : ∀ (r : Roster) (rules : List Rule), r.Holds rules →
      ∃ rules', ((changes.map (Change.map Rule.source)).foldl Roster.apply r).Holds rules' := by
    induction changes with
    | nil => exact fun r rules h => ⟨rules, h⟩
    | cons change changes ih =>
      intro r rules h
      obtain ⟨rules', h'⟩ := h.apply change
      exact ih _ rules' h'
  exact hfold empty [] rfl

theorem Holds.find? {r : Roster} {rules : List Rule} (h : r.Holds rules) (q : Query) :
    r.find? q = (rules.find? fun rule => rule.source.accepts q).map Rule.source := by
  rw [Roster.find?, h, List.find?_map]
  rfl

end ScriptAssist.Roster
