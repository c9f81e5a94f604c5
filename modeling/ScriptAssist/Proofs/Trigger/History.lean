import Mathlib.Data.List.Induction
import Mathlib.Data.List.Nodup
import Mathlib.Order.WellFounded
import ScriptAssist.Proofs.Trigger.Changes

/-!
# The history of a roster

Which domains a roster lists, in which order, and which source each of them has, can be read off the
changes that were made to it (`Roster.Follows`). Every change keeps this up
(`Roster.Follows.apply`), and so it holds after any calls (`Roster.follows_ofCalls`).
-/

namespace ScriptAssist.Roster

/-! ## One change -/

theorem map_domain_place (source : Source) (sources : List Source) :
    (place source sources).map (·.domain) =
      if source.domain ∈ sources.map (·.domain) then sources.map (·.domain)
      else sources.map (·.domain) ++ [source.domain] := by
  induction sources with
  | nil => rfl
  | cons s rest ih =>
    rw [place]
    by_cases hs : s.domain = source.domain
    · simp [hs]
    · rw [if_neg hs, List.map_cons, ih, List.map_cons]
      by_cases hrest : source.domain ∈ rest.map (·.domain)
      · rw [if_pos hrest, if_pos (.tail _ hrest)]
      · rw [if_neg hrest, if_neg (List.not_mem_cons_of_ne_of_not_mem (Ne.symm hs) hrest),
          List.cons_append]

/-- Registering keeps the order of the domains. A new one comes last. -/
theorem domains_register (r : Roster) (source : Source) :
    (r.register source).domains =
      if source.domain ∈ r.domains then r.domains else r.domains ++ [source.domain] :=
  map_domain_place source r.sources

theorem find?_place (source : Source) (sources : List Source) (d : Domain) :
    (place source sources).find? (·.domain = d) =
      if source.domain = d then some source else sources.find? (·.domain = d) := by
  induction sources with
  | nil =>
    rw [place]
    by_cases hd : source.domain = d
    · simp [hd]
    · simp [hd]
  | cons s rest ih =>
    rw [place]
    by_cases hs : s.domain = source.domain
    · by_cases hd : source.domain = d
      · simp [hs, hd]
      · simp [hs, hd]
    · rw [if_neg hs, List.find?_cons, ih, List.find?_cons]
      by_cases hd : source.domain = d
      · simp [hd ▸ hs, hd]
      · simp [hd]

theorem source?_register (r : Roster) (source : Source) (d : Domain) :
    (r.register source).source? d = if source.domain = d then some source else r.source? d :=
  find?_place source r.sources d

theorem eraseP_domain {sources : List Source} (h : (sources.map (·.domain)).Nodup) (d : Domain) :
    sources.eraseP (·.domain = d) = sources.filter (·.domain ≠ d) := by
  induction sources with
  | nil => rfl
  | cons s rest ih =>
    obtain ⟨hs, hrest⟩ := List.nodup_cons.1 h
    by_cases hd : s.domain = d
    · have hkeep : ∀ t ∈ rest, (decide (t.domain ≠ d)) = true := by
        intro t ht
        simp only [decide_eq_true_eq]
        rintro rfl
        exact hs (List.mem_map.2 ⟨t, ht, hd.symm⟩)
      rw [List.eraseP_cons_of_pos (by simpa using hd), List.filter_cons_of_neg (by simpa using hd),
        List.filter_eq_self.2 hkeep]
    · rw [List.eraseP_cons_of_neg (by simpa using hd), List.filter_cons_of_pos (by simpa using hd),
        ih hrest]

/-- The domain has a source that accepts the query. -/
def Accepts (r : Roster) (d : Domain) (q : Query) : Prop :=
  ∃ s, r.source? d = some s ∧ s.accepts q = true

section Distinct

variable {r : Roster} (hdistinct : r.domains.Nodup)
include hdistinct

/-- Taking a source out leaves the others in their order. -/
theorem sources_unregister (d : Domain) :
    (r.unregister d).sources = r.sources.filter (·.domain ≠ d) :=
  eraseP_domain hdistinct d

theorem domains_unregister (d : Domain) :
    (r.unregister d).domains = r.domains.filter (· ≠ d) := by
  rw [domains, sources_unregister hdistinct, domains, List.filter_map]
  rfl

theorem source?_unregister (d e : Domain) :
    (r.unregister d).source? e = if d = e then none else r.source? e := by
  rw [source?, sources_unregister hdistinct, List.find?_filter]
  split
  · next heq =>
    simp [heq]
  · next hne =>
    refine congrArg (r.sources.find? ·) (funext fun s => ?_)
    by_cases hs : s.domain = e
    · simp [hs, Ne.symm hne]
    · simp [hs]

theorem source?_domain {s : Source} (hs : s ∈ r.sources) : r.source? s.domain = some s := by
  cases hfound : r.source? s.domain with
  | none => simpa using List.find?_eq_none.1 hfound s hs
  | some t =>
    have ht : t.domain = s.domain := by simpa using List.find?_some hfound
    rw [List.inj_on_of_nodup_map hdistinct (List.mem_of_find?_eq_some hfound) hs ht]

theorem accepts_domain_iff {s : Source} {q : Query} (hs : s ∈ r.sources) :
    r.Accepts s.domain q ↔ s.accepts q = true := by
  simp [Accepts, source?_domain hdistinct hs]

/-- The source that answers a query is that of the first domain whose source accepts it. -/
theorem find?_eq_some_iff {q : Query} {s : Source} :
    r.find? q = some s ↔
      r.source? s.domain = some s ∧ s.accepts q = true ∧
        ∃ before after, r.domains = before ++ s.domain :: after ∧
          ∀ d ∈ before, ¬ r.Accepts d q := by
  rw [find?, List.find?_eq_some_iff_append]
  constructor
  · rintro ⟨haccepts, before, after, hsources, hbefore⟩
    have hs : s ∈ r.sources := by simp [hsources]
    refine ⟨source?_domain hdistinct hs, haccepts, before.map (·.domain), after.map (·.domain),
      ?_, ?_⟩
    · rw [domains, hsources, List.map_append, List.map_cons]
    · intro d hd
      obtain ⟨t, ht, rfl⟩ := List.mem_map.1 hd
      have hmem : t ∈ r.sources := hsources ▸ List.mem_append_left _ ht
      rw [accepts_domain_iff hdistinct hmem]
      simpa using hbefore t ht
  · rintro ⟨hheld, haccepts, before, after, hdomains, hbefore⟩
    obtain ⟨front, back, hsources, rfl, hback⟩ := List.map_eq_append_iff.1 hdomains
    obtain ⟨t, back, rfl, ht, rfl⟩ := List.map_eq_cons_iff.1 hback
    have hmem : t ∈ r.sources := by simp [hsources]
    obtain rfl : t = s := by simpa [← ht, source?_domain hdistinct hmem] using hheld
    refine ⟨haccepts, front, back, hsources, fun u hu => ?_⟩
    have hu' : u ∈ r.sources := hsources ▸ List.mem_append_left _ hu
    have hrefuses := hbefore u.domain (List.mem_map_of_mem hu)
    simpa [accepts_domain_iff hdistinct hu'] using hrefuses

theorem find?_eq_none_iff {q : Query} :
    r.find? q = none ↔ ∀ d ∈ r.domains, ¬ r.Accepts d q := by
  rw [find?, List.find?_eq_none, domains, List.forall_mem_map]
  exact forall₂_congr fun s hs => not_congr (accepts_domain_iff hdistinct hs).symm

end Distinct

theorem mem_domains_iff_isSome {r : Roster} {d : Domain} :
    d ∈ r.domains ↔ (r.source? d).isSome = true := by
  simp [domains, source?]

/-- What is handed over is the domain's source, and what is left is the roster without it. -/
theorem takeOut_eq (r : Roster) (d : Domain) : r.takeOut d = (r.source? d, r.unregister d) := by
  rw [takeOut, source?, unregister, List.eraseP_eq_eraseIdx,
    List.find?_eq_bind_findIdx?_getElem?]
  cases r.sources.findIdx? (·.domain = d) with
  | none => rfl
  | some i => rfl

end ScriptAssist.Roster

namespace ScriptAssist

open Roster

/-! ## What a history says -/

/-- The changes made so far, first change first. -/
abbrev History := List (Change Source)

namespace History

/-- Change number `i` registers a source for the domain. -/
def Registers (history : History) (d : Domain) (i : Nat) : Prop :=
  ∃ s, history[i]? = some (.register s) ∧ s.domain = d

/-- Change number `i` takes the domain's source out. -/
def Removes (history : History) (d : Domain) (i : Nat) : Prop :=
  history[i]? = some (.unregister d)

/-- Change number `i` registers a source for the domain, and no later one takes the domain's source
out. -/
def Stands (history : History) (d : Domain) (i : Nat) : Prop :=
  history.Registers d i ∧ ∀ j, history.Removes d j → j < i

/-- Change number `i` is the first one since the domain's last removal to register a source for
it. -/
def Enters (history : History) (d : Domain) (i : Nat) : Prop :=
  history.Stands d i ∧ ∀ j, history.Stands d j → i ≤ j

/-- The last source that was registered for the domain. -/
def LastRegistered (history : History) (d : Domain) (s : Source) : Prop :=
  s.domain = d ∧ ∃ i, history[i]? = some (.register s) ∧ ∀ j, history.Registers d j → j ≤ i

variable {history : History} {d : Domain} {i : Nat}

theorem getElem?_concat_eq_some_iff {c c' : Change Source} :
    (history ++ [c])[i]? = some c' ↔ history[i]? = some c' ∨ i = history.length ∧ c = c' := by
  by_cases hi : i < history.length
  · simp [List.getElem?_append_left hi, Nat.ne_of_lt hi]
  · have hnone : history[i]? = none := List.getElem?_eq_none (Nat.le_of_not_lt hi)
    by_cases heq : i = history.length
    · simp [heq]
    · have hmore : (history ++ [c])[i]? = none := by
        refine List.getElem?_eq_none ?_
        rw [List.length_append, List.length_singleton]
        omega
      simp [hmore, hnone, heq]

theorem registers_concat_iff {c : Change Source} :
    History.Registers (history ++ [c]) d i ↔
      history.Registers d i ∨ i = history.length ∧ ∃ s, c = .register s ∧ s.domain = d := by
  simp only [Registers, getElem?_concat_eq_some_iff, or_and_right, exists_or]
  exact or_congr_right (by simp [and_assoc])

theorem removes_concat_iff {c : Change Source} :
    History.Removes (history ++ [c]) d i ↔
      history.Removes d i ∨ i = history.length ∧ c = .unregister d :=
  getElem?_concat_eq_some_iff

theorem Registers.lt (h : history.Registers d i) : i < history.length := by
  obtain ⟨s, hs, -⟩ := h
  exact (List.getElem?_eq_some_iff.1 hs).1

theorem Removes.lt (h : history.Removes d i) : i < history.length :=
  (List.getElem?_eq_some_iff.1 h).1

theorem Stands.exists_enters (h : history.Stands d i) : ∃ j, history.Enters d j := by
  obtain ⟨j, hj, hleast⟩ := wellFounded_lt.has_min {j | history.Stands d j} ⟨i, h⟩
  exact ⟨j, hj, fun k hk => Nat.le_of_not_lt (hleast k hk)⟩

/-! ### One more registration -/

theorem stands_register_iff {s : Source} :
    History.Stands (history ++ [.register s]) d i ↔
      history.Stands d i ∨ i = history.length ∧ s.domain = d := by
  have hremoves : ∀ j, History.Removes (history ++ [.register s]) d j ↔ history.Removes d j := by
    simp [removes_concat_iff]
  simp only [Stands, hremoves, registers_concat_iff, or_and_right]
  refine or_congr_right ⟨?_, ?_⟩
  · rintro ⟨⟨rfl, _, ⟨rfl⟩, hd⟩, -⟩
    exact ⟨rfl, hd⟩
  · rintro ⟨rfl, hd⟩
    exact ⟨⟨rfl, s, rfl, hd⟩, fun j hj => hj.lt⟩

theorem Enters.register (h : history.Enters d i) (s : Source) :
    History.Enters (history ++ [.register s]) d i := by
  refine ⟨stands_register_iff.2 (.inl h.1), fun j hj => ?_⟩
  rcases stands_register_iff.1 hj with hj | ⟨rfl, -⟩
  · exact h.2 j hj
  · exact h.1.1.lt.le

theorem enters_register_of_not_stands {s : Source} (h : ∀ j, ¬ history.Stands s.domain j) :
    History.Enters (history ++ [.register s]) s.domain history.length := by
  refine ⟨stands_register_iff.2 (.inr ⟨rfl, rfl⟩), fun j hj => ?_⟩
  rcases stands_register_iff.1 hj with hj | ⟨rfl, -⟩
  · exact absurd hj (h j)
  · exact le_rfl

theorem lastRegistered_register_iff {s t : Source} :
    History.LastRegistered (history ++ [.register s]) d t ↔
      if s.domain = d then t = s else history.LastRegistered d t := by
  simp only [LastRegistered, getElem?_concat_eq_some_iff, registers_concat_iff]
  split
  · next hd =>
    constructor
    · rintro ⟨-, i, hi | ⟨rfl, heq⟩, hlast⟩
      · have hlater := hlast history.length (.inr ⟨rfl, s, rfl, hd⟩)
        exact absurd (List.getElem?_eq_some_iff.1 hi).1 (Nat.not_lt.2 hlater)
      · cases heq
        rfl
    · rintro rfl
      refine ⟨hd, history.length, .inr ⟨rfl, rfl⟩, ?_⟩
      rintro j (hj | ⟨rfl, -⟩)
      · exact hj.lt.le
      · exact le_rfl
  · next hd =>
    have hother : ∀ t', Change.register s = .register t' → t'.domain ≠ d := by
      rintro t' ⟨rfl⟩
      exact hd
    refine and_congr_right fun ht => exists_congr fun i => ?_
    refine and_congr ⟨?_, .inl⟩ (forall_congr' fun j => imp_congr_left ⟨?_, .inl⟩)
    · rintro (hi | ⟨-, heq⟩)
      · exact hi
      · exact absurd ht (hother t heq)
    · rintro (hj | ⟨-, t', heq, ht'⟩)
      · exact hj
      · exact absurd ht' (hother t' heq)

/-! ### One more removal -/

theorem stands_unregister_iff {e : Domain} :
    History.Stands (history ++ [.unregister e]) d i ↔ e ≠ d ∧ history.Stands d i := by
  have hregisters : ∀ j, History.Registers (history ++ [.unregister e]) d j ↔
      history.Registers d j := by
    simp [registers_concat_iff]
  simp only [Stands, hregisters, removes_concat_iff]
  constructor
  · rintro ⟨hi, hlater⟩
    refine ⟨?_, hi, fun j hj => hlater j (.inl hj)⟩
    rintro rfl
    exact absurd (hlater history.length (.inr ⟨rfl, rfl⟩)) (Nat.not_lt.2 hi.lt.le)
  · rintro ⟨hne, hi, hlater⟩
    refine ⟨hi, ?_⟩
    rintro j (hj | ⟨-, heq⟩)
    · exact hlater j hj
    · cases heq
      exact absurd rfl hne

theorem Enters.unregister {e : Domain} (h : history.Enters d i) (hne : e ≠ d) :
    History.Enters (history ++ [.unregister e]) d i :=
  ⟨stands_unregister_iff.2 ⟨hne, h.1⟩, fun j hj => h.2 j (stands_unregister_iff.1 hj).2⟩

theorem lastRegistered_unregister_iff {e : Domain} {t : Source} :
    History.LastRegistered (history ++ [.unregister e]) d t ↔ history.LastRegistered d t := by
  simp [LastRegistered, getElem?_concat_eq_some_iff, registers_concat_iff]

end History

namespace Roster

/-! ## Following a history -/

/-- The roster lists the domains whose source was not taken out again, in the order in which they
came in, and holds the last source that was registered for each. -/
structure Follows (r : Roster) (history : History) : Prop where
  distinct : r.domains.Nodup
  mem_domains_iff : ∀ d, d ∈ r.domains ↔ ∃ i, history.Stands d i
  ordered : r.domains.Pairwise fun d e =>
    ∃ i j, history.Enters d i ∧ history.Enters e j ∧ i < j
  source?_eq_some_iff : ∀ d s,
    r.source? d = some s ↔ d ∈ r.domains ∧ history.LastRegistered d s

namespace Follows

variable {r : Roster} {history : History}

theorem empty : Roster.empty.Follows [] where
  distinct := List.nodup_nil
  mem_domains_iff := by simp [domains, Roster.empty, History.Stands, History.Registers]
  ordered := List.Pairwise.nil
  source?_eq_some_iff := by simp [source?, domains, Roster.empty]

theorem register (h : r.Follows history) (s : Source) :
    (r.register s).Follows (history ++ [.register s]) := by
  have hmem : ∀ d, d ∈ (r.register s).domains ↔ d ∈ r.domains ∨ s.domain = d := by
    intro d
    rw [domains_register]
    split
    · next hold => exact (or_iff_left_of_imp fun heq => heq ▸ hold).symm
    · rw [List.mem_append, List.mem_singleton, eq_comm]
  constructor
  · rw [domains_register]
    split
    · exact h.distinct
    · next hnew =>
      rw [← List.concat_eq_append]
      exact (List.nodup_concat _ _).2 ⟨hnew, h.distinct⟩
  · intro d
    simp only [hmem, h.mem_domains_iff, History.stands_register_iff, exists_or, exists_eq_left]
  · have hkept : r.domains.Pairwise fun d e => ∃ i j,
        History.Enters (history ++ [.register s]) d i ∧
          History.Enters (history ++ [.register s]) e j ∧ i < j :=
      h.ordered.imp fun ⟨i, j, hi, hj, hlt⟩ => ⟨i, j, hi.register s, hj.register s, hlt⟩
    rw [domains_register]
    split
    · exact hkept
    · next hnew =>
      -- none of its registrations stands any more, so this one is the first
      have hlast : History.Enters (history ++ [.register s]) s.domain history.length :=
        History.enters_register_of_not_stands fun j hj =>
          hnew ((h.mem_domains_iff _).2 ⟨j, hj⟩)
      refine List.pairwise_append.2 ⟨hkept, List.pairwise_singleton _ _, ?_⟩
      intro d hd e he
      obtain rfl := List.mem_singleton.1 he
      obtain ⟨i, hi⟩ := (h.mem_domains_iff d).1 hd
      obtain ⟨j, hj⟩ := hi.exists_enters
      exact ⟨j, _, hj.register s, hlast, hj.1.1.lt⟩
  · intro d t
    rw [source?_register, hmem, History.lastRegistered_register_iff]
    split
    · next hd => simp [hd, eq_comm]
    · next hd => simp [hd, h.source?_eq_some_iff]

theorem unregister (h : r.Follows history) (e : Domain) :
    (r.unregister e).Follows (history ++ [.unregister e]) := by
  have hmem : ∀ d, d ∈ (r.unregister e).domains ↔ d ∈ r.domains ∧ e ≠ d := by
    intro d
    rw [domains_unregister h.distinct, List.mem_filter, decide_eq_true_eq, ne_comm]
  constructor
  · rw [domains_unregister h.distinct]
    exact h.distinct.filter _
  · intro d
    simp only [hmem, h.mem_domains_iff, History.stands_unregister_iff, exists_and_left,
      and_comm]
  · rw [domains_unregister h.distinct]
    refine (h.ordered.filter _).imp_of_mem ?_
    rintro d d' hd hd' ⟨i, j, hi, hj, hlt⟩
    have hne : d ≠ e := of_decide_eq_true (List.mem_filter.1 hd).2
    have hne' : d' ≠ e := of_decide_eq_true (List.mem_filter.1 hd').2
    exact ⟨i, j, hi.unregister hne.symm, hj.unregister hne'.symm, hlt⟩
  · intro d t
    rw [source?_unregister h.distinct, hmem, History.lastRegistered_unregister_iff]
    split
    · next hd => simp [hd]
    · next hd => simp [hd, h.source?_eq_some_iff]

theorem apply (h : r.Follows history) (c : Change Source) :
    (r.apply c).Follows (history ++ [c]) := by
  cases c with
  | register s => exact h.register s
  | unregister d => exact h.unregister d

end Follows

theorem follows_ofChanges (history : History) : (ofChanges history).Follows history := by
  induction history using List.reverseRecOn with
  | nil => exact .empty
  | append_singleton history c ih =>
    rw [ofChanges, List.foldl_concat]
    exact ih.apply c

/-! ## Calls -/

/-- A call that changes a roster. -/
inductive Call where
  | register (source : Source)
  | unregister (domain : Domain)
  | registerBuiltin

/-- Makes a call. -/
def call (r : Roster) : Call → Roster
  | .register source => r.register source
  | .unregister domain => (r.takeOut domain).2
  | .registerBuiltin => r.registerRules builtinRules

/-- The roster that calls make of the empty one. -/
def ofCalls (calls : List Call) : Roster :=
  calls.foldl call empty

/-- The changes that a call makes, one after the other. -/
def Call.changes : Call → List (Change Source)
  | .register source => [.register source]
  | .unregister domain => [.unregister domain]
  | .registerBuiltin => builtinRules.map fun rule => .register rule.source

theorem call_eq (r : Roster) (c : Call) : r.call c = c.changes.foldl apply r := by
  cases c with
  | register source => rfl
  | unregister domain => exact congrArg Prod.snd (r.takeOut_eq domain)
  | registerBuiltin => exact (List.foldl_map).symm

theorem ofCalls_eq (calls : List Call) :
    ofCalls calls = ofChanges (calls.flatMap Call.changes) := by
  rw [ofCalls, ofChanges, List.foldl_flatMap]
  exact congrArg (fun f => calls.foldl f empty) (funext fun r => funext (call_eq r))

/-- After any calls, the domains stand in the order in which they came in, each with the last source
that was registered for it. That source is what is handed over when it is taken out, and nothing
else moves. A query is answered by the first domain whose source accepts it. -/
theorem follows_ofCalls (calls : List Call) :
    (ofCalls calls).Follows (calls.flatMap Call.changes) ∧
      (∀ d, (d ∈ (ofCalls calls).domains ↔ ((ofCalls calls).source? d).isSome = true) ∧
        ((ofCalls calls).takeOut d).1 = (ofCalls calls).source? d ∧
        ((ofCalls calls).takeOut d).2.sources = (ofCalls calls).sources.filter (·.domain ≠ d)) ∧
      ∀ q, (∀ s, (ofCalls calls).find? q = some s ↔
          (ofCalls calls).source? s.domain = some s ∧ s.accepts q = true ∧
            ∃ before after, (ofCalls calls).domains = before ++ s.domain :: after ∧
              ∀ d ∈ before, ¬ (ofCalls calls).Accepts d q) ∧
        ((ofCalls calls).find? q = none ↔
          ∀ d ∈ (ofCalls calls).domains, ¬ (ofCalls calls).Accepts d q) := by
  have hfollows : (ofCalls calls).Follows (calls.flatMap Call.changes) := by
    rw [ofCalls_eq]
    exact follows_ofChanges _
  have hdistinct := hfollows.distinct
  refine ⟨hfollows, fun d => ?_, fun q => ⟨fun s => find?_eq_some_iff hdistinct,
    find?_eq_none_iff hdistinct⟩⟩
  rw [takeOut_eq]
  exact ⟨mem_domains_iff_isSome, rfl, sources_unregister hdistinct d⟩

/-- A domain that is taken out and registered again comes last, and one that is registered twice
stays where it is. -/
example :
    (ofCalls [.registerBuiltin, .unregister .root, .register (Rule.suffix .root "frappe.").source,
        .register (Rule.suffix .session "session.").source]).domains =
      [.session, .database, .ui, .attach, .form, .events, .globals, .root] := by
  decide

end Roster

end ScriptAssist
