/-!
# Documents

The texts of the open documents, by address. A store is known by what `get?` finds in it.
-/

namespace ScriptAssist

/-- Open documents. -/
structure Documents where
  entries : List (String × String) := []
  deriving DecidableEq, Repr

namespace Documents

/-- The text of a document. -/
def get? (d : Documents) (uri : String) : Option String :=
  d.entries.lookup uri

/-- Takes a document out. -/
def remove (d : Documents) (uri : String) : Documents :=
  ⟨d.entries.filter (·.1 != uri)⟩

/-- Puts a document in, or replaces its text. -/
def set (d : Documents) (uri text : String) : Documents :=
  ⟨(uri, text) :: (d.remove uri).entries⟩

theorem lookup_filter_self (uri : String) (entries : List (String × String)) :
    (entries.filter (·.1 != uri)).lookup uri = none := by
  rw [List.lookup_eq_none_iff]
  intro entry hentry
  have hne : entry.1 ≠ uri := by simpa using (List.mem_filter.1 hentry).2
  simpa using Ne.symm hne

theorem lookup_filter_of_ne {uri other : String} (entries : List (String × String))
    (hne : other ≠ uri) :
    (entries.filter (·.1 != uri)).lookup other = entries.lookup other := by
  induction entries with
  | nil => rfl
  | cons entry rest ih =>
    obtain ⟨key, text⟩ := entry
    by_cases h : key = uri
    · subst h
      have hother : (other == key) = false := by simpa using hne
      simp [List.lookup_cons, hother, ih]
    · simp [h, List.lookup_cons, ih]

@[simp] theorem get?_remove_self (d : Documents) (uri : String) :
    (d.remove uri).get? uri = none :=
  lookup_filter_self uri d.entries

theorem get?_remove_of_ne (d : Documents) {uri other : String} (hne : other ≠ uri) :
    (d.remove uri).get? other = d.get? other :=
  lookup_filter_of_ne d.entries hne

@[simp] theorem get?_set_self (d : Documents) (uri text : String) :
    (d.set uri text).get? uri = some text := by
  simp [set, get?]

theorem get?_set_of_ne (d : Documents) (text : String) {uri other : String}
    (hne : other ≠ uri) : (d.set uri text).get? other = d.get? other := by
  have h : (other == uri) = false := by simpa using hne
  simpa [set, get?, List.lookup_cons, h] using get?_remove_of_ne d hne

end Documents

end ScriptAssist
