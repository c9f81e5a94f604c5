import ScriptAssist.Proofs.Snippet.Lossless
import ScriptAssist.Symbols.Tables

/-!
# Sources of the built-in templates

Every built-in template is read from a tidy source (`Symbols.tidy_sources`), so that what is offered
is what the tables say, character by character (`Template.snippet_parse_of_tidy`).
-/

namespace ScriptAssist

open Snippet

namespace Symbols

/-- The sources of the built-in templates, in table order. -/
def sources : Domain → List String
  | .root => rootRows.map fun (_, _, _, template) => template
  | .session => sessionRows.map fun (_, _, _, template) => template
  | .database => databaseRows.map fun (_, _, _, template) => template
  | .ui => uiRows.map fun (_, _, _, template) => template
  | .attach => attachRows.map fun (_, _, _, template) => template
  | .form => formRows.map fun (_, _, _, template) => template
  | .events => eventsRows.map fun (label, _) => label ++ r"(frm){" ++ "\n\t$0\n" ++ r"},"
  | .globals => globalsRows.map fun (label, _) => label

theorem map_template_ofRow (rows : List Row) :
    (rows.map ofRow).map Symbol.template =
      (rows.map fun (_, _, _, template) => template).map Template.parse := by
  rw [List.map_map, List.map_map]
  rfl

theorem map_template_builtin (d : Domain) :
    (builtin d).map Symbol.template = (sources d).map Template.parse := by
  cases d with
  | events =>
    rw [builtin, sources, List.map_map, List.map_map]
    rfl
  | globals => decide +kernel
  | _ => exact map_template_ofRow _

/-! The rows' texts are given as lists of characters below, since evaluation is slow on strings. -/

theorem tidy_eventHandler {s : List Char} (h : '$' ∉ s ∧ '\\' ∉ s) :
    Tidy (String.ofList s ++ r"(frm){" ++ "\n\t$0\n" ++ r"},").toList := by
  rw [String.append_assoc, String.append_assoc, String.toList_append, String.toList_ofList]
  exact .append_left h (by decide +kernel)

theorem tidy_ofList {s : List Char} (h : Tidy s) : Tidy (String.ofList s).toList := by
  rwa [String.toList_ofList]

/-- The tables have tidy sources only. -/
theorem tidy_sources (d : Domain) : ∀ source ∈ sources d, Tidy source.toList := by
  cases d with
  | events =>
    simp only [sources, eventsRows, List.map_cons, List.map_nil, List.forall_mem_cons,
      List.not_mem_nil, false_implies, implies_true, and_true]
    and_intros <;> exact tidy_eventHandler (by decide +kernel)
  | globals =>
    simp only [sources, globalsRows, List.map_cons, List.map_nil, List.forall_mem_cons,
      List.not_mem_nil, false_implies, implies_true, and_true]
    and_intros <;> exact tidy_ofList (by decide +kernel)
  | _ =>
    simp only [sources, rootRows, sessionRows, databaseRows, uiRows, attachRows, formRows,
      String.reduceAppend, List.map_cons, List.map_nil, List.forall_mem_cons, List.not_mem_nil,
      false_implies, implies_true, and_true]
    and_intros
    all_goals exact tidy_ofList (by decide +kernel)

end Symbols

/-- A tidy source is shown as it is written, and its defaults have neither dollar signs nor closing
braces. The built-in templates are read from tidy sources. -/
theorem Snippet.Template.snippet_parse_of_tidy :
    (∀ source : String, Tidy source.toList →
      (Template.parse source).snippet = source ∧
        ∀ index default, .placeholder index default ∈ (Template.parse source).pieces →
          '$' ∉ default.toList ∧ '}' ∉ default.toList) ∧
      ∀ d, (Symbols.builtin d).map Symbol.template = (Symbols.sources d).map Template.parse ∧
        ∀ source ∈ Symbols.sources d, Tidy source.toList := by
  refine ⟨fun source h => ⟨?_, fun _ _ hp => h.not_mem_default hp⟩, fun d => ⟨?_, ?_⟩⟩
  · exact String.toList_injective ((Template.toList_snippet _).trans h.shown_join_cut)
  · exact Symbols.map_template_builtin d
  · exact Symbols.tidy_sources d

/-- Slots may stand next to each other, before digits and among braces. -/
theorem Snippet.Template.snippet_parse_of_tidy_adjacent :
    Tidy "f($0${1:a b}${12:}7) {3}".toList ∧
      (Template.parse "f($0${1:a b}${12:}7) {3}").snippet =
        "f($0${1:a b}${12:}7) {3}" := by
  have htidy : Tidy "f($0${1:a b}${12:}7) {3}".toList := by decide +kernel
  exact ⟨htidy, (snippet_parse_of_tidy.1 _ htidy).1⟩

end ScriptAssist
