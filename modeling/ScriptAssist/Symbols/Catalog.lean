import ScriptAssist.Symbols.Domain
import ScriptAssist.Symbols.Symbol

/-!
# Catalogs

A catalog assigns a table of symbols to some of the domains. As there are eight domains, it is a
function on them, and two catalogs with the same tables are equal, in whatever order the tables
were put in.

A catalog is sound if in every table the labels are distinct and not empty, no template has two
final cursors or a marker that could not be read, and what is not callable is inserted as its own
label. `flaw?` looks for the first breach.
-/

namespace ScriptAssist

open Snippet

/-- Tables of symbols by domain. -/
structure Catalog where
  table? : Domain → Option (List Symbol)

namespace Catalog

/-- The catalog without tables. -/
def empty : Catalog :=
  ⟨fun _ => none⟩

/-- Gives a domain its table, in place of one it may have. -/
def insert (c : Catalog) (domain : Domain) (symbols : List Symbol) : Catalog :=
  ⟨fun d => if d = domain then some symbols else c.table? d⟩

/-- The symbols of a domain in table order; none for a domain without table. -/
def symbols (c : Catalog) (domain : Domain) : List Symbol :=
  (c.table? domain).getD []

/-- The domains that have a table, in the order of `Domain.all`. -/
def domains (c : Catalog) : List Domain :=
  Domain.all.filter fun d => (c.table? d).isSome

/-- The number of symbols in all tables. -/
def size (c : Catalog) : Nat :=
  (c.domains.flatMap c.symbols).length

/-- A breach of soundness, with the domain in which it is. -/
inductive Flaw where
  | emptyLabel (domain : Domain)
  | duplicateLabel (label : String) (domain : Domain)
  | manyFinalCursors (label : String) (domain : Domain)
  | unreadMarker (label : String) (domain : Domain)
  | templateNotLabel (label : String) (domain : Domain)
  deriving DecidableEq, Repr

/-- A breach in words. -/
def Flaw.message (flaw : Flaw) : String :=
  "Invalid knowledge base: " ++ match flaw with
    | emptyLabel d => s!"empty label in domain {d.name}"
    | duplicateLabel label d => s!"duplicate label '{label}' in domain {d.name}"
    | manyFinalCursors label d =>
      s!"template of '{label}' in domain {d.name} has more than one final cursor"
    | unreadMarker label d =>
      s!"template of '{label}' in domain {d.name} has an unparsable placeholder"
    | templateNotLabel label d =>
      s!"template of '{label}' in domain {d.name} must equal its label"

/-- The first rule that a symbol breaks, given the labels before it in its table. -/
def symbolFlaw? (domain : Domain) (earlier : List String) (s : Symbol) : Option Flaw :=
  if s.label = "" then some (.emptyLabel domain)
  else if s.label ∈ earlier then some (.duplicateLabel s.label domain)
  else if 1 < s.template.finalCursors then some (.manyFinalCursors s.label domain)
  else if s.template.hasUnreadMarker then some (.unreadMarker s.label domain)
  else if !s.kind.isCallable && s.template.plainText != s.label then
    some (.templateNotLabel s.label domain)
  else none

/-- The first breach in a table. -/
def tableFlaw? (domain : Domain) : (earlier : List String) → List Symbol → Option Flaw
  | _, [] => none
  | earlier, s :: rest =>
    (symbolFlaw? domain earlier s).or (tableFlaw? domain (s.label :: earlier) rest)

/-- The first breach in a catalog: domains in order, and symbols in table order. -/
def flaw? (c : Catalog) : Option Flaw :=
  c.domains.findSome? fun d => tableFlaw? d [] (c.symbols d)

end Catalog

end ScriptAssist
