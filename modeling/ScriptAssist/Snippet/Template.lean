import ScriptAssist.Snippet.Marker

/-!
# Templates

A template is what is inserted for a symbol: literal text, numbered placeholders with a default,
and a place for the cursor when all is filled in. It is read from the notation of
`ScriptAssist.Snippet.Marker` and shown in one of two dialects: with its slots, for an editor
that understands them, or as plain text with every default filled in.
-/

namespace ScriptAssist.Snippet

/-- One piece of a template. -/
inductive Piece where
  | literal (text : String)
  | placeholder (index : Nat) (default : String)
  | finalCursor
  deriving DecidableEq, Repr

/-- How templates are shown. -/
inductive Dialect where
  /-- With slots, as in `$0` and `${1:text}`. -/
  | slots
  /-- Defaults filled in, final cursor left out. -/
  | plain
  deriving DecidableEq, Repr

/-- Puts a backslash before each of the given characters. -/
def escape (special : List Char) (s : String) : String :=
  String.ofList (s.toList.flatMap fun c => if c ∈ special then ['\\', c] else [c])

namespace Piece

/-- Whether the piece is a slot: a placeholder or the final cursor. -/
def isSlot : Piece → Bool
  | literal _ => false
  | _ => true

/-- A piece in a dialect. Inside slots the closing brace is special too. -/
def render : Dialect → Piece → String
  | .slots, literal text => escape ['$', '\\'] text
  | .slots, placeholder index default =>
    r"${" ++ toString index ++ ":" ++ escape ['$', '}', '\\'] default ++ r"}"
  | .slots, finalCursor => "$0"
  | .plain, literal text => text
  | .plain, placeholder _ default => default
  | .plain, finalCursor => ""

end Piece

/-- The slot that a marker stands for; none if its number cannot be read. Number 0 is the final
cursor, whatever its default. -/
def Marker.piece? (m : Marker) : Option Piece :=
  m.index?.map fun index =>
    if index = 0 then .finalCursor
    else .placeholder index (String.ofList (m.default?.getD []))

/-- A stretch of text, given last character first; nothing if it is empty. -/
def literal (reversed : List Char) : List Piece :=
  if reversed.isEmpty then [] else [.literal (String.ofList reversed.reverse)]

/-- Joins chunks to pieces. Characters, and markers whose number cannot be read, gather in
`pending` until a slot ends the stretch. -/
def join : (pending : List Char) → List Chunk → List Piece
  | pending, [] => literal pending
  | pending, .char c :: rest => join (c :: pending) rest
  | pending, .marker m :: rest =>
    match m.piece? with
    | some slot => literal pending ++ slot :: join [] rest
    | none => join (m.text.reverse ++ pending) rest

/-- A template: its pieces in order. -/
structure Template where
  pieces : List Piece
  deriving DecidableEq, Repr

namespace Template

/-- The template that inserts a text as it is. -/
def ofText (text : String) : Template :=
  ⟨[.literal text]⟩

/-- Reads the notation. -/
def parse (source : String) : Template :=
  ⟨join [] (cut source.toList)⟩

/-- The entry of a handler map: the label, a block that holds the cursor, and a comma. -/
def eventHandler (label : String) : Template :=
  parse (label ++ r"(frm){" ++ "\n\t$0\n" ++ r"},")

/-- The numbers of the placeholders, in order of appearance. -/
def indices (t : Template) : List Nat :=
  t.pieces.filterMap fun
    | .placeholder index _ => some index
    | _ => none

/-- The number of final cursors. -/
def finalCursors (t : Template) : Nat :=
  t.pieces.countP (· matches .finalCursor)

/-- Whether a marker is found in the literal text, which happens when its number could not be
read. -/
def hasUnreadMarker (t : Template) : Bool :=
  t.pieces.any fun
    | .literal text => (cut text.toList).any Chunk.isMarker
    | _ => false

/-- Whether the template has a slot. -/
def hasSlot (t : Template) : Bool :=
  t.pieces.any Piece.isSlot

/-- The template in a dialect. -/
def render (dialect : Dialect) (t : Template) : String :=
  String.join (t.pieces.map (Piece.render dialect))

/-- The template with its slots shown. -/
def snippet (t : Template) : String :=
  t.render .slots

/-- The template without slots. -/
def plainText (t : Template) : String :=
  t.render .plain

end Template

end ScriptAssist.Snippet
