import ScriptAssist.Yaml.BlockScalar
import ScriptAssist.Yaml.PlainScalar
import ScriptAssist.Yaml.TagReader

/-!
# Reading tokens

Tokens are read one after another. Two things need memory. Blocks: `indent` is the column of the
innermost block, and a token further to the left ends it. Keys: whatever may turn out to be a key
is remembered with the number of tokens before it, and when a colon comes up in time, the token
for the key is put in its place among those read before.

`Token.ofText?` reads a whole text. It gives nothing if the text is not made of tokens.
-/

namespace ScriptAssist.Yaml

/-- What may turn out to be a key. -/
structure KeyCandidate where
  /-- Whether the text is faulty if it is none. -/
  required : Bool
  /-- The number of tokens before it. -/
  number : Nat
  place : Cursor

/-- What has been read so far. -/
structure TokenReader where
  cursor : Cursor
  /-- The tokens, last one first. -/
  tokens : List Token := []
  /-- The number of tokens. -/
  count : Nat := 0
  /-- The column of the innermost block; one below zero if there is none. -/
  indent : Int := -1
  /-- The columns of the blocks around it. -/
  indents : List Int := []
  /-- The latest candidate outside brackets and inside each open one, innermost first. -/
  candidates : List (Option KeyCandidate) := [none]
  /-- Whether a key may come next. -/
  keyAllowed : Bool := true

namespace TokenReader

/-- Whether the reader stands between brackets. -/
def inFlow (r : TokenReader) : Bool :=
  1 < r.candidates.length

/-- Adds a token behind all others. -/
def push (r : TokenReader) (t : Token) : TokenReader :=
  { r with tokens := t :: r.tokens, count := r.count + 1 }

/-- Puts a token behind the first `number` tokens. -/
def insert (r : TokenReader) (number : Nat) (t : Token) : TokenReader :=
  let later := r.count - number
  { r with tokens := r.tokens.take later ++ t :: r.tokens.drop later, count := r.count + 1 }

/-- Adds a token that is written with some characters. -/
def pushMark (r : TokenReader) (size : Nat) (t : Token) : TokenReader :=
  { r.push t with cursor := r.cursor.skip size }

/-! ## Blocks -/

/-- Begins a block at a column, unless there is one; its first token goes behind the first
`number` tokens. -/
def openBlock (r : TokenReader) (column number : Nat) (t : Token) : TokenReader :=
  if !r.inFlow && r.indent < column then
    { r.insert number t with indent := column, indents := r.indent :: r.indents }
  else r

/-- Ends blocks as long as they are to the right of a column. -/
def closeBlocksFrom (column : Int) : List Int → TokenReader → TokenReader
  | [], r => r
  | outer :: indents, r =>
    if column < r.indent then
      closeBlocksFrom column indents { r.push .blockEnd with indent := outer, indents }
    else r

/-- Ends the blocks to the right of a column. Between brackets there are none. -/
def closeBlocks (r : TokenReader) (column : Int) : TokenReader :=
  if r.inFlow then r else closeBlocksFrom column r.indents r

/-! ## Keys -/

/-- A candidate that has not become a key goes out of reach, which it must not if it is
required. -/
def forget : Option KeyCandidate → Option Unit
  | some candidate => if candidate.required then none else some ()
  | none => some ()

/-- Replaces the latest candidate. -/
def setCandidate (r : TokenReader) (candidate? : Option KeyCandidate) : Option TokenReader := do
  forget r.candidates.head?.join
  return { r with candidates := candidate? :: r.candidates.tail }

/-- Drops the latest candidate. -/
def dropCandidate (r : TokenReader) : Option TokenReader :=
  r.setCandidate none

/-- Remembers what comes next as a candidate, where a key is allowed. In a block it is required
if nothing else can stand in its column. -/
def noteCandidate (r : TokenReader) : Option TokenReader :=
  if r.keyAllowed then
    r.setCandidate (some ⟨!r.inFlow && r.indent = r.cursor.column, r.count, r.cursor⟩)
  else some r

/-- Keys reach no further than this many bytes. -/
def keyReach : Nat := 1024

/-- Whether a candidate is on another line than the cursor, or too far away. -/
def isStale (c : Cursor) (candidate : KeyCandidate) : Bool :=
  candidate.place.line < c.line || candidate.place.index + keyReach < c.index

/-- Drops the candidates that have gone out of reach. -/
def dropStale (r : TokenReader) : Option TokenReader := do
  let stale := r.candidates.filter fun candidate? => candidate?.any (isStale r.cursor)
  stale.forM forget
  return { r with candidates := r.candidates.map (·.filter (!isStale r.cursor ·)) }

/-! ## Tokens -/

/-- Passes over blanks, comments and line breaks, and over one byte order mark at the start of each
line. Outside brackets, tabs do not count as blanks where a key may come next, and behind a line
break one may. -/
def skipGap : (fuel : Nat) → TokenReader → TokenReader
  | 0, r => r
  | fuel + 1, r =>
    let tabs := r.inFlow || !r.keyAllowed
    let c := r.cursor.skipOrderMark
    let c := (c.span fun ch => ch = ' ' || (tabs && ch = '\t')).2.skipComment
    match c.lineBreak? with
    | some (_, c) =>
      skipGap fuel { r with cursor := c, keyAllowed := r.keyAllowed || !r.inFlow }
    | none => { r with cursor := c }

/-- The end of the text. -/
def readEnd (r : TokenReader) : Option TokenReader :=
  ((r.closeBlocks (-1)).dropCandidate).map (·.push .streamEnd)

/-- Prepares for what stands outside all blocks. -/
def leaveBlocks (r : TokenReader) : Option TokenReader :=
  ((r.closeBlocks (-1)).dropCandidate).map fun r => { r with keyAllowed := false }

/-- Adds a token that one of the readers for longer tokens gives. -/
def pushRead (r : TokenReader) (read? : Option (Token × Cursor)) : Option TokenReader :=
  read?.map fun (t, c) => { r.push t with cursor := c }

/-- The start or the end of a document. -/
def readDocumentMark (r : TokenReader) (t : Token) : Option TokenReader :=
  r.leaveBlocks.map (·.pushMark 3 t)

/-- An opening bracket. -/
def readOpening (r : TokenReader) (t : Token) : Option TokenReader :=
  r.noteCandidate.map fun r =>
    { r.pushMark 1 t with candidates := none :: r.candidates, keyAllowed := true }

/-- A closing bracket. -/
def readClosing (r : TokenReader) (t : Token) : Option TokenReader :=
  r.dropCandidate.map fun r =>
    let candidates := if r.inFlow then r.candidates.tail else r.candidates
    { r.pushMark 1 t with candidates, keyAllowed := false }

/-- A comma between brackets. -/
def readFlowEntry (r : TokenReader) : Option TokenReader :=
  r.dropCandidate.map fun r => { r.pushMark 1 .flowEntry with keyAllowed := true }

/-- The mark of an item or of a long key; it may begin a block. -/
def readBlockMark (r : TokenReader) (start t : Token) (keyAllowed : Bool) :
    Option TokenReader :=
  if !r.inFlow && !r.keyAllowed then none
  else
    (r.openBlock r.cursor.column r.count start).dropCandidate.map fun r =>
      { r.pushMark 1 t with keyAllowed }

/-- A colon: behind a candidate it makes that a key, which may begin a block. -/
def readValue (r : TokenReader) : Option TokenReader :=
  match r.candidates.head?.join with
  | some candidate =>
    let r := r.insert candidate.number .key
    let r := r.openBlock candidate.place.column candidate.number .blockMappingStart
    some { r.pushMark 1 .value with candidates := none :: r.candidates.tail, keyAllowed := false }
  | none =>
    if !r.inFlow && !r.keyAllowed then none
    else
      let r := r.openBlock r.cursor.column r.count .blockMappingStart
      some { r.pushMark 1 .value with keyAllowed := !r.inFlow }

/-- What may be a key, or stands before one. -/
def readCandidate (r : TokenReader) (read : Cursor → Option (Token × Cursor)) :
    Option TokenReader :=
  r.noteCandidate.bind fun r => { r with keyAllowed := false }.pushRead (read r.cursor)

/-- A block scalar. -/
def readBlockScalar (r : TokenReader) (folded : Bool) : Option TokenReader :=
  r.dropCandidate.bind fun r =>
    let style : ScalarStyle := if folded then .folded else .literal
    { r with keyAllowed := true }.pushRead <|
      (BlockScalar.read folded r.indent r.cursor).map fun (text, c) => (.scalar text style, c)

/-- A quoted scalar. -/
def readQuotedScalar (r : TokenReader) (quote : Char) (style : ScalarStyle) :
    Option TokenReader :=
  r.readCandidate fun c => (QuotedScalar.read quote c).map fun (text, c) => (.scalar text style, c)

/-- A plain scalar. Behind a line break a key may come next. -/
def readPlainScalar (r : TokenReader) : Option TokenReader := do
  let r ← r.noteCandidate
  let (text, broken, c) ← PlainScalar.read ⟨r.inFlow, (r.indent + 1).toNat⟩ r.cursor
  return { r.push (.scalar text .plain) with cursor := c, keyAllowed := broken }

/-- Whether a character cannot begin a plain scalar, unless what follows lets it. -/
def isIndicator (ch : Char) : Bool :=
  ['-', '?', ':', ',', '[', ']', '{', '}', '#', '&', '*', '!', '|', '>', '\'', '"', '%',
    '@', '\x60'].contains ch

/-- Whether a plain scalar begins at a cursor, at which no other token does. -/
def startsPlain (inFlow : Bool) (c : Cursor) : Bool :=
  c.meets fun ch =>
    !(isBlank ch || isBreak ch || isIndicator ch) ||
      (ch = '-' && !(c.peek? 1).any isBlank) ||
      (!inFlow && (ch = '?' || ch = ':') && !c.gapAt 1)

/-- Reads the token that begins with a character. -/
def readToken (r : TokenReader) (ch : Char) : Option TokenReader :=
  let c := r.cursor
  if c.column = 0 && ch = '%' then r.leaveBlocks.bind fun r => r.pushRead (readDirective c)
  else if c.atMarker '-' then r.readDocumentMark .documentStart
  else if c.atMarker '.' then r.readDocumentMark .documentEnd
  else if ch = '[' then r.readOpening .flowSequenceStart
  else if ch = '{' then r.readOpening .flowMappingStart
  else if ch = ']' then r.readClosing .flowSequenceEnd
  else if ch = '}' then r.readClosing .flowMappingEnd
  else if ch = ',' then r.readFlowEntry
  else if ch = '-' && c.gapAt 1 then r.readBlockMark .blockSequenceStart .blockEntry true
  else if ch = '?' && (r.inFlow || c.gapAt 1) then
    r.readBlockMark .blockMappingStart .key (!r.inFlow)
  else if ch = ':' && (r.inFlow || c.gapAt 1) then r.readValue
  else if ch = '*' then
    r.readCandidate fun c => (readAnchorName c).map fun (name, c) => (.alias name, c)
  else if ch = '&' then
    r.readCandidate fun c => (readAnchorName c).map fun (name, c) => (.anchor name, c)
  else if ch = '!' then r.readCandidate (readTag r.inFlow)
  else if ch = '|' && !r.inFlow then r.readBlockScalar false
  else if ch = '>' && !r.inFlow then r.readBlockScalar true
  else if ch = '\'' then r.readQuotedScalar ch .singleQuoted
  else if ch = '"' then r.readQuotedScalar ch .doubleQuoted
  else if startsPlain r.inFlow c then r.readPlainScalar
  else none

/-- Reads tokens up to the end of the text. -/
def readAll : (fuel : Nat) → TokenReader → Option TokenReader
  | 0, _ => none
  | fuel + 1, r => do
    let r ← (skipGap r.cursor.fuel r).dropStale
    let r := r.closeBlocks r.cursor.column
    match r.cursor.rest with
    | [] => r.readEnd
    | ch :: _ => readAll fuel (← r.readToken ch)

end TokenReader

/-- The tokens of a text; none if it is not made of tokens. -/
def Token.ofText? (text : List Char) : Option (List Token) :=
  if text.all isAllowed then
    let c : Cursor := { rest := text }
    (TokenReader.readAll (c.fuel + 1) { cursor := c }).map (·.tokens.reverse)
  else none

end ScriptAssist.Yaml
