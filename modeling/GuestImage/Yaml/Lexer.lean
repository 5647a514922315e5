import GuestImage.Yaml.Block
import GuestImage.Yaml.Folding
import GuestImage.Yaml.Property

/-!
# The YAML lexer

Cuts a text into tokens. Outside flow collections the indentation opens and closes block
collections. Whether a node is the key of a mapping shows only at the colon behind it, so the places
where a key may start are remembered, and the tokens that announce a key are inserted there later.
-/

namespace GuestImage.Yaml

/-- A place where the key of a mapping may have started. A required one must turn out to be a
key. -/
structure Candidate where
  required : Bool
  /-- How many tokens come before it. -/
  position : Nat
  mark : Mark
  deriving DecidableEq, Repr

/-- The state of the lexer. -/
structure Lexer where
  cursor : Cursor
  tokens : Array Placed
  /-- How many flow collections are open. -/
  flowLevel : Nat
  /-- The column of the innermost block collection, below zero outside all of them. -/
  indent : Int
  /-- The columns of the block collections around it, the innermost first. -/
  outer : List Int
  /-- Whether a key may start here. -/
  keyAllowed : Bool
  /-- The possible key of each open flow collection and of the block around them, the innermost
  first. -/
  candidates : List (Option Candidate)

namespace Lexer

/-- The start of a text. -/
def start (letters : List Char) : Lexer where
  cursor := .start letters
  tokens := #[]
  flowLevel := 0
  indent := -1
  outer := []
  keyAllowed := true
  candidates := [none]

def inFlow (lexer : Lexer) : Bool :=
  0 < lexer.flowLevel

def column (lexer : Lexer) : Int :=
  lexer.cursor.mark.column

/-- Append a token that ends where the given cursor stands, and go on from there. -/
def emit (lexer : Lexer) (token : Token) (after : Cursor) : Lexer :=
  { lexer with
    tokens := lexer.tokens.push ⟨token, lexer.cursor.mark, after.mark⟩
    cursor := after }

/-- The longest key that may stand without a question mark. -/
def maxKeyLength : Nat := 1024

/-- Whether a possible key has become impossible, because its line has ended or it is too long. -/
def isStale (mark : Mark) (candidate : Candidate) : Bool :=
  candidate.mark.line < mark.line || candidate.mark.index + maxKeyLength < mark.index

/-- Forget the possible keys that have become impossible, of which none may be required. -/
def dropStale (lexer : Lexer) : Option Lexer := do
  let candidates ← lexer.candidates.mapM fun candidate? =>
    match candidate? with
    | some candidate =>
        if isStale lexer.cursor.mark candidate then
          if candidate.required then none else some none
        else some (some candidate)
    | none => some none
  return { lexer with candidates := candidates }

/-- Forget the innermost possible key, which must not be required. -/
def dropKey (lexer : Lexer) : Option Lexer :=
  match lexer.candidates with
  | some candidate :: rest =>
      if candidate.required then none else some { lexer with candidates := none :: rest }
  | _ => some lexer

/-- Remember this place as a possible key, if one may start here. -/
def saveKey (lexer : Lexer) : Option Lexer := do
  if lexer.keyAllowed then
    let candidate : Candidate :=
      { required := !lexer.inFlow && lexer.indent = lexer.column
        position := lexer.tokens.size
        mark := lexer.cursor.mark }
    let lexer ← lexer.dropKey
    return { lexer with candidates := some candidate :: lexer.candidates.drop 1 }
  else some lexer

def allowKey (lexer : Lexer) (allowed : Bool) : Lexer :=
  { lexer with keyAllowed := allowed }

/-- Open a block collection at a column, unless one is open there. Its token goes before the token
at `position`. -/
def openBlock (lexer : Lexer) (column : Int) (position : Nat) (token : Token) (mark : Mark) :
    Lexer :=
  if lexer.inFlow || column ≤ lexer.indent then lexer
  else
    { lexer with
      tokens := lexer.tokens.insertIdxIfInBounds position ⟨token, mark, mark⟩
      outer := lexer.indent :: lexer.outer
      indent := column }

/-- Close the block collections right of a column. -/
def closeBlocks (lexer : Lexer) (column : Int) : Lexer :=
  if lexer.inFlow then lexer else go lexer lexer.outer
where
  /-- Close the innermost collection and those around it. -/
  go (lexer : Lexer) : (outer : List Int) → Lexer
    | [] => lexer
    | next :: outer =>
        if column < lexer.indent then
          let mark := lexer.cursor.mark
          go { lexer with
            tokens := lexer.tokens.push ⟨.blockEnd, mark, mark⟩
            indent := next
            outer := outer } outer
        else lexer

/-- Skip blanks, comments and line breaks. Outside flow collections a tab is no blank where a key
may start. A step takes at least one line break. -/
def skipGap : (fuel : Nat) → Lexer → Lexer
  | 0, lexer => lexer
  | fuel + 1, lexer =>
      let cursor := lexer.cursor
      let cursor :=
        if cursor.mark.column = 0 && cursor.unread.head? == some '\ufeff' then cursor.skip 1
        else cursor
      let tabs := lexer.inFlow || !lexer.keyAllowed
      let cursor := cursor.skipWhile fun letter => letter = ' ' || (tabs && letter = '\t')
      let cursor :=
        if cursor.unread.head? == some '#' then cursor.skipWhile (!isBreak ·) else cursor
      if cursor.unread.head?.any isBreak then
        skipGap fuel { lexer with
          cursor := cursor.skipBreak
          keyAllowed := lexer.keyAllowed || !lexer.inFlow }
      else { lexer with cursor := cursor }

/-! ## One token -/

/-- Close everything before a directive, a document marker or the end of the text. -/
def closeDocument (lexer : Lexer) : Option Lexer := do
  let lexer ← (lexer.closeBlocks (-1)).dropKey
  return lexer.allowKey false

/-- A bracket that opens a flow collection. -/
def openFlow (lexer : Lexer) (token : Token) : Option Lexer := do
  let lexer ← lexer.saveKey
  return ({ lexer with
    flowLevel := lexer.flowLevel + 1
    candidates := none :: lexer.candidates
    keyAllowed := true }).emit token (lexer.cursor.skip 1)

/-- A bracket that closes a flow collection. -/
def closeFlow (lexer : Lexer) (token : Token) : Option Lexer := do
  let lexer ← lexer.dropKey
  let lexer := lexer.allowKey false
  let lexer :=
    if lexer.inFlow then
      { lexer with flowLevel := lexer.flowLevel - 1, candidates := lexer.candidates.drop 1 }
    else lexer
  return lexer.emit token (lexer.cursor.skip 1)

/-- The dash before an item. -/
def blockEntry (lexer : Lexer) : Option Lexer := do
  if !lexer.inFlow && !lexer.keyAllowed then none
  let lexer :=
    lexer.openBlock lexer.column lexer.tokens.size .blockSequenceStart lexer.cursor.mark
  let lexer ← lexer.dropKey
  return (lexer.allowKey true).emit .blockEntry (lexer.cursor.skip 1)

/-- The question mark before a key. -/
def explicitKey (lexer : Lexer) : Option Lexer := do
  if !lexer.inFlow && !lexer.keyAllowed then none
  let lexer :=
    lexer.openBlock lexer.column lexer.tokens.size .blockMappingStart lexer.cursor.mark
  let lexer ← lexer.dropKey
  return (lexer.allowKey (!lexer.inFlow)).emit .key (lexer.cursor.skip 1)

/-- The colon before a value. If a possible key is known, it is one. -/
def mappingValue (lexer : Lexer) : Option Lexer :=
  match lexer.candidates with
  | some candidate :: rest =>
      let announced : Placed := ⟨.key, candidate.mark, candidate.mark⟩
      let lexer :=
        { lexer with
          tokens := lexer.tokens.insertIdxIfInBounds candidate.position announced
          candidates := none :: rest }
      let lexer :=
        lexer.openBlock candidate.mark.column candidate.position .blockMappingStart candidate.mark
      some ((lexer.allowKey false).emit .value (lexer.cursor.skip 1))
  | _ =>
      if !lexer.inFlow && !lexer.keyAllowed then none
      else
        let lexer :=
          lexer.openBlock lexer.column lexer.tokens.size .blockMappingStart lexer.cursor.mark
        some ((lexer.allowKey (!lexer.inFlow)).emit .value (lexer.cursor.skip 1))

/-- A scalar in quotes. -/
def quotedScalar (lexer : Lexer) (double : Bool) : Option Lexer := do
  let lexer ← lexer.saveKey
  let first := lexer.cursor.skip 1
  let (pieces, after) ← readQuoted double (first.unread.length + 1) first
  return (lexer.allowKey false).emit
    (.scalar .quoted (String.ofList (fold .none pieces))) after

/-- A scalar without quotes. After a line break behind it a key may start. -/
def plainScalar (lexer : Lexer) : Option Lexer := do
  let lexer ← lexer.saveKey
  let plain ← readPlain lexer.inFlow (lexer.indent + 1) [] false
    (lexer.cursor.unread.length + 1) lexer.cursor
  return (lexer.allowKey plain.endsLine).emit
    (.scalar .plain (String.ofList (fold .none plain.pieces))) plain.after

/-- A literal or folded scalar. -/
def blockScalar (lexer : Lexer) (literal : Bool) : Option Lexer := do
  let lexer ← lexer.dropKey
  let (text, after) ← readBlock literal lexer.indent (lexer.cursor.skip 1)
  return (lexer.allowKey true).emit
    (.scalar (if literal then .literal else .folded) (String.ofList text)) after

/-- A property of a node, read by the given reader. -/
def property (lexer : Lexer) (read : Cursor → Option (Token × Cursor)) : Option Lexer := do
  let lexer ← lexer.saveKey
  let (token, after) ← read lexer.cursor
  return (lexer.allowKey false).emit token after

/-- The reader of a name after its indicator. -/
def named (token : String → Token) (cursor : Cursor) : Option (Token × Cursor) :=
  (readAnchor (cursor.skip 1)).map fun (name, after) => (token name, after)

/-- The characters that start no plain scalar, whatever follows them. -/
def isIndicator (letter : Char) : Bool :=
  "-?:,[]\x7b\x7d#&*!|>'\"%@\x60".toList.contains letter

/-- Whether a plain scalar may start with these characters. -/
def startsPlain (flow : Bool) (letter : Char) (rest : List Char) : Bool :=
  !(isBlank letter || isBreak letter || isIndicator letter) ||
    (letter = '-' && !rest.head?.any isBlank) ||
    (!flow && (letter = '?' || letter = ':') && !endsWord rest)

/-- Read the next token, standing behind the gap before it; the text must go on. -/
def next (lexer : Lexer) : Option Lexer :=
  match lexer.cursor.unread with
  | [] => none
  | letter :: rest =>
      if lexer.column = 0 && letter = '%' then do
        let lexer ← lexer.closeDocument
        let (token, after) ← readDirective (lexer.cursor.skip 1)
        return lexer.emit token after
      else if lexer.column = 0 && startsMarker (letter :: rest) then do
        let lexer ← lexer.closeDocument
        return lexer.emit (if letter = '-' then .documentStart else .documentEnd)
          (lexer.cursor.skip 3)
      else if letter = '[' then lexer.openFlow .flowSequenceStart
      else if letter = '\x7b' then lexer.openFlow .flowMappingStart
      else if letter = ']' then lexer.closeFlow .flowSequenceEnd
      else if letter = '\x7d' then lexer.closeFlow .flowMappingEnd
      else if letter = ',' then do
        let lexer ← lexer.dropKey
        return (lexer.allowKey true).emit .flowEntry (lexer.cursor.skip 1)
      else if letter = '-' && endsWord rest then lexer.blockEntry
      else if letter = '?' && (lexer.inFlow || endsWord rest) then lexer.explicitKey
      else if letter = ':' && (lexer.inFlow || endsWord rest) then lexer.mappingValue
      else if letter = '*' then lexer.property (named .reference)
      else if letter = '&' then lexer.property (named .anchor)
      else if letter = '!' then lexer.property (readTag lexer.inFlow)
      else if letter = '|' && !lexer.inFlow then lexer.blockScalar true
      else if letter = '>' && !lexer.inFlow then lexer.blockScalar false
      else if letter = '\'' then lexer.quotedScalar false
      else if letter = '"' then lexer.quotedScalar true
      else if startsPlain lexer.inFlow letter rest then lexer.plainScalar
      else none

/-- Close everything at the end of the text. -/
def finish (lexer : Lexer) : Option Lexer := do
  let mark := lexer.cursor.mark
  let mark := if mark.column = 0 then mark else ⟨mark.index, mark.line + 1, 0⟩
  let lexer ← ({ lexer with cursor := ⟨[], mark⟩ }).closeDocument
  return lexer.emit .streamEnd lexer.cursor

/-- Read the next token and the gap before it, or the end of the text. -/
def step (lexer : Lexer) : Option Lexer := do
  let lexer := lexer.skipGap (lexer.cursor.unread.length + 1)
  let lexer ← lexer.dropStale
  let lexer := lexer.closeBlocks lexer.column
  if lexer.cursor.unread.isEmpty then lexer.finish else lexer.next

/-- The tokens before which nothing can be inserted any more. -/
def settled (lexer : Lexer) : List Placed :=
  let waiting := lexer.candidates.filterMap fun candidate? =>
    (candidate?.filter (!isStale lexer.cursor.mark ·)).map (·.position)
  lexer.tokens.toList.take (waiting.foldl min lexer.tokens.size)

/-- Read the tokens up to the end of the text or to the place where it is ill-formed. A step takes
at least one character, except at the end. -/
def run : (fuel : Nat) → Lexer → List Placed
  | 0, lexer => lexer.settled
  | fuel + 1, lexer =>
      match lexer.step with
      | none => lexer.settled
      | some after =>
          if after.tokens.back?.any (·.token = .streamEnd) then after.tokens.toList
          else run fuel after

end Lexer

/-- The characters that a text may hold at all. -/
def isTextChar (letter : Char) : Bool :=
  let code := letter.toNat
  code = 0x09 || code = 0x0A || code = 0x0D || (0x20 ≤ code && code ≤ 0x7E) || code = 0x85 ||
    (0xA0 ≤ code && code ≤ 0xFFFD) || 0x10000 ≤ code

/-- The tokens of a text, up to its end or to the place where it is ill-formed. Only if it is well
formed, the last token is the end of the stream. -/
def tokens (text : String) : List Placed :=
  let letters := text.toList
  if letters.all isTextChar then (Lexer.start letters).run (letters.length + 1) else []

end GuestImage.Yaml
