import WorkflowCheck.Yaml.Token.BlockScalar
import WorkflowCheck.Yaml.Token.FlowScalar
import WorkflowCheck.Yaml.Token.Tag

/-! The tokens of a text in order. A token may turn out to be the key of a mapping only when a
colon follows later, so a token is handed on once no such key can stand before it any more. -/

namespace WorkflowCheck.Yaml

/-- A place where a key without `?` may have begun, given by the number of the token there. -/
structure KeyPlace where
  isPossible : Bool
  /-- Whether nothing but a key may stand there. -/
  isRequired : Bool
  number : Nat
  mark : Mark
  deriving Inhabited

def KeyPlace.none : KeyPlace := ⟨false, false, 0, .start⟩

structure Lexer where
  cursor : Cursor
  tokens : Array Token
  /-- The column of the innermost block collection, -1 outside all; then those around it. -/
  indent : Int
  outerIndents : List Int
  keyAllowed : Bool
  /-- The place of a key in the innermost flow collection; then those around it. -/
  keyPlace : KeyPlace
  outerKeys : List KeyPlace

namespace Lexer

def ofText (text : String) : Lexer := ⟨.ofText text, #[], -1, [], true, .none, []⟩

def inFlow (lexer : Lexer) : Bool := !lexer.outerKeys.isEmpty

end Lexer

abbrev Lex := StateT Lexer (Except Fault)

namespace Lex

def scan {α : Type} (read : Scan α) : Lex α := do
  let lexer ← get
  let (a, cursor) ← (StateT.run read lexer.cursor : Except Fault (α × Cursor))
  set { lexer with cursor := cursor }
  return a

def mark : Lex Mark := return (← get).cursor.mark

def fail {α : Type} (problem : Problem) : Lex α := do
  throw (.grammar problem (← mark) none)

def emit (kind : TokenKind) (start : Mark) : Lex Unit :=
  modify fun l => { l with tokens := l.tokens.push ⟨kind, start⟩ }

def emitAt (number : Nat) (kind : TokenKind) (start : Mark) : Lex Unit :=
  modify fun l => { l with tokens := l.tokens.insertIdxIfInBounds number ⟨kind, start⟩ }

def allowKey (allowed : Bool) : Lex Unit := modify fun l => { l with keyAllowed := allowed }

/-- A key has to stand on one line and to be short. One that is required must be there. -/
def expire (here : Mark) (key : KeyPlace) : Except Fault KeyPlace :=
  if key.isPossible && (key.mark.line < here.line || key.mark.index + 1024 < here.index) then
    if key.isRequired then .error (.grammar .noColon here (some (.simpleKey, key.mark)))
    else .ok { key with isPossible := false }
  else .ok key

/-- Gives up the keys that can no longer be completed, the outermost first. -/
def expireKeys : Lex Unit := do
  let lexer ← get
  let here := lexer.cursor.mark
  let outer ← (lexer.outerKeys.reverse.mapM (expire here) : Except Fault (List KeyPlace))
  let key ← (expire here lexer.keyPlace : Except Fault KeyPlace)
  set { lexer with keyPlace := key, outerKeys := outer.reverse }

def dropKey : Lex Unit := do
  let key := (← get).keyPlace
  if key.isPossible && key.isRequired then
    throw (.grammar .noColon (← mark) (some (.simpleKey, key.mark)))
  modify fun l => { l with keyPlace := { key with isPossible := false } }

def noteKey : Lex Unit := do
  let lexer ← get
  if lexer.keyAllowed then
    let required := !lexer.inFlow && lexer.indent == Int.ofNat lexer.cursor.mark.column
    dropKey
    modify fun l => { l with keyPlace := ⟨true, required, lexer.tokens.size, lexer.cursor.mark⟩ }

/-- Opens a block collection where a column lies to the right of the block around it. -/
def openBlock (column : Nat) (number : Option Nat) (kind : TokenKind) (start : Mark) : Lex Unit := do
  let lexer ← get
  if !lexer.inFlow && lexer.indent < Int.ofNat column then
    set { lexer with indent := Int.ofNat column, outerIndents := lexer.indent :: lexer.outerIndents }
    match number with
    | none => emit kind start
    | some n => emitAt n kind start

/-- The tokens and the indentation after closing all blocks to the right of a column. -/
def closed (column : Int) (here : Mark) : List Int → Int → Array Token → Array Token × Int × List Int
  | [], indent, tokens =>
    if indent > column then (tokens.push ⟨.blockEnd, here⟩, -1, []) else (tokens, indent, [])
  | outer :: rest, indent, tokens =>
    if indent > column then closed column here rest outer (tokens.push ⟨.blockEnd, here⟩)
    else (tokens, indent, outer :: rest)

def closeBlocks (column : Int) : Lex Unit := do
  let lexer ← get
  if !lexer.inFlow then
    let (tokens, indent, outer) :=
      closed column lexer.cursor.mark lexer.outerIndents lexer.indent lexer.tokens
    set { lexer with tokens := tokens, indent := indent, outerIndents := outer }

/-- Passes blanks, comments and line breaks. In a block a new line may begin with a key, and a
tab is no blank there. -/
def skipToToken : Nat → Lex Unit
  | 0 => return
  | fuel + 1 => do
    scan (Scan.need 1)
    if (← mark).column == 0 && (← scan Scan.peek) == '\ufeff' then
      scan Scan.skip
    let lexer ← get
    let tabs := lexer.inFlow || !lexer.keyAllowed
    scan (Scan.skipWhile fun c => c == ' ' || (tabs && c == '\t'))
    if (← scan Scan.peek) == '#' then
      scan (Scan.skipWhile fun c => !isBreakOrEnd c)
    if isBreak (← scan Scan.peek) then
      scan (Scan.need 2)
      discard <| scan Scan.takeBreak
      if !lexer.inFlow then
        allowKey true
      skipToToken fuel

def emitText (width : Nat) (kind : TokenKind) : Lex Unit := do
  let start ← mark
  scan (Scan.skipN width)
  emit kind start

def streamEnd : Lex Unit := do
  modify fun l =>
    if l.cursor.mark.column = 0 then l
    else { l with cursor := { l.cursor with mark := l.cursor.mark.newLine 0 } }
  closeBlocks (-1)
  dropKey
  allowKey false
  emit .streamEnd (← mark)

def leaveBlocks : Lex Unit := do
  closeBlocks (-1)
  dropKey
  allowKey false

def openFlow (kind : TokenKind) : Lex Unit := do
  noteKey
  modify fun l => { l with keyPlace := .none, outerKeys := l.keyPlace :: l.outerKeys }
  allowKey true
  emitText 1 kind

def closeFlow (kind : TokenKind) : Lex Unit := do
  dropKey
  modify fun l =>
    match l.outerKeys with
    | [] => l
    | key :: rest => { l with keyPlace := key, outerKeys := rest }
  allowKey false
  emitText 1 kind

def flowEntry : Lex Unit := do
  dropKey
  allowKey true
  emitText 1 .flowEntry

def blockEntry : Lex Unit := do
  let lexer ← get
  if !lexer.inFlow then
    if !lexer.keyAllowed then
      fail .blockSequenceHere
    openBlock lexer.cursor.mark.column none .blockSequenceStart lexer.cursor.mark
  dropKey
  allowKey true
  emitText 1 .blockEntry

def key : Lex Unit := do
  let lexer ← get
  if !lexer.inFlow then
    if !lexer.keyAllowed then
      fail .mappingKeyHere
    openBlock lexer.cursor.mark.column none .blockMappingStart lexer.cursor.mark
  dropKey
  allowKey !lexer.inFlow
  emitText 1 .key

/-- The colon after a key. Where the key was written without `?` its token is put in now. -/
def value : Lex Unit := do
  let lexer ← get
  let place := lexer.keyPlace
  if place.isPossible then
    emitAt place.number .key place.mark
    openBlock place.mark.column (some place.number) .blockMappingStart place.mark
    modify fun l => { l with keyPlace := { place with isPossible := false } }
    allowKey false
  else
    if !lexer.inFlow then
      if !lexer.keyAllowed then
        fail .mappingValueHere
      openBlock lexer.cursor.mark.column none .blockMappingStart lexer.cursor.mark
    allowKey !lexer.inFlow
  emitText 1 .value

def keyToken (read : Scan TokenKind) : Lex Unit := do
  noteKey
  allowKey false
  let start ← mark
  let kind ← scan read
  emit kind start

def plainScalar : Lex Unit := do
  noteKey
  allowKey false
  let start ← mark
  let lexer ← get
  let (text, isBroken) ← scan (Scan.plainScalar lexer.inFlow (lexer.indent + 1).toNat)
  emit (.scalar text true) start
  if isBroken then
    allowKey true

def blockScalar (isLiteral : Bool) : Lex Unit := do
  dropKey
  allowKey true
  let start ← mark
  let lexer ← get
  let text ← scan (Scan.blockScalar isLiteral lexer.indent)
  emit (.scalar text false) start

/-- Characters that no plain scalar begins with, some of them only before a blank. -/
def isIndicator (c : Char) : Bool :=
  ['-', '?', ':', ',', '[', ']', '{', '}', '#', '&', '*', '!', '|', '>', '\x27', '"', '%', '@',
    '\x60'].contains c

def startsPlain (inFlow : Bool) (c next : Char) : Bool :=
  (!isBlankOrEnd c && !isIndicator c) || (c == '-' && !isBlank next) ||
    (!inFlow && (c == '?' || c == ':') && !isBlankOrEnd next)

def documentIndicator (c : Char) : Lex Unit := do
  leaveBlocks
  emitText 3 (if c == '-' then .documentStart else .documentEnd)

def token : Lex Unit := do
  let c ← scan Scan.peek
  let next ← scan (Scan.peekAt 1)
  let lexer ← get
  let inFlow := lexer.inFlow
  let startsLine := lexer.cursor.mark.column == 0
  if isEnd c then streamEnd
  else if startsLine && c == '%' then
    leaveBlocks
    let start ← mark
    emit (← scan Scan.directive) start
  else if ← scan Scan.atDocumentIndicator then documentIndicator c
  else if c == '[' then openFlow .flowSequenceStart
  else if c == '{' then openFlow .flowMappingStart
  else if c == ']' then closeFlow .flowSequenceEnd
  else if c == '}' then closeFlow .flowMappingEnd
  else if c == ',' then flowEntry
  else if c == '-' && isBlankOrEnd next then blockEntry
  else if c == '?' && (inFlow || isBlankOrEnd next) then key
  else if c == ':' && (inFlow || isBlankOrEnd next) then value
  else if c == '*' then keyToken (return .alias (← Scan.anchorName .alias))
  else if c == '&' then keyToken (return .anchor (← Scan.anchorName .anchor))
  else if c == '!' then keyToken (Scan.tag inFlow)
  else if (c == '|' || c == '>') && !inFlow then blockScalar (c == '|')
  else if c == '\x27' || c == '"' then keyToken (return .scalar (← Scan.quotedScalar c) false)
  else if startsPlain inFlow c next then plainScalar
  else scan (Scan.fail .noTokenStart .nextToken lexer.cursor.mark)

def fetch : Lex Unit := do
  scan (Scan.need 1)
  if (← get).tokens.isEmpty then
    emit .streamStart (← mark)
  else
    skipToToken (← scan Scan.budget)
    expireKeys
    closeBlocks (Int.ofNat (← mark).column)
    scan (Scan.need 4)
    token

/-- Whether more has to be read before the token of some number can be handed on. -/
def lacks (number : Nat) : Lex Bool := do
  if (← get).tokens.size ≤ number then return true
  expireKeys
  let lexer ← get
  return (lexer.keyPlace :: lexer.outerKeys).any fun k => k.isPossible && k.number == number

end Lex

/-- The tokens that can be handed on, and what keeps the next one back. -/
structure TokenStream where
  tokens : List Token
  fault : Option Fault

namespace TokenStream

def deliver : Nat → Array Token → Lexer → TokenStream
  | 0, done, _ => ⟨done.toList, none⟩
  | fuel + 1, done, lexer =>
    match (Lex.lacks done.size).run lexer with
    | .error fault => ⟨done.toList, some fault⟩
    | .ok (true, lexer) =>
      match Lex.fetch.run lexer with
      | .error fault => ⟨done.toList, some fault⟩
      | .ok (_, lexer) => deliver fuel done lexer
    | .ok (false, lexer) =>
      match lexer.tokens[done.size]? with
      | some ⟨.streamEnd, mark⟩ => ⟨(done.push ⟨.streamEnd, mark⟩).toList, none⟩
      | some token => deliver fuel (done.push token) lexer
      | none => ⟨done.toList, none⟩

/-- A character brings along four tokens at most, each of which is read and handed on once. -/
def ofText (text : String) : TokenStream :=
  deliver (8 * (text.length + 4)) #[] (.ofText text)

end TokenStream

end WorkflowCheck.Yaml
