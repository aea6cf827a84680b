import WorkflowCheck.Yaml.TokenStream

/-! The events of the first document of a text: its nodes in order, with the starts and ends of its
collections. What comes after the document matters only in whether there is anything. -/

namespace WorkflowCheck.Yaml

structure Properties where
  anchor : Option String
  tag : Option Bytes
  deriving DecidableEq, Repr, Inhabited

def Properties.none : Properties := ⟨.none, .none⟩

inductive EventKind where
  | alias (name : String)
  | scalar (properties : Properties) (isPlain : Bool) (text : String)
  | sequenceStart (properties : Properties)
  | sequenceEnd
  | mappingStart (properties : Properties)
  | mappingEnd
  deriving DecidableEq, Repr, Inhabited

structure Event where
  kind : EventKind
  mark : Mark
  deriving DecidableEq, Repr, Inhabited

namespace Event

def empty (mark : Mark) : Event := ⟨.scalar .none true "", mark⟩

end Event

/-- What may come next. A collection that has begun remembers its first mark. -/
inductive Expected where
  | blockNode
  | documentContent
  | documentEnd
  | blockEntry (start : Mark)
  | indentlessEntry
  | blockKey (start : Mark)
  | blockValue (start : Mark)
  | flowEntry (start : Mark) (isFirst : Bool)
  | pairKey (start : Mark)
  | pairValue (start : Mark)
  | pairEnd (start : Mark)
  | flowKey (start : Mark) (isFirst : Bool)
  | flowValue (start : Mark)
  | flowEmptyValue (start : Mark)
  deriving Inhabited

structure Parser where
  tokens : List Token
  fault : Option Fault
  /-- The handles of tags, with what they stand for. -/
  handles : List (String × Bytes)
  expected : List Expected

abbrev Parse := StateT Parser (Except Fault)

namespace Parse

def peek : Parse Token := do
  let p ← get
  match p.tokens, p.fault with
  | t :: _, _ => return t
  | [], some fault => throw fault
  | [], none => return ⟨.streamEnd, .start⟩

def skip : Parse Unit := modify fun p => { p with tokens := p.tokens.tail }

/-- The token after the next one, which is passed. -/
def advance : Parse Token := do
  skip
  peek

def push (e : Expected) : Parse Unit := modify fun p => { p with expected := e :: p.expected }

def fail {α : Type} (problem : Problem) (activity : Activity) (start mark : Mark) : Parse α :=
  throw (.grammar problem mark (some (activity, start)))

def addHandle (repeatable : Bool) (handle : String) (start : Bytes) (mark : Mark) : Parse Unit := do
  let p ← get
  if (p.handles.lookup handle).isSome then
    if !repeatable then
      throw (.grammar .repeatedTagDirective mark none)
  else
    set { p with handles := p.handles ++ [(handle, start)] }

def directives : Nat → Bool → Parse Unit
  | 0, _ => return
  | fuel + 1, hasVersion => do
    let t ← peek
    match t.kind with
    | .version major minor =>
      if hasVersion then
        throw (.grammar .repeatedVersion t.mark none)
      if major != 1 || (minor != 1 && minor != 2) then
        throw (.grammar .incompatibleVersion t.mark none)
      skip
      directives fuel true
    | .tagDirective handle start =>
      addHandle false handle start t.mark
      skip
      directives fuel hasVersion
    | _ =>
      addHandle true "!" (Text.encode "!") t.mark
      addHandle true "!!" (Text.encode "tag:yaml.org,2002:") t.mark

/-- Reads up to the content of the first document; tells whether there is one. -/
def documentStart : Parse Bool := do
  let t ← peek
  match t.kind with
  | .streamEnd => return false
  | .version .. | .tagDirective .. | .documentStart =>
    directives ((← get).tokens.length + 1) false
    let t ← peek
    if t.kind != .documentStart then
      throw (.grammar .noDocumentStart t.mark none)
    skip
    push .documentEnd
    push .documentContent
    return true
  | _ =>
    directives 1 false
    push .documentEnd
    push .blockNode
    return true

def resolveTag (start mark : Mark) (handle : String) (rest : Bytes) : Parse Bytes := do
  if handle.isEmpty then return rest
  match (← get).handles.lookup handle with
  | some first => return first ++ rest
  | none => fail .undefinedTagHandle .node start mark

/-- An anchor and a tag, in either order, each at most once. -/
def properties : Parse Properties := do
  let t ← peek
  match t.kind with
  | .anchor name =>
    let next ← advance
    match next.kind with
    | .tag handle rest =>
      skip
      discard peek
      return ⟨some name, some (← resolveTag t.mark next.mark handle rest)⟩
    | _ => return ⟨some name, .none⟩
  | .tag handle rest =>
    let next ← advance
    let anchor ← match next.kind with
      | .anchor name => do
        skip
        discard peek
        pure (some name)
      | _ => pure Option.none
    return ⟨anchor, some (← resolveTag t.mark t.mark handle rest)⟩
  | _ => return .none

/-- The node that begins here. Inside a block mapping a sequence need not be indented. -/
def node (inBlock indentless : Bool) : Parse Event := do
  let first ← peek
  if let .alias name := first.kind then
    skip
    return ⟨.alias name, first.mark⟩
  let props ← properties
  let t ← peek
  match t.kind, inBlock with
  | .scalar text isPlain, _ =>
    skip
    return ⟨.scalar props isPlain text, first.mark⟩
  | .flowSequenceStart, _ =>
    skip
    push (.flowEntry t.mark true)
    return ⟨.sequenceStart props, first.mark⟩
  | .flowMappingStart, _ =>
    skip
    push (.flowKey t.mark true)
    return ⟨.mappingStart props, first.mark⟩
  | .blockSequenceStart, true =>
    skip
    push (.blockEntry t.mark)
    return ⟨.sequenceStart props, first.mark⟩
  | .blockMappingStart, true =>
    skip
    push (.blockKey t.mark)
    return ⟨.mappingStart props, first.mark⟩
  | kind, _ =>
    if indentless && kind == .blockEntry then
      push .indentlessEntry
      return ⟨.sequenceStart props, first.mark⟩
    if props.anchor.isSome || props.tag.isSome then
      return ⟨.scalar props true "", first.mark⟩
    fail .noNodeContent (if inBlock then .blockNode else .flowNode) first.mark t.mark

/-- A node, or an empty one before a token that cannot begin any; then what is expected next. -/
def nodeUnless (ends : List TokenKind) (inBlock indentless : Bool) (next : Expected) :
    Parse Event := do
  let t ← peek
  push next
  if ends.contains t.kind then return .empty t.mark
  node inBlock indentless

def blockEntry (start : Mark) : Parse Event := do
  let t ← peek
  match t.kind with
  | .blockEntry =>
    skip
    nodeUnless [.blockEntry, .blockEnd] true false (.blockEntry start)
  | .blockEnd =>
    skip
    return ⟨.sequenceEnd, t.mark⟩
  | _ => fail .noDash .blockCollection start t.mark

def indentlessEntry : Parse Event := do
  let t ← peek
  match t.kind with
  | .blockEntry =>
    skip
    nodeUnless [.blockEntry, .key, .value, .blockEnd] true false .indentlessEntry
  | _ => return ⟨.sequenceEnd, t.mark⟩

def blockKey (start : Mark) : Parse Event := do
  let t ← peek
  match t.kind with
  | .key =>
    skip
    nodeUnless [.key, .value, .blockEnd] true true (.blockValue start)
  | .blockEnd =>
    skip
    return ⟨.mappingEnd, t.mark⟩
  | _ => fail .noKey .blockMapping start t.mark

def blockValue (start : Mark) : Parse Event := do
  let t ← peek
  match t.kind with
  | .value =>
    skip
    nodeUnless [.key, .value, .blockEnd] true true (.blockKey start)
  | _ =>
    push (.blockKey start)
    return .empty t.mark

def flowEntryNode (start : Mark) : Parse Event := do
  let t ← peek
  match t.kind with
  | .flowSequenceEnd =>
    skip
    return ⟨.sequenceEnd, t.mark⟩
  | .key =>
    skip
    push (.pairKey start)
    return ⟨.mappingStart .none, t.mark⟩
  | _ =>
    push (.flowEntry start false)
    node false false

def flowEntry (start : Mark) (isFirst : Bool) : Parse Event := do
  let t ← peek
  if !isFirst && t.kind != .flowSequenceEnd then
    if t.kind != .flowEntry then
      fail .noCommaOrBracket .flowSequence start t.mark
    skip
  flowEntryNode start

/-- The key of a single pair in a sequence. A token that cannot begin it is passed over. -/
def pairKey (start : Mark) : Parse Event := do
  let t ← peek
  push (.pairValue start)
  if [TokenKind.value, .flowEntry, .flowSequenceEnd].contains t.kind then
    skip
    return .empty t.mark
  node false false

def pairValue (start : Mark) : Parse Event := do
  let t ← peek
  match t.kind with
  | .value =>
    skip
    nodeUnless [.flowEntry, .flowSequenceEnd] false false (.pairEnd start)
  | _ =>
    push (.pairEnd start)
    return .empty t.mark

def pairEnd (start : Mark) : Parse Event := do
  let t ← peek
  push (.flowEntry start false)
  return ⟨.mappingEnd, t.mark⟩

def flowKeyNode (start : Mark) : Parse Event := do
  let t ← peek
  match t.kind with
  | .flowMappingEnd =>
    skip
    return ⟨.mappingEnd, t.mark⟩
  | .key =>
    skip
    nodeUnless [.value, .flowEntry, .flowMappingEnd] false false (.flowValue start)
  | _ =>
    push (.flowEmptyValue start)
    node false false

def flowKey (start : Mark) (isFirst : Bool) : Parse Event := do
  let t ← peek
  if !isFirst && t.kind != .flowMappingEnd then
    if t.kind != .flowEntry then
      fail .noCommaOrBrace .flowMapping start t.mark
    skip
  flowKeyNode start

def flowValue (start : Mark) : Parse Event := do
  let t ← peek
  match t.kind with
  | .value =>
    skip
    nodeUnless [.flowEntry, .flowMappingEnd] false false (.flowKey start false)
  | _ =>
    push (.flowKey start false)
    return .empty t.mark

def flowEmptyValue (start : Mark) : Parse Event := do
  let t ← peek
  push (.flowKey start false)
  return .empty t.mark

def documentContent : Parse Event := do
  let t ← peek
  match t.kind with
  | .version .. | .tagDirective .. | .documentStart | .documentEnd | .streamEnd => return .empty t.mark
  | _ => node true false

def event : Parse (Option Event) := do
  let p ← get
  match p.expected with
  | [] => return none
  | e :: rest =>
    set { p with expected := rest }
    match e with
    | .documentEnd =>
      discard peek
      return none
    | .blockNode => return some (← node true false)
    | .documentContent => return some (← documentContent)
    | .blockEntry start => return some (← blockEntry start)
    | .indentlessEntry => return some (← indentlessEntry)
    | .blockKey start => return some (← blockKey start)
    | .blockValue start => return some (← blockValue start)
    | .flowEntry start isFirst => return some (← flowEntry start isFirst)
    | .pairKey start => return some (← pairKey start)
    | .pairValue start => return some (← pairValue start)
    | .pairEnd start => return some (← pairEnd start)
    | .flowKey start isFirst => return some (← flowKey start isFirst)
    | .flowValue start => return some (← flowValue start)
    | .flowEmptyValue start => return some (← flowEmptyValue start)

end Parse

/-- The events of the first document, what cuts them short, and whether the text holds nothing
more than them. -/
structure EventStream where
  events : Array Event
  fault : Option Fault
  isAlone : Bool

namespace EventStream

def endsHere (p : Parser) : Bool :=
  match p.tokens.dropWhile (·.kind == .documentEnd) with
  | ⟨.streamEnd, _⟩ :: _ => true
  | _ => false

def collect : Nat → Parser → Array Event → EventStream
  | 0, _, events => ⟨events, none, false⟩
  | fuel + 1, p, events =>
    match Parse.event.run p with
    | .error fault => ⟨events, some fault, false⟩
    | .ok (none, p) => ⟨events, none, endsHere p⟩
    | .ok (some e, p) => collect fuel p (events.push e)

/-- A token brings along five events at most. An empty text has none at all. -/
def ofText (text : String) : EventStream :=
  let stream := TokenStream.ofText text
  let p : Parser := ⟨stream.tokens.tail, stream.fault, [], []⟩
  match stream.tokens, Parse.documentStart.run p with
  | _, .error fault => ⟨#[], some fault, false⟩
  | _, .ok (false, _) => ⟨#[], none, true⟩
  | tokens, .ok (true, p) => collect (6 * (tokens.length + 4)) p #[]

end EventStream

end WorkflowCheck.Yaml
