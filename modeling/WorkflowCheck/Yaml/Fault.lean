import WorkflowCheck.Diagnostic
import WorkflowCheck.Text.Quoted
import WorkflowCheck.Yaml.Mark

/-! Why a text is not one readable YAML document: the causes, where they lie, and their wording. -/

namespace WorkflowCheck.Yaml

inductive Problem where
  | noTokenStart
  | noColon
  | blockSequenceHere
  | mappingKeyHere
  | mappingValueHere
  | unknownDirective
  | noDirectiveName
  | nonAlphabetical
  | noCommentOrBreak
  | noVersionDot
  | longVersion
  | noVersion
  | noBlank
  | noBlankOrBreak
  | noExclamation
  | noNameChar
  | noClosingAngle
  | noTagUri
  | noUriOctet
  | badLeadingOctet
  | badTrailingOctet
  | zeroIndentation
  | tabAsIndentation
  | documentIndicator
  | endOfStream
  | unknownEscape
  | noHexDigit
  | badCharacterCode
  | colonInFlow
  | tabBeforeIndentation
  | noDocumentStart
  | undefinedTagHandle
  | noNodeContent
  | noDash
  | noKey
  | noCommaOrBracket
  | noCommaOrBrace
  | repeatedVersion
  | incompatibleVersion
  | repeatedTagDirective
  deriving DecidableEq, Repr

def Problem.text : Problem → String
  | .noTokenStart => "found character that cannot start any token"
  | .noColon => "could not find expected ':'"
  | .blockSequenceHere => "block sequence entries are not allowed in this context"
  | .mappingKeyHere => "mapping keys are not allowed in this context"
  | .mappingValueHere => "mapping values are not allowed in this context"
  | .unknownDirective => "found unknown directive name"
  | .noDirectiveName => "could not find expected directive name"
  | .nonAlphabetical => "found unexpected non-alphabetical character"
  | .noCommentOrBreak => "did not find expected comment or line break"
  | .noVersionDot => "did not find expected digit or '.' character"
  | .longVersion => "found extremely long version number"
  | .noVersion => "did not find expected version number"
  | .noBlank => "did not find expected whitespace"
  | .noBlankOrBreak => "did not find expected whitespace or line break"
  | .noExclamation => "did not find expected '!'"
  | .noNameChar => "did not find expected alphabetic or numeric character"
  | .noClosingAngle => "did not find the expected '>'"
  | .noTagUri => "did not find expected tag URI"
  | .noUriOctet => "did not find URI escaped octet"
  | .badLeadingOctet => "found an incorrect leading UTF-8 octet"
  | .badTrailingOctet => "found an incorrect trailing UTF-8 octet"
  | .zeroIndentation => "found an indentation indicator equal to 0"
  | .tabAsIndentation => "found a tab character where an indentation space is expected"
  | .documentIndicator => "found unexpected document indicator"
  | .endOfStream => "found unexpected end of stream"
  | .unknownEscape => "found unknown escape character"
  | .noHexDigit => "did not find expected hexadecimal number"
  | .badCharacterCode => "found invalid Unicode character escape code"
  | .colonInFlow => "found unexpected ':'"
  | .tabBeforeIndentation => "found a tab character that violates indentation"
  | .noDocumentStart => "did not find expected <document start>"
  | .undefinedTagHandle => "found undefined tag handle"
  | .noNodeContent => "did not find expected node content"
  | .noDash => "did not find expected '-' indicator"
  | .noKey => "did not find expected key"
  | .noCommaOrBracket => "did not find expected ',' or ']'"
  | .noCommaOrBrace => "did not find expected ',' or '\x7d'"
  | .repeatedVersion => "found duplicate %YAML directive"
  | .incompatibleVersion => "found incompatible YAML document"
  | .repeatedTagDirective => "found duplicate %TAG directive"

inductive Activity where
  | nextToken
  | simpleKey
  | directive
  | versionDirective
  | tagDirective
  | tagDirectiveStart
  | tagDirectiveHandle
  | tagDirectivePrefix
  | anchor
  | alias
  | tag
  | tagUri
  | blockScalar
  | quotedScalar
  | quotedEscape
  | plainScalar
  | node
  | blockNode
  | flowNode
  | blockCollection
  | blockMapping
  | flowSequence
  | flowMapping
  deriving DecidableEq, Repr

def Activity.text : Activity → String
  | .nextToken => "while scanning for the next token"
  | .simpleKey => "while scanning a simple key"
  | .directive => "while scanning a directive"
  | .versionDirective => "while scanning a %YAML directive"
  | .tagDirective => "while scanning a %TAG directive"
  | .tagDirectiveStart => "while scanning a tag directive"
  | .tagDirectiveHandle => "while parsing a tag directive"
  | .tagDirectivePrefix => "while parsing a %TAG directive"
  | .anchor => "while scanning an anchor"
  | .alias => "while scanning an alias"
  | .tag => "while scanning a tag"
  | .tagUri => "while parsing a tag"
  | .blockScalar => "while scanning a block scalar"
  | .quotedScalar => "while scanning a quoted scalar"
  | .quotedEscape => "while parsing a quoted scalar"
  | .plainScalar => "while scanning a plain scalar"
  | .node => "while parsing a node"
  | .blockNode => "while parsing a block node"
  | .flowNode => "while parsing a flow node"
  | .blockCollection => "while parsing a block collection"
  | .blockMapping => "while parsing a block mapping"
  | .flowSequence => "while parsing a flow sequence"
  | .flowMapping => "while parsing a flow mapping"

inductive Trail where
  | root
  | item (parent : Trail) (index : Nat)
  | entry (parent : Trail) (key : String)
  | alias (parent : Trail)
  | unknown (parent : Trail)
  deriving Repr

namespace Trail

def isRoot : Trail → Bool
  | .root => true
  | _ => false

def text : Trail → String
  | .root => "."
  | .item parent index => parent.text ++ "[" ++ toString index ++ "]"
  | .entry parent key => if parent.isRoot then key else parent.text ++ "." ++ key
  | .alias parent => parent.text
  | .unknown parent => if parent.isRoot then "?" else parent.text ++ ".?"

end Trail

/-- What is wrong about a node that the grammar admits. -/
inductive Misfit where
  /-- A tag that stands for a type of its own. -/
  | customTag
  /-- A key that is a sequence or a mapping; the first key of a mapping is told apart. -/
  | collectionKey (isSequence isFirst : Bool)
  /-- A scalar whose text is not of the type that its tag asks for. -/
  | wrongScalar (text expected : String)
  | numberRange
  deriving Repr

def Misfit.text : Misfit → String
  | .customTag => "invalid type: enum, expected any valid JSON value"
  | .collectionKey isSequence isFirst =>
    "invalid type: " ++ (if isSequence then "sequence" else "map") ++ ", expected " ++
      (if isFirst then "a string key" else "a string")
  | .wrongScalar text expected =>
    "invalid value: string " ++ Text.quoted text ++ ", expected " ++ expected
  | .numberRange => "JSON number out of range"

inductive Fault where
  | forbiddenCharacter (offset : Nat)
  | grammar (problem : Problem) (mark : Mark) (context : Option (Activity × Mark))
  | misfit (reason : Misfit) (mark : Mark) (trail : Trail)
  | unknownAnchor (mark : Mark)
  | tooDeep (mark : Mark)
  | tooManyRepeats
  | severalDocuments
  deriving Repr

namespace Fault

def atMark (mark : Mark) : String :=
  if mark.isFirst then "" else s!" at line {mark.line + 1} column {mark.column + 1}"

/-- The context of a problem. Its place is left out where it is that of the problem. -/
def contextText (problem : Mark) : Option (Activity × Mark) → String
  | none => ""
  | some (activity, mark) =>
    ", " ++ activity.text ++
      if mark.line = problem.line ∧ mark.column = problem.column then "" else atMark mark

def message : Fault → String
  | .forbiddenCharacter offset =>
    "control characters are not allowed" ++ if offset = 0 then "" else s!" at position {offset}"
  | .grammar problem mark context => problem.text ++ atMark mark ++ contextText mark context
  | .misfit reason mark trail =>
    (if trail.text = "." then "" else trail.text ++ ": ") ++ reason.text ++ atMark mark
  | .unknownAnchor mark => "unknown anchor" ++ atMark mark
  | .tooDeep mark => "recursion limit exceeded" ++ atMark mark
  | .tooManyRepeats => "repetition limit exceeded"
  | .severalDocuments =>
    "deserializing from YAML containing more than one document is not supported"

def locate (mark : Mark) : Location :=
  ⟨UInt64.ofNat mark.index, UInt64.ofNat (mark.line + 1), UInt64.ofNat (mark.column + 1)⟩

def location? : Fault → Option Location
  | .forbiddenCharacter _ => some (locate .start)
  | .grammar _ mark _ => some (locate mark)
  | .misfit _ mark _ => some (locate mark)
  | .unknownAnchor mark => some (locate mark)
  | .tooDeep mark => some (locate mark)
  | .tooManyRepeats => none
  | .severalDocuments => none

end Fault

end WorkflowCheck.Yaml
