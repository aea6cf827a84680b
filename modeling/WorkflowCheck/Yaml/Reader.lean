import WorkflowCheck.Yaml.Event
import WorkflowCheck.Yaml.Scalar

/-! The value of the one document that a text holds. Aliases are followed each time they are met. -/

namespace WorkflowCheck.Yaml

/-- An event with its alias resolved to a number; anchors have been taken off. -/
inductive StepKind where
  | alias (number : Nat)
  | scalar (tag : Option Bytes) (isPlain : Bool) (text : String)
  | sequenceStart (tag : Option Bytes)
  | sequenceEnd
  | mappingStart (tag : Option Bytes)
  | mappingEnd
  deriving Inhabited

structure Step where
  kind : StepKind
  mark : Mark
  deriving Inhabited

/-- The steps through a document, the step at which each alias number begins, and what cuts the
steps short. -/
structure Itinerary where
  steps : Array Step
  targets : Array Nat
  fault : Option Fault

namespace Itinerary

structure Draft where
  steps : Array Step
  targets : Array Nat
  anchors : List (String × Nat)

/-- A new anchor gets the number of anchor names known so far, and takes the place of any other
anchor of that number. -/
def Draft.note (d : Draft) : Option String → Draft
  | none => d
  | some name =>
    let number := d.anchors.length
    let anchors := (name, number) :: d.anchors.filter (·.1 != name)
    let position := d.steps.size
    { d with
      anchors := anchors
      targets :=
        if number < d.targets.size then d.targets.setIfInBounds number position
        else d.targets.push position }

def Draft.add (d : Draft) (kind : StepKind) (mark : Mark) : Draft :=
  { d with steps := d.steps.push ⟨kind, mark⟩ }

/-- Takes in events up to an alias whose anchor is not known. -/
def take (fault : Option Fault) : List Event → Draft → Itinerary
  | [], d => ⟨d.steps, d.targets, fault⟩
  | e :: rest, d =>
    match e.kind with
    | .alias name =>
      match d.anchors.lookup name with
      | some number => take fault rest (d.add (.alias number) e.mark)
      | none => ⟨d.steps, d.targets, some (.unknownAnchor e.mark)⟩
    | .scalar p isPlain text => take fault rest ((d.note p.anchor).add (.scalar p.tag isPlain text) e.mark)
    | .sequenceStart p => take fault rest ((d.note p.anchor).add (.sequenceStart p.tag) e.mark)
    | .sequenceEnd => take fault rest (d.add .sequenceEnd e.mark)
    | .mappingStart p => take fault rest ((d.note p.anchor).add (.mappingStart p.tag) e.mark)
    | .mappingEnd => take fault rest (d.add .mappingEnd e.mark)

def ofEvents (stream : EventStream) : Itinerary :=
  take stream.fault stream.events.toList ⟨#[], #[], []⟩

/-- How far reading has come: the next step, and how often an alias has been followed. -/
structure Progress where
  position : Nat
  jumps : Nat

def step (it : Itinerary) (p : Progress) : Except Fault Step :=
  match it.steps[p.position]?, it.fault with
  | some s, _ => .ok s
  | none, some fault => .error fault
  | none, none => .error .severalDocuments

def Progress.next (p : Progress) : Progress := { p with position := p.position + 1 }

def jump (it : Itinerary) (number : Nat) (p : Progress) : Except Fault Progress :=
  if p.jumps + 1 > it.steps.size * 100 then .error .tooManyRepeats
  else .ok ⟨it.targets.getD number 0, p.jumps + 1⟩

def Progress.back (here after : Progress) : Progress := ⟨here.position + 1, after.jumps⟩

def keyFault (isSequence isFirst : Bool) (mark : Mark) (trail : Trail) : Fault :=
  .misfit (.collectionKey isSequence isFirst) mark trail

def plainKey (it : Itinerary) (isFirst : Bool) (trail : Trail) (p : Progress) :
    Except Fault String := do
  let s ← it.step p
  match s.kind with
  | .scalar _ _ text => return text
  | .sequenceStart _ => throw (keyFault true isFirst s.mark trail)
  | _ => throw (keyFault false isFirst s.mark trail)

def key (it : Itinerary) (isFirst : Bool) (trail : Trail) (p : Progress) :
    Except Fault (String × Trail × Progress) := do
  match (← it.step p).kind with
  | .alias number =>
    let q ← it.jump number p
    return (← it.plainKey isFirst trail q, .unknown trail, p.back q)
  | _ =>
    let text ← it.plainKey isFirst trail p
    return (text, .entry trail text, p.next)

mutual

/-- The value of the node at a position, which nests at most `depth` collections. -/
def value (it : Itinerary) (depth : Nat) (trail : Trail) (p : Progress) :
    Except Fault (Value × Progress) := do
  match (← it.step p).kind with
  | .alias number =>
    let q ← it.jump number p
    let (v, q) ← it.node depth (.alias trail) q
    return (v, p.back q)
  | _ => it.node depth trail p
termination_by (depth, 1)

def node (it : Itinerary) (depth : Nat) (trail : Trail) (p : Progress) :
    Except Fault (Value × Progress) := do
  let s ← it.step p
  match s.kind, depth with
  | .scalar tag isPlain text, _ =>
    match Scalar.value tag isPlain text with
    | .ok v => return (v, p.next)
    | .error misfit => throw (.misfit misfit s.mark trail)
  | .sequenceStart tag, depth =>
    if Scalar.isCustom tag then
      throw (.misfit .customTag s.mark trail)
    match depth with
    | 0 => throw (.tooDeep s.mark)
    | depth + 1 =>
      let (vs, q) ← it.items depth (it.steps.size + 1) trail 0 p.next
      return (.array vs, q)
  | .mappingStart tag, depth =>
    if Scalar.isCustom tag then
      throw (.misfit .customTag s.mark trail)
    match depth with
    | 0 => throw (.tooDeep s.mark)
    | depth + 1 =>
      let (es, q) ← it.entries depth (it.steps.size + 1) trail true p.next
      return (.object es, q)
  | _, _ => throw .severalDocuments
termination_by (depth, 0)

def items (it : Itinerary) (depth fuel : Nat) (trail : Trail) (index : Nat) (p : Progress) :
    Except Fault (List Value × Progress) := do
  match fuel with
  | 0 => throw .tooManyRepeats
  | fuel + 1 =>
    match (← it.step p).kind with
    | .sequenceEnd => return ([], p.next)
    | _ =>
      let (v, q) ← it.value depth (.item trail index) p
      let (vs, q) ← it.items depth fuel trail (index + 1) q
      return (v :: vs, q)
termination_by (depth, fuel + 2)

def entries (it : Itinerary) (depth fuel : Nat) (trail : Trail) (isFirst : Bool) (p : Progress) :
    Except Fault (List (String × Value) × Progress) := do
  match fuel with
  | 0 => throw .tooManyRepeats
  | fuel + 1 =>
    match (← it.step p).kind with
    | .mappingEnd => return ([], p.next)
    | _ =>
      let (k, below, q) ← it.key isFirst trail p
      let (v, q) ← it.value depth below q
      let (es, q) ← it.entries depth fuel trail false q
      return ((k, v) :: es, q)
termination_by (depth, fuel + 2)

end

end Itinerary

def depthLimit : Nat := 128

/-- Reads a text that holds one document, or none, which stands for null. The entries of mappings
stay in the order of the text, with repeats. -/
def read (text : String) : Except Fault Value := do
  let stream := EventStream.ofText text
  let it := Itinerary.ofEvents stream
  let v ←
    if it.steps.isEmpty && it.fault.isNone then pure .null
    else (·.1) <$> it.value depthLimit .root ⟨0, 0⟩
  match it.fault with
  | some fault => throw fault
  | none => if stream.isAlone then return v else throw .severalDocuments

end WorkflowCheck.Yaml
