import WorkflowCheck.CommandLine.Command

/-! Arguments taken apart. Options may be short and run together, or long with their value behind
an equals sign or in the next argument; two dashes alone end them. The value of an option is
looked at when the next argument shows that it is complete. -/

namespace WorkflowCheck.CommandLine

inductive Reply where
  | help (long : Bool)
  | version
  /-- There are no arguments where some are needed. -/
  | bare
  | refuse (fault : UsageFault)
  deriving DecidableEq, Repr

/-- An option or operand whose value may still be missing. -/
inductive Pending where
  | option (parameter : Parameter) (value : Option Bytes)
  | operand (value : Bytes)
  deriving DecidableEq, Repr

structure Arguments where
  options : List (Parameter × Bytes)
  operand : Option Bytes
  pending : Option Pending
  deriving DecidableEq, Repr

namespace Arguments

def empty : Arguments := ⟨[], none, none⟩

def used (a : Arguments) : List Parameter := a.options.map (·.1)

def has (a : Arguments) (long : String) : Bool := a.used.any (·.long == long)

def value? (a : Arguments) (long : String) : Option Bytes :=
  (a.options.find? (·.1.long == long)).map (·.2)

def refuse {α : Type} (fault : UsageFault) : Except Reply α := .error (.refuse fault)

def checkValue (p : Parameter) (kind : ValueKind) (value : Bytes) : Except Reply Unit :=
  match kind with
  | .path => if value = [] then refuse (.missingValue p.display []) else .ok ()
  | .text => if (Text.decode? value).isSome then .ok () else refuse .notText
  | .choice names =>
    if names.any (Text.encode · == value) then .ok ()
    else if value = [] then refuse (.missingValue p.display names)
    else refuse (.wrongChoice (Text.display value) p)

def complete (a : Arguments) (p : Parameter) (value : Option Bytes) (long : Bool) :
    Except Reply Arguments :=
  match p.role, value with
  | .help, _ => .error (.help long)
  | .version, _ => .error .version
  | .flag, _ =>
    if a.has p.long then refuse (.repeated p)
    else .ok { a with options := a.options ++ [(p, [])] }
  | .valued _ _, none => refuse (.missingValue p.display p.choices)
  | .valued kind _, some v => do
    if a.has p.long then refuse (.repeated p)
    checkValue p kind v
    .ok { a with options := a.options ++ [(p, v)] }

def settle (operandDisplay : String) (a : Arguments) : Except Reply Arguments :=
  match a.pending with
  | none => .ok a
  | some (.option p value) => { a with pending := none }.complete p value true
  | some (.operand value) =>
    if value = [] then refuse (.missingValue operandDisplay [])
    else .ok { a with operand := some value, pending := none }

/-- The options so far, with one that is pending if it has a value, be it of the right kind or not.
One that is given again does not count at all. -/
def usedOptions (a : Arguments) : List Parameter :=
  match a.pending with
  | some (.option p (some _)) =>
    if a.has p.long then a.used.filter (·.long != p.long) else a.used ++ [p]
  | _ => a.used

def hasOperand (a : Arguments) : Bool := a.operand.isSome || a.pending matches some (.operand _)

end Arguments

namespace Command

variable (c : Command)

def settle (a : Arguments) : Except Reply Arguments :=
  a.settle (String.join c.operandText)

def asOperand : Bool := c.operand.isSome

def unknownLong (a : Arguments) (name : String) : Except Reply Arguments :=
  let similar := (Likeness.best? name (c.parameters.map (·.long))).bind c.byLong?
  let options := a.usedOptions ++ similar.toList
  Arguments.refuse <|
    .unexpected ("--" ++ name) similar c.asOperand
      (if options.isEmpty && !a.hasOperand then none else some options)

def equals : UInt8 := 0x3D

def takeLong (a : Arguments) (text : Bytes) : Except Reply Arguments :=
  let name := text.takeWhile (· != equals)
  let value := (text.dropWhile (· != equals)).tail?
  match (Text.decode? name).bind c.byLong? with
  | none => c.unknownLong a (Text.display name)
  | some p =>
    match p.role, value with
    | .valued _ _, none => do
      .ok { (← c.settle a) with pending := some (.option p none) }
    | .valued _ _, some v => do
      (← c.settle a).complete p (some v) true
    | _, some v =>
      Arguments.refuse (.unexpectedValue (Text.display v) p (a.used ++ [p]))
    | _, none => do
      (← c.settle a).complete p none true

/-- Short options run together, as far as they are texts. -/
def takeShorts (a : Arguments) : List Char → Except Reply Arguments
  | [] => .ok a
  | s :: rest =>
    match c.byShort? s with
    | some p => do
      takeShorts (← (← c.settle a).complete p none false) rest
    | none =>
      Arguments.refuse (.unexpected (String.ofList ['-', s]) none c.asOperand none)

/-- The longest text at the front of some bytes, and the bytes after it. -/
def textPart : Bytes → List Char × Bytes
  | [] => ([], [])
  | b :: rest =>
    match Text.sequence b rest with
    | (n, some ch) =>
      let (chars, bytes) := textPart (rest.drop n)
      (ch :: chars, bytes)
    | (_, none) => ([], b :: rest)
termination_by bytes => bytes.length
decreasing_by simp only [List.length_drop, List.length_cons]; omega

def takeShort (a : Arguments) (text : Bytes) : Except Reply Arguments := do
  let (chars, bytes) := textPart text
  let a ← c.takeShorts a chars
  if bytes = [] then .ok a
  else Arguments.refuse (.unexpected ("-" ++ Text.display bytes) none c.asOperand none)

def takeOperand (a : Arguments) (argument : Bytes) : Except Reply Arguments := do
  if c.operand.isSome && !a.hasOperand then
    .ok { (← c.settle a) with pending := some (.operand argument) }
  else Arguments.refuse (.unexpected (Text.display argument) none false none)

def dash : UInt8 := 0x2D

/-- All arguments in order; after two dashes alone, none of them is an option. -/
def takeAll (a : Arguments) (ended : Bool) : List Bytes → Except Reply Arguments
  | [] => c.settle a
  | argument :: rest =>
    if ended then do
      takeAll (← c.takeOperand a argument) true rest
    else if argument = [dash, dash] then takeAll a true rest
    else
      let taken :=
        match argument, a.pending with
        | 0x2D :: 0x2D :: text, _ => c.takeLong a text
        | 0x2D :: s :: text, _ => c.takeShort a (s :: text)
        | _, some (.option p none) =>
          .ok { a with pending := some (.option p (some argument)) }
        | _, _ => c.takeOperand a argument
      do takeAll (← taken) false rest

def parse (arguments : List Bytes) : Except Reply Arguments := do
  let a ← c.takeAll .empty false arguments
  if c.operand.isNone || a.operand.isSome then .ok a
  else if a.options.isEmpty then .error .bare
  else Arguments.refuse (.missingOperand a.used)

end Command

end WorkflowCheck.CommandLine
