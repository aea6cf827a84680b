import WorkflowCheck.Run.Effect
import WorkflowCheck.Text.Blank

/-! Which notices are shown, and how. A filter is a list of levels, each for the targets that begin
with some name or for all of them; the longest name that fits a target decides. -/

namespace WorkflowCheck.CommandLine

namespace Log

/-- A level as the most that is let through, none for nothing at all. -/
abbrev Threshold := Option Level

def thresholds : List (String × Threshold) :=
  [("off", none), ("error", some .error), ("warn", some .warn), ("info", some .info),
    ("debug", some .debug), ("trace", some .trace)]

def Threshold.parse? (text : String) : Option Threshold :=
  thresholds.lookup (text.map Char.toLower)

def Threshold.admits (t : Threshold) (level : Level) : Bool :=
  match t with
  | none => false
  | some most => level.rank ≤ most.rank

structure Rule where
  /-- Empty for all targets. -/
  target : String
  threshold : Threshold
  deriving DecidableEq, Repr

structure Filter where
  rules : List Rule
  /-- A text that has to occur in every notice. -/
  pattern : Option String
  deriving DecidableEq, Repr

def Filter.ofLevel (level : Level) : Filter := ⟨[⟨"", some level⟩], none⟩

/-- A rule in writing: a level, a target, or both around an equals sign. -/
def Rule.parse? (text : String) : Except String Rule :=
  match text.splitOn "=" with
  | [name] =>
    match Threshold.parse? name with
    | some t => .ok ⟨"", t⟩
    | none => .ok ⟨name, some .trace⟩
  | [name, level] =>
    let level := String.ofList (Text.trim level.toList)
    if level.isEmpty then .ok ⟨name, some .trace⟩
    else match Threshold.parse? level with
      | some t => .ok ⟨name, t⟩
      | none => .error ("invalid logging spec '" ++ level ++ "'")
  | _ => .error ("invalid logging spec '" ++ text ++ "'")

def putRule (rule : Rule) : List Rule → List Rule
  | [] => [rule]
  | r :: rest => if r.target = rule.target then rule :: rest else r :: putRule rule rest

def rulesOf (text : String) : List (Except String Rule) :=
  ((text.splitOn ",").map fun s => String.ofList (Text.trim s.toList)).filter (!·.isEmpty)
    |>.map Rule.parse?

/-- Without any rule only errors are shown. -/
def Filter.ofRules (rules : List Rule) (pattern : Option String) : Filter :=
  if rules.isEmpty then { Filter.ofLevel .error with pattern := pattern }
  else ⟨rules.foldl (fun done rule => putRule rule done) [], pattern⟩

def Filter.parse (text : String) : Filter × List String :=
  match text.splitOn "/" with
  | rules :: rest =>
    if rest.length > 1 then
      (.ofRules [] none, ["invalid logging spec '" ++ text ++ "' (too many '/'s)"])
    else
      let parsed := rulesOf rules
      (.ofRules (parsed.filterMap Except.toOption) rest.head?,
        parsed.filterMap fun
          | .error reason => some reason
          | .ok _ => none)
  | [] => (.ofRules [] none, [])

/-- The rule of the longest name that a target begins with, the last one of several. -/
def Filter.rule? (filter : Filter) (target : String) : Option Rule :=
  filter.rules.foldl
    (fun best rule =>
      if rule.target.isPrefixOf target then
        match best with
        | some b => if rule.target.utf8ByteSize < b.target.utf8ByteSize then best else some rule
        | none => some rule
      else best)
    none

def contains (pattern text : String) : Bool := (text.splitOn pattern).length > 1

def Filter.admits (filter : Filter) (notice : Notice) : Bool :=
  (filter.rule? notice.target).any (·.threshold.admits notice.level) &&
    filter.pattern.all fun p => p.isEmpty || contains p notice.text

def levelText (level : Level) : String :=
  level.name ++ String.ofList (List.replicate (5 - level.name.length) ' ')

/-- Further lines of a notice are set in by four blanks. -/
def line (time : String) (notice : Notice) : String :=
  "[" ++ time ++ " " ++ levelText notice.level ++ " " ++ notice.target ++ "] " ++
    "\n    ".intercalate (notice.text.splitOn "\n") ++ "\n"

end Log

structure Log where
  filter : Log.Filter
  time : String

namespace Log

def announce (log : Log) (notice : Notice) : List Effect :=
  .note notice ::
    if log.filter.admits notice then [.print ⟨.err, line log.time notice⟩] else []

def announced (log : Log) : Effect → List Effect
  | .note notice => log.announce notice
  | effect => [effect]

end Log

end WorkflowCheck.CommandLine
