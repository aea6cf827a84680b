import WorkflowCheck.CommandLine.SingleFile
import WorkflowCheck.Proofs.Run.Independence

/-! The program for a single file and a run of all fixtures. Given the document of a case, the
program prints nothing but the snapshot that a run compares for that case, and that only where
there are faults. -/

namespace WorkflowCheck

namespace CommandLine

/-- After two dashes a path is the operand, whatever it begins with. -/
theorem Command.parse_dashes {c : Command} (hc : c.operand.isSome = true) {path : Bytes}
    (hp : path ≠ []) : c.parse [[dash, dash], path] = .ok ⟨[], some path, none⟩ := by
  have htake : c.takeOperand .empty path = .ok ⟨[], none, some (.operand path)⟩ := by
    simp [takeOperand, hc, Arguments.hasOperand, Arguments.empty, settle, Arguments.settle]
  have hsettle : c.settle ⟨[], none, some (.operand path)⟩ = .ok ⟨[], some path, none⟩ := by
    simp [settle, Arguments.settle, hp]
  simp [parse, takeAll, htake, hsettle]

namespace Log

theorem Filter.admits_ofLevel (level : Level) (notice : Notice) :
    (Filter.ofLevel level).admits notice = decide (notice.level.rank ≤ level.rank) := by
  have hrule : (Filter.ofLevel level).rule? notice.target = some ⟨"", some level⟩ := by
    simp [Filter.ofLevel, Filter.rule?, String.isPrefixOf]
  rw [Filter.admits, hrule]
  simp [Filter.ofLevel, Threshold.admits]

variable {log : Log}

theorem announced_of_quiet {effects : List Effect}
    (h : ∀ notice, .note notice ∈ effects → log.filter.admits notice = false) :
    effects.flatMap log.announced = effects := by
  induction effects with
  | nil => rfl
  | cons e rest ih =>
    have hrest : rest.flatMap log.announced = rest :=
      ih fun notice hn => h notice (List.mem_cons_of_mem _ hn)
    rw [List.flatMap_cons, hrest]
    cases e with
    | note notice => simp [announced, announce, h notice List.mem_cons_self]
    | print print => rfl
    | save path text => rfl

end Log

end CommandLine

namespace Engine

theorem level_of_mem_notices_builtin {kind : Kind} {text : String} {notice : Notice}
    (h : notice ∈ builtin.notices kind text) : notice.level = .debug := by
  unfold notices builtin at h
  dsimp only at h
  split at h
  · next value _ =>
    rcases List.mem_append.mp h with h | h
    · unfold Rules.notices at h
      split at h
      · cases List.mem_singleton.mp h
        rfl
      · exact absurd h List.not_mem_nil
    · cases List.mem_singleton.mp h
      rfl
  · cases List.mem_singleton.mp h
    rfl

end Engine

namespace FileTree

variable {t : FileTree} {path : Bytes} {text : String}

theorem has_of_readText (h : t.readText path = .ok text) : t.has path = true := by
  obtain ⟨p, hp⟩ := read_eq_ok.mp (readText_eq_ok.mp h)
  simp [has, hp, Except.toBool]

theorem ne_nil_of_readText (h : t.readText path = .ok text) : path ≠ [] := by
  rintro rfl
  obtain ⟨p, hp⟩ := read_eq_ok.mp (readText_eq_ok.mp h)
  simp [entry, arrive] at hp

end FileTree

namespace CommandLine.SingleFile

variable {path : Bytes} {text : String} {start : Start} {w : World}

/-- What is said about a state: the text of its snapshot, if there are faults. -/
def complaint (state : State) : List Report.Print :=
  if state.isValid then [] else [⟨.err, state.snapshot⟩]

theorem checkText_eq (path : Bytes) (text : String) :
    let kind := Kind.ofPath path
    let state := Engine.builtin.validate kind text
    checkText path text =
      ((.treating (displayName path) kind :: Engine.builtin.notices kind text).map .note ++
        (complaint state).map .print, state.isValid) := by
  dsimp only [complaint]
  rw [apply_ite (List.map Effect.print), State.snapshot_eq]
  rfl

theorem rank_lt_of_note_mem_checkText {notice : Notice}
    (h : .note notice ∈ (checkText path text).1) : Level.warn.rank < notice.level.rank := by
  have hmem : notice ∈ .treating (displayName path) (Kind.ofPath path) ::
      Engine.builtin.notices (Kind.ofPath path) text := by
    simpa [checkText_eq] using h
  -- The word about the kind is for those who want to know more, and the engine speaks lower still.
  rcases List.mem_cons.mp hmem with rfl | hmem
  · exact Nat.lt_succ_self _
  · rw [Engine.level_of_mem_notices_builtin hmem]
    decide

/-- A file that can be read is checked, and nothing is printed beside the result. -/
theorem run_operand (harguments : start.arguments = [Text.encode "--", path])
    (hlog : start.environment.text? "RUST_LOG" = none) (hread : w.tree.readText path = .ok text) :
    run start w = ⟨(w.performAll (checkText path text).1).1, (checkText path text).2⟩ := by
  have hparse : command.parse start.arguments = .ok ⟨[], some path, none⟩ := by
    rw [harguments]
    exact Command.parse_dashes rfl (FileTree.ne_nil_of_readText hread)
  have hcheck : check w.tree path = checkText path text := by
    simp [check, FileTree.has_of_readText hread, hread]
  have hfilter : Log.ofEnvironment start.environment .warn start.time =
      (⟨.ofLevel .warn, start.time⟩, []) := by
    simp [Log.ofEnvironment, hlog]
  have hquiet : (checkText path text).1.flatMap (Log.announced ⟨.ofLevel .warn, start.time⟩) =
      (checkText path text).1 := by
    refine Log.announced_of_quiet fun notice hn => ?_
    rw [Log.Filter.admits_ofLevel, decide_eq_false_iff_not, Nat.not_le]
    exact rank_lt_of_note_mem_checkText hn
  have hverbose : Arguments.has ⟨[], some path, none⟩ "verbose" = false := rfl
  simp only [run, hparse, hverbose, Bool.false_eq_true, if_false, hfilter, Option.getD_some, hcheck,
    hquiet, List.nil_append]

theorem output_checkText (path : Bytes) (text : String) (t : FileTree) (notices : List Notice)
    (channel : Report.Channel) :
    (World.performAll ⟨t, .ofLimits none none, notices⟩ (checkText path text).1).1.output channel =
      Report.bytesOn channel (complaint (Engine.builtin.validate (Kind.ofPath path) text)) := by
  have hwrite : t.writeAll (saves (checkText path text).1) = .ok t := by
    simp [checkText_eq, FileTree.writeAll]
  obtain ⟨w, hperform, houtput⟩ := World.exists_performAll_of_unlimited t notices hwrite
  rw [hperform, houtput, checkText_eq]
  simp

/-- The program and a run agree on every case: given the document of a case that a run finds, the
program has success if there are no faults, and otherwise prints to the second stream what a run
takes for the new snapshot of that case. It prints nothing else. -/
theorem agrees_with_run {t : FileTree} {root snapshotFile : Bytes} {cases : List FixtureCase}
    (hcases : (Discovery.discover t root snapshotFile).result = .ok cases) {c : FixtureCase}
    (hc : c ∈ cases) {start : Start} (harguments : start.arguments = [Text.encode "--", c.document])
    (hlog : start.environment.text? "RUST_LOG" = none) (notices : List Notice)
    (palette : Report.Palette) (mode : Mode) :
    let ending := run start ⟨t, .ofLimits none none, notices⟩
    let errors := (Engine.builtin.validate c.kind c.documentText).errors
    ending.world.output .out = [] ∧
      (errors = [] → ending.success = true ∧ ending.world.output .err = []) ∧
      (errors ≠ [] → ending.success = false ∧
        ending.world.output .err = Text.encode ((Runner.mk .builtin palette).outcome mode c).text) := by
  obtain ⟨_, hfound⟩ := Discovery.exists_found_of_mem hcases hc
  intro ending errors
  have hending : ending = _ := run_operand harguments hlog hfound.documentText
  have houtput := output_checkText c.document c.documentText t notices
  rw [hending]
  dsimp only
  rw [houtput, houtput, checkText_eq]
  generalize hstate : Engine.builtin.validate (Kind.ofPath c.document) c.documentText = state
  have herrors : errors = state.errors := congrArg State.errors hstate
  have htext : ((Runner.mk .builtin palette).outcome mode c).text = state.snapshot :=
    congrArg State.snapshot hstate
  rw [herrors, htext]
  cases hvalid : state.errors with
  | nil => simp [complaint, State.isValid, hvalid, Report.bytesOn]
  | cons d rest => simp [complaint, State.isValid, hvalid, Report.bytesOn]

end CommandLine.SingleFile

namespace Dangling

open Yaml (EventStream Itinerary StepKind)

/-- Nothing says when this workflow starts, and its only job needs one that is not there. -/
def text : String := "{on: 1, jobs: {a: {needs: b}}}"

def document : Value :=
  .object [("on", .number "1"), ("jobs", .object [("a", .object [("needs", .string "b")])])]

def faults : List Diagnostic :=
  [Rules.noneOf "/on" ["string", "array", "object"] (.number "1"),
    Rules.unresolvedJob "/jobs/a/needs" "b"]

def step (index : Nat) (kind : StepKind) : Yaml.Step := ⟨kind, ⟨index, 0, index⟩⟩

def steps : Array Yaml.Step :=
  #[step 0 (.mappingStart none), step 1 (.scalar none true "on"), step 5 (.scalar none true "1"),
    step 8 (.scalar none true "jobs"), step 14 (.mappingStart none),
    step 15 (.scalar none true "a"), step 18 (.mappingStart none),
    step 19 (.scalar none true "needs"), step 26 (.scalar none true "b"), step 27 .mappingEnd,
    step 28 .mappingEnd, step 29 .mappingEnd]

theorem value_steps : (Itinerary.mk steps #[] none).value Yaml.depthLimit .root ⟨0, 0⟩ =
    .ok (document, ⟨12, 0⟩) := by
  have hnumber : Yaml.Scalar.value none true "1" = .ok (.number "1") := rfl
  have htext : Yaml.Scalar.value none true "b" = .ok (.string "b") := rfl
  simp [steps, step, document, Yaml.depthLimit, Itinerary.value, Itinerary.node, Itinerary.entries,
    Itinerary.key, Itinerary.plainKey, Itinerary.step, Itinerary.Progress.next,
    Yaml.Scalar.isCustom, hnumber, htext, bind, Except.bind, pure, Except.pure]

theorem read_text : Yaml.read text = .ok document := by
  have hsteps : Itinerary.ofEvents (EventStream.ofText text) = ⟨steps, #[], none⟩ := by cbv
  have halone : (EventStream.ofText text).isAlone = true := by decide +kernel
  have hsome : steps.isEmpty = false := rfl
  simp only [Yaml.read, hsteps, halone, hsome, value_steps]
  rfl

def tree : FileTree where
  entries :=
    [("r", .directory), ("r/a", .directory), ("r/a/x.yml", .file (Text.encode text)),
      ("r/a/s", .file (Text.encode "old\n"))].map fun e => (Path.split (Text.encode e.1), e.2)
  working := []

def fixture : FixtureCase := ⟨Text.encode "r/a/x.yml", text, Text.encode "r/a/s", "old\n"⟩

def start : CommandLine.Start where
  arguments := [Text.encode "--", fixture.document]
  environment := []
  terminal := false
  time := ""
  timing := ⟨.epoch, .ofNat 0⟩

theorem errors_fixture :
    (Engine.builtin.validate fixture.kind fixture.documentText).errors = faults := by
  have hkind : fixture.kind = .workflow := by cbv
  have htext : fixture.documentText = text := rfl
  have hcheck : Rules.check .workflow document.sorted = faults := by cbv
  simp only [hkind, htext, Engine.validate, Engine.builtin, read_text, Engine.examineValue, hcheck]

end Dangling

/-- Two faults of a workflow, one of them told with nested states. -/
theorem dangling_agrees_with_run :
    (Discovery.discover Dangling.tree (Text.encode "r") (Text.encode "s")).result =
        .ok [Dangling.fixture] ∧
      (Engine.builtin.validate Dangling.fixture.kind Dangling.fixture.documentText).errors =
        Dangling.faults ∧
      let ending := CommandLine.SingleFile.run Dangling.start ⟨Dangling.tree, .ofLimits none none, []⟩
      ending.success = false ∧ ending.world.output .out = [] ∧ ending.world.output .err =
        Text.encode ((Runner.mk .builtin .none).outcome .check Dangling.fixture).text := by
  have hcases : (Discovery.discover Dangling.tree (Text.encode "r") (Text.encode "s")).result =
      .ok [Dangling.fixture] := by cbv
  have harguments : Dangling.start.arguments = [Text.encode "--", Dangling.fixture.document] := rfl
  obtain ⟨hout, -, herr⟩ := CommandLine.SingleFile.agrees_with_run hcases List.mem_cons_self
    harguments rfl [] .none .check
  have hfaulty : Dangling.faults ≠ [] := List.cons_ne_nil _ _
  obtain ⟨hfailed, hsnapshot⟩ := herr (Dangling.errors_fixture ▸ hfaulty)
  exact ⟨hcases, Dangling.errors_fixture, hfailed, hout, hsnapshot⟩

end WorkflowCheck
