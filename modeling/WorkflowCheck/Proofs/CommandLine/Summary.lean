import WorkflowCheck.Proofs.CommandLine.Snapshots
import WorkflowCheck.Proofs.Outcome.Roundtrip

/-! The summary that the program prints when it is asked for one. It follows the report as a single
JSON text and names the outcomes of the run, unless a path in it is no text: then there is no summary,
which is complained about and changes nothing else. -/

namespace WorkflowCheck

open Report (bytesOn)

/-- Both paths of a fixture are texts. -/
def FixtureCase.Textual (c : FixtureCase) : Prop :=
  (Text.decode? c.document).isSome = true ∧ (Text.decode? c.snapshot).isSome = true

namespace CommandLine.Snapshots

def complaint : String :=
  "Unable to serialize run summary: path contains invalid UTF-8 characters\n"

variable {start : Start} {a : Arguments} {w : World} {summary : Summary}

theorem output_printJson_of_textual (hu : w.streams.Unlimited) (hclock : summary.timing.Clocked)
    (h : ∀ o ∈ summary.outcomes, o.Textual) :
    ∃ text back, (printJson summary w).output .out = w.output .out ++ Text.encode text ∧
      Json.decode Summary.shape.decode text = .ok back ∧ back.mode = summary.mode ∧
      back.outcomes = summary.outcomes.map Outcome.listed := by
  obtain ⟨v, hv⟩ := Summary.exists_toValue?_iff.mpr h
  obtain ⟨back, hdecode, hmode, houtcomes⟩ := Summary.exists_decode_prettyText hclock hv
  refine ⟨_, back, ?_, hdecode, hmode, houtcomes⟩
  simp only [printJson, hv]
  rw [(say_eq hu _ _).2 .out, Report.bytesOn_singleton, if_pos rfl]

theorem output_printJson_of_not_textual (hu : w.streams.Unlimited)
    (h : ¬∀ o ∈ summary.outcomes, o.Textual) :
    (printJson summary w).output .out = w.output .out ∧
      (printJson summary w).output .err = w.output .err ++ Text.encode complaint := by
  have hnone : summary.toValue? = none := by
    rw [← Option.not_isSome_iff_eq_none, Option.isSome_iff_exists, Summary.exists_toValue?_iff]
    exact h
  simp only [printJson, hnone]
  constructor
  · rw [(say_eq hu _ _).2 .out, Report.bytesOn_singleton, if_neg (by decide), List.append_nil]
  · rw [(say_eq hu _ _).2 .err, Report.bytesOn_singleton, if_pos rfl]
    rfl

def summaryOf (start : Start) (a : Arguments) (cases : List FixtureCase) : Summary :=
  ⟨(configOf start a).mode, start.timing, cases.map ((runnerOf start a).outcome (configOf start a).mode)⟩

theorem textual_summaryOf_iff {cases : List FixtureCase} :
    (∀ o ∈ (summaryOf start a cases).outcomes, o.Textual) ↔ ∀ c ∈ cases, c.Textual := by
  rw [summaryOf, List.forall_mem_map]
  rfl

theorem exists_run_eq_printJson (hparse : command.parse start.arguments = .ok a)
    (hjson : a.has "json" = true) {t : FileTree} {cases : List FixtureCase}
    (hfound : found start a t = .ok cases) (notices : List Notice) :
    let world : World := ⟨t, .ofLimits none none, notices⟩
    let summary := summaryOf start a cases
    ∃ w v, (runnerOf start a).run (configOf start a) start.timing world = (w, .ok summary) ∧
      run start world = ⟨printJson summary v, summary.passed⟩ ∧ v.streams.Unlimited ∧
      v.output .out =
        w.output .out ++ bytesOn .out (Report.summary (runnerOf start a).palette summary) := by
  intro world summary
  obtain ⟨w, v, hrun, hending, -, hu, hout⟩ := exists_run_eq hparse t notices
  have hresult : (planOf start a t).result = .ok summary := by
    rw [planOf, Runner.plan_of_found start.timing hfound]
    rfl
  rw [hresult] at hrun hending
  obtain ⟨-, hunlimited, hreport⟩ := printSummary_eq hu (runnerOf start a).palette summary
  refine ⟨w, printSummary (runnerOf start a).palette summary v, hrun, ?_, hunlimited, ?_⟩
  · rw [hending, finish, if_pos hjson]
  · rw [hreport, hout]

/-- Asked for its summary, the program prints it behind the report if all paths of the fixtures are
texts. Otherwise it ends on the second stream with a complaint, and by the same verdict. -/
theorem summary_follows_report (hparse : command.parse start.arguments = .ok a)
    (hjson : a.has "json" = true) (hclock : start.timing.Clocked) {t : FileTree}
    {cases : List FixtureCase} (hfound : found start a t = .ok cases) (notices : List Notice) :
    let world : World := ⟨t, .ofLimits none none, notices⟩
    ∃ w summary, (runnerOf start a).run (configOf start a) start.timing world = (w, .ok summary) ∧
      summary.mode = (configOf start a).mode ∧
      summary.Tells .builtin (configOf start a).mode cases ∧
      (run start world).success = summary.passed ∧
      let report := w.output .out ++ bytesOn .out (Report.summary (runnerOf start a).palette summary)
      let after := (run start world).world
      ((∀ c ∈ cases, c.Textual) → ∃ text back, after.output .out = report ++ Text.encode text ∧
        Json.decode Summary.shape.decode text = .ok back ∧ back.mode = summary.mode ∧
        back.outcomes = summary.outcomes.map Outcome.listed) ∧
      ((¬∀ c ∈ cases, c.Textual) → after.output .out = report ∧
        Text.encode complaint <:+ after.output .err) := by
  intro world
  obtain ⟨w, v, hrun, hending, hu, hreport⟩ := exists_run_eq_printJson hparse hjson hfound notices
  have htells := (runnerOf start a).tells_summary (configOf start a).mode start.timing cases
  refine ⟨w, summaryOf start a cases, hrun, rfl, htells, congrArg Ending.success hending, ?_, ?_⟩
  · intro h
    obtain ⟨text, back, hprinted, hread⟩ :=
      output_printJson_of_textual hu hclock (textual_summaryOf_iff.mpr h)
    refine ⟨text, back, ?_, hread⟩
    rw [hending, hprinted, hreport]
  · intro h
    obtain ⟨hsame, hcomplaint⟩ := output_printJson_of_not_textual hu (mt textual_summaryOf_iff.mp h)
    rw [hending, hsame, hreport, hcomplaint]
    exact ⟨rfl, List.suffix_append _ _⟩

end CommandLine.Snapshots

namespace Stale

def asked : CommandLine.Start := { start with arguments := [Text.encode "--json"] }

def askedFor : CommandLine.Arguments := ⟨[(⟨"json", none, .flag⟩, [])], none, none⟩

theorem clocked_asked : asked.timing.Clocked := by
  have hstart : (Timestamp.sinceEpoch 0 0).Valid := Timestamp.valid_sinceEpoch (by decide) (by decide)
  refine ⟨hstart, 0, Decimal.Double.leastExponent, rfl, ?_⟩
  rw [Nat.zero_mul]
  exact Nat.zero_le _

end Stale

/-- Both outcomes are read back from what follows the report, although the first one fails the run. -/
theorem stale_summary_follows_report :
    CommandLine.Snapshots.command.parse Stale.asked.arguments = .ok Stale.askedFor ∧
    Stale.askedFor.has "json" = true ∧ Stale.asked.timing.Clocked ∧
    CommandLine.Snapshots.found Stale.asked Stale.askedFor Stale.tree =
      .ok [Stale.first, Stale.second] ∧
    ∃ report text back, (CommandLine.Snapshots.run Stale.asked Stale.world).world.output .out =
        report ++ Text.encode text ∧
      Json.decode Summary.shape.decode text = .ok back ∧
      back.outcomes.map (·.document) = [Text.encode "r/a/x.yml", Text.encode "r/b/x.yml"] := by
  have hparse : CommandLine.Snapshots.command.parse Stale.asked.arguments = .ok Stale.askedFor := rfl
  have hjson : Stale.askedFor.has "json" = true := by decide
  have hfound : CommandLine.Snapshots.found Stale.asked Stale.askedFor Stale.tree =
      .ok [Stale.first, Stale.second] := by cbv
  have htextual : ∀ c ∈ [Stale.first, Stale.second], c.Textual := by
    simp [FixtureCase.Textual, Stale.first, Stale.second, Text.decode?_encode]
  obtain ⟨w, summary, -, -, htells, -, hprinted, -⟩ :=
    CommandLine.Snapshots.summary_follows_report hparse hjson Stale.clocked_asked hfound []
  obtain ⟨text, back, hout, hdecode, -, houtcomes⟩ := hprinted htextual
  refine ⟨hparse, hjson, Stale.clocked_asked, hfound, _, text, back, hout, hdecode, ?_⟩
  obtain ⟨o, os, hfirst, hrest, heq⟩ := List.forall₂_cons_left_iff.mp htells.outcomes
  obtain ⟨o', os', hsecond, hnil, rfl⟩ := List.forall₂_cons_left_iff.mp hrest
  rw [List.forall₂_nil_left_iff.mp hnil] at heq
  rw [houtcomes, heq]
  simp [Outcome.listed, hfirst.document, hsecond.document, Stale.first, Stale.second]

namespace Unspelled

/-- A fixture whose directory has a name that is no text. -/
def tree : FileTree where
  entries :=
    [([Text.encode "r"], .directory), ([Text.encode "r", [0xFF]], .directory),
      ([Text.encode "r", [0xFF], Text.encode "x.yml"], .file (Text.encode "on: push\n")),
      ([Text.encode "r", [0xFF], Text.encode "s"], .file (Text.encode "old\n"))]
  working := []

def world : World := ⟨tree, .ofLimits none none, []⟩

def only : FixtureCase :=
  ⟨Text.encode "r/" ++ 0xFF :: Text.encode "/x.yml", "on: push\n",
    Text.encode "r/" ++ 0xFF :: Text.encode "/s", "old\n"⟩

def start : CommandLine.Start :=
  { Stale.start with arguments := [Text.encode "--json", Text.encode "--update"] }

def arguments : CommandLine.Arguments :=
  ⟨[(⟨"json", none, .flag⟩, []), (⟨"update", some 'u', .flag⟩, [])], none, none⟩

theorem not_textual_only : ¬only.Textual := by
  unfold FixtureCase.Textual
  decide +kernel

end Unspelled

/-- The run succeeds, and no JSON text follows its report. -/
theorem unspelled_summary_missing :
    CommandLine.Snapshots.command.parse Unspelled.start.arguments = .ok Unspelled.arguments ∧
    Unspelled.arguments.has "json" = true ∧ Unspelled.start.timing.Clocked ∧
    CommandLine.Snapshots.found Unspelled.start Unspelled.arguments Unspelled.tree =
      .ok [Unspelled.only] ∧
    let runner := CommandLine.Snapshots.runnerOf Unspelled.start Unspelled.arguments
    let config := CommandLine.Snapshots.configOf Unspelled.start Unspelled.arguments
    let ending := CommandLine.Snapshots.run Unspelled.start Unspelled.world
    ∃ w summary, runner.run config Unspelled.start.timing Unspelled.world = (w, .ok summary) ∧
      ending.success = true ∧
      let report := w.output .out ++ bytesOn .out (Report.summary runner.palette summary)
      ¬∃ text back, ending.world.output .out = report ++ Text.encode text ∧
        Json.decode Summary.shape.decode text = .ok back := by
  have hparse : CommandLine.Snapshots.command.parse Unspelled.start.arguments =
      .ok Unspelled.arguments := rfl
  have hjson : Unspelled.arguments.has "json" = true := by decide
  have hfound : CommandLine.Snapshots.found Unspelled.start Unspelled.arguments Unspelled.tree =
      .ok [Unspelled.only] := by cbv
  obtain ⟨w, v, hrun, hending, hu, hreport⟩ :=
    CommandLine.Snapshots.exists_run_eq_printJson hparse hjson hfound []
  have hmissing : ¬∀ o ∈ (CommandLine.Snapshots.summaryOf Unspelled.start Unspelled.arguments
      [Unspelled.only]).outcomes, o.Textual := by
    rw [CommandLine.Snapshots.textual_summaryOf_iff]
    exact fun h => Unspelled.not_textual_only (h _ List.mem_cons_self)
  have hsame := (CommandLine.Snapshots.output_printJson_of_not_textual hu hmissing).1
  refine ⟨hparse, hjson, Stale.clocked_asked, hfound, w, _, hrun,
    congrArg CommandLine.Ending.success hending, ?_⟩
  rintro report ⟨text, back, hout, hdecode⟩
  have hworld : CommandLine.Snapshots.run Unspelled.start Unspelled.world = _ := hending
  rw [hworld, hsame, hreport] at hout
  have hempty : text = "" := Text.encode_injective (List.self_eq_append_right.mp hout)
  have hfault : ∃ fault, Json.decode Summary.shape.decode "" = .error fault := ⟨_, rfl⟩
  obtain ⟨fault, hfault⟩ := hfault
  rw [hempty, hfault] at hdecode
  contradiction

end WorkflowCheck
