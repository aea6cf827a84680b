import WorkflowCheck.Decimal.Fixed
import WorkflowCheck.Outcome
import WorkflowCheck.Report.Difference
import WorkflowCheck.Report.Stream

/-! What is printed for each fixture and at the end of a run. The status goes to one stream, the
differences to the other. -/

namespace WorkflowCheck.Report

/-- A line of status, its end outside of the style. -/
def statusLine (palette : Palette) (style : Style) (text : String) : Print :=
  ⟨.out, palette.paint style text ++ "\n"⟩

def header (palette : Palette) (path : Bytes) (kind : Kind) : List Print :=
  [⟨.out, palette.paint .bold (" > " ++ Text.display path ++ " ") ++
    palette.paint (.strong .grey) ("(" ++ kind.name ++ " file)") ++ "\n\n"⟩]

def outputStart (palette : Palette) : List Print :=
  [statusLine palette (.strong .grey) "=== OUTPUT START ==="]

def outputEnd (palette : Palette) : List Print :=
  [statusLine palette (.strong .grey) "=== OUTPUT END ==="]

/-- Without colours the legend names the marks of lines. -/
def legend : Palette → String
  | .none => "Diff: - for deletions, + for additions, space for common parts"
  | palette =>
    " ".intercalate
      [palette.paint (.strong .grey) "Diff:",
        palette.paint (.strong .red) "red", palette.paint (.plain .grey) "for deletions,",
        palette.paint (.strong .green) "green", palette.paint (.plain .grey) "for additions,",
        palette.paint (.strong .grey) "grey", palette.paint (.plain .grey) "for common parts"]

def difference (palette : Palette) (old new : String) : List Print :=
  [⟨.out, legend palette ++ "\n"⟩,
    ⟨.err, render palette (Diff.compare old new) ++ "\n"⟩]

def mismatchColor : Mode → Color
  | .check => .red
  | .update => .yellow

/-- The status of a fixture, with the difference between its stored snapshot and the new one
where they do not match. -/
def status (palette : Palette) (mode : Mode) (matched : Bool) (stored new : String) :
    List Print :=
  (if matched then [statusLine palette (.strong .green) "\n   SNAPSHOT MATCHED"]
    else
      statusLine palette (.strong (mismatchColor mode)) "\n   SNAPSHOT MISMATCH\n" ::
        difference palette stored new) ++
    [⟨.out, "\n\n"⟩]

def updating (palette : Palette) (document : Bytes) : List Print :=
  [statusLine palette (.strong .yellow) ("Updating snapshot for " ++ Text.display document)]

def mismatch (palette : Palette) (document : Bytes) : List Print :=
  [statusLine palette (.strong .red) ("Snapshot mismatch for " ++ Text.display document)]

def verdict (palette : Palette) (passed : Bool) (elapsed : Decimal.Double) : List Print :=
  if passed then
    [statusLine palette (.strong .green) ("\nPassed all tests in " ++ elapsed.fixed 3 ++ "s")]
  else [statusLine palette (.strong .red) "\nFailed some tests"]

def summary (palette : Palette) (s : Summary) : List Print :=
  verdict palette s.passed s.timing.elapsed

end WorkflowCheck.Report
