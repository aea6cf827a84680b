import WorkflowCheck.Diff
import WorkflowCheck.Report.Style

/-! A difference as people see it: with colours each segment is painted whole, without them every
line carries a mark. -/

namespace WorkflowCheck.Report

open Diff

def color : SegmentKind → Color
  | .common => .grey
  | .added => .green
  | .removed => .red

def mark : SegmentKind → String
  | .common => " "
  | .added => "+"
  | .removed => "-"

def markLines (segment : Segment) : String :=
  String.join ((Text.lines segment.text).map (mark segment.kind ++ ·))

def paintSegment (palette : Palette) (segment : Segment) : String :=
  palette.paint (.plain (color segment.kind)) segment.text

def renderSegment (palette : Palette) (segment : Segment) : String :=
  match palette with
  | .none => markLines segment
  | palette => paintSegment palette segment

def render (palette : Palette) (segments : List Segment) : String :=
  String.join (segments.map (renderSegment palette))

end WorkflowCheck.Report
