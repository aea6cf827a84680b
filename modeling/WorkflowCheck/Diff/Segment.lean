/-! A segment is a run of whole lines found in both texts of a comparison, in the old one only,
or in the new one only. The common and removed segments spell the old text, the common and
added ones the new text. -/

namespace WorkflowCheck.Diff

inductive SegmentKind where
  | common
  | added
  | removed
  deriving DecidableEq, Repr

structure Segment where
  kind : SegmentKind
  text : String
  deriving DecidableEq, Repr

def SegmentKind.inOld : SegmentKind → Bool
  | .common | .removed => true
  | .added => false

def SegmentKind.inNew : SegmentKind → Bool
  | .common | .added => true
  | .removed => false

def oldText (segments : List Segment) : String :=
  String.join ((segments.filter (·.kind.inOld)).map (·.text))

def newText (segments : List Segment) : String :=
  String.join ((segments.filter (·.kind.inNew)).map (·.text))

/-- Joins neighbours of one kind. -/
def merge : List Segment → List Segment
  | [] => []
  | s :: rest =>
    match merge rest with
    | [] => [s]
    | t :: ts => if s.kind = t.kind then ⟨s.kind, s.text ++ t.text⟩ :: ts else s :: t :: ts

end WorkflowCheck.Diff
