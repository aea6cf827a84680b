/-! What stands between two words of a scalar that may go over several lines: blanks on one line,
or a line break and further ones after it. -/

namespace WorkflowCheck.Yaml

structure Gap where
  isBroken : Bool
  blanks : String
  firstBreak : String
  moreBreaks : String

namespace Gap

def empty : Gap := ⟨false, "", "", ""⟩

def addBlank (gap : Gap) (c : Char) : Gap :=
  if gap.isBroken then gap else { gap with blanks := gap.blanks.push c }

def addBreak (gap : Gap) (text : String) : Gap :=
  if gap.isBroken then { gap with moreBreaks := gap.moreBreaks ++ text }
  else ⟨true, "", text, gap.moreBreaks⟩

/-- A single line break becomes a space, and of several the first is dropped. Separators of
lines and paragraphs always stay. -/
def text (gap : Gap) : String :=
  if !gap.isBroken then gap.blanks
  else if gap.firstBreak == "\n" then
    if gap.moreBreaks.isEmpty then " " else gap.moreBreaks
  else gap.firstBreak ++ gap.moreBreaks

end Gap

end WorkflowCheck.Yaml
