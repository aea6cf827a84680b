/-! Styles of terminal text. A styled text stands between the sequence that starts its style and
the one that ends it. -/

namespace WorkflowCheck.Report

inductive Color where
  | grey
  | red
  | green
  | yellow
  deriving DecidableEq, Repr

def Color.number : Color → Nat
  | .grey => 8
  | .red => 9
  | .green => 10
  | .yellow => 11

inductive Style where
  | bold
  | plain (color : Color)
  | strong (color : Color)
  deriving DecidableEq, Repr

/-- How styles are written: not at all, in full, or with every colour sequence empty. -/
inductive Palette where
  | none
  | full
  | colorless
  deriving DecidableEq, Repr

namespace Palette

def sequence (parameters : String) : String := "\x1b[" ++ parameters ++ "m"

def color : Palette → Color → String
  | .colorless, _ => sequence ""
  | _, c => sequence ("38;5;" ++ toString c.number)

def colorReset : Palette → String
  | .colorless => sequence ""
  | _ => sequence "39"

def start (palette : Palette) : Style → String
  | .bold => sequence "1"
  | .plain c => palette.color c
  | .strong c => palette.color c ++ sequence "1"

/-- Bold text ends all styles at once. -/
def finish (palette : Palette) : Style → String
  | .bold | .strong _ => sequence "0"
  | .plain _ => palette.colorReset

def paint (palette : Palette) (style : Style) (text : String) : String :=
  match palette with
  | .none => text
  | _ => palette.start style ++ text ++ palette.finish style

end Palette

end WorkflowCheck.Report
