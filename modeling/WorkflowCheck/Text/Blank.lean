/-! White space of all scripts, and texts without it at their ends. -/

namespace WorkflowCheck.Text

/-- The characters with the property White_Space. -/
def isSpace (c : Char) : Bool :=
  ('\t' ≤ c && c ≤ '\r') || c == ' ' || c == '\u0085' || c == '\u00a0' || c == '\u1680' ||
    ('\u2000' ≤ c && c ≤ '\u200a') || c == '\u2028' || c == '\u2029' || c == '\u202f' ||
    c == '\u205f' || c == '\u3000'

def trimStart (cs : List Char) : List Char := cs.dropWhile isSpace

def trim (cs : List Char) : List Char := (trimStart (trimStart cs).reverse).reverse

end WorkflowCheck.Text
