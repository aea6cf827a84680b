import WorkflowCheck.Text.Visible

/-! A text shown between quotes. Characters without a visible form are given by their number. -/

namespace WorkflowCheck.Text

def escapeInvisible (c : Char) : List Char :=
  if c = '\x00' then ['\\', '0']
  else if c = '\t' then ['\\', 't']
  else if c = '\r' then ['\\', 'r']
  else if c = '\n' then ['\\', 'n']
  else if c = '"' then ['\\', '"']
  else if c = '\\' then ['\\', '\\']
  else if isVisible c then [c]
  else ['\\', 'u', '{'] ++ Nat.toDigits 16 c.toNat ++ ['}']

def quoted (text : String) : String :=
  String.ofList ('"' :: (text.toList.flatMap escapeInvisible ++ ['"']))

end WorkflowCheck.Text
