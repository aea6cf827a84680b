import WorkflowCheck.Text.Digit
import WorkflowCheck.Value

/-! Values written as JSON text: compact, without any blank, or laid out with two blanks for each
level, one item or entry a line. -/

namespace WorkflowCheck.Json

/-- Quotes, backslashes and control characters are escaped; all else stands as it is. -/
def escapeChar (c : Char) : List Char :=
  if c = '"' then ['\\', '"']
  else if c = '\\' then ['\\', '\\']
  else if c = '\n' then ['\\', 'n']
  else if c = '\r' then ['\\', 'r']
  else if c = '\t' then ['\\', 't']
  else if c = '\x08' then ['\\', 'b']
  else if c = '\x0c' then ['\\', 'f']
  else if c.toNat < 0x20 then
    ['\\', 'u', '0', '0', Text.hexDigit (c.toNat / 16), Text.hexDigit (c.toNat % 16)]
  else [c]

def quote (text : String) : List Char :=
  '"' :: (text.toList.flatMap escapeChar ++ ['"'])

mutual

def compact : Value → List Char
  | .null => "null".toList
  | .boolean b => (if b then "true" else "false").toList
  | .number literal => literal.toList
  | .string s => quote s
  | .array items => '[' :: (compactItems items ++ [']'])
  | .object entries => '{' :: (compactEntries entries ++ ['}'])

def compactItems : List Value → List Char
  | [] => []
  | [v] => compact v
  | v :: rest => compact v ++ ',' :: compactItems rest

def compactEntries : List (String × Value) → List Char
  | [] => []
  | [(k, v)] => quote k ++ ':' :: compact v
  | (k, v) :: rest => quote k ++ ':' :: (compact v ++ ',' :: compactEntries rest)

end

def newline (level : Nat) : List Char := '\n' :: List.replicate (2 * level) ' '

mutual

/-- The layout of a value whose first line has begun at the given level. -/
def pretty (level : Nat) : Value → List Char
  | .null => "null".toList
  | .boolean b => (if b then "true" else "false").toList
  | .number literal => literal.toList
  | .string s => quote s
  | .array [] => ['[', ']']
  | .array (v :: rest) => '[' :: (prettyItems (level + 1) (v :: rest) ++ newline level ++ [']'])
  | .object [] => ['{', '}']
  | .object (e :: rest) => '{' :: (prettyEntries (level + 1) (e :: rest) ++ newline level ++ ['}'])

def prettyItems (level : Nat) : List Value → List Char
  | [] => []
  | [v] => newline level ++ pretty level v
  | v :: rest => newline level ++ pretty level v ++ ',' :: prettyItems level rest

def prettyEntries (level : Nat) : List (String × Value) → List Char
  | [] => []
  | [(k, v)] => newline level ++ quote k ++ ':' :: ' ' :: pretty level v
  | (k, v) :: rest =>
    newline level ++ quote k ++ ':' :: ' ' :: (pretty level v ++ ',' :: prettyEntries level rest)

end

def compactText (value : Value) : String := String.ofList (compact value)

def prettyText (value : Value) : String := String.ofList (pretty 0 value)

end WorkflowCheck.Json
