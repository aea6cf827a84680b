/-! Values of documents. Numbers keep the text they were written with. Entries of an object stand
in the order in which they were read, with repeats, until `Value.sorted` brings them into the
order of their keys. -/

namespace WorkflowCheck

inductive Value where
  | null
  | boolean (value : Bool)
  | number (literal : String)
  | string (value : String)
  | array (items : List Value)
  | object (entries : List (String × Value))
  deriving Repr, Inhabited

namespace Value

def typeName : Value → String
  | .null => "null"
  | .boolean _ => "boolean"
  | .number _ => "number"
  | .string _ => "string"
  | .array _ => "array"
  | .object _ => "object"

/-- Puts an entry at its place among entries in the order of their keys. The value of a key
that is there already is replaced. -/
def insertEntry {α : Type} (key : String) (value : α) : List (String × α) → List (String × α)
  | [] => [(key, value)]
  | (k, v) :: rest =>
    if key < k then (key, value) :: (k, v) :: rest
    else if key = k then (key, value) :: rest
    else (k, v) :: insertEntry key value rest

def sortEntries {α : Type} (entries : List (String × α)) : List (String × α) :=
  entries.foldl (fun m e => insertEntry e.1 e.2 m) []

mutual

/-- The same value with the entries of every object in the order of their keys, the last of
several entries of one key kept. -/
def sorted : Value → Value
  | .array items => .array (sortedItems items)
  | .object entries => .object (sortEntries (sortedEntries entries))
  | .null => .null
  | .boolean b => .boolean b
  | .number n => .number n
  | .string s => .string s

def sortedItems : List Value → List Value
  | [] => []
  | d :: rest => d.sorted :: sortedItems rest

def sortedEntries : List (String × Value) → List (String × Value)
  | [] => []
  | (k, d) :: rest => (k, d.sorted) :: sortedEntries rest

end

end Value

end WorkflowCheck
