/-! Raw bytes and the texts they stand for. Names and contents of files are bytes; a text is
read from them only when they are well formed, and shown with a replacement character for
each part that is not. -/

namespace WorkflowCheck

abbrev Bytes := List UInt8

namespace Text

def encode (text : String) : Bytes := text.toUTF8.data.toList

def decode? (bytes : Bytes) : Option String := String.fromUTF8? ⟨bytes.toArray⟩

theorem decode?_encode (text : String) : decode? (encode text) = some text := by
  simp only [decode?, encode, String.fromUTF8?, String.fromUTF8]
  simpa using text.isValidUTF8

theorem encode_append (a b : String) : encode (a ++ b) = encode a ++ encode b := by simp [encode]

def isContinuation (b : UInt8) : Bool := 0x80 ≤ b && b ≤ 0xBF

/-- Which second bytes may follow a first byte of a sequence of three or four bytes. -/
def admitsSecond (first second : UInt8) : Bool :=
  if first = 0xE0 then 0xA0 ≤ second && second ≤ 0xBF
  else if first = 0xED then 0x80 ≤ second && second ≤ 0x9F
  else if first = 0xF0 then 0x90 ≤ second && second ≤ 0xBF
  else if first = 0xF4 then 0x80 ≤ second && second ≤ 0x8F
  else isContinuation second

/-- The character that the given bytes spell: the payload bits of each, the first with its
length mark removed. -/
def codePoint (mark : Nat) (first : UInt8) (rest : Bytes) : Char :=
  Char.ofNat (rest.foldl (fun n b => n * 64 + b.toNat % 64) (first.toNat - mark))

/-- The first sequence of some bytes: how many bytes it takes after the first one, and its
character unless it is malformed. A malformed sequence ends before the first byte that no
well formed one could have there. -/
def sequence (first : UInt8) (rest : Bytes) : Nat × Option Char :=
  if first < 0x80 then (0, some (Char.ofNat first.toNat))
  else if 0xC2 ≤ first && first ≤ 0xDF then
    match rest with
    | b :: _ => if isContinuation b then (1, some (codePoint 0xC0 first [b])) else (0, none)
    | [] => (0, none)
  else if 0xE0 ≤ first && first ≤ 0xEF then
    match rest with
    | b :: c :: _ =>
      if !admitsSecond first b then (0, none)
      else if isContinuation c then (2, some (codePoint 0xE0 first [b, c]))
      else (1, none)
    | [b] => if admitsSecond first b then (1, none) else (0, none)
    | [] => (0, none)
  else if 0xF0 ≤ first && first ≤ 0xF4 then
    match rest with
    | b :: c :: d :: _ =>
      if !admitsSecond first b then (0, none)
      else if !isContinuation c then (1, none)
      else if isContinuation d then (3, some (codePoint 0xF0 first [b, c, d]))
      else (2, none)
    | [b, c] =>
      if !admitsSecond first b then (0, none)
      else if isContinuation c then (2, none) else (1, none)
    | [b] => if admitsSecond first b then (1, none) else (0, none)
    | [] => (0, none)
  else (0, none)

def displayChars : Bytes → List Char
  | [] => []
  | b :: rest =>
    (sequence b rest).2.getD '\uFFFD' :: displayChars (rest.drop (sequence b rest).1)
termination_by bytes => bytes.length
decreasing_by simp only [List.length_drop, List.length_cons]; omega

/-- The bytes as a text for people: every malformed sequence becomes one U+FFFD. -/
def display (bytes : Bytes) : String :=
  match decode? bytes with
  | some text => text
  | none => String.ofList (displayChars bytes)

end Text

end WorkflowCheck
