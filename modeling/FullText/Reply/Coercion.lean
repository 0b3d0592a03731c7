import FullText.Error
import FullText.Number.Numeral
import FullText.Text.Blank

namespace FullText.Reply

def asList : Reply → Except Error (List Reply)
  | array items | set items => .ok items
  | other => .error (Mismatch.notAList other)

def asBytes : Reply → Except Error ByteArray
  | bulk bytes => .ok bytes
  | simple text | verbatim _ text => .ok text.toUTF8
  | okay => .ok "OK".toUTF8
  | int n => .ok n.toInt.repr.toUTF8
  | double x => .ok x.plain.toUTF8
  | other => .error (Mismatch.notAString other)

def asText (r : Reply) : Except Error String := do
  match Utf8.decode (← r.asBytes) with
  | .ok text => .ok text
  | .error cause => .error (Mismatch.notUtf8 cause)

def readInt64 (text : String) : Option Int64 :=
  match Numeral.readInt (Text.trim text.toList) with
  | some n =>
    if Int64.minValue.toInt ≤ n ∧ n ≤ Int64.maxValue.toInt then some (.ofInt n) else none
  | none => none

def asInt : Reply → Except Error Int64
  | int n => .ok n
  | other => do
    let text ← other.asText
    match readInt64 text with
    | some n => .ok n
    | none => .error (Mismatch.notAnInteger text)

def readNumber (text : String) : Except Error Binary64 :=
  match Binary64.read (Text.trim text.toList) with
  | some x => .ok x
  | none => .error (Mismatch.notANumber text)

def asNumber : Reply → Except Error Binary64
  | double x => .ok x
  | int n => .ok (.ofInt n.toInt)
  | other => do readNumber (← other.asText)

def orNil (read : Reply → Except Error α) : Reply → Except Error (Option α)
  | nil => .ok none
  | other => some <$> read other

def asTotal (r : Reply) : Except Error Nat := do
  let n ← r.asInt
  if n < 0 then .error (Mismatch.negativeTotal n) else .ok n.toInt.toNat

def pairUp : List Reply → List (Reply × Reply)
  | a :: b :: rest => (a, b) :: pairUp rest
  | _ => []

/-- A list of names and values in turn. `odd` is the fault of a list whose last name has no value. -/
def asPairs (odd : Nat → Mismatch) (r : Reply) : Except Error (List (Reply × Reply)) := do
  let items ← r.asList
  if items.length % 2 ≠ 0 then .error (odd items.length) else .ok (pairUp items)

def asEntry (pair : Reply × Reply) : Except Error (String × Reply) := do
  return (← pair.1.asText, pair.2)

def asOkay : Reply → Except Error Unit
  | okay | simple "OK" => .ok ()
  | other => .error (Mismatch.notOkay other)

end FullText.Reply
