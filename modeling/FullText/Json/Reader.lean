import FullText.Json.Basic
import FullText.Number.Numeral

namespace FullText.Json

inductive Lexeme
  | openArray
  | closeArray
  | openObject
  | closeObject
  | comma
  | colon
  | leaf (value : Json)

/-- A character of a string, or the UTF-16 unit of an escape. -/
inductive StringPart
  | char (c : Char)
  | unit (n : Nat)

def hexDigit (c : Char) : Option Nat :=
  if '0' ≤ c ∧ c ≤ '9' then some (c.toNat - '0'.toNat)
  else if 'a' ≤ c ∧ c ≤ 'f' then some (c.toNat - 'a'.toNat + 10)
  else if 'A' ≤ c ∧ c ≤ 'F' then some (c.toNat - 'A'.toNat + 10)
  else none

def hexNumber (digits : List Char) : Option Nat :=
  (digits.mapM hexDigit).map (·.foldl (fun n d => 16 * n + d) 0)

def escaped : Char → Option Char
  | '"' => some '"'
  | '\\' => some '\\'
  | '/' => some '/'
  | 'b' => some (Char.ofNat 8)
  | 'f' => some (Char.ofNat 12)
  | 'n' => some '\n'
  | 'r' => some '\r'
  | 't' => some '\t'
  | _ => none

/-- The parts of a string up to its closing quote, and what follows it. -/
def stringParts : List Char → Option (List StringPart × List Char)
  | [] => none
  | '"' :: rest => some ([], rest)
  | '\\' :: 'u' :: a :: b :: c :: d :: rest => do
    let n ← hexNumber [a, b, c, d]
    let (parts, rest) ← stringParts rest
    return (.unit n :: parts, rest)
  | '\\' :: c :: rest => do
    let c ← escaped c
    let (parts, rest) ← stringParts rest
    return (.char c :: parts, rest)
  | c :: rest => do
    if c.toNat < 0x20 then none
    let (parts, rest) ← stringParts rest
    return (.char c :: parts, rest)

def isLeading (n : Nat) : Bool := 0xD800 ≤ n && n < 0xDC00

def isTrailing (n : Nat) : Bool := 0xDC00 ≤ n && n < 0xE000

/-- The characters of the parts, unless half of a surrogate pair stands alone. -/
def joinParts : List StringPart → Option (List Char)
  | [] => some []
  | .char c :: rest => (c :: ·) <$> joinParts rest
  | .unit m :: .unit n :: rest =>
    if isLeading m && isTrailing n then
      (Char.ofNat (0x10000 + (m - 0xD800) * 0x400 + (n - 0xDC00)) :: ·) <$> joinParts rest
    else if isLeading m || isTrailing m then none
    else (Char.ofNat m :: ·) <$> joinParts (.unit n :: rest)
  | .unit m :: rest =>
    if isLeading m || isTrailing m then none else (Char.ofNat m :: ·) <$> joinParts rest

def ofParts (parts : List StringPart) : Json :=
  match joinParts parts with
  | some text => .string (String.ofList text)
  | none => .unpaired

/-- A whole number, or the float nearest to one that 64 bits do not hold. Minus zero is a float. -/
def wholeNumber (negative : Bool) (n : Nat) : Json :=
  let value : Int := if negative then -n else n
  if negative ∧ n = 0 ∨ value < Int64.minValue.toInt ∨ UInt64.size ≤ n then
    .float (Numeral.nearest ⟨negative, n, 0⟩)
  else .integer value

/-- A number: no sign but a minus, no leading zero, and a digit on both sides of a point. One
beyond the range of floats is read as an infinity. -/
def readNumber (word : List Char) : Option Json :=
  let (negative, rest) := match word with
    | '-' :: rest => (true, rest)
    | rest => (false, rest)
  let whole := rest.takeWhile Numeral.isDigit
  let tail := rest.dropWhile Numeral.isDigit
  if whole.isEmpty ∨ whole.head? = some '0' ∧ 1 < whole.length then none
  else
    match tail with
    | [] => some (wholeNumber negative (Numeral.ofDigits whole))
    | '.' :: c :: _ =>
      if Numeral.isDigit c then (Numeral.readUnsigned negative rest).map (.float ·.nearest) else none
    | _ => (Numeral.readExponent tail).bind fun _ =>
      (Numeral.readUnsigned negative rest).map (.float ·.nearest)

def readWord (word : List Char) : Option Json :=
  match String.ofList word with
  | "null" => some .null
  | "true" => some (.bool true)
  | "false" => some (.bool false)
  | _ => readNumber word

def isBlank (c : Char) : Bool := c = ' ' || c = '\n' || c = '\r' || c = '\t'

def isWordChar (c : Char) : Bool := c.isAlphanum || c = '+' || c = '-' || c = '.'

def lexemes : Nat → List Char → Option (List Lexeme)
  | 0, _ => none
  | fuel + 1, text =>
    match text.dropWhile isBlank with
    | [] => some []
    | '[' :: rest => (.openArray :: ·) <$> lexemes fuel rest
    | ']' :: rest => (.closeArray :: ·) <$> lexemes fuel rest
    | '\x7b' :: rest => (.openObject :: ·) <$> lexemes fuel rest
    | '\x7d' :: rest => (.closeObject :: ·) <$> lexemes fuel rest
    | ',' :: rest => (.comma :: ·) <$> lexemes fuel rest
    | ':' :: rest => (.colon :: ·) <$> lexemes fuel rest
    | '"' :: rest => do
      let (parts, rest) ← stringParts rest
      (.leaf (ofParts parts) :: ·) <$> lexemes fuel rest
    | rest => do
      let value ← readWord (rest.takeWhile isWordChar)
      (.leaf value :: ·) <$> lexemes fuel (rest.dropWhile isWordChar)

def memberName : Json → Option (Option String)
  | .string name => some (some name)
  | .unpaired => some none
  | _ => none

mutual

def readValue : Nat → List Lexeme → Option (Json × List Lexeme)
  | _ + 1, .leaf value :: rest => some (value, rest)
  | _ + 1, .openArray :: .closeArray :: rest => some (.array [], rest)
  | _ + 1, .openObject :: .closeObject :: rest => some (.object [], rest)
  | fuel + 1, .openArray :: rest => (readItems fuel rest).map fun r => (.array r.1, r.2)
  | fuel + 1, .openObject :: rest => (readMembers fuel rest).map fun r => (.object r.1, r.2)
  | _, _ => none

def readItems : Nat → List Lexeme → Option (List Json × List Lexeme)
  | 0, _ => none
  | fuel + 1, ls =>
    match readValue fuel ls with
    | some (value, .closeArray :: rest) => some ([value], rest)
    | some (value, .comma :: rest) => (readItems fuel rest).map fun r => (value :: r.1, r.2)
    | _ => none

def readMembers : Nat → List Lexeme → Option (List (Option String × Json) × List Lexeme)
  | fuel + 1, .leaf key :: .colon :: ls => do
    let name ← memberName key
    match readValue fuel ls with
    | some (value, .closeObject :: rest) => some ([(name, value)], rest)
    | some (value, .comma :: rest) =>
      (readMembers fuel rest).map fun r => ((name, value) :: r.1, r.2)
    | _ => none
  | _, _ => none

end

def read (text : String) : Option Json := do
  let ls ← lexemes (text.toList.length + 1) text.toList
  match ← readValue (2 * ls.length + 1) ls with
  | (value, []) => some value
  | _ => none

end FullText.Json
