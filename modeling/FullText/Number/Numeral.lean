import FullText.Number.Binary64

namespace FullText

/-- The decimal `digits * 10 ^ exponent` under a sign. -/
structure Numeral where
  negative : Bool
  digits : Nat
  exponent : Int
deriving DecidableEq

namespace Numeral

/-- The rank of the nearest magnitude. The two outer cases spare the powers of ten that only an
infinity or a zero can come from. -/
def nearestRank (digits : Nat) (exponent : Int) : Nat :=
  if digits = 0 ∨ exponent < -(digits.log2 + 400 : Nat) then 0
  else if 400 < exponent then Binary64.infinityRank
  else if exponent < 0 then Binary64.nearestRank digits (Nat.pow 10 exponent.natAbs)
  else Binary64.nearestRank (digits * Nat.pow 10 exponent.toNat) 1

def nearest (n : Numeral) : Binary64 := .ofRank n.negative (nearestRank n.digits n.exponent)

def isDigit (c : Char) : Bool := '0' ≤ c && c ≤ '9'

def ofDigits (digits : List Char) : Nat :=
  digits.foldl (fun n c => 10 * n + (c.toNat - '0'.toNat)) 0

def splitSign : List Char → Bool × List Char
  | '-' :: rest => (true, rest)
  | '+' :: rest => (false, rest)
  | text => (false, text)

def readInt (text : List Char) : Option Int :=
  let (negative, digits) := splitSign text
  if digits.isEmpty ∨ ¬ digits.all isDigit then none
  else some (if negative then -(ofDigits digits : Int) else ofDigits digits)

/-- What follows the mantissa: nothing, or an exponent. -/
def readExponent : List Char → Option Int
  | [] => some 0
  | c :: rest => if c = 'e' ∨ c = 'E' then readInt rest else none

/-- Digits with at most one point among them and at least one digit, then an exponent or none. -/
def readUnsigned (negative : Bool) (text : List Char) : Option Numeral :=
  let whole := text.takeWhile isDigit
  let rest := text.dropWhile isDigit
  let (fraction, rest) := match rest with
    | '.' :: rest => (rest.takeWhile isDigit, rest.dropWhile isDigit)
    | rest => ([], rest)
  if whole.isEmpty ∧ fraction.isEmpty then none
  else (readExponent rest).map fun e =>
    ⟨negative, ofDigits (whole ++ fraction), e - fraction.length⟩

end Numeral

namespace Binary64

/-- The names of the values that have no digits, in any case. -/
def named (negative : Bool) (text : List Char) : Option Binary64 :=
  match String.ofList (text.map Char.toLower) with
  | "inf" | "infinity" => some (infinity negative)
  | "nan" => some (ofRank negative nan.rank)
  | _ => none

/-- The number nearest to the decimal that the text writes, or the one it names. -/
def read (text : List Char) : Option Binary64 :=
  let (negative, rest) := Numeral.splitSign text
  match Numeral.readUnsigned negative rest with
  | some numeral => some numeral.nearest
  | none => named negative rest

end Binary64

end FullText
