import FullText.Number.Shortest

namespace FullText.Binary64

def dropTrailingZeros (digits : List Char) : List Char :=
  (digits.reverse.dropWhile (· = '0')).reverse

/-- The digits after the point of a number of units of `10 ^ -places`. -/
def fractionDigits (decimal : Nat) : List Char :=
  let digits := Nat.toDigits 10 (decimal % Nat.pow 10 places)
  dropTrailingZeros (List.replicate (places - digits.length) '0' ++ digits)

/-- `whole` closes a decimal that has no digit after the point. -/
def positional (whole : List Char) (decimal : Nat) : List Char :=
  let fraction := fractionDigits decimal
  Nat.toDigits 10 (decimal / Nat.pow 10 places) ++
    if fraction.isEmpty then whole else '.' :: fraction

def scientific (decimal : Nat) : List Char :=
  let digits := Nat.toDigits 10 decimal
  let exponent := ((digits.length - 1 : Nat) : Int) - places
  let mantissa := match dropTrailingZeros digits with
    | d :: e :: rest => d :: '.' :: e :: rest
    | digits => digits
  mantissa ++ 'e' :: exponent.repr.toList

/-- The sign before the text of a finite magnitude, and the names of all else. -/
def write (text : Nat → List Char) (x : Binary64) : String :=
  if x.isNaN then "NaN"
  else
    let magnitude := if x.isInfinite then ['i', 'n', 'f'] else text x.rank
    String.ofList (if x.negative then '-' :: magnitude else magnitude)

/-- The fewest digits that read back. -/
def plain : Binary64 → String := write fun r => positional [] (shortest r)

/-- The form a number takes as a token: exact with one decimal place when it is whole, and
otherwise the fewest digits that read back. -/
def canonical (x : Binary64) : String :=
  if x.isIntegral then write (fun r => positional ['.', '0'] (exactDecimal r)) x else x.plain

/-- The fewest digits that read back, with an exponent where the magnitude is below 10^-4 or from
10^16 on, and otherwise with at least one decimal place. -/
def compact : Binary64 → String := write fun r =>
  let decimal := shortest r
  if decimal = 0 ∨ Nat.pow 10 (places - 4) ≤ decimal ∧ decimal < Nat.pow 10 (places + 16) then
    positional ['.', '0'] decimal
  else scientific decimal

end FullText.Binary64
