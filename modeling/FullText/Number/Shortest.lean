import FullText.Number.Binary64

namespace FullText.Binary64

def places : Nat := 1074

def exactDecimal (rank : Nat) : Nat := units rank * Nat.pow 5 places

/-- Whether the decimal rounds to the given rank: it lies between the middles of the gaps on both
sides, which belong to the even rank. -/
def holds (rank decimal : Nat) : Bool :=
  let low := (units (rank - 1) + units rank) * Nat.pow 5 places
  let high := (units rank + units (rank + 1)) * Nat.pow 5 places
  if rank % 2 = 0 then low ≤ 2 * decimal && 2 * decimal ≤ high
  else low < 2 * decimal && 2 * decimal < high

/-- The multiple of `step` next to the magnitude that rounds to it, if one does: of two the nearer,
and of two equally near the greater. -/
def onGrid (rank step : Nat) : Option Nat :=
  let exact := exactDecimal rank
  let below := exact / step * step
  let above := below + step
  let nearer := if exact - below < above - exact then below else above
  if holds rank below && holds rank above then some nearer
  else if holds rank below then some below
  else if holds rank above then some above
  else none

/-- The decimal of fewest digits that rounds to the given rank, from the coarsest grid down. -/
def shortest (rank : Nat) : Nat :=
  let exact := exactDecimal rank
  let grids := (List.range (exact.log2 / 3 + 1)).reverse
  (grids.findSome? fun p => onGrid rank (Nat.pow 10 p)).getD exact

end FullText.Binary64
