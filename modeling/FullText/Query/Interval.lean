import FullText.Number.Text

namespace FullText

structure Bound where
  value : Binary64
  exclusive : Bool
deriving DecidableEq

/-- The bound in words: an infinity by its name, where being exclusive means nothing, and else the
number, after a parenthesis if it is exclusive. -/
def Bound.text (infinity : String) (b : Bound) : String :=
  if b.value = .infinity true then "-inf"
  else if b.value = .infinity false then infinity
  else if b.exclusive then "(" ++ b.value.canonical else b.value.canonical

structure Interval where
  lower : Bound
  upper : Bound
deriving DecidableEq

def Interval.closed (lower upper : Binary64) : Interval := ⟨⟨lower, false⟩, ⟨upper, false⟩⟩

inductive GeoUnit
  | kilometers
  | meters
  | feet
  | miles
deriving DecidableEq

def GeoUnit.name : GeoUnit → String
  | kilometers => "km"
  | meters => "m"
  | feet => "ft"
  | miles => "mi"

structure GeoArea where
  lon : Binary64
  lat : Binary64
  radius : Binary64
  unit : GeoUnit
deriving DecidableEq

def GeoArea.words (a : GeoArea) : List String :=
  [a.lon.canonical, a.lat.canonical, a.radius.canonical, a.unit.name]

end FullText
