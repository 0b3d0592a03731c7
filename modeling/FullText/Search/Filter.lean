import FullText.Query.Interval
import FullText.Token

namespace FullText

inductive Filter
  | numeric (property : String) (interval : Interval)
  | geo (property : String) (area : GeoArea)
deriving DecidableEq

namespace Filter

def property : Filter → String
  | numeric property _ | geo property _ => property

/-- The tokens of the filter, where infinity has a sign. -/
def tokens : Filter → Tokens
  | numeric property i => ["FILTER", property, i.lower.text "+inf", i.upper.text "+inf"]
  | geo property area => ↑"GEOFILTER" :: ↑property :: area.words.map Token.ofString

end Filter

end FullText
