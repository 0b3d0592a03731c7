namespace FullText

/-- What a record holds behind its id: a score, a payload and the properties, as far as each was asked for. -/
structure Shape where
  content : Bool
  scores : Bool
  payloads : Bool
deriving DecidableEq

namespace Shape

/-- Payloads are laid out only beside content. -/
def laysPayloads (s : Shape) : Bool := s.content && s.payloads

def stride (s : Shape) : Nat := 1 + s.scores.toNat + s.content.toNat + s.laysPayloads.toNat

def scoreOffset (s : Shape) : Option Nat := if s.scores then some 1 else none

def payloadOffset (s : Shape) : Option Nat :=
  if s.laysPayloads then some (1 + s.scores.toNat) else none

def contentOffset (s : Shape) : Option Nat :=
  if s.content then some (1 + s.scores.toNat + s.laysPayloads.toNat) else none

end Shape

end FullText
