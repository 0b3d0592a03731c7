import FullText.Token

namespace FullText

inductive SortOrder
  | asc
  | desc
deriving DecidableEq

instance : Inhabited SortOrder := ⟨.asc⟩

def SortOrder.name : SortOrder → String
  | asc => "ASC"
  | desc => "DESC"

structure SortedField where
  field : String
  order : SortOrder
deriving DecidableEq

def SortedField.tokens (s : SortedField) : Tokens := [s.field, s.order.name]

end FullText
