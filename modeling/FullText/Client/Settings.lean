namespace FullText

structure Settings where
  url : String := "redis://127.0.0.1:6379"
  index : String := "idx"
  /-- Whether the values of properties are read as text where they are text. -/
  decodeContent : Bool := true
  pageCount : Nat := 0
deriving DecidableEq

end FullText
