import FullText.Text.Utf8

namespace FullText

/-- An argument of a command: a sequence of octets, since payloads need not be text. -/
structure Token where
  bytes : ByteArray

namespace Token

theorem bytes_inj {s t : Token} : s.bytes.data.toList = t.bytes.data.toList ↔ s = t := by
  obtain ⟨⟨⟨_⟩⟩⟩ := s
  obtain ⟨⟨⟨_⟩⟩⟩ := t
  simp

instance : DecidableEq Token := fun _ _ => decidable_of_iff _ bytes_inj

def ofString (text : String) : Token := ⟨text.toUTF8⟩

instance : Coe String Token := ⟨ofString⟩

def ofNat (n : Nat) : Token := ofString n.repr

def lossy (t : Token) : String := Utf8.lossy t.bytes

end Token

abbrev Tokens := List Token

namespace Tokens

def counted (items : List String) : Tokens := .ofNat items.length :: items.map .ofString

def flag (given : Bool) (keyword : String) : Tokens := if given then [↑keyword] else []

def keyed (keyword : String) : Option Token → Tokens
  | none => []
  | some value => [↑keyword, value]

def listed (keyword : String) (items : List String) : Tokens :=
  if items.isEmpty then [] else ↑keyword :: counted items

def texts (ts : Tokens) : List String := ts.map Token.lossy

def line (ts : Tokens) : String := " ".intercalate ts.texts

end Tokens

end FullText
