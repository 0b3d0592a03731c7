import FullText.Json.Basic

namespace FullText.Json

/-- An array or an object may be opened only `depth` deep. -/
abbrev Decoder (α : Type) := (depth : Nat) → Json → Option α

def maxDepth : Nat := 127

def decode (d : Decoder α) (j : Json) : Option α := d maxDepth j

namespace Decoder

def text : Decoder String
  | _, .string s => some s
  | _, _ => none

def bool : Decoder Bool
  | _, .bool b => some b
  | _, _ => none

def natural (bits : Nat) : Decoder Nat
  | _, .integer n => if 0 ≤ n ∧ n < Nat.pow 2 bits then some n.toNat else none
  | _, _ => none

def number : Decoder Binary64
  | _, .integer n => some (.ofInt n)
  | _, .float x => if x.isFinite then some x else none
  | _, _ => none

def option (d : Decoder α) : Decoder (Option α)
  | _, .null => some none
  | depth, j => some <$> d depth j

def list (d : Decoder α) : Decoder (List α)
  | depth + 1, .array items => items.mapM (d depth)
  | _, _ => none

def pair (a : Decoder α) (b : Decoder β) : Decoder (α × β)
  | depth + 1, .array [x, y] => return (← a depth x, ← b depth y)
  | _, _ => none

def texts : Decoder (List String) := list text

end Decoder

/-- The members of a record that are given, and the depth left inside it. -/
structure Record where
  depth : Nat
  members : List (String × Json)

/-- The members of the given names. None may be given twice. -/
def Record.pick (names : List String) (members : List (Option String × Json)) :
    Option (List (String × Json)) :=
  if members.any (·.1.isNone) ∨ names.any fun n => 1 < members.countP (·.1 = some n) then none
  else some (names.filterMap fun n => (members.lookup (some n)).map (n, ·))

namespace Decoder

def record (names : List String) : Decoder Record
  | depth + 1, .object members => (Record.pick names members).map (⟨depth, ·⟩)
  | depth + 1, .array items =>
    if items.length = names.length then some ⟨depth, names.zip items⟩ else none
  | _, _ => none

/-- A record whose array may end early. -/
def openRecord (names : List String) : Decoder Record
  | depth + 1, .array items =>
    if items.length ≤ names.length then some ⟨depth, names.zip items⟩ else none
  | depth, j => record names depth j

/-- A record that has no other members. -/
def closedRecord (names : List String) : Decoder Record
  | depth, .object members =>
    if members.all (fun m => m.1.any names.contains) then record names depth (.object members)
    else none
  | depth, j => record names depth j

end Decoder

namespace Record

def required (r : Record) (name : String) (d : Decoder α) : Option α :=
  (r.members.lookup name).bind (d r.depth)

def orElse (r : Record) (name : String) (default : α) (d : Decoder α) : Option α :=
  match r.members.lookup name with
  | none => some default
  | some j => d r.depth j

def optional (r : Record) (name : String) (d : Decoder α) : Option (Option α) :=
  r.orElse name none d.option

end Record

/-- The name of a case, and what it holds, if anything is given. -/
structure Variant where
  name : String
  depth : Nat
  content : Option Json

namespace Variant

def unit (v : Variant) (value : α) : Option α :=
  match v.content with
  | none | some .null => some value
  | _ => none

def holding (v : Variant) (d : Decoder α) : Option α := v.content.bind (d v.depth)

end Variant

/-- A case by its name alone, or as the one member of an object. -/
def Decoder.variant : Decoder Variant
  | depth, .string name => some ⟨name, depth, none⟩
  | depth + 1, .object [(some name, content)] => some ⟨name, depth, some content⟩
  | _, _ => none

end FullText.Json
