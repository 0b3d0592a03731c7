namespace FullText.Utf8

/-- A character of which `seen` octets are read and `missing` are not; the next must lie between
`low` and `high`. -/
structure Partial where
  code : Nat
  seen : Nat
  missing : Nat
  low : UInt8
  high : UInt8

inductive Lead
  | whole (c : Char)
  | opens (p : Partial)
  | invalid

/-- What an octet begins. The bounds on the second octet keep out overlong forms, surrogates and
code points above U+10FFFF. -/
def lead (b : UInt8) : Lead :=
  if b < 0x80 then .whole (Char.ofNat b.toNat)
  else if b < 0xC2 then .invalid
  else if b < 0xE0 then .opens ⟨b.toNat - 0xC0, 1, 1, 0x80, 0xBF⟩
  else if b < 0xF0 then
    .opens ⟨b.toNat - 0xE0, 1, 2, if b = 0xE0 then 0xA0 else 0x80, if b = 0xED then 0x9F else 0xBF⟩
  else if b < 0xF5 then
    .opens ⟨b.toNat - 0xF0, 1, 3, if b = 0xF0 then 0x90 else 0x80, if b = 0xF4 then 0x8F else 0xBF⟩
  else .invalid

def Partial.accepts (p : Partial) (b : UInt8) : Bool := p.low ≤ b && b ≤ p.high

def Partial.extend (p : Partial) (b : UInt8) : Lead :=
  let code := p.code * 64 + (b.toNat - 0x80)
  if p.missing ≤ 1 then .whole (Char.ofNat code)
  else .opens ⟨code, p.seen + 1, p.missing - 1, 0x80, 0xBF⟩

/-- Why a sequence of octets is no text: `length` octets from `start` begin no character, or the
sequence ends inside the character that begins at `start`. -/
inductive Refusal
  | invalid (start length : Nat)
  | incomplete (start : Nat)
deriving DecidableEq

def Refusal.message : Refusal → String
  | invalid start length =>
    "invalid utf-8 sequence of " ++ length.repr ++ " bytes from index " ++ start.repr
  | incomplete start => "incomplete utf-8 byte sequence from index " ++ start.repr

def firstRefusal (start : Nat) : Option Partial → List UInt8 → Option Refusal
  | none, [] => none
  | some _, [] => some (.incomplete start)
  | none, b :: rest =>
    match lead b with
    | .whole _ => firstRefusal (start + 1) none rest
    | .opens p => firstRefusal start (some p) rest
    | .invalid => some (.invalid start 1)
  | some p, b :: rest =>
    if p.accepts b then
      match p.extend b with
      | .opens p => firstRefusal start (some p) rest
      | _ => firstRefusal (start + p.seen + 1) none rest
    else some (.invalid start p.seen)

def replacement : Char := Char.ofNat 0xFFFD

def begins (b : UInt8) : List Char × Option Partial :=
  match lead b with
  | .whole c => ([c], none)
  | .opens p => ([], some p)
  | .invalid => ([replacement], none)

/-- What an octet adds to the text, and the character left open after it. An octet that does not
continue the open character may still begin another. -/
def step : Option Partial → UInt8 → List Char × Option Partial
  | none, b => begins b
  | some p, b =>
    if p.accepts b then
      match p.extend b with
      | .whole c => ([c], none)
      | .opens p => ([], some p)
      | .invalid => ([replacement], none)
    else (replacement :: (begins b).1, (begins b).2)

def repair (openChar : Option Partial) : List UInt8 → List Char
  | [] => if openChar.isSome then [replacement] else []
  | b :: rest => (step openChar b).1 ++ repair (step openChar b).2 rest

def decode (bytes : ByteArray) : Except Refusal String :=
  match String.fromUTF8? bytes with
  | some text => .ok text
  | none => .error ((firstRefusal 0 none bytes.data.toList).getD (.incomplete bytes.size))

def lossy (bytes : ByteArray) : String :=
  match String.fromUTF8? bytes with
  | some text => text
  | none => String.ofList (repair none bytes.data.toList)

end FullText.Utf8
