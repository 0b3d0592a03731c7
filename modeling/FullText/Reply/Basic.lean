import FullText.Number.Text
import FullText.Text.Quoted
import FullText.Text.Utf8

namespace FullText

inductive VerbatimFormat
  | text
  | markdown
  | other (name : String)
deriving DecidableEq

inductive PushKind
  | message
  | invalidate
  | other (name : String)
deriving DecidableEq

inductive Reply
  | nil
  | boolean (b : Bool)
  | int (n : Int64)
  | double (x : Binary64)
  | bigNumber (n : Int)
  | okay
  | simple (text : String)
  | bulk (bytes : ByteArray)
  | verbatim (format : VerbatimFormat) (text : String)
  | array (items : List Reply)
  | set (items : List Reply)
  | map (pairs : List (Reply × Reply))
  | annotated (data : Reply) (notes : List (Reply × Reply))
  | push (kind : PushKind) (data : List Reply)
  | serverError (code : String) (detail : Option String)

namespace Reply

def bulkText (text : String) : Reply := .bulk text.toUTF8

end Reply

def VerbatimFormat.describe : VerbatimFormat → String
  | text => "Text"
  | markdown => "Markdown"
  | other name => "Unknown(" ++ Text.quoted name ++ ")"

def PushKind.describe : PushKind → String
  | message => "Message"
  | invalidate => "Invalidate"
  | other name => "Other(" ++ Text.quoted name ++ ")"

namespace Reply

def bracketed (items : List String) : String := "[" ++ ", ".intercalate items ++ "]"

def describeBytes (bytes : ByteArray) : String :=
  match String.fromUTF8? bytes with
  | some text => "bulk-string('" ++ Text.quoted text ++ "')"
  | none => "binary-data(" ++ bracketed (bytes.data.toList.map fun b => b.toNat.repr) ++ ")"

mutual

/-- The reply as messages show it. The notes of an annotated reply are left out. -/
def describe : Reply → String
  | nil => "nil"
  | boolean b => if b then "boolean(true)" else "boolean(false)"
  | int n => "int(" ++ n.toInt.repr ++ ")"
  | double x => "double(" ++ x.compact ++ ")"
  | bigNumber n => "big-number(" ++ n.repr ++ ")"
  | okay => "ok"
  | simple text => "simple-string(" ++ Text.quoted text ++ ")"
  | bulk bytes => describeBytes bytes
  | verbatim format text => "verbatim-string(" ++ format.describe ++ "," ++ Text.quoted text ++ ")"
  | array items => "array(" ++ bracketed (describeAll items) ++ ")"
  | set items => "set(" ++ bracketed (describeAll items) ++ ")"
  | map pairs => "map(" ++ bracketed (describePairs pairs) ++ ")"
  | annotated data _ => "attribute(" ++ data.describe ++ ")"
  | push kind data => "push(" ++ kind.describe ++ ", " ++ bracketed (describeAll data) ++ ")"
  | serverError code none => "Server error: `" ++ code ++ "`"
  | serverError code (some detail) => "Server error: `" ++ code ++ ": " ++ detail ++ "`"

def describeAll : List Reply → List String
  | [] => []
  | r :: rs => r.describe :: describeAll rs

def describePairs : List (Reply × Reply) → List String
  | [] => []
  | (k, v) :: ps => ("(" ++ k.describe ++ ", " ++ v.describe ++ ")") :: describePairs ps

end

end Reply

end FullText
