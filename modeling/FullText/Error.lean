import FullText.Reply.Basic

namespace FullText

/-- A request that is refused before anything is sent. -/
inductive InvalidArgument
  | noTags
  | noSchemaFields
  | noGroupFields
  | reduceOutsideGroup
  | noSuggestionString
  | suggestionScore (score : Binary64)
deriving DecidableEq

/-- A reply that is not laid out as its request asks. -/
inductive Mismatch
  | notAList (got : Reply)
  | notAString (got : Reply)
  | notUtf8 (cause : Utf8.Refusal)
  | notAnInteger (text : String)
  | notANumber (text : String)
  | tooShort (length : Nat)
  | cannotSkip (wanted remaining : Nat)
  | unevenRecords (elements stride : Nat)
  | oddProperties (length : Nat)
  | oddRow (length : Nat)
  | negativeTotal (n : Int64)
  | negativeCursor (n : Int64)
  | notOkay (got : Reply)
  | noReply (command : String)

structure TransportFailure where
  kind : String
  text : String
  detail : Option String
deriving DecidableEq

inductive Error
  | invalidArgument (cause : InvalidArgument)
  | mismatch (cause : Mismatch)
  | transport (failure : TransportFailure)

instance : Coe InvalidArgument Error := ⟨.invalidArgument⟩

instance : Coe Mismatch Error := ⟨.mismatch⟩

def InvalidArgument.message : InvalidArgument → String
  | noTags => "tag value requires at least one tag"
  | noSchemaFields => "schema requires at least one field"
  | noGroupFields => "GROUPBY requires at least one field"
  | reduceOutsideGroup => "REDUCE requires a preceding GROUPBY"
  | noSuggestionString => "suggestion string is required"
  | suggestionScore score => "suggestion score " ++ score.plain ++ " outside [0, 1]"

def Mismatch.message : Mismatch → String
  | notAList got => "expected a list, got " ++ got.describe
  | notAString got => "expected a string, got " ++ got.describe
  | notUtf8 cause => "invalid UTF-8 in reply: " ++ cause.message
  | notAnInteger text => "expected an integer, got " ++ Text.quoted text
  | notANumber text => "expected a number, got " ++ Text.quoted text
  | tooShort length =>
    "reply too short: wanted element " ++ length.repr ++ " of " ++ length.repr
  | cannotSkip wanted remaining =>
    "reply too short: cannot skip " ++ wanted.repr ++ " of " ++ remaining.repr ++ " remaining"
  | unevenRecords elements stride =>
    elements.repr ++ " reply elements do not divide into records of " ++ stride.repr
  | oddProperties length => "document field list has odd length " ++ length.repr
  | oddRow length => "aggregation row has odd length " ++ length.repr
  | negativeTotal n => "negative result count " ++ n.toInt.repr
  | negativeCursor n => "negative cursor id " ++ n.toInt.repr
  | notOkay got => "expected OK, got " ++ got.describe
  | noReply command => "no scripted reply for " ++ command

def TransportFailure.message (f : TransportFailure) : String :=
  match f.detail with
  | none => f.text ++ "- " ++ f.kind
  | some detail => f.text ++ " - " ++ f.kind ++ ": " ++ detail

def Error.message : Error → String
  | invalidArgument cause => "Invalid argument: " ++ cause.message
  | mismatch cause => "Protocol mismatch: " ++ cause.message
  | transport failure => "Transport error: " ++ failure.message

end FullText
