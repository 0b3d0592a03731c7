import FullText.Error
import FullText.Token

namespace FullText

structure SentCommand where
  command : String
  args : List String
deriving DecidableEq

def SentCommand.line (s : SentCommand) : String := " ".intercalate (s.command :: s.args)

inductive Status
  | success
  | error
  | decodeError
deriving DecidableEq

def Status.name : Status → String
  | success => "success"
  | error => "error"
  | decodeError => "decode_error"

inductive Measurement
  | outcome (command : String) (status : Status)
  | latency (command : String)
  | results (command : String) (count : Nat)
deriving DecidableEq

inductive Event
  | dispatching (index command : String) (args : Nat)
  | failed (index command : String) (error : Error)
  | refused (index command : String) (error : Error)

namespace Event

def level : Event → String
  | dispatching .. => "DEBUG"
  | failed .. | refused .. => "WARN"

def fields : Event → List (String × String)
  | dispatching index command args =>
    [("message", "Dispatching command"), ("index", index), ("command", command),
      ("args", args.repr)]
  | failed index command error =>
    [("message", "Command failed"), ("index", index), ("command", command),
      ("error", error.message)]
  | refused index command error =>
    [("message", "Reply did not match request"), ("index", index), ("command", command),
      ("error", error.message)]

end Event

structure Session where
  pending : List (Except TransportFailure Reply) := []
  sent : List SentCommand := []
  measurements : List Measurement := []
  events : List Event := []

namespace Session

/-- What the next command that finds no other answer is answered with. -/
def queue (s : Session) (answer : Except TransportFailure Reply) : Session :=
  { s with pending := s.pending ++ [answer] }

def measure (s : Session) (ms : List Measurement) : Session :=
  { s with measurements := s.measurements ++ ms }

def log (s : Session) (e : Event) : Session := { s with events := s.events ++ [e] }

/-- Sends a command and takes the oldest pending answer. -/
def exchange (s : Session) (command : String) (args : Tokens) : Except Error Reply × Session :=
  let s := { s with sent := s.sent ++ [SentCommand.mk command args.texts] }
  match s.pending with
  | [] => (.error (Mismatch.noReply command), s)
  | .ok reply :: rest => (.ok reply, { s with pending := rest })
  | .error failure :: rest => (.error (.transport failure), { s with pending := rest })

end Session

end FullText
