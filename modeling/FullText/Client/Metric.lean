import FullText.Client.Session

namespace FullText

inductive Metric
  | commands (command : String) (status : Status) (count : Nat)
  | seconds (command : String) (samples : Nat)
  | results (command : String) (values : List Nat)
deriving DecidableEq

namespace Metric

def name : Metric → String
  | commands .. => "redisearch_commands_total"
  | seconds .. => "redisearch_command_seconds"
  | results .. => "redisearch_results"

def labels : Metric → List (String × String)
  | commands command status _ => [("command", command), ("status", status.name)]
  | seconds command _ | results command _ => [("command", command)]

def outcomes (ms : List Measurement) (command : String) (status : Status) : Nat :=
  ms.count (.outcome command status)

def latencies (ms : List Measurement) (command : String) : Nat := ms.count (.latency command)

def resultCounts (ms : List Measurement) (command : String) : List Nat :=
  ms.filterMap fun
    | .results c n => if c = command then some n else none
    | _ => none

def ofMeasurement (ms : List Measurement) : Measurement → Metric
  | .outcome command status => .commands command status (outcomes ms command status)
  | .latency command => .seconds command (latencies ms command)
  | .results command _ => .results command (resultCounts ms command)

def ofMeasurements (ms : List Measurement) : List Metric := (ms.map (ofMeasurement ms)).eraseDups

end Metric

end FullText
