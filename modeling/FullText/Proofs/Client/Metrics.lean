import FullText.Client.Metric
import FullText.Proofs.Client.Run
import FullText.Proofs.Reply.Coercion

namespace FullText

namespace Turn

def isAnswered (t : Turn) : Bool :=
  match t.taken with
  | some (.ok _) => true
  | _ => false

/-- A reply came and was not what the operation reads. -/
def isMisread (t : Turn) : Bool := t.isAnswered && !t.result.isOk

/-- How many documents, rows or suggestions the operation gave, if it is one that gives a list of
them. -/
def listed (t : Turn) : Option Nat :=
  match t.op, t.result with
  | .search _, .ok (.documents result) => some result.documents.length
  | .aggregate _, .ok (.rows page) | .readCursor .., .ok (.rows page) => some page.rows.length
  | .suggestions .., .ok (.suggestions found) => some found.length
  | _, _ => none

/-- Whether the turn counts under a status. A reply that was misread counts as a success as well. -/
def countsAs (t : Turn) : Status → Bool
  | .success => t.isAnswered
  | .error => !t.isAnswered
  | .decodeError => t.isMisread

def measured (t : Turn) : List Measurement := Client.measured t.op.command t.taken t.result

end Turn

def Operation.givesList : Operation → Bool
  | search _ | aggregate _ | readCursor .. | suggestions .. => true
  | _ => false

namespace Turn

def Follows (c : Client) (t : Turn) : Prop := t.result = c.resultOf t.op t.taken

variable {c : Client} {t : Turn} {ts : List Turn}

theorem resultCount_of_answer {op : Operation} {r : Reply} {a : Answer} (h : c.answer op r = .ok a) :
    a.resultCount? = (Turn.mk op (some (.ok r)) (.ok a)).listed ∧
      a.resultCount?.isSome = op.givesList := by
  cases op <;> obtain ⟨x, -, rfl⟩ := map_eq_ok_iff.mp h <;> exact ⟨rfl, rfl⟩

theorem listed_of_error {op : Operation} {taken : Option (Except TransportFailure Reply)} {e : Error} :
    (Turn.mk op taken (.error e)).listed = none := by
  cases op <;> rfl

theorem exists_reply {op : Operation} {taken : Option (Except TransportFailure Reply)} {a : Answer}
    (h : (Turn.mk op taken (.ok a)).Follows c) : ∃ r, taken = some (.ok r) ∧ c.answer op r = .ok a := by
  obtain _ | ⟨failure | r⟩ := taken
  · nomatch h
  · nomatch h
  · exact ⟨r, rfl, Eq.symm h⟩

theorem isSome_listed (h : t.Follows c) : t.listed.isSome = (t.op.givesList && t.result.isOk) := by
  obtain ⟨op, taken, result⟩ := t
  cases result with
  | error e =>
      rw [listed_of_error]
      exact (Bool.and_false _).symm
  | ok a =>
      obtain ⟨r, rfl, ha⟩ := exists_reply h
      rw [← (resultCount_of_answer ha).1, (resultCount_of_answer ha).2]
      exact (Bool.and_true _).symm

theorem measured_eq (h : t.Follows c) : t.measured =
    .outcome t.op.command (if t.isAnswered then .success else .error) :: .latency t.op.command ::
      ((if t.isMisread then [.outcome t.op.command .decodeError] else []) ++
        t.listed.toList.map (.results t.op.command)) := by
  obtain ⟨op, taken, result⟩ := t
  cases result with
  | error e =>
      rw [listed_of_error]
      obtain _ | ⟨failure | r⟩ := taken <;> rfl
  | ok a =>
      obtain ⟨r, rfl, ha⟩ := exists_reply h
      rw [← (resultCount_of_answer ha).1]
      rfl

theorem count_flatMap_measured {m : Measurement} {P : Turn → Prop} [DecidablePred P]
    (hP : ∀ t, t.Follows c → t.measured.count m = if P t then 1 else 0)
    (h : ∀ t ∈ ts, t.Follows c) : (ts.flatMap measured).count m = ts.countP (P ·) := by
  induction ts with
  | nil => rfl
  | cons t ts ih =>
      rw [List.forall_mem_cons] at h
      rw [List.flatMap_cons, List.count_append, hP t h.1, ih h.2, List.countP_cons, Nat.add_comm]
      simp only [decide_eq_true_eq]

theorem outcomes_flatMap (command : String) (status : Status) (h : ∀ t ∈ ts, t.Follows c) :
    Metric.outcomes (ts.flatMap measured) command status =
      ts.countP fun t => t.op.command = command ∧ t.countsAs status := by
  refine count_flatMap_measured (fun t ht => ?_) h
  have hresults : (t.listed.toList.map (Measurement.results t.op.command)).count
      (Measurement.outcome command status) = 0 := List.count_eq_zero.mpr (by simp)
  rw [measured_eq ht, List.count_cons, List.count_cons, List.count_append, hresults]
  by_cases hc : t.op.command = command <;> cases status <;> cases ha : t.isAnswered <;>
    cases hm : t.isMisread <;> simp [hc, countsAs, ha, hm]

theorem latencies_flatMap (command : String) (h : ∀ t ∈ ts, t.Follows c) :
    Metric.latencies (ts.flatMap measured) command = ts.countP (·.op.command = command) := by
  refine count_flatMap_measured (fun t ht => ?_) h
  rw [measured_eq ht]
  by_cases hc : t.op.command = command <;> cases t.isMisread <;> cases t.listed <;> simp [hc]

theorem resultCounts_flatMap (command : String) (h : ∀ t ∈ ts, t.Follows c) :
    Metric.resultCounts (ts.flatMap measured) command =
      (ts.filter (·.op.command = command)).filterMap listed := by
  induction ts with
  | nil => rfl
  | cons t ts ih =>
      rw [List.forall_mem_cons] at h
      have hcons : Metric.resultCounts ((t :: ts).flatMap measured) command =
          Metric.resultCounts t.measured command ++
            Metric.resultCounts (ts.flatMap measured) command := List.filterMap_append
      rw [hcons, ih h.2, measured_eq h.1]
      by_cases hc : t.op.command = command <;> cases t.isMisread <;> cases ht : t.listed <;>
        simp [hc, ht, Metric.resultCounts]

theorem countP_answered (command : String) (ts : List Turn) :
    (ts.countP fun t => t.op.command = command ∧ t.countsAs .success) +
        (ts.countP fun t => t.op.command = command ∧ t.countsAs .error) =
      ts.countP (·.op.command = command) := by
  induction ts with
  | nil => rfl
  | cons t ts ih =>
      simp only [List.countP_cons, ← ih, countsAs]
      by_cases hc : t.op.command = command <;> by_cases ha : t.isAnswered <;> simp [hc, ha] <;> omega

theorem countP_misread_le (command : String) (ts : List Turn) :
    (ts.countP fun t => t.op.command = command ∧ t.countsAs .decodeError) ≤
      ts.countP fun t => t.op.command = command ∧ t.countsAs .success := by
  refine List.countP_mono_left fun t _ h => ?_
  obtain ⟨hcommand, hmisread⟩ := of_decide_eq_true h
  exact decide_eq_true ⟨hcommand, (Bool.and_eq_true_iff.mp hmisread).1⟩

end Turn

namespace Metric

variable {command : String} {ms : List Measurement}

theorem mem_ofMeasurements {m : Metric} :
    m ∈ ofMeasurements ms ↔ ∃ x ∈ ms, ofMeasurement ms x = m := by
  rw [ofMeasurements, List.mem_eraseDups, List.mem_map]

theorem commands_mem_iff {status : Status} {n : Nat} :
    commands command status n ∈ ofMeasurements ms ↔ 0 < n ∧ n = outcomes ms command status := by
  rw [mem_ofMeasurements]
  constructor
  · rintro ⟨x, hx, h⟩
    cases x with
    | outcome _ _ => cases h; exact ⟨List.count_pos_iff.mpr hx, rfl⟩
    | latency _ | results _ _ => nomatch h
  · rintro ⟨hpos, rfl⟩
    exact ⟨.outcome command status, List.count_pos_iff.mp hpos, rfl⟩

theorem seconds_mem_iff {n : Nat} :
    seconds command n ∈ ofMeasurements ms ↔ 0 < n ∧ n = latencies ms command := by
  rw [mem_ofMeasurements]
  constructor
  · rintro ⟨x, hx, h⟩
    cases x with
    | latency _ => cases h; exact ⟨List.count_pos_iff.mpr hx, rfl⟩
    | outcome _ _ | results _ _ => nomatch h
  · rintro ⟨hpos, rfl⟩
    exact ⟨.latency command, List.count_pos_iff.mp hpos, rfl⟩

theorem mem_resultCounts {n : Nat} : n ∈ resultCounts ms command ↔ .results command n ∈ ms := by
  rw [resultCounts, List.mem_filterMap]
  constructor
  · rintro ⟨x, hx, h⟩
    cases x with
    | results _ _ =>
        obtain ⟨rfl, hn⟩ := Option.ite_none_right_eq_some.mp h
        exact Option.some.inj hn ▸ hx
    | outcome _ _ | latency _ => nomatch h
  · intro h
    exact ⟨_, h, if_pos rfl⟩

theorem results_mem_iff {values : List Nat} :
    results command values ∈ ofMeasurements ms ↔
      values ≠ [] ∧ values = resultCounts ms command := by
  rw [mem_ofMeasurements]
  constructor
  · rintro ⟨x, hx, h⟩
    cases x with
    | results _ n => cases h; exact ⟨List.ne_nil_of_mem (mem_resultCounts.mpr hx), rfl⟩
    | outcome _ _ | latency _ => nomatch h
  · rintro ⟨hne, rfl⟩
    obtain ⟨n, hn⟩ := List.exists_mem_of_ne_nil _ hne
    exact ⟨.results command n, mem_resultCounts.mp hn, rfl⟩

end Metric

/-- The metrics of a command are the sums over its turns, and are shown where they are not zero. -/
structure Accounts (command : String) (s : Session) (turns : List Turn) : Prop where
  sent : Metric.outcomes s.measurements command .success +
    Metric.outcomes s.measurements command .error = s.sent.countP (·.command = command)
  timed : Metric.latencies s.measurements command = s.sent.countP (·.command = command)
  counted : ∀ status, Metric.outcomes s.measurements command status =
    turns.countP fun t => t.op.command = command ∧ t.countsAs status
  misread_le : Metric.outcomes s.measurements command .decodeError ≤
    Metric.outcomes s.measurements command .success
  listed : Metric.resultCounts s.measurements command =
    (turns.filter (·.op.command = command)).filterMap Turn.listed
  shownCount : ∀ status n, .commands command status n ∈ Metric.ofMeasurements s.measurements ↔
    0 < n ∧ n = Metric.outcomes s.measurements command status
  shownTimes : ∀ n, .seconds command n ∈ Metric.ofMeasurements s.measurements ↔
    0 < n ∧ n = Metric.latencies s.measurements command
  shownResults : ∀ values, .results command values ∈ Metric.ofMeasurements s.measurements ↔
    values ≠ [] ∧ values = Metric.resultCounts s.measurements command

namespace Client

theorem measurements_after (c : Client) (s : Session) (actions : List Action) :
    (c.after s actions).measurements =
      s.measurements ++ (c.turns s actions).flatMap Turn.measured := by
  refine log_after Session.measurements _ (fun _ _ => rfl) (fun op s hop => ?_) s actions
  obtain ⟨args, hargs⟩ := exists_request c hop
  exact (run_of_request hargs s).2.2.2

theorem countP_sent_after (c : Client) (actions : List Action) (command : String) :
    (c.after {} actions).sent.countP (·.command = command) =
      (c.turns {} actions).countP (·.op.command = command) := by
  have hcommands : (c.after {} actions).sent.map SentCommand.command =
      (c.turns {} actions).flatMap fun t => [t.op.command] := by
    refine log_after (fun s => s.sent.map SentCommand.command) _ (fun _ _ => rfl)
      (fun op s hop => ?_) {} actions
    obtain ⟨args, hargs⟩ := exists_request c hop
    rw [(run_of_request hargs s).2.2.1, List.map_append]
    rfl
  rw [← List.map_eq_flatMap] at hcommands
  calc (c.after {} actions).sent.countP (·.command = command)
      = ((c.after {} actions).sent.map SentCommand.command).countP (· = command) := by
        rw [List.countP_map]
        rfl
    _ = (c.turns {} actions).countP (·.op.command = command) := by
        rw [hcommands, List.countP_map]
        rfl

theorem accounts_after (c : Client) (actions : List Action) (command : String) :
    Accounts command (c.after {} actions) (c.turns {} actions) := by
  have hfollows : ∀ t ∈ c.turns {} actions, t.Follows c := fun t => result_of_mem_turns
  have hms : (c.after {} actions).measurements = (c.turns {} actions).flatMap Turn.measured :=
    measurements_after c {} actions
  have hcounted (status : Status) := Turn.outcomes_flatMap command status hfollows
  rw [← hms] at hcounted
  have htimed := Turn.latencies_flatMap command hfollows
  rw [← hms, ← countP_sent_after] at htimed
  refine ⟨?_, htimed, hcounted, ?_, ?_, fun _ _ => Metric.commands_mem_iff,
    fun _ => Metric.seconds_mem_iff, fun _ => Metric.results_mem_iff⟩
  · rw [hcounted, hcounted, Turn.countP_answered, countP_sent_after]
  · rw [hcounted, hcounted]
    exact Turn.countP_misread_le command _
  · rw [hms]
    exact Turn.resultCounts_flatMap command hfollows

/-- After a run from an empty session the metrics of every command account for its turns. A number of
results is measured for the turns that give a list of them and for no others, and an operation that is
refused beforehand measures nothing. -/
theorem metrics_account (c : Client) (actions : List Action) :
    (∀ command, Accounts command (c.after {} actions) (c.turns {} actions)) ∧
    (∀ t ∈ c.turns {} actions, t.listed.isSome = (t.op.givesList && t.result.isOk)) ∧
    ∀ op, op.isRefused = true →
      (c.run op (c.after {} actions)).2.measurements = (c.after {} actions).measurements := by
  refine ⟨accounts_after c actions, fun t ht => Turn.isSome_listed (result_of_mem_turns ht), ?_⟩
  intro op h
  rw [run_of_isRefused h]

/-- A lookup that finds no dictionary, one with a reply that it cannot read, and one with no reply. -/
def threeLookups : List Action :=
  [.queue (.ok .nil), .queue (.ok .okay), .operate (.suggestions "ac" "p" {}),
    .operate (.suggestions "ac" "p" {}), .operate (.suggestions "ac" "p" {})]

theorem metrics_account_threeLookups :
    let c : Client := { index := "idx" }
    let s := c.after {} threeLookups
    let t : Turn := ⟨.suggestions "ac" "p" {}, some (.ok .nil), .ok (.suggestions [])⟩
    t ∈ c.turns {} threeLookups ∧ emptyIndex.isRefused = true ∧
    Metric.outcomes s.measurements "FT.SUGGET" .success = 2 ∧
    Metric.outcomes s.measurements "FT.SUGGET" .error = 1 ∧
    Metric.outcomes s.measurements "FT.SUGGET" .decodeError = 1 ∧
    Metric.latencies s.measurements "FT.SUGGET" = 3 ∧
    Metric.resultCounts s.measurements "FT.SUGGET" = [0] ∧
    t.listed.isSome = (t.op.givesList && t.result.isOk) ∧
    (c.run emptyIndex s).2.measurements = s.measurements := by
  intro c s t
  have hmem : t ∈ c.turns {} threeLookups := .head _
  obtain ⟨haccounts, hlisted, hrefused⟩ := metrics_account c threeLookups
  have h := haccounts "FT.SUGGET"
  exact ⟨hmem, rfl, h.counted .success, h.counted .error, h.counted .decodeError, h.timed, h.listed,
    hlisted t hmem, hrefused emptyIndex rfl⟩

end Client

end FullText
