import FullText.Client.Operation
import Mathlib.Data.List.Basic

namespace FullText

inductive Action
  | queue (answer : Except TransportFailure Reply)
  | operate (op : Operation)

namespace Action

def answer? : Action → Option (Except TransportFailure Reply)
  | queue answer => some answer
  | operate _ => none

def operation? : Action → Option Operation
  | queue _ => none
  | operate op => some op

end Action

/-- Only an index without fields is refused before anything is sent. -/
def Operation.isRefused : Operation → Bool
  | createIndex schema .. => schema.fields.isEmpty
  | _ => false

/-- An operation that was sent, the pending answer that it took and the result that it gave. -/
structure Turn where
  op : Operation
  taken : Option (Except TransportFailure Reply)
  result : Except Error Answer

namespace Client

variable {c : Client} {op : Operation}

def act (c : Client) (s : Session) : Action → Session
  | .queue answer => s.queue answer
  | .operate op => (c.run op s).2

def after (c : Client) (s : Session) (actions : List Action) : Session := actions.foldl c.act s

def turn (c : Client) (op : Operation) (s : Session) : Turn :=
  ⟨op, s.pending.head?, (c.run op s).1⟩

def turn? (c : Client) (s : Session) : Action → Option Turn
  | .queue _ => none
  | .operate op => if op.isRefused then none else some (c.turn op s)

def turns (c : Client) : Session → List Action → List Turn
  | _, [] => []
  | s, a :: actions => (c.turn? s a).toList ++ turns c (c.act s a) actions

def resultOf (c : Client) (op : Operation) :
    Option (Except TransportFailure Reply) → Except Error Answer
  | none => .error (.mismatch (.noReply op.command))
  | some (.error failure) => .error (.transport failure)
  | some (.ok reply) => c.answer op reply

def acknowledged (r : Reply) : Except Error Answer := r.asOkay.map fun _ => .done

def counted (r : Reply) : Except Error Answer := r.asInt.map .count

/-- How an operation reads its reply: a search by the layout of its query and the setting of the client, an
aggregation with a cursor if it asked for one, and a page behind a cursor always with one. -/
inductive Reads (c : Client) : Operation → (Reply → Except Error Answer) → Prop
  | createIndex (schema : Schema) (definition : Option IndexDefinition) (options : IndexOptions) :
      Reads c (.createIndex schema definition options) acknowledged
  | dropIndex (deleteDocuments : Bool) : Reads c (.dropIndex deleteDocuments) acknowledged
  | info : Reads c .info fun r => (readInfo r).map .info
  | search (q : Query) :
      Reads c (.search q) fun r => (SearchResult.read q.shape c.decodeContent r).map .documents
  | explain (q : Query) : Reads c (.explain q) fun r => r.asText.map .text
  | aggregate (a : Aggregation) :
      Reads c (.aggregate a) fun r => (RowPage.read a.paging.isSome r).map .rows
  | readCursor (id : Nat) (count : Option Nat) :
      Reads c (.readCursor id count) fun r => (RowPage.read true r).map .rows
  | deleteCursor (id : Nat) : Reads c (.deleteCursor id) acknowledged
  | addSuggestion (key : String) (s : Suggestion) (increment : Bool) :
      Reads c (.addSuggestion key s increment) counted
  | suggestions (key start : String) (l : Lookup) :
      Reads c (.suggestions key start l) fun r => (l.read r).map .suggestions
  | deleteSuggestion (key text : String) :
      Reads c (.deleteSuggestion key text) fun r => r.asInt.map fun n => .present (n = 1)
  | suggestionCount (key : String) : Reads c (.suggestionCount key) counted
  | addAlias (name : String) : Reads c (.addAlias name) acknowledged
  | updateAlias (name : String) : Reads c (.updateAlias name) acknowledged
  | deleteAlias (name : String) : Reads c (.deleteAlias name) acknowledged
  | setOption (name value : String) : Reads c (.setOption name value) acknowledged
  | options (name : String) : Reads c (.options name) fun r => (readOptions r).map .options

/-- What an operation gives for the answer that it takes, or when there is none to take. -/
inductive Gives (c : Client) :
    Operation → Option (Except TransportFailure Reply) → Except Error Answer → Prop
  | noReply (op : Operation) : Gives c op none (.error (.mismatch (.noReply op.command)))
  | failed (op : Operation) (failure : TransportFailure) :
      Gives c op (some (.error failure)) (.error (.transport failure))
  | answered {op : Operation} {read : Reply → Except Error Answer} (reads : Reads c op read)
      (r : Reply) : Gives c op (some (.ok r)) (read r)

def sentFor (c : Client) (op : Operation) : Option SentCommand :=
  (c.request op).toOption.map fun args => ⟨op.command, args.texts⟩

theorem reads_iff {read : Reply → Except Error Answer} : c.Reads op read ↔ read = c.answer op := by
  constructor
  · intro h
    cases h <;> rfl
  · rintro rfl
    cases op <;> constructor

theorem gives_iff {taken : Option (Except TransportFailure Reply)} {result : Except Error Answer} :
    c.Gives op taken result ↔ result = c.resultOf op taken := by
  constructor
  · intro h
    cases h with
    | noReply | failed => rfl
    | answered reads r => exact congrFun (reads_iff.mp reads) r
  · rintro rfl
    obtain _ | ⟨failure | r⟩ := taken
    · exact .noReply op
    · exact .failed op failure
    · exact .answered (reads_iff.mpr rfl) r

theorem request_of_isRefused (h : op.isRefused = true) :
    c.request op = .error (.invalidArgument .noSchemaFields) := by
  cases op with
  | createIndex schema definition options => exact if_pos h
  | _ => nomatch h

theorem exists_request (c : Client) (h : op.isRefused = false) : ∃ args, c.request op = .ok args := by
  cases op with
  | createIndex schema definition options => exact ⟨_, if_neg (Bool.eq_false_iff.mp h)⟩
  | _ => exact ⟨_, rfl⟩

theorem run_of_isRefused (h : op.isRefused = true) (s : Session) :
    c.run op s = (.error (.invalidArgument .noSchemaFields), s) := by
  rw [run, request_of_isRefused h]

def measured (command : String) :
    Option (Except TransportFailure Reply) → Except Error Answer → List Measurement
  | some (.ok _), .ok a =>
    [.outcome command .success, .latency command] ++
      a.resultCount?.toList.map (.results command)
  | some (.ok _), .error _ =>
    [.outcome command .success, .latency command, .outcome command .decodeError]
  | _, _ => [.outcome command .error, .latency command]

theorem run_of_request {args : Tokens} (h : c.request op = .ok args) (s : Session) :
    (c.run op s).1 = c.resultOf op s.pending.head? ∧
    (c.run op s).2.pending = s.pending.tail ∧
    (c.run op s).2.sent = s.sent ++ [⟨op.command, args.texts⟩] ∧
    (c.run op s).2.measurements =
      s.measurements ++ measured op.command s.pending.head? (c.run op s).1 := by
  obtain ⟨pending, sent, measurements, events⟩ := s
  rw [run, h]
  rcases pending with _ | ⟨failure | reply, rest⟩
  · exact ⟨rfl, rfl, rfl, rfl⟩
  · exact ⟨rfl, rfl, rfl, rfl⟩
  · simp only [Session.exchange, Session.log, Session.measure]
    cases ha : c.answer op reply with
    | error e => exact ⟨ha.symm, rfl, rfl, List.append_assoc _ _ _⟩
    | ok a => exact ⟨ha.symm, rfl, rfl, List.append_assoc _ _ _⟩

theorem log_after {β : Type} (log : Session → List β) (added : Turn → List β)
    (hqueue : ∀ s answer, log (s.queue answer) = log s)
    (hrun : ∀ op s, op.isRefused = false → log (c.run op s).2 = log s ++ added (c.turn op s))
    (s : Session) (actions : List Action) :
    log (c.after s actions) = log s ++ (c.turns s actions).flatMap added := by
  induction actions generalizing s with
  | nil => exact (List.append_nil _).symm
  | cons a actions ih =>
      rw [after, List.foldl_cons, ← after, ih, turns, List.flatMap_append, ← List.append_assoc]
      congr 1
      cases a with
      | queue answer => exact (hqueue s answer).trans (List.append_nil _).symm
      | operate op =>
          cases hop : op.isRefused with
          | true =>
              rw [turn?, hop, act, run_of_isRefused hop]
              exact (List.append_nil _).symm
          | false =>
              rw [turn?, hop, act, hrun op s hop]
              exact congrArg _ (List.append_nil _).symm

theorem pending_act (c : Client) (s : Session) (a : Action) :
    (c.turn? s a).toList.filterMap Turn.taken ++ (c.act s a).pending =
      s.pending ++ a.answer?.toList := by
  cases a with
  | queue answer => rfl
  | operate op =>
      rw [turn?, act, Action.answer?]
      cases hop : op.isRefused with
      | true => rw [run_of_isRefused hop]; exact (List.append_nil _).symm
      | false =>
          obtain ⟨args, hargs⟩ := exists_request c hop
          rw [(run_of_request hargs s).2.1, turn]
          cases s.pending <;> simp

theorem taken_append_pending (c : Client) (s : Session) (actions : List Action) :
    (c.turns s actions).filterMap Turn.taken ++ (c.after s actions).pending =
      s.pending ++ actions.filterMap Action.answer? := by
  induction actions generalizing s with
  | nil => exact (List.append_nil _).symm
  | cons a actions ih =>
      rw [turns, List.filterMap_append, List.append_assoc, after, List.foldl_cons, ← after, ih,
        ← List.append_assoc, pending_act, List.append_assoc]
      cases a <;> rfl

theorem map_op_turns (c : Client) (s : Session) (actions : List Action) :
    (c.turns s actions).map Turn.op =
      (actions.filterMap Action.operation?).filter (fun op => !op.isRefused) := by
  induction actions generalizing s with
  | nil => rfl
  | cons a actions ih =>
      rw [turns, List.map_append, ih]
      cases a with
      | queue answer => rfl
      | operate op => cases hop : op.isRefused <;> simp [turn?, turn, Action.operation?, hop]

theorem result_of_mem_turns {s : Session} {actions : List Action} {t : Turn}
    (h : t ∈ c.turns s actions) : t.result = c.resultOf t.op t.taken := by
  induction actions generalizing s with
  | nil => nomatch h
  | cons a actions ih =>
      rw [turns, List.mem_append, Option.mem_toList] at h
      rcases h with h | h
      · cases a with
        | queue answer => nomatch h
        | operate op =>
            cases hop : op.isRefused with
            | true => rw [turn?, hop] at h; nomatch h
            | false =>
                rw [turn?, hop] at h
                obtain rfl := Option.some.inj h
                obtain ⟨args, hargs⟩ := exists_request c hop
                exact (run_of_request hargs s).1
      · exact ih h

theorem sentFor_of_request {args : Tokens} (h : c.request op = .ok args) :
    c.sentFor op = some ⟨op.command, args.texts⟩ := by
  rw [sentFor, h]
  rfl

theorem sent_after (c : Client) (s : Session) (actions : List Action) :
    (c.after s actions).sent.map some =
      s.sent.map some ++ (c.turns s actions).map fun t => c.sentFor t.op := by
  rw [List.map_eq_flatMap (l := c.turns s actions)]
  refine log_after (fun s => s.sent.map some) _ (fun _ _ => rfl) (fun op s hop => ?_) s actions
  obtain ⟨args, hargs⟩ := exists_request c hop
  rw [(run_of_request hargs s).2.2.1, List.map_append, turn, sentFor_of_request hargs]
  rfl

/-- In a run from an empty session every turn sends one command, takes the oldest answer that is still
pending, and gives what its operation reads in that answer; the answers taken and those that are pending
are the queued ones in their order. An operation that is refused leaves the session as it is. -/
theorem run_by_turns (c : Client) (actions : List Action) :
    let s := c.after {} actions
    let turns := c.turns {} actions
    turns.map Turn.op =
      (actions.filterMap Action.operation?).filter (fun op => !op.isRefused) ∧
    s.sent.map some = turns.map (fun t => c.sentFor t.op) ∧
    turns.filterMap Turn.taken ++ s.pending = actions.filterMap Action.answer? ∧
    (∀ t ∈ turns, ∀ result, c.Gives t.op t.taken result ↔ result = t.result) ∧
    (∀ op, op.isRefused = true → c.run op s = (.error (.invalidArgument .noSchemaFields), s)) ∧
    (∀ op, op.isRefused = false →
      (∃ sent, c.sentFor op = some sent ∧ (c.run op s).2.sent = s.sent ++ [sent]) ∧
      (c.run op s).2.pending = s.pending.tail ∧
      ∀ result, c.Gives op s.pending.head? result ↔ result = (c.run op s).1) ∧
    (∀ op next answer, op.isRefused = false → next.isRefused = false → s.pending = [] →
      (c.run op s).1 = .error (.mismatch (.noReply op.command)) ∧
      ∀ result, c.Gives next (some answer) result ↔
        result = (c.run next ((c.run op s).2.queue answer)).1) := by
  intro s turns
  refine ⟨map_op_turns c {} actions, sent_after c {} actions, taken_append_pending c {} actions,
    fun t ht result => ?_, fun op h => run_of_isRefused h s, fun op h => ?_,
    fun op next answer h hnext hempty => ?_⟩
  · rw [gives_iff, result_of_mem_turns ht]
  · obtain ⟨args, hargs⟩ := exists_request c h
    obtain ⟨hresult, hpending, hsent, -⟩ := run_of_request hargs s
    exact ⟨⟨_, sentFor_of_request hargs, hsent⟩, hpending, fun result => by rw [gives_iff, hresult]⟩
  · obtain ⟨args, hargs⟩ := exists_request c h
    obtain ⟨nextArgs, hnextArgs⟩ := exists_request c hnext
    obtain ⟨hresult, hpending, -⟩ := run_of_request hargs s
    have hhead : ((c.run op s).2.queue answer).pending.head? = some answer := by
      rw [Session.queue, hpending, hempty]
      rfl
    refine ⟨by rw [hresult, hempty]; rfl, fun result => ?_⟩
    rw [gives_iff, (run_of_request hnextArgs _).1, hhead]

def emptyIndex : Operation := .createIndex ⟨[]⟩ none {}

/-- A failure of the connection, then a refused operation between an answer and its operation. -/
def interleaved : List Action :=
  [.queue (.error ⟨"IoError", "reset", none⟩), .queue (.ok (.int 7)), .operate .info,
    .operate emptyIndex, .operate (.suggestionCount "ac")]

theorem run_by_turns_interleaved :
    let c : Client := { index := "idx" }
    let s := c.after {} interleaved
    let t : Turn := ⟨.suggestionCount "ac", some (.ok (.int 7)), .ok (.count 7)⟩
    t ∈ c.turns {} interleaved ∧ c.Gives t.op t.taken t.result ∧
    emptyIndex.isRefused = true ∧ Operation.info.isRefused = false ∧
    (Operation.deleteAlias "a").isRefused = false ∧ s.pending = [] ∧
    s.sent.map some = [c.sentFor .info, c.sentFor (.suggestionCount "ac")] ∧
    c.run emptyIndex s = (.error (.invalidArgument .noSchemaFields), s) ∧
    (c.run .info s).2.pending = [] ∧
    (c.run .info s).1 = .error (.mismatch (.noReply "FT.INFO")) ∧
    c.Gives (.deleteAlias "a") (some (.ok .okay)) (.ok .done) ∧
    (c.run (.deleteAlias "a") ((c.run .info s).2.queue (.ok .okay))).1 = .ok .done := by
  intro c s t
  have hmem : t ∈ c.turns {} interleaved := .tail _ (.head _)
  have hempty : s.pending = [] := rfl
  have hread : c.Gives (.deleteAlias "a") (some (.ok .okay)) (.ok .done) :=
    .answered (.deleteAlias "a") .okay
  obtain ⟨-, hsent, -, hresult, hrefused, hstep, hlate⟩ := run_by_turns c interleaved
  obtain ⟨hnone, hnext⟩ := hlate .info (.deleteAlias "a") (.ok .okay) rfl rfl hempty
  exact ⟨hmem, (hresult t hmem _).mpr rfl, rfl, rfl, rfl, hempty, hsent, hrefused emptyIndex rfl,
    (hstep .info rfl).2.1, hnone, hread, ((hnext _).mp hread).symm⟩

end Client

end FullText
