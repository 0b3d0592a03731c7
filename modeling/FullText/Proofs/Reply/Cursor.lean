import FullText.Proofs.Reply.Coercion
import FullText.Reply.Cursor

namespace FullText.Reading

variable {α β : Type}

@[simp]
theorem pure_apply (a : α) (c : Cursor) : (pure a : Reading α) c = (.ok a, c) := rfl

theorem bind_ok {x : Reading α} {a : α} {c c' : Cursor} (h : x c = (.ok a, c'))
    (f : α → Reading β) : (x >>= f) c = f a c' := by
  change ExceptT.bindCont f (x c).1 (x c).2 = _
  rw [h]
  rfl

theorem bind_error {x : Reading α} {e : Error} {c c' : Cursor} (h : x c = (.error e, c'))
    (f : α → Reading β) : (x >>= f) c = (.error e, c') := by
  change ExceptT.bindCont f (x c).1 (x c).2 = _
  rw [h]
  rfl

theorem nextAs_cons (read : Reply → Except Error α) (p : Nat) (r : Reply) (rest : List Reply) :
    nextAs read ⟨p, r :: rest⟩ = (read r, ⟨p + 1, rest⟩) := by
  have h : next ⟨p, r :: rest⟩ = (.ok r, ⟨p + 1, rest⟩) := rfl
  rw [nextAs, bind_ok h]
  rfl

theorem nextAs_nil (read : Reply → Except Error α) (p : Nat) :
    nextAs read ⟨p, []⟩ = (.error (Mismatch.tooShort p), ⟨p, []⟩) :=
  bind_error rfl _

theorem map_apply (f : α → β) (x : Reading α) (c : Cursor) :
    (f <$> x) c = (f <$> (x c).1, (x c).2) := by
  cases h : x c with
  | mk v c' =>
      cases v with
      | ok a => exact bind_ok h _
      | error e => exact bind_error h _

theorem map_nextAs (f : α → β) (read : Reply → Except Error α) :
    f <$> nextAs read = nextAs fun r => f <$> read r := by
  funext c
  obtain ⟨p, _ | ⟨r, rest⟩⟩ := c
  · rw [map_apply, nextAs_nil, nextAs_nil]
    rfl
  · rw [map_apply, nextAs_cons, nextAs_cons]

theorem fst_bind_nextAs_cons (read : Reply → Except Error α) (f : α → Reading β) (p : Nat) (r : Reply)
    (rest : List Reply) : ((nextAs read >>= f) ⟨p, r :: rest⟩).1 =
      read r >>= fun a => (f a ⟨p + 1, rest⟩).1 := by
  have hnext := nextAs_cons read p r rest
  cases h : read r with
  | error e =>
      rw [h] at hnext
      rw [bind_error hnext]
      rfl
  | ok a =>
      rw [h] at hnext
      rw [bind_ok hnext]
      rfl

theorem fst_bind_nextAs_nil (read : Reply → Except Error α) (f : α → Reading β) (p : Nat) :
    ((nextAs read >>= f) ⟨p, []⟩).1 = .error (.mismatch (.tooShort p)) :=
  congrArg Prod.fst (bind_error (nextAs_nil read p) f)

theorem run_first (read : Reply → Except Error α) (items : List Reply) :
    run (do return (← nextAs read, ← remainder)) items =
      match items with
      | [] => .error (.mismatch (.tooShort 0))
      | r :: rest => (·, rest) <$> read r := by
  cases items with
  | nil => exact fst_bind_nextAs_nil read _ 0
  | cons r rest => exact (fst_bind_nextAs_cons read _ 0 r rest).trans (map_eq_pure_bind _ _).symm

theorem run_first_eq_ok_iff {read : Reply → Except Error α} {items rest : List Reply} {a : α} :
    run (do return (← nextAs read, ← remainder)) items = .ok (a, rest) ↔
      ∃ r, items = r :: rest ∧ read r = .ok a := by
  rw [run_first]
  cases items with
  | nil => simp
  | cons r others =>
      simp only [map_eq_ok_iff, Prod.mk.injEq, List.cons.injEq]
      constructor
      · rintro ⟨_, ha, rfl, rfl⟩
        exact ⟨r, ⟨rfl, rfl⟩, ha⟩
      · rintro ⟨_, ⟨rfl, rfl⟩, ha⟩
        exact ⟨a, ha, rfl, rfl⟩

theorem run_pair_eq_ok_iff {read : Reply → Except Error α} {read' : Reply → Except Error β}
    {items : List Reply} {a : α} {b : β} :
    run (do return (← nextAs read, ← nextAs read')) items = .ok (a, b) ↔
      ∃ first second rest, items = first :: second :: rest ∧ read first = .ok a ∧
        read' second = .ok b := by
  change ((nextAs read >>= fun a => nextAs read' >>= fun b => pure (a, b)) ⟨0, items⟩).1 = _ ↔ _
  match items with
  | [] => simp [fst_bind_nextAs_nil]
  | [first] =>
      simp only [fst_bind_nextAs_cons, fst_bind_nextAs_nil, bind_eq_ok_iff]
      simp
  | first :: second :: rest =>
      simp only [fst_bind_nextAs_cons, bind_eq_ok_iff, pure_apply, Except.ok.injEq, Prod.mk.injEq]
      constructor
      · rintro ⟨_, ha, _, hb, rfl, rfl⟩
        exact ⟨first, second, rest, rfl, ha, hb⟩
      · rintro ⟨_, _, _, hitems, ha, hb⟩
        simp only [List.cons.injEq] at hitems
        obtain ⟨rfl, rfl, rfl⟩ := hitems
        exact ⟨a, ha, b, hb, rfl, rfl⟩

theorem failsByMismatch_run_first {read : Reply → Except Error α}
    (hread : ∀ r, FailsByMismatch (read r)) (items : List Reply) :
    FailsByMismatch (run (do return (← nextAs read, ← remainder)) items) := by
  rw [run_first]
  cases items with
  | nil => exact .mismatch _
  | cons r rest => exact (hread r).map _

/-- An element that is laid out only if it is `given`. -/
def nextIf (given : Bool) (default : α) (read : Reply → Except Error α) : Reading α :=
  if given then nextAs read else pure default

theorem nextIf_ok {read : Reply → Except Error α} {r : Reply} {a : α} (h : read r = .ok a)
    (given : Bool) (default : α) (p : Nat) (rest : List Reply) :
    nextIf given default read ⟨p, (if given then [r] else []) ++ rest⟩ =
      (.ok (if given then a else default), ⟨p + given.toNat, rest⟩) := by
  cases given with
  | false => rfl
  | true => exact (nextAs_cons read p r rest).trans (by rw [h]; rfl)

theorem records_succ (record : Reading α) (n : Nat) (c : Cursor) :
    records record (n + 1) c =
      (record >>= fun a => records record n >>= fun as => pure (a :: as)) c := rfl

theorem records_flatMap {record : Reading β} {layout : α → List Reply} {value : α → β}
    (h : ∀ a p rest,
      record ⟨p, layout a ++ rest⟩ = (.ok (value a), ⟨p + (layout a).length, rest⟩))
    (as : List α) (p : Nat) (rest : List Reply) :
    records record as.length ⟨p, as.flatMap layout ++ rest⟩ =
      (.ok (as.map value), ⟨p + (as.flatMap layout).length, rest⟩) := by
  induction as generalizing p with
  | nil => rfl
  | cons a as ih =>
      rw [List.length_cons, records_succ, List.flatMap_cons, List.append_assoc, bind_ok (h a p _),
        bind_ok (ih _), pure_apply, List.map_cons, List.length_append, Nat.add_assoc]

/-- A walk from `c` that gives `v`, and leaves the cursor at `d` unless it fails. -/
def Walks (x : Reading α) (c : Cursor) (v : Except Error α) (d : Cursor) : Prop :=
  ∃ c', x c = (v, c') ∧ ∀ a, v = .ok a → c' = d

theorem Walks.pure (a : α) (c : Cursor) : Walks (Pure.pure a) c (.ok a) c :=
  ⟨c, rfl, fun _ _ => rfl⟩

theorem Walks.bind {x : Reading α} {f : α → Reading β} {v : Except Error α}
    {g : α → Except Error β} {c d d' : Cursor} (hx : Walks x c v d)
    (hf : ∀ a, v = .ok a → Walks (f a) d (g a) d') : Walks (x >>= f) c (v >>= g) d' := by
  obtain ⟨c', hc, hd⟩ := hx
  cases v with
  | error e => exact ⟨c', bind_error hc f, by intro a h; cases h⟩
  | ok a =>
      rw [hd a rfl] at hc
      obtain ⟨c'', hc'', hd''⟩ := hf a rfl
      exact ⟨c'', (bind_ok hc f).trans hc'', hd''⟩

theorem Walks.fst_eq {x : Reading α} {c d : Cursor} {v : Except Error α} (h : Walks x c v d) :
    (x c).1 = v := by
  obtain ⟨c', hc, -⟩ := h
  rw [hc]

theorem walks_records {record : Reading β} {value : Nat → Except Error β} {stop : Nat → Cursor}
    {n : Nat} (h : ∀ i < n, Walks record (stop i) (value i) (stop (i + 1))) :
    Walks (records record n) (stop 0) ((List.range n).mapM value) (stop n) := by
  induction n generalizing value stop with
  | zero => exact Walks.pure [] (stop 0)
  | succ n ih =>
      have htail := @ih (fun i => value (i + 1)) (fun i => stop (i + 1))
        fun i hi => h (i + 1) (Nat.succ_lt_succ hi)
      rw [List.range_succ_eq_map, List.mapM_cons, List.mapM_map]
      refine (h 0 (Nat.succ_pos n)).bind fun a _ => ?_
      exact htail.bind fun as _ => Walks.pure (a :: as) (stop (n + 1))

theorem expectStride_eq {stride : Nat} (hstride : 0 < stride) (c : Cursor) :
    expectStride stride c =
      (if c.remaining % stride = 0 then .ok (c.remaining / stride)
        else .error (Mismatch.unevenRecords c.remaining stride), c) := by
  rw [expectStride]
  by_cases h : c.remaining % stride = 0 <;> simp [h, Nat.ne_of_gt hstride]

end FullText.Reading
