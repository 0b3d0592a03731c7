import FullText.Index.Info
import FullText.Proofs.Reply.Cursor
import FullText.Proofs.Reply.Pairs
import FullText.Proofs.Table

namespace FullText

open Reading

namespace Reply

def inTurn (pairs : List (Reply × Reply)) : List Reply := pairs.flatMap fun p => [p.1, p.2]

theorem length_inTurn (pairs : List (Reply × Reply)) :
    (inTurn pairs).length = pairs.length * 2 := by
  simp [inTurn, List.length_flatMap]

end Reply

/-- The table has each name of a pair once, with the value of the last pair of that name. -/
structure HoldsInfo (pairs : List (Reply × Reply)) (t : Table Reply) : Prop where
  once : t.names.Nodup
  names : ∀ name, name ∈ t.names ↔ ∃ p ∈ pairs, p.1.asText = .ok name
  value : ∀ name value, t.get? name = some value ↔
    ∃ (j : Nat) (key : Reply), pairs[j]? = some (key, value) ∧ key.asText = .ok name ∧
      ∀ (i : Nat) (p : Reply × Reply), j < i → pairs[i]? = some p → p.1.asText ≠ .ok name

def nextEntry : Reading (String × Reply) := do return (← nextAs Reply.asText, ← next)

theorem walks_nextEntry (p : Nat) (name value : Reply) (rest : List Reply) :
    Walks nextEntry ⟨p, name :: value :: rest⟩ (Reply.asEntry (name, value)) ⟨p + 2, rest⟩ := by
  have hname : Walks (nextAs Reply.asText) ⟨p, name :: value :: rest⟩ name.asText
      ⟨p + 1, value :: rest⟩ := ⟨_, nextAs_cons _ p name _, fun _ _ => rfl⟩
  have hvalue : Walks next ⟨p + 1, value :: rest⟩ (.ok value) ⟨p + 2, rest⟩ :=
    ⟨_, rfl, fun _ _ => rfl⟩
  exact hname.bind fun text _ => hvalue.bind fun v _ => Walks.pure (text, v) _

theorem walks_entries (pairs : List (Reply × Reply)) (p : Nat) :
    Walks (records nextEntry pairs.length) ⟨p, Reply.inTurn pairs⟩ (pairs.mapM Reply.asEntry)
      ⟨p + pairs.length * 2, []⟩ := by
  induction pairs generalizing p with
  | nil => exact Walks.pure [] _
  | cons pair pairs ih =>
      have hstop : p + (pair :: pairs).length * 2 = p + 2 + pairs.length * 2 := by
        rw [List.length_cons]
        omega
      rw [List.mapM_cons, hstop]
      refine (walks_nextEntry p pair.1 pair.2 _).bind fun entry _ => ?_
      exact (ih (p + 2)).bind fun entries _ => Walks.pure (entry :: entries) _

variable {r : Reply} {items : List Reply} {pairs : List (Reply × Reply)}

theorem readInfo_of_asList (h : r.asList = .ok items) :
    readInfo r = run (do return .ofList (← records nextEntry (← expectStride 2))) items := by
  rcases Reply.asList_eq_ok_iff.mp h with rfl | rfl <;> rfl

theorem readInfo_of_odd (h : r.asList = .ok items) (hodd : items.length % 2 = 1) :
    readInfo r = .error (.mismatch (.unevenRecords items.length 2)) := by
  have hremaining : (Cursor.start items).remaining % 2 ≠ 0 := by
    change items.length % 2 ≠ 0
    omega
  have hstride := expectStride_eq Nat.two_pos (Cursor.start items)
  rw [if_neg hremaining] at hstride
  rw [readInfo_of_asList h]
  exact congrArg Prod.fst (bind_error hstride _)

/-- Both forms are walked through in the same steps, a pair in one of them. -/
theorem readInfo_inTurn (h : r.asList = .ok (Reply.inTurn pairs)) :
    readInfo r = readInfo (.map pairs) := by
  have hstride : expectStride 2 (.start (Reply.inTurn pairs)) =
      (.ok pairs.length, .start (Reply.inTurn pairs)) := by
    have hremaining : (Cursor.start (Reply.inTurn pairs)).remaining = pairs.length * 2 :=
      Reply.length_inTurn pairs
    rw [expectStride_eq Nat.two_pos, hremaining, if_pos (Nat.mul_mod_left _ _),
      Nat.mul_div_cancel _ Nat.two_pos]
  have hwalk := (walks_entries pairs 0).bind (f := fun entries => pure (Table.ofList entries))
    fun entries _ => Walks.pure (Table.ofList entries) _
  calc readInfo r
      = run (do return .ofList (← records nextEntry (← expectStride 2))) (Reply.inTurn pairs) :=
        readInfo_of_asList h
    _ = pairs.mapM Reply.asEntry >>= fun entries => .ok (Table.ofList entries) :=
        (congrArg Prod.fst (bind_ok hstride _)).trans hwalk.fst_eq
    _ = readInfo (.map pairs) := (map_eq_pure_bind _ _).symm

theorem readInfo_map_eq_error_iff {e : Error} :
    readInfo (.map pairs) = .error e ↔ ∃ (j : Nat) (p : Reply × Reply), pairs[j]? = some p ∧
      p.1.asText = .error e ∧ ∀ (i : Nat) (q : Reply × Reply), i < j → pairs[i]? = some q →
        ∃ name, q.1.asText = .ok name := by
  rw [readInfo, map_eq_error_iff, mapM_eq_error_iff]
  simp only [Reply.asEntry_eq_error_iff, Reply.exists_asEntry_iff]

theorem exists_readInfo_map_iff :
    (∃ t, readInfo (.map pairs) = .ok t) ↔ ∀ p ∈ pairs, ∃ name, p.1.asText = .ok name := by
  simp only [← Reply.exists_asEntry_iff, ← exists_mapM_eq_ok_iff, readInfo, map_eq_ok_iff]
  exact ⟨fun ⟨_, entries, h, _⟩ => ⟨entries, h⟩, fun ⟨entries, h⟩ => ⟨_, entries, h, rfl⟩⟩

theorem holdsInfo_of_readInfo {t : Table Reply} (h : readInfo (.map pairs) = .ok t) :
    HoldsInfo pairs t := by
  obtain ⟨entries, hentries, rfl⟩ := map_eq_ok_iff.mp h
  have hentry (j : Nat) (name : String) (value : Reply) : entries[j]? = some (name, value) ↔
      ∃ key, pairs[j]? = some (key, value) ∧ key.asText = .ok name :=
    Reply.getElem?_of_mapM_asEntry hentries
  refine ⟨Table.nodup_names_ofList entries, fun name => ?_, fun name value => ?_⟩
  · rw [Table.mem_names_ofList, List.mem_map]
    constructor
    · rintro ⟨⟨name, value⟩, hmem, rfl⟩
      obtain ⟨j, hj⟩ := List.mem_iff_getElem?.mp hmem
      obtain ⟨key, hp, hname⟩ := (hentry j name value).mp hj
      exact ⟨(key, value), List.mem_of_getElem? hp, hname⟩
    · rintro ⟨⟨key, value⟩, hmem, hname⟩
      obtain ⟨j, hp⟩ := List.mem_iff_getElem?.mp hmem
      exact ⟨(name, value), List.mem_of_getElem? ((hentry j name value).mpr ⟨key, hp, hname⟩), rfl⟩
  · have hlast (j : Nat) : (∀ (i : Nat) (e : String × Reply), j < i → entries[i]? = some e →
        e.1 ≠ name) ↔ ∀ (i : Nat) (p : Reply × Reply), j < i → pairs[i]? = some p →
          p.1.asText ≠ .ok name := by
      constructor
      · exact fun hlater i p hi hp hname =>
          hlater i _ hi ((hentry i name p.2).mpr ⟨p.1, hp, hname⟩) rfl
      · rintro hlater i ⟨_, v⟩ hi he rfl
        obtain ⟨key, hp, hname⟩ := (hentry i _ v).mp he
        exact hlater i _ hi hp hname
    rw [Table.get?_ofList_eq_some_iff]
    refine exists_congr fun j => ?_
    rw [hentry, hlast]
    simp only [← exists_and_right, and_assoc]

/-- The list and the set of names and values in turn are read as the map of the same pairs. What is
read is the error of the first name that is no text, or else a table of the names with the last value
of each. A list in which the last name has no value is refused. -/
theorem readInfo_by_form (pairs : List (Reply × Reply)) :
    readInfo (.array (Reply.inTurn pairs)) = readInfo (.map pairs) ∧
    readInfo (.set (Reply.inTurn pairs)) = readInfo (.map pairs) ∧
    (∀ e, readInfo (.map pairs) = .error e ↔ ∃ (j : Nat) (p : Reply × Reply), pairs[j]? = some p ∧
      p.1.asText = .error e ∧ ∀ (i : Nat) (q : Reply × Reply), i < j → pairs[i]? = some q →
        ∃ name, q.1.asText = .ok name) ∧
    ((∃ t, readInfo (.map pairs) = .ok t) ↔ ∀ p ∈ pairs, ∃ name, p.1.asText = .ok name) ∧
    (∀ t, readInfo (.map pairs) = .ok t → HoldsInfo pairs t) ∧
    ∀ items : List Reply, items.length % 2 = 1 →
      readInfo (.array items) = .error (.mismatch (.unevenRecords items.length 2)) ∧
      readInfo (.set items) = .error (.mismatch (.unevenRecords items.length 2)) :=
  ⟨readInfo_inTurn rfl, readInfo_inTurn rfl, fun _ => readInfo_map_eq_error_iff,
    exists_readInfo_map_iff, fun _ => holdsInfo_of_readInfo,
    fun _ hodd => ⟨readInfo_of_odd rfl hodd, readInfo_of_odd rfl hodd⟩⟩

def respelled : List (Reply × Reply) :=
  [(.bulkText "1", .int 10), (.okay, .nil), (.int 1, .array [.nil]), (.simple "OK", .int 2)]

theorem readInfo_by_form_respelled :
    let t : Table Reply := ⟨[("1", .array [.nil]), ("OK", .int 2)]⟩
    readInfo (.map respelled) = .ok t ∧ HoldsInfo respelled t ∧
    readInfo (.array (Reply.inTurn respelled)) = .ok t ∧
    readInfo (.set (Reply.inTurn respelled)) = .ok t ∧
    [Reply.okay, .nil, .okay].length % 2 = 1 ∧
    readInfo (.array [.okay, .nil, .okay]) = .error (.mismatch (.unevenRecords 3 2)) := by
  intro t
  have hentries : List.Forall₂ (fun p e => Reply.asEntry p = .ok e) respelled
      [("1", .int 10), ("OK", .nil), ("1", .array [.nil]), ("OK", .int 2)] := by
    simp only [respelled, List.forall₂_cons, List.forall₂_nil_left_iff, Reply.asEntry_eq_ok_iff,
      and_true]
    exact ⟨Reply.asText_bulkText "1", Reply.asText_eq_ok rfl, Reply.asText_eq_ok rfl,
      Reply.asText_eq_ok rfl⟩
  have hmap : readInfo (.map respelled) = .ok t :=
    map_eq_ok_iff.mpr ⟨_, mapM_eq_ok_iff.mpr hentries, rfl⟩
  obtain ⟨harray, hset, -, -, hholds, hodd⟩ := readInfo_by_form respelled
  exact ⟨hmap, hholds t hmap, harray.trans hmap, hset.trans hmap, rfl,
    (hodd [.okay, .nil, .okay] rfl).1⟩

end FullText
