import FullText.Proofs.Search.Document

namespace FullText.SearchResult

open Reading

def elementAs (read : Reply → Except Error α) (items : List Reply) (p : Nat) : Except Error α :=
  match items[p]? with
  | some r => read r
  | none => .error (Mismatch.tooShort p)

def offsetAs (default : α) (read : Reply → Except Error α) (items : List Reply) (b : Nat) :
    Option Nat → Except Error α
  | none => .ok default
  | some o => elementAs read items (b + o)

def documentAt (s : Shape) (asText : Bool) (items : List Reply) (b : Nat) :
    Except Error Document := do
  let id ← elementAs Reply.asText items b
  let score ← offsetAs .one Reply.asNumber items b s.scoreOffset
  let payload ← offsetAs none (Reply.orNil Reply.asBytes) items b s.payloadOffset
  let properties ← offsetAs ∅ (readProperties asText) items b s.contentOffset
  return { id, score, payload, properties }

def cursorAt (items : List Reply) (p : Nat) : Cursor := ⟨p, items.drop p⟩

theorem walks_nextAs (read : Reply → Except Error α) {items : List Reply} {p : Nat}
    (hp : p < items.length) :
    Walks (nextAs read) (cursorAt items p) (elementAs read items p) (cursorAt items (p + 1)) := by
  have hdrop : items.drop p = items[p] :: items.drop (p + 1) := List.drop_eq_getElem_cons hp
  refine ⟨cursorAt items (p + 1), ?_, fun _ _ => rfl⟩
  rw [cursorAt, hdrop, nextAs_cons, elementAs, List.getElem?_eq_getElem hp]
  rfl

theorem walks_nextIf (given : Bool) (default : α) (read : Reply → Except Error α)
    {items : List Reply} {b o : Nat} (h : b + (o + given.toNat) ≤ items.length) :
    Walks (nextIf given default read) (cursorAt items (b + o))
      (offsetAs default read items b (if given then some o else none))
      (cursorAt items (b + (o + given.toNat))) := by
  cases given with
  | false => exact Walks.pure default _
  | true => exact walks_nextAs read (by simpa [Nat.lt_iff_add_one_le, Nat.add_assoc] using h)

theorem walks_readDocument (s : Shape) (asText : Bool) {items : List Reply} {b : Nat}
    (h : b + s.stride ≤ items.length) :
    Walks (readDocument s asText) (cursorAt items b) (documentAt s asText items b)
      (cursorAt items (b + s.stride)) := by
  have hstride : s.stride = 1 + s.scores.toNat + s.laysPayloads.toNat + s.content.toNat := by
    rw [Shape.stride]
    omega
  rw [readDocument_eq, hstride]
  rw [hstride] at h
  have hid : b < items.length := by omega
  have hscore : b + (1 + s.scores.toNat) ≤ items.length := by omega
  have hpayload : b + (1 + s.scores.toNat + s.laysPayloads.toNat) ≤ items.length := by omega
  refine (walks_nextAs Reply.asText hid).bind fun id _ => ?_
  refine (walks_nextIf s.scores .one Reply.asNumber hscore).bind fun score _ => ?_
  refine (walks_nextIf s.laysPayloads none (Reply.orNil Reply.asBytes) hpayload).bind
    fun payload _ => ?_
  refine (walks_nextIf s.content ∅ (readProperties asText) h).bind fun properties _ => ?_
  exact Walks.pure _ _

def recordStart (s : Shape) (i : Nat) : Nat := 1 + i * s.stride

theorem walks_strided {record : Reading α} {value : Nat → Except Error α} {items : List Reply}
    {start stride n : Nat} (hrecord : ∀ b, b + stride ≤ items.length →
      Walks record (cursorAt items b) (value b) (cursorAt items (b + stride)))
    (hend : start + n * stride ≤ items.length) :
    Walks (records record n) (cursorAt items start)
      ((List.range n).mapM fun i => value (start + i * stride))
      (cursorAt items (start + n * stride)) := by
  have hwalk : ∀ i < n, Walks record (cursorAt items (start + i * stride))
      (value (start + i * stride)) (cursorAt items (start + (i + 1) * stride)) := by
    intro i hi
    have hnext : start + i * stride + stride = start + (i + 1) * stride := by
      rw [Nat.succ_mul, Nat.add_assoc]
    have hle : (i + 1) * stride ≤ n * stride := Nat.mul_le_mul_right _ hi
    rw [← hnext]
    exact hrecord _ (by omega)
  have hstart : cursorAt items start = cursorAt items (start + 0 * stride) := by simp
  rw [hstart]
  exact walks_records hwalk

theorem walks_documents (s : Shape) (asText : Bool) {items : List Reply} {n : Nat}
    (h : recordStart s n ≤ items.length) :
    Walks (records (readDocument s asText) n) (cursorAt items 1)
      ((List.range n).mapM fun i => documentAt s asText items (recordStart s i))
      (cursorAt items (recordStart s n)) :=
  walks_strided (fun _ hb => walks_readDocument s asText hb) h

def recordCount (s : Shape) (items : List Reply) : Except Error Nat :=
  if (items.length - 1) % s.stride = 0 then .ok ((items.length - 1) / s.stride)
  else .error (Mismatch.unevenRecords (items.length - 1) s.stride)

theorem walks_expectStride (s : Shape) (items : List Reply) :
    Walks (expectStride s.stride) (cursorAt items 1) (recordCount s items) (cursorAt items 1) := by
  have hremaining : (cursorAt items 1).remaining = items.length - 1 := List.length_drop
  refine ⟨cursorAt items 1, ?_, fun _ _ => rfl⟩
  rw [expectStride_eq s.stride_pos, hremaining, recordCount]

theorem recordCount_eq_ok_iff {s : Shape} {items : List Reply} {n : Nat} :
    recordCount s items = .ok n ↔ items.length - 1 = n * s.stride := by
  rw [recordCount]
  constructor
  · split
    next hmod =>
      intro h
      obtain rfl := Except.ok.inj h
      exact (Nat.div_mul_cancel (Nat.dvd_of_mod_eq_zero hmod)).symm
    next => intro h; cases h
  · intro h
    rw [h, Nat.mul_mod_left, if_pos rfl, Nat.mul_div_cancel n s.stride_pos]

theorem read_eq (s : Shape) (asText : Bool) (r : Reply) :
    read s asText r = r.asList >>= fun items =>
      elementAs Reply.asTotal items 0 >>= fun total =>
      recordCount s items >>= fun n =>
      ((List.range n).mapM fun i => documentAt s asText items (recordStart s i)) >>= fun documents =>
      .ok ⟨total, documents⟩ := by
  rw [read]
  cases r.asList with
  | error e => rfl
  | ok items =>
      change run _ items = _
      cases items with
      | nil => exact congrArg Prod.fst (bind_error (nextAs_nil Reply.asTotal 0) _)
      | cons r rest =>
          have hpos : 0 < (r :: rest).length := Nat.succ_pos _
          refine Walks.fst_eq (d := cursorAt (r :: rest) (r :: rest).length) ?_
          refine (walks_nextAs Reply.asTotal hpos).bind fun total _ => ?_
          refine (walks_expectStride s (r :: rest)).bind fun n hn => ?_
          have hend : recordStart s n = (r :: rest).length := by
            rw [recordStart, ← recordCount_eq_ok_iff.mp hn]
            omega
          rw [← hend]
          refine (walks_documents s asText (Nat.le_of_eq hend)).bind fun documents _ => ?_
          exact Walks.pure _ _

theorem elementAs_eq_ok_iff {read : Reply → Except Error α} {items : List Reply} {p : Nat} {a : α} :
    elementAs read items p = .ok a ↔ ∃ r, items[p]? = some r ∧ read r = .ok a := by
  rw [elementAs]
  cases items[p]? <;> simp

/-- `P` holds of the element at an offset from `b`, or `absent` if there is no offset. -/
def Stands (items : List Reply) (b : Nat) (P : Reply → Prop) (absent : Prop) : Option Nat → Prop
  | none => absent
  | some o => ∃ r, items[b + o]? = some r ∧ P r

theorem offsetAs_eq_ok_iff {default : α} {read : Reply → Except Error α} {items : List Reply}
    {b : Nat} {offset : Option Nat} {a : α} :
    offsetAs default read items b offset = .ok a ↔
      Stands items b (fun r => read r = .ok a) (a = default) offset := by
  cases offset with
  | none => simp [offsetAs, Stands, eq_comm]
  | some o => exact elementAs_eq_ok_iff

theorem Stands.imp {items : List Reply} {b : Nat} {P Q : Reply → Prop} {p q : Prop}
    {offset : Option Nat} (hP : ∀ r, P r → Q r) (hp : p → q) (h : Stands items b P p offset) :
    Stands items b Q q offset := by
  cases offset with
  | none => exact hp h
  | some o =>
      obtain ⟨r, hr, hPr⟩ := h
      exact ⟨r, hr, hP r hPr⟩

theorem exists_stands_iff {P : α → Reply → Prop} {default : α} {items : List Reply} {b : Nat}
    {offset : Option Nat} :
    (∃ a, Stands items b (P a) (a = default) offset) ↔
      Stands items b (fun r => ∃ a, P a r) True offset := by
  cases offset with
  | none => exact iff_of_true ⟨default, rfl⟩ trivial
  | some o =>
      constructor
      · rintro ⟨a, r, hr, ha⟩
        exact ⟨r, hr, a, ha⟩
      · rintro ⟨r, hr, a, ha⟩
        exact ⟨a, r, hr, ha⟩

theorem Stands.exists_offsetAs {items : List Reply} {b : Nat} {read : Reply → Except Error α}
    {offset : Option Nat} (h : Stands items b (fun r => ∃ a, read r = .ok a) True offset)
    (default : α) : ∃ a, offsetAs default read items b offset = .ok a := by
  simp only [offsetAs_eq_ok_iff]
  exact exists_stands_iff.mpr h

theorem documentAt_eq_ok_iff {s : Shape} {asText : Bool} {items : List Reply} {b : Nat}
    {d : Document} : documentAt s asText items b = .ok d ↔
      elementAs Reply.asText items b = .ok d.id ∧
      offsetAs .one Reply.asNumber items b s.scoreOffset = .ok d.score ∧
      offsetAs none (Reply.orNil Reply.asBytes) items b s.payloadOffset = .ok d.payload ∧
      offsetAs ∅ (readProperties asText) items b s.contentOffset = .ok d.properties := by
  simp only [documentAt, bind_eq_ok_iff, pure, Except.pure, Except.ok.injEq]
  constructor
  · rintro ⟨id, hid, score, hscore, payload, hpayload, properties, hproperties, rfl⟩
    exact ⟨hid, hscore, hpayload, hproperties⟩
  · rintro ⟨hid, hscore, hpayload, hproperties⟩
    exact ⟨_, hid, _, hscore, _, hpayload, _, hproperties, rfl⟩

/-- The elements of the record that begins at `b` can be read, each at its offset. -/
structure Readable (s : Shape) (items : List Reply) (b : Nat) : Prop where
  id : ∃ r text, items[b]? = some r ∧ r.asText = .ok text
  score : Stands items b (fun r => ∃ x, r.asNumber = .ok x) True s.scoreOffset
  payload :
    Stands items b (fun r => r = .nil ∨ ∃ bytes, r.asBytes = .ok bytes) True s.payloadOffset
  content : Stands items b
    (fun r => r = .nil ∨ ∃ list, (r = .array list ∨ r = .set list) ∧ Alternates list)
    True s.contentOffset

/-- The document holds what stands at the offsets of the record that begins at `b`. -/
structure HoldsAt (s : Shape) (asText : Bool) (items : List Reply) (b : Nat) (d : Document) :
    Prop where
  id : ∃ r, items[b]? = some r ∧ r.asText = .ok d.id
  score : Stands items b (fun r => r.asNumber = .ok d.score) (d.score = .one) s.scoreOffset
  payload : Stands items b
    (fun r => (r = .nil ∧ d.payload = none) ∨
      ∃ bytes, r.asBytes = .ok bytes ∧ d.payload = some bytes)
    (d.payload = none) s.payloadOffset
  content : ∃ pairs, Property.Tabulates asText pairs d.properties ∧ Stands items b
    (fun r => (r = .nil ∧ pairs = []) ∨
      ∃ list, (r = .array list ∨ r = .set list) ∧ Spells list pairs)
    (pairs = []) s.contentOffset

theorem holdsAt_of_documentAt {s : Shape} {asText : Bool} {items : List Reply} {b : Nat}
    {d : Document} (h : documentAt s asText items b = .ok d) : HoldsAt s asText items b d := by
  obtain ⟨hid, hscore, hpayload, hproperties⟩ := documentAt_eq_ok_iff.mp h
  refine ⟨elementAs_eq_ok_iff.mp hid, offsetAs_eq_ok_iff.mp hscore, ?_, ?_⟩
  · exact (offsetAs_eq_ok_iff.mp hpayload).imp (fun _ => orNil_asBytes_eq_ok_iff.mp) fun hd => hd
  · cases hoffset : s.contentOffset with
    | none =>
        rw [hoffset] at hproperties
        have hempty : d.properties = ∅ := (Except.ok.inj hproperties).symm
        exact ⟨[], hempty ▸ Property.tabulates_empty asText, rfl⟩
    | some o =>
        rw [hoffset] at hproperties
        obtain ⟨r, hr, hread⟩ := elementAs_eq_ok_iff.mp hproperties
        obtain ⟨pairs, hpairs, ht⟩ := readProperties_eq_ok_iff.mp hread
        refine ⟨pairs, ht ▸ Property.tabulates_tabulate asText pairs, r, hr, ?_⟩
        exact readEntries_eq_ok_iff.mp hpairs

theorem HoldsAt.readable {s : Shape} {asText : Bool} {items : List Reply} {b : Nat} {d : Document}
    (h : HoldsAt s asText items b d) : Readable s items b where
  id := by
    obtain ⟨r, hr, htext⟩ := h.id
    exact ⟨r, d.id, hr, htext⟩
  score := h.score.imp (fun _ hx => ⟨d.score, hx⟩) fun _ => trivial
  payload := by
    refine h.payload.imp ?_ fun _ => trivial
    rintro r (⟨hnil, -⟩ | ⟨bytes, hbytes, -⟩)
    · exact .inl hnil
    · exact .inr ⟨bytes, hbytes⟩
  content := by
    obtain ⟨pairs, -, hpairs⟩ := h.content
    refine hpairs.imp ?_ fun _ => trivial
    rintro r (⟨hnil, -⟩ | ⟨list, hlist, hspells⟩)
    · exact .inl hnil
    · exact .inr ⟨list, hlist, hspells.alternates⟩

theorem Readable.exists_documentAt {s : Shape} {items : List Reply} {b : Nat}
    (h : Readable s items b) (asText : Bool) : ∃ d, documentAt s asText items b = .ok d := by
  have hbytes (r : Reply) : (r = .nil ∨ ∃ bytes, r.asBytes = .ok bytes) →
      ∃ v, Reply.orNil Reply.asBytes r = .ok v := by
    rintro (hnil | ⟨bytes, hbytes⟩)
    · exact ⟨none, orNil_asBytes_eq_ok_iff.mpr (.inl ⟨hnil, rfl⟩)⟩
    · exact ⟨some bytes, orNil_asBytes_eq_ok_iff.mpr (.inr ⟨bytes, hbytes, rfl⟩)⟩
  have hlist (r : Reply) :
      (r = .nil ∨ ∃ list, (r = .array list ∨ r = .set list) ∧ Alternates list) →
      ∃ t, readProperties asText r = .ok t := by
    intro hr
    have hentries : ∃ pairs, readEntries r = .ok pairs := by
      rcases hr with hnil | ⟨list, hlist, halternates⟩
      · exact ⟨[], readEntries_eq_ok_iff.mpr (.inl ⟨hnil, rfl⟩)⟩
      · obtain ⟨pairs, hpairs⟩ := exists_spells_iff.mpr halternates
        exact ⟨pairs, readEntries_eq_ok_iff.mpr (.inr ⟨list, hlist, hpairs⟩)⟩
    obtain ⟨pairs, hpairs⟩ := hentries
    exact ⟨_, readProperties_eq_ok_iff.mpr ⟨pairs, hpairs, rfl⟩⟩
  obtain ⟨r, text, hr, htext⟩ := h.id
  obtain ⟨score, hscore⟩ := h.score.exists_offsetAs .one
  obtain ⟨payload, hpayload⟩ := (h.payload.imp hbytes fun h => h).exists_offsetAs none
  obtain ⟨properties, hproperties⟩ := (h.content.imp hlist fun h => h).exists_offsetAs ∅
  exact ⟨⟨text, score, payload, properties⟩, documentAt_eq_ok_iff.mpr
    ⟨elementAs_eq_ok_iff.mpr ⟨r, hr, htext⟩, hscore, hpayload, hproperties⟩⟩

theorem failsByMismatch_elementAs {read : Reply → Except Error α}
    (hread : ∀ r, FailsByMismatch (read r)) (items : List Reply) (p : Nat) :
    FailsByMismatch (elementAs read items p) := by
  rw [elementAs]
  cases items[p]? with
  | none => exact .mismatch _
  | some r => exact hread r

theorem failsByMismatch_offsetAs (default : α) {read : Reply → Except Error α}
    (hread : ∀ r, FailsByMismatch (read r)) (items : List Reply) (b : Nat) (offset : Option Nat) :
    FailsByMismatch (offsetAs default read items b offset) := by
  cases offset with
  | none => exact .ok default
  | some o => exact failsByMismatch_elementAs hread items (b + o)

theorem failsByMismatch_documentAt (s : Shape) (asText : Bool) (items : List Reply) (b : Nat) :
    FailsByMismatch (documentAt s asText items b) := by
  refine (failsByMismatch_elementAs Reply.failsByMismatch_asText items b).bind fun id => ?_
  refine (failsByMismatch_offsetAs _ Reply.failsByMismatch_asNumber items b _).bind fun score => ?_
  refine (failsByMismatch_offsetAs _
    (Reply.failsByMismatch_orNil Reply.failsByMismatch_asBytes) items b _).bind fun payload => ?_
  refine (failsByMismatch_offsetAs _
    (failsByMismatch_readProperties asText) items b _).bind fun properties => ?_
  exact .ok _

theorem failsByMismatch_read (s : Shape) (asText : Bool) (r : Reply) :
    FailsByMismatch (read s asText r) := by
  rw [read_eq]
  refine (Reply.failsByMismatch_asList r).bind fun items => ?_
  refine (failsByMismatch_elementAs Reply.failsByMismatch_asTotal items 0).bind fun total => ?_
  have hcount : FailsByMismatch (recordCount s items) := by
    rw [recordCount]
    split
    · exact .ok _
    · exact .mismatch _
  refine hcount.bind fun n => ?_
  have hrecord (i : Nat) := failsByMismatch_documentAt s asText items (recordStart s i)
  exact (FailsByMismatch.mapM hrecord (List.range n)).bind fun documents => .ok _

/-- A list whose first element is a count and whose others divide into records that can be read. -/
def Accepts (s : Shape) (r : Reply) : Prop :=
  ∃ items, (r = .array items ∨ r = .set items) ∧
    (∃ (e : Reply) (n : Int64), items[0]? = some e ∧ e.asInt = .ok n ∧ 0 ≤ n) ∧
    (items.length - 1) % s.stride = 0 ∧
    ∀ i < (items.length - 1) / s.stride, Readable s items (1 + i * s.stride)

/-- The result holds the count and, for every record, what stands at the offsets from its start. -/
def Holds (s : Shape) (asText : Bool) (r : Reply) (result : SearchResult) : Prop :=
  ∃ items, (r = .array items ∨ r = .set items) ∧
    (∃ (e : Reply) (n : Int64), items[0]? = some e ∧ e.asInt = .ok n ∧ n.toInt = result.total) ∧
    result.documents.length = (items.length - 1) / s.stride ∧
    ∀ i d, result.documents[i]? = some d → HoldsAt s asText items (1 + i * s.stride) d

theorem read_eq_ok_iff {s : Shape} {asText : Bool} {r : Reply} {result : SearchResult} :
    read s asText r = .ok result ↔ ∃ items, (r = .array items ∨ r = .set items) ∧
      elementAs Reply.asTotal items 0 = .ok result.total ∧
      (items.length - 1) % s.stride = 0 ∧
      List.Forall₂ (fun i d => documentAt s asText items (1 + i * s.stride) = .ok d)
        (List.range ((items.length - 1) / s.stride)) result.documents := by
  simp only [read_eq, bind_eq_ok_iff, Reply.asList_eq_ok_iff, mapM_eq_ok_iff, Except.ok.injEq]
  refine exists_congr fun items => and_congr_right fun _ => ?_
  constructor
  · rintro ⟨total, htotal, n, hn, documents, hdocuments, rfl⟩
    have hlength := recordCount_eq_ok_iff.mp hn
    rw [hlength, Nat.mul_mod_left, Nat.mul_div_cancel n s.stride_pos]
    exact ⟨htotal, rfl, hdocuments⟩
  · rintro ⟨htotal, hmod, hdocuments⟩
    exact ⟨_, htotal, _, if_pos hmod, _, hdocuments, rfl⟩

theorem holds_of_read {s : Shape} {asText : Bool} {r : Reply} {result : SearchResult}
    (h : read s asText r = .ok result) : Holds s asText r result := by
  obtain ⟨items, hlist, htotal, -, hdocuments⟩ := read_eq_ok_iff.mp h
  obtain ⟨e, he, hread⟩ := elementAs_eq_ok_iff.mp htotal
  obtain ⟨n, hn, htotal⟩ := Reply.asTotal_eq_ok_iff.mp hread
  obtain ⟨hlength, hdocument⟩ := forall₂_iff_getElem?.mp hdocuments
  rw [List.length_range] at hlength
  refine ⟨items, hlist, ⟨e, n, he, hn, htotal⟩, hlength.symm, ?_⟩
  intro i d hd
  have hi : i < (items.length - 1) / s.stride := hlength ▸ (List.getElem?_eq_some_iff.mp hd).1
  exact holdsAt_of_documentAt (hdocument i i d (List.getElem?_range hi) hd)

theorem exists_read_iff {s : Shape} {asText : Bool} {r : Reply} :
    (∃ result, read s asText r = .ok result) ↔ Accepts s r := by
  constructor
  · rintro ⟨result, h⟩
    obtain ⟨items, hlist, htotal, hmod, hdocuments⟩ := read_eq_ok_iff.mp h
    obtain ⟨e, he, hread⟩ := elementAs_eq_ok_iff.mp htotal
    obtain ⟨n, hn, hpos⟩ := Reply.exists_asTotal_iff.mp ⟨_, hread⟩
    have hrecords := exists_mapM_eq_ok_iff.mp ⟨_, mapM_eq_ok_iff.mpr hdocuments⟩
    refine ⟨items, hlist, ⟨e, n, he, hn, hpos⟩, hmod, fun i hi => ?_⟩
    obtain ⟨d, hd⟩ := hrecords i (List.mem_range.mpr hi)
    exact (holdsAt_of_documentAt hd).readable
  · rintro ⟨items, hlist, ⟨e, n, he, hn, hpos⟩, hmod, hreadable⟩
    have hrecords : ∀ i ∈ List.range ((items.length - 1) / s.stride),
        ∃ d, documentAt s asText items (1 + i * s.stride) = .ok d := by
      intro i hi
      exact (hreadable i (List.mem_range.mp hi)).exists_documentAt asText
    obtain ⟨documents, hdocuments⟩ := exists_mapM_eq_ok_iff.mpr hrecords
    obtain ⟨total, htotal⟩ := Reply.exists_asTotal_iff.mpr ⟨n, hn, hpos⟩
    refine ⟨⟨total, documents⟩, read_eq_ok_iff.mpr ⟨items, hlist, ?_, hmod, ?_⟩⟩
    · exact elementAs_eq_ok_iff.mpr ⟨e, he, htotal⟩
    · exact mapM_eq_ok_iff.mp hdocuments

/-- The walk over a reply accepts exactly the replies that can be read at the published offsets,
gives what stands there, and refuses all others by a mismatch. -/
theorem read_by_offsets (s : Shape) (asText : Bool) (r : Reply) :
    (Accepts s r ∧ ∃ result, read s asText r = .ok result ∧ Holds s asText r result) ∨
      (¬ Accepts s r ∧ ∃ cause, read s asText r = .error (.mismatch cause)) := by
  cases h : read s asText r with
  | ok result => exact .inl ⟨exists_read_iff.mp ⟨result, h⟩, result, rfl, holds_of_read h⟩
  | error e =>
      obtain ⟨cause, rfl⟩ := failsByMismatch_read s asText r e h
      refine .inr ⟨fun haccepts => ?_, cause, rfl⟩
      obtain ⟨result, hresult⟩ := exists_read_iff.mpr haccepts
      rw [h] at hresult
      cases hresult

end FullText.SearchResult
