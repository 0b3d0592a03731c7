import FullText.Proofs.Reply.Cursor
import FullText.Proofs.Reply.Pairs
import FullText.Proofs.Table
import FullText.Search.Result

namespace FullText

open Reading

theorem Shape.stride_pos (s : Shape) : 0 < s.stride := by
  rw [stride]
  omega

namespace Property

theorem toBytes_ofBytes (asText : Bool) (bytes : ByteArray) :
    (ofBytes asText bytes).toBytes = bytes := by
  cases asText with
  | false => rfl
  | true =>
      by_cases h : bytes.IsValidUTF8
      · have ht : String.fromUTF8? bytes = some ⟨bytes, h⟩ := dif_pos h
        simp [ofBytes, ht, toBytes]
      · have ht : String.fromUTF8? bytes = none := dif_neg h
        simp [ofBytes, ht, toBytes]

/-- The table has under each name the octets that the name was given last. -/
structure Tabulates (asText : Bool) (pairs : List (String × ByteArray)) (t : Table Property) :
    Prop where
  octets : ∀ name, (t.get? name).map toBytes = pairs.reverse.lookup name
  form : ∀ name p, t.get? name = some p → p = ofBytes asText p.toBytes
  nodup : t.names.Nodup

def tabulate (asText : Bool) (pairs : List (String × ByteArray)) : Table Property :=
  .ofList (pairs.map fun p => (p.1, ofBytes asText p.2))

theorem tabulates_tabulate (asText : Bool) (pairs : List (String × ByteArray)) :
    Tabulates asText pairs (tabulate asText pairs) := by
  have hget (name : String) :
      (tabulate asText pairs).get? name =
        (pairs.reverse.lookup name).map (ofBytes asText) := by
    rw [tabulate, Table.get?_ofList, ← List.map_reverse, Table.lookup_map]
  refine ⟨?_, ?_, Table.nodup_names_ofList _⟩
  · intro name
    have hid : toBytes ∘ ofBytes asText = id := by
      funext bytes
      exact toBytes_ofBytes asText bytes
    rw [hget, Option.map_map, hid, Option.map_id, id]
  · intro name p hp
    rw [hget] at hp
    obtain ⟨bytes, -, rfl⟩ := Option.map_eq_some_iff.mp hp
    rw [toBytes_ofBytes]

theorem tabulates_empty (asText : Bool) : Tabulates asText [] ∅ := tabulates_tabulate asText []

end Property

namespace SearchResult

theorem readDocument_eq (s : Shape) (asText : Bool) :
    readDocument s asText = nextAs Reply.asText >>= fun id =>
      nextIf s.scores .one Reply.asNumber >>= fun score =>
      nextIf s.laysPayloads none (Reply.orNil Reply.asBytes) >>= fun payload =>
      nextIf s.content ∅ (readProperties asText) >>= fun properties =>
      pure { id, score, payload, properties } := by
  simp only [readDocument, nextIf]
  cases s.scores <;> cases s.laysPayloads <;> cases s.content <;> rfl

def readEntry (pair : Reply × Reply) : Except Error (String × ByteArray) := do
  let name ← pair.1.asText
  let value ← Reply.orNil Reply.asBytes pair.2
  return (name, value.getD .empty)

def readEntries : Reply → Except Error (List (String × ByteArray))
  | .nil => .ok []
  | r => r.asPairs Mismatch.oddProperties >>= fun pairs => pairs.mapM readEntry

theorem readProperty_eq (asText : Bool) (pair : Reply × Reply) :
    readProperty asText pair = (fun p => (p.1, .ofBytes asText p.2)) <$> readEntry pair := by
  rw [readProperty, readEntry]
  cases pair.1.asText with
  | error e => rfl
  | ok name => cases Reply.orNil Reply.asBytes pair.2 <;> rfl

theorem mapM_readProperty (asText : Bool) (pairs : List (Reply × Reply)) :
    pairs.mapM (readProperty asText) =
      List.map (fun p => (p.1, .ofBytes asText p.2)) <$> pairs.mapM readEntry := by
  simp only [funext (readProperty_eq asText), mapM_map]

theorem readEntries_of_ne_nil {r : Reply} (h : r ≠ .nil) :
    readEntries r =
      r.asPairs Mismatch.oddProperties >>= fun pairs => pairs.mapM readEntry := by
  unfold readEntries
  split
  next => exact absurd rfl h
  next => rfl

theorem readProperties_of_ne_nil {r : Reply} (h : r ≠ .nil) (asText : Bool) :
    readProperties asText r = r.asPairs Mismatch.oddProperties >>= fun pairs =>
      pairs.mapM (readProperty asText) >>= fun ps => pure (.ofList ps) := by
  unfold readProperties
  split
  next => exact absurd rfl h
  next => rfl

theorem readProperties_eq (asText : Bool) (r : Reply) :
    readProperties asText r = Property.tabulate asText <$> readEntries r := by
  by_cases h : r = .nil
  · subst r
    rfl
  · rw [readProperties_of_ne_nil h, readEntries_of_ne_nil h]
    cases r.asPairs Mismatch.oddProperties with
    | error e => rfl
    | ok pairs =>
        simp only [bind, Except.bind, mapM_readProperty]
        cases pairs.mapM readEntry <;> rfl

theorem readProperties_eq_ok_iff {asText : Bool} {r : Reply} {t : Table Property} :
    readProperties asText r = .ok t ↔
      ∃ pairs, readEntries r = .ok pairs ∧ Property.tabulate asText pairs = t := by
  rw [readProperties_eq, map_eq_ok_iff]

def IsValue (r : Reply) (bytes : ByteArray) : Prop :=
  (r = .nil ∧ bytes = .empty) ∨ r.asBytes = .ok bytes

theorem orNil_asBytes_eq_ok_iff {r : Reply} {v : Option ByteArray} :
    Reply.orNil Reply.asBytes r = .ok v ↔
      (r = .nil ∧ v = none) ∨ ∃ bytes, r.asBytes = .ok bytes ∧ v = some bytes :=
  Reply.orNil_eq_ok_iff (by intro b h; cases h)

theorem isValue_iff {r : Reply} {bytes : ByteArray} :
    IsValue r bytes ↔ ∃ v, Reply.orNil Reply.asBytes r = .ok v ∧ v.getD .empty = bytes := by
  constructor
  · rintro (⟨rfl, rfl⟩ | h)
    · exact ⟨none, rfl, rfl⟩
    · exact ⟨some bytes, orNil_asBytes_eq_ok_iff.mpr (.inr ⟨bytes, h, rfl⟩), rfl⟩
  · rintro ⟨v, hv, rfl⟩
    rcases orNil_asBytes_eq_ok_iff.mp hv with ⟨rfl, rfl⟩ | ⟨b, hb, rfl⟩
    · exact .inl ⟨rfl, rfl⟩
    · exact .inr hb

theorem readEntry_eq_ok_iff {pair : Reply × Reply} {p : String × ByteArray} :
    readEntry pair = .ok p ↔ pair.1.asText = .ok p.1 ∧ IsValue pair.2 p.2 := by
  obtain ⟨name, bytes⟩ := p
  simp only [readEntry, bind_eq_ok_iff, pure, Except.pure, Except.ok.injEq, Prod.mk.injEq,
    isValue_iff]
  constructor
  · rintro ⟨name, hname, v, hv, rfl, rfl⟩
    exact ⟨hname, v, hv, rfl⟩
  · rintro ⟨hname, v, hv, rfl⟩
    exact ⟨name, hname, v, hv, rfl, rfl⟩

/-- The names and octets that the elements of a list stand for in turn. -/
structure Spells (items : List Reply) (pairs : List (String × ByteArray)) : Prop where
  length : items.length = 2 * pairs.length
  name : ∀ j p, pairs[j]? = some p → ∃ r, items[2 * j]? = some r ∧ r.asText = .ok p.1
  value : ∀ j p, pairs[j]? = some p → ∃ r, items[2 * j + 1]? = some r ∧ IsValue r p.2

theorem forall₂_readEntry_iff {items : List Reply} (heven : items.length % 2 = 0)
    {pairs : List (String × ByteArray)} :
    List.Forall₂ (fun a p => readEntry a = .ok p) (Reply.pairUp items) pairs ↔
      Spells items pairs := by
  simp only [readEntry_eq_ok_iff]
  refine (Reply.forall₂_pairUp_iff
    (fun a b (p : String × ByteArray) => a.asText = .ok p.1 ∧ IsValue b p.2) heven).trans ⟨?_, ?_⟩
  · rintro ⟨hlength, h⟩
    refine ⟨hlength, fun j p hp => ?_, fun j p hp => ?_⟩
    · obtain ⟨a, -, ha, -, hname, -⟩ := h j p hp
      exact ⟨a, ha, hname⟩
    · obtain ⟨-, b, -, hb, -, hvalue⟩ := h j p hp
      exact ⟨b, hb, hvalue⟩
  · intro h
    refine ⟨h.length, fun j p hp => ?_⟩
    obtain ⟨a, ha, hname⟩ := h.name j p hp
    obtain ⟨b, hb, hvalue⟩ := h.value j p hp
    exact ⟨a, b, ha, hb, hname, hvalue⟩

theorem readEntries_eq_ok_iff {r : Reply} {pairs : List (String × ByteArray)} :
    readEntries r = .ok pairs ↔ (r = .nil ∧ pairs = []) ∨
      ∃ items, (r = .array items ∨ r = .set items) ∧ Spells items pairs := by
  by_cases h : r = .nil
  · subst r
    simp [readEntries, eq_comm]
  · simp only [readEntries_of_ne_nil h, bind_eq_ok_iff, Reply.asPairs_eq_ok_iff, mapM_eq_ok_iff, h,
      false_and, false_or, Reply.asList_eq_ok_iff]
    constructor
    · rintro ⟨_, ⟨items, hitems, heven, rfl⟩, hpairs⟩
      exact ⟨items, hitems, (forall₂_readEntry_iff heven).mp hpairs⟩
    · rintro ⟨items, hitems, hspells⟩
      have heven : items.length % 2 = 0 := by
        have hlength := hspells.length
        omega
      exact ⟨_, ⟨items, hitems, heven, rfl⟩, (forall₂_readEntry_iff heven).mpr hspells⟩

/-- Names at the even places of a list and values at the odd ones. -/
structure Alternates (items : List Reply) : Prop where
  even : items.length % 2 = 0
  name : ∀ p r, p % 2 = 0 → items[p]? = some r → ∃ text, r.asText = .ok text
  value : ∀ p r, p % 2 = 1 → items[p]? = some r → r = .nil ∨ ∃ bytes, r.asBytes = .ok bytes

theorem exists_isValue_iff {r : Reply} :
    (∃ bytes, IsValue r bytes) ↔ r = .nil ∨ ∃ bytes, r.asBytes = .ok bytes := by
  simp [IsValue, exists_or]

theorem Spells.alternates {items : List Reply} {pairs : List (String × ByteArray)}
    (h : Spells items pairs) : Alternates items := by
  have hlength := h.length
  have hpair {p j : Nat} {r : Reply} (hj : p / 2 = j) (hr : items[p]? = some r) :
      ∃ q, pairs[j]? = some q := by
    have hp := (List.getElem?_eq_some_iff.mp hr).1
    exact ⟨_, List.getElem?_eq_getElem (by omega)⟩
  refine ⟨by omega, ?_, ?_⟩
  · intro p r hp hr
    obtain ⟨q, hq⟩ := hpair rfl hr
    obtain ⟨r', hr', hname⟩ := h.name _ q hq
    rw [show 2 * (p / 2) = p by omega, hr, Option.some.injEq] at hr'
    subst r'
    exact ⟨q.1, hname⟩
  · intro p r hp hr
    obtain ⟨q, hq⟩ := hpair rfl hr
    obtain ⟨r', hr', hvalue⟩ := h.value _ q hq
    rw [show 2 * (p / 2) + 1 = p by omega, hr, Option.some.injEq] at hr'
    subst r'
    exact exists_isValue_iff.mp ⟨q.2, hvalue⟩

theorem exists_spells_iff {items : List Reply} :
    (∃ pairs, Spells items pairs) ↔ Alternates items := by
  constructor
  · rintro ⟨pairs, h⟩
    exact h.alternates
  · intro h
    have hentries : ∀ a ∈ Reply.pairUp items, ∃ p, readEntry a = .ok p := by
      rintro ⟨a, b⟩ hab
      obtain ⟨j, hj⟩ := List.mem_iff_getElem?.mp hab
      obtain ⟨ha, hb⟩ := (Reply.getElem?_pairUp items j a b).mp hj
      obtain ⟨name, hname⟩ := h.name _ a (by omega) ha
      obtain ⟨bytes, hvalue⟩ := exists_isValue_iff.mpr (h.value _ b (by omega) hb)
      exact ⟨(name, bytes), readEntry_eq_ok_iff.mpr ⟨hname, hvalue⟩⟩
    obtain ⟨pairs, hpairs⟩ := exists_mapM_eq_ok_iff.mpr hentries
    exact ⟨pairs, (forall₂_readEntry_iff h.even).mp (mapM_eq_ok_iff.mp hpairs)⟩

theorem failsByMismatch_readEntry (pair : Reply × Reply) : FailsByMismatch (readEntry pair) :=
  (Reply.failsByMismatch_asText pair.1).bind fun _ =>
    (Reply.failsByMismatch_orNil Reply.failsByMismatch_asBytes pair.2).bind fun _ => .ok _

theorem failsByMismatch_readProperties (asText : Bool) (r : Reply) :
    FailsByMismatch (readProperties asText r) := by
  rw [readProperties_eq]
  refine .map ?_ _
  by_cases h : r = .nil
  · subst r
    exact .ok []
  · rw [readEntries_of_ne_nil h]
    have hpairs := Reply.failsByMismatch_asPairs Mismatch.oddProperties r
    exact hpairs.bind fun pairs => .mapM failsByMismatch_readEntry pairs

end SearchResult

end FullText
