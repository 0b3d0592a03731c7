import FullText.Proofs.Search.Document
import FullText.Proofs.Search.Flags

namespace FullText

open Reading

structure Hit where
  id : String
  score : Binary64
  payload : Option ByteArray
  fields : List (String × Option ByteArray)

namespace Hit

def octets : Option ByteArray → Reply
  | none => .nil
  | some bytes => .bulk bytes

def fieldList (h : Hit) : List Reply := h.fields.flatMap fun f => [.bulkText f.1, octets f.2]

def values (h : Hit) : List (String × ByteArray) := h.fields.map fun f => (f.1, f.2.getD .empty)

def record (flags : Tokens) (h : Hit) : List Reply :=
  [.bulkText h.id] ++
    (if ↑"WITHSCORES" ∈ flags then [.double h.score] else []) ++
    (if ↑"WITHPAYLOADS" ∈ flags ∧ ↑"NOCONTENT" ∉ flags then [octets h.payload] else []) ++
    (if ↑"NOCONTENT" ∉ flags then [.array h.fieldList] else [])

/-- The document shows of the hit what the flags ask for, and a default for all else. -/
structure ShownBy (flags : Tokens) (asText : Bool) (h : Hit) (d : Document) : Prop where
  id : d.id = h.id
  score : d.score = if ↑"WITHSCORES" ∈ flags then h.score else .one
  payload : d.payload =
    if ↑"WITHPAYLOADS" ∈ flags ∧ ↑"NOCONTENT" ∉ flags then h.payload else none
  properties : Property.Tabulates asText
    (if ↑"NOCONTENT" ∉ flags then h.values else []) d.properties

end Hit

/-- The reply to a search with the given flags that finds `total` documents and shows the hits. -/
def laidOut (flags : Tokens) (total : Nat) (hits : List Hit) : Reply :=
  .array (.int (.ofNat total) :: hits.flatMap (Hit.record flags))

namespace SearchResult

theorem pairUp_fieldList (h : Hit) :
    Reply.pairUp h.fieldList = h.fields.map fun f => (.bulkText f.1, Hit.octets f.2) := by
  rw [Hit.fieldList]
  induction h.fields with
  | nil => rfl
  | cons f fields ih => simp [Reply.pairUp, ih]

theorem asPairs_fieldList (h : Hit) :
    (Reply.array h.fieldList).asPairs Mismatch.oddProperties =
      .ok (h.fields.map fun f => (.bulkText f.1, Hit.octets f.2)) := by
  have heven : h.fieldList.length % 2 = 0 := by
    simp only [Hit.fieldList, List.length_flatMap, List.length_cons, List.length_nil,
      List.map_const', List.sum_replicate_nat]
    omega
  exact Reply.asPairs_eq_ok_iff.mpr ⟨h.fieldList, rfl, heven, (pairUp_fieldList h).symm⟩

theorem orNil_octets (v : Option ByteArray) :
    Reply.orNil Reply.asBytes (Hit.octets v) = .ok v := by
  cases v <;> rfl

theorem readEntries_fieldList (h : Hit) : readEntries (.array h.fieldList) = .ok h.values := by
  have hne : Reply.array h.fieldList ≠ .nil := by simp
  rw [readEntries_of_ne_nil hne, asPairs_fieldList]
  refine mapM_eq_ok_iff.mpr ?_
  rw [Hit.values, List.forall₂_map_left_iff, List.forall₂_map_right_iff, List.forall₂_same]
  intro f _
  simp only [readEntry, Reply.asText_bulkText, orNil_octets]
  rfl

theorem readProperties_fieldList (asText : Bool) (h : Hit) :
    readProperties asText (.array h.fieldList) = .ok (Property.tabulate asText h.values) := by
  rw [readProperties_eq, readEntries_fieldList]
  rfl

def documentOf (s : Shape) (asText : Bool) (h : Hit) : Document where
  id := h.id
  score := if s.scores then h.score else .one
  payload := if s.laysPayloads then h.payload else none
  properties := if s.content then Property.tabulate asText h.values else ∅

theorem record_flagTokens (q : Query) (h : Hit) :
    h.record q.flagTokens = [.bulkText h.id] ++
      ((if q.shape.scores then [.double h.score] else []) ++
      ((if q.shape.laysPayloads then [Hit.octets h.payload] else []) ++
      (if q.shape.content then [.array h.fieldList] else []))) := by
  cases hs : q.withScores <;> cases hp : q.withPayloads <;> cases hc : q.noContent <;>
    simp [Hit.record, Query.mem_flagTokens, Query.shape, Shape.laysPayloads, hs, hp, hc]

theorem length_record (q : Query) (h : Hit) :
    (h.record q.flagTokens).length = q.shape.stride := by
  rw [record_flagTokens, Shape.stride]
  cases q.shape.scores <;> cases q.shape.content <;> cases q.shape.laysPayloads <;> rfl

theorem readDocument_record (q : Query) (asText : Bool) (h : Hit) (p : Nat) (rest : List Reply) :
    readDocument q.shape asText ⟨p, h.record q.flagTokens ++ rest⟩ =
      (.ok (documentOf q.shape asText h), ⟨p + (h.record q.flagTokens).length, rest⟩) := by
  have hid (rest : List Reply) :
      nextAs Reply.asText ⟨p, .bulkText h.id :: rest⟩ = (.ok h.id, ⟨p + 1, rest⟩) := by
    rw [nextAs_cons, Reply.asText_bulkText]
  have hscore : Reply.asNumber (.double h.score) = .ok h.score := rfl
  rw [readDocument_eq, length_record, record_flagTokens]
  simp only [List.append_assoc, List.cons_append, List.nil_append]
  rw [bind_ok (hid _), bind_ok (nextIf_ok hscore _ _ _ _),
    bind_ok (nextIf_ok (orNil_octets _) _ _ _ _),
    bind_ok (nextIf_ok (readProperties_fieldList asText h) _ _ _ _), pure_apply]
  simp only [documentOf, Shape.stride]
  congr 2
  omega

theorem length_records (q : Query) (hits : List Hit) :
    (hits.flatMap (Hit.record q.flagTokens)).length = hits.length * q.shape.stride := by
  simp [List.length_flatMap, length_record]

theorem read_flagTokens (q : Query) (asText : Bool) {total : Nat}
    (htotal : total ≤ Int64.maxValue.toInt) (hits : List Hit) :
    read q.shape asText (laidOut q.flagTokens total hits) =
      .ok ⟨total, hits.map (documentOf q.shape asText)⟩ := by
  have hnum : nextAs Reply.asTotal
      (.start (.int (.ofNat total) :: hits.flatMap (Hit.record q.flagTokens))) =
      (.ok total, ⟨1, hits.flatMap (Hit.record q.flagTokens)⟩) := by
    have hlt : total < 2 ^ 63 := by
      rw [Int64.toInt_maxValue] at htotal
      omega
    rw [Cursor.start, nextAs_cons, Reply.asTotal_eq_ok_iff.mpr]
    exact ⟨_, rfl, Int64.toInt_ofNat_of_lt hlt⟩
  have hcount : expectStride q.shape.stride ⟨1, hits.flatMap (Hit.record q.flagTokens)⟩ =
      (.ok hits.length, ⟨1, hits.flatMap (Hit.record q.flagTokens)⟩) := by
    rw [expectStride_eq q.shape.stride_pos, Cursor.remaining, length_records, Nat.mul_mod_left,
      if_pos rfl, Nat.mul_div_cancel _ q.shape.stride_pos]
  have hdocs := records_flatMap (readDocument_record q asText) hits 1 []
  rw [List.append_nil] at hdocs
  change run _ _ = _
  rw [run, bind_ok hnum, bind_ok hcount, bind_ok hdocs]
  rfl

theorem shownBy_documentOf (q : Query) (asText : Bool) (h : Hit) :
    h.ShownBy q.flagTokens asText (documentOf q.shape asText h) where
  id := rfl
  score := by cases hs : q.withScores <;> simp [documentOf, Query.shape, Query.mem_flagTokens, hs]
  payload := by
    cases hp : q.withPayloads <;> cases hc : q.noContent <;>
      simp [documentOf, Query.shape, Shape.laysPayloads, Query.mem_flagTokens, hp, hc]
  properties := by
    cases hc : q.noContent with
    | true => simpa [documentOf, Query.shape, Query.mem_flagTokens, hc] using
        Property.tabulates_empty asText
    | false => simpa [documentOf, Query.shape, Query.mem_flagTokens, hc] using
        Property.tabulates_tabulate asText h.values

/-- The tokens of a query, the shape it gives its reply and the walk over the reply agree: what is
laid out by the flags among the tokens is read back in that shape, document by document. -/
theorem read_laidOut (q : Query) (asText : Bool) {total : Nat}
    (htotal : total ≤ Int64.maxValue.toInt) (hits : List Hit) :
    ∃ documents,
      read q.shape asText (laidOut (Query.leadingFlags q.tokens) total hits) =
        .ok ⟨total, documents⟩ ∧
      List.Forall₂ (Hit.ShownBy (Query.leadingFlags q.tokens) asText) hits documents := by
  rw [Query.leadingFlags_tokens]
  refine ⟨_, read_flagTokens q asText htotal hits, ?_⟩
  rw [List.forall₂_map_right_iff, List.forall₂_same]
  intro h _
  exact shownBy_documentOf q asText h

def renamedHit : Hit where
  id := "doc"
  score := .zero
  payload := none
  fields := [("name", some "old".toUTF8), ("gone", none), ("name", some "new".toUTF8)]

/-- A query whose texts are themselves flags, answered with a hit that has one field twice. -/
theorem read_laidOut_renamedHit :
    let q := Query.setAll { text := "NOCONTENT" } [.withPayloads, .language "WITHSCORES"]
    ((7 : Nat) : Int) ≤ Int64.maxValue.toInt ∧ ∃ documents,
      read q.shape true (laidOut (Query.leadingFlags q.tokens) 7 [renamedHit]) =
        .ok ⟨7, documents⟩ ∧
      List.Forall₂ (Hit.ShownBy (Query.leadingFlags q.tokens) true) [renamedHit] documents :=
  ⟨by decide, read_laidOut _ true (by decide) [renamedHit]⟩

end SearchResult

end FullText
