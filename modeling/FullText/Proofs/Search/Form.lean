import FullText.Proofs.Search.Offsets

namespace FullText

/-- A document whose properties have no form yet: the names and octets in their list. -/
structure Finding where
  id : String
  score : Binary64
  payload : Option ByteArray
  entries : List (String × ByteArray)

def Finding.document (asText : Bool) (f : Finding) : Document :=
  ⟨f.id, f.score, f.payload, Property.tabulate asText f.entries⟩

/-- The documents are one, with octets for properties and with text where the octets are UTF-8. -/
structure Document.Decodes (raw decoded : Document) : Prop where
  id : decoded.id = raw.id
  score : decoded.score = raw.score
  payload : decoded.payload = raw.payload
  names : decoded.properties.names = raw.properties.names
  octets : ∀ name, (decoded.get? name).map Property.toBytes = (raw.get? name).map Property.toBytes
  text : ∀ name, decoded.text? name = raw.text? name
  form : raw.properties.Pointwise (fun p q => ∃ bytes, p = .bytes bytes ∧
    q = if h : bytes.IsValidUTF8 then .text ⟨bytes, h⟩ else .bytes bytes) decoded.properties

namespace Property

theorem ofBytes_true (bytes : ByteArray) :
    ofBytes true bytes = if h : bytes.IsValidUTF8 then .text ⟨bytes, h⟩ else .bytes bytes := by
  by_cases h : bytes.IsValidUTF8
  · have ht : String.fromUTF8? bytes = some ⟨bytes, h⟩ := dif_pos h
    simp [ofBytes, ht, h]
  · have ht : String.fromUTF8? bytes = none := dif_neg h
    simp [ofBytes, ht, h]

theorem text?_ofBytes (asText : Bool) (bytes : ByteArray) :
    (ofBytes asText bytes).text? = String.fromUTF8? bytes := by
  cases asText with
  | false => rfl
  | true => cases h : String.fromUTF8? bytes <;> simp [ofBytes, h, text?]

theorem pointwise_tabulate {R : Property → Property → Prop}
    (h : ∀ bytes, R (ofBytes false bytes) (ofBytes true bytes))
    (entries : List (String × ByteArray)) :
    (tabulate false entries).Pointwise R (tabulate true entries) := by
  apply Table.pointwise_ofList
  rw [List.forall₂_map_left_iff, List.forall₂_map_right_iff, List.forall₂_same]
  intro e _
  exact ⟨rfl, h e.2⟩

theorem map_get?_tabulate {β : Type} {f : Property → β}
    (h : ∀ bytes, f (ofBytes true bytes) = f (ofBytes false bytes))
    (entries : List (String × ByteArray)) (name : String) :
    ((tabulate true entries).get? name).map f = ((tabulate false entries).get? name).map f := by
  have hsame := (pointwise_tabulate (R := fun p q => f q = f p) h entries).get? name
  generalize (tabulate false entries).get? name = p, (tabulate true entries).get? name = q at hsame ⊢
  cases hsame with
  | none => rfl
  | some hpq => exact congrArg some hpq

end Property

theorem Finding.decodes (f : Finding) : (f.document false).Decodes (f.document true) where
  id := rfl
  score := rfl
  payload := rfl
  names := (Property.pointwise_tabulate (R := fun _ _ => True) (fun _ => trivial) _).names_eq.symm
  octets := Property.map_get?_tabulate (by simp only [Property.toBytes_ofBytes, implies_true]) _
  text := by
    intro name
    have htext := Property.map_get?_tabulate (f := Property.text?)
      (by simp only [Property.text?_ofBytes, implies_true]) f.entries name
    have hjoined := congrArg (fun v => v.bind fun text => text) htext
    simp only [Option.bind_map, Function.comp_def] at hjoined
    exact hjoined
  form := Property.pointwise_tabulate (fun bytes => ⟨bytes, rfl, Property.ofBytes_true bytes⟩) _

namespace SearchResult

open Reading

def findingAt (s : Shape) (items : List Reply) (b : Nat) : Except Error Finding := do
  let id ← elementAs Reply.asText items b
  let score ← offsetAs .one Reply.asNumber items b s.scoreOffset
  let payload ← offsetAs none (Reply.orNil Reply.asBytes) items b s.payloadOffset
  let entries ← offsetAs [] readEntries items b s.contentOffset
  return { id, score, payload, entries }

theorem offsetAs_properties (asText : Bool) (items : List Reply) (b : Nat) (offset : Option Nat) :
    offsetAs ∅ (readProperties asText) items b offset =
      Property.tabulate asText <$> offsetAs [] readEntries items b offset := by
  cases offset with
  | none => rfl
  | some o =>
      rw [offsetAs, offsetAs, elementAs, elementAs]
      cases items[b + o]? with
      | none => rfl
      | some r => exact readProperties_eq asText r

theorem documentAt_eq (s : Shape) (asText : Bool) (items : List Reply) (b : Nat) :
    documentAt s asText items b = Finding.document asText <$> findingAt s items b := by
  simp only [documentAt, findingAt, offsetAs_properties, map_bind, bind_map_left, map_pure]
  rfl

def findings (s : Shape) (r : Reply) : Except Error (Nat × List Finding) := do
  let items ← r.asList
  let total ← elementAs Reply.asTotal items 0
  let n ← recordCount s items
  let found ← (List.range n).mapM fun i => findingAt s items (recordStart s i)
  return (total, found)

theorem read_eq_findings (s : Shape) (asText : Bool) (r : Reply) :
    read s asText r =
      (fun p => ⟨p.1, p.2.map (Finding.document asText)⟩) <$> findings s r := by
  simp only [read_eq, findings, documentAt_eq, mapM_map, map_bind, bind_map_left, map_pure]
  rfl

/-- Whether text is asked for or not, a reply is refused with the same error or gives the same
documents, which then differ in the form of their properties only. -/
theorem read_both_forms (s : Shape) (r : Reply) :
    (∃ e, read s false r = .error e ∧ read s true r = .error e) ∨
      ∃ raw decoded, read s false r = .ok raw ∧ read s true r = .ok decoded ∧
        decoded.total = raw.total ∧ List.Forall₂ Document.Decodes raw.documents decoded.documents := by
  rw [read_eq_findings, read_eq_findings]
  cases findings s r with
  | error e => exact .inl ⟨e, rfl, rfl⟩
  | ok found =>
      refine .inr ⟨_, _, rfl, rfl, rfl, ?_⟩
      rw [List.forall₂_map_left_iff, List.forall₂_map_right_iff, List.forall₂_same]
      intro f _
      exact f.decodes

end SearchResult

end FullText
