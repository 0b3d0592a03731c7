import FullText.Proofs.Search.Offsets
import FullText.Proofs.Token.Reader
import FullText.Suggestion.Lookup

namespace FullText

open Tokens Reading
open SearchResult (elementAs offsetAs cursorAt Stands exists_stands_iff)

namespace Suggestion

def payloadReply : Option String → Reply
  | none => .nil
  | some text => .bulkText text

def record (flags : Tokens) (s : Suggestion) : List Reply :=
  [.bulkText s.text] ++
    (if ↑"WITHSCORES" ∈ flags then [.double s.score] else []) ++
    (if ↑"WITHPAYLOADS" ∈ flags then [payloadReply s.payload] else [])

def shownBy (flags : Tokens) (s : Suggestion) : Suggestion where
  text := s.text
  score := if ↑"WITHSCORES" ∈ flags then s.score else .one
  payload := if ↑"WITHPAYLOADS" ∈ flags then s.payload else none

theorem orNil_payloadReply (payload : Option String) :
    Reply.orNil Reply.asText (payloadReply payload) = .ok payload := by
  cases payload with
  | none => rfl
  | some text =>
      change some <$> (Reply.bulkText text).asText = .ok (some text)
      rw [Reply.asText_bulkText]
      rfl

end Suggestion

namespace Lookup

variable {l : Lookup} {r : Reply} {items : List Reply} {b : Nat} {suggestion : Suggestion}
  {suggestions : List Suggestion}

/-- The tokens after the greatest number of suggestions. The first two tokens are texts of the
caller's, whatever they are. -/
def afterMax (ts : Tokens) : Tokens := ((ts.drop 2).dropWhile (· ≠ ↑"MAX")).drop 2

def laidOut (flags : Tokens) (suggestions : List Suggestion) : Reply :=
  .array (suggestions.flatMap (Suggestion.record flags))

def flagTokens (l : Lookup) : Tokens := flag l.scores "WITHSCORES" ++ flag l.payloads "WITHPAYLOADS"

theorem afterMax_tokens (l : Lookup) (key start : String) :
    afterMax (l.tokens key start) = l.flagTokens := by
  have htokens : l.tokens key start =
      ↑key :: ↑start :: (flag l.fuzzy "FUZZY" ++ ↑"MAX" :: .ofNat l.max :: l.flagTokens) := by
    simp [tokens, keyed, flagTokens]
  rw [afterMax, htokens]
  cases l.fuzzy <;> simp [flag]

theorem mem_flagTokens (l : Lookup) (word : String) : Token.ofString word ∈ l.flagTokens ↔
    (l.scores ∧ word = "WITHSCORES") ∨ (l.payloads ∧ word = "WITHPAYLOADS") := by
  cases hs : l.scores <;> cases hp : l.payloads <;> simp [flagTokens, flag, hs, hp]

theorem stride_pos (l : Lookup) : 0 < l.stride := by
  rw [stride]
  omega

theorem readSuggestion_eq (l : Lookup) :
    l.readSuggestion = nextAs Reply.asText >>= fun text =>
      nextIf l.scores .one Reply.asNumber >>= fun score =>
      nextIf l.payloads none (Reply.orNil Reply.asText) >>= fun payload =>
      pure { text, score, payload } := by
  simp only [readSuggestion, nextIf]
  cases l.scores <;> cases l.payloads <;> rfl

theorem record_flagTokens (l : Lookup) (s : Suggestion) :
    s.record l.flagTokens = [.bulkText s.text] ++
      ((if l.scores then [.double s.score] else []) ++
      (if l.payloads then [Suggestion.payloadReply s.payload] else [])) := by
  simp [Suggestion.record, mem_flagTokens]

theorem shownBy_flagTokens (l : Lookup) (s : Suggestion) :
    s.shownBy l.flagTokens =
      ⟨s.text, if l.scores then s.score else .one, if l.payloads then s.payload else none⟩ := by
  simp [Suggestion.shownBy, mem_flagTokens]

theorem length_record (l : Lookup) (s : Suggestion) :
    (s.record l.flagTokens).length = l.stride := by
  rw [record_flagTokens, stride]
  cases l.scores <;> cases l.payloads <;> rfl

theorem readSuggestion_record (l : Lookup) (s : Suggestion) (p : Nat) (rest : List Reply) :
    l.readSuggestion ⟨p, s.record l.flagTokens ++ rest⟩ =
      (.ok (s.shownBy l.flagTokens), ⟨p + (s.record l.flagTokens).length, rest⟩) := by
  have htext (rest : List Reply) :
      nextAs Reply.asText ⟨p, .bulkText s.text :: rest⟩ = (.ok s.text, ⟨p + 1, rest⟩) := by
    rw [nextAs_cons, Reply.asText_bulkText]
  have hscore : Reply.asNumber (.double s.score) = .ok s.score := rfl
  have hpayload := Suggestion.orNil_payloadReply s.payload
  rw [readSuggestion_eq, length_record, record_flagTokens, shownBy_flagTokens]
  simp only [List.append_assoc, List.cons_append, List.nil_append]
  rw [bind_ok (htext _), bind_ok (nextIf_ok hscore _ _ _ _), bind_ok (nextIf_ok hpayload _ _ _ _),
    pure_apply]
  simp only [stride]
  congr 2
  omega

theorem read_of_ne_nil (h : r ≠ .nil) :
    l.read r = r.asList >>= run (expectStride l.stride >>= records l.readSuggestion) := by
  unfold read
  split
  · exact absurd rfl h
  · rfl

theorem read_flagTokens (l : Lookup) (suggestions : List Suggestion) :
    l.read (laidOut l.flagTokens suggestions) =
      .ok (suggestions.map (Suggestion.shownBy l.flagTokens)) := by
  have hlength : (suggestions.flatMap (Suggestion.record l.flagTokens)).length =
      suggestions.length * l.stride := by
    simp [List.length_flatMap, length_record]
  have hcount : expectStride l.stride (.start (suggestions.flatMap (Suggestion.record l.flagTokens)))
      = (.ok suggestions.length, .start (suggestions.flatMap (Suggestion.record l.flagTokens))) := by
    rw [expectStride_eq l.stride_pos, Cursor.remaining, Cursor.start, hlength, Nat.mul_mod_left,
      if_pos rfl, Nat.mul_div_cancel _ l.stride_pos]
  have hrecords := records_flatMap (readSuggestion_record l) suggestions 0 []
  rw [List.append_nil] at hrecords
  rw [laidOut, read_of_ne_nil (by simp)]
  change run _ _ = _
  rw [run, bind_ok hcount]
  exact congrArg Prod.fst hrecords

def scoreOffset (l : Lookup) : Option Nat := if l.scores then some 1 else none

/-- Payloads depend on no other flag. -/
def payloadOffset (l : Lookup) : Option Nat :=
  if l.payloads then some (1 + l.scores.toNat) else none

def suggestionAt (l : Lookup) (items : List Reply) (b : Nat) : Except Error Suggestion := do
  let text ← elementAs Reply.asText items b
  let score ← offsetAs .one Reply.asNumber items b l.scoreOffset
  let payload ← offsetAs none (Reply.orNil Reply.asText) items b l.payloadOffset
  return { text, score, payload }

theorem walks_readSuggestion (l : Lookup) (h : b + l.stride ≤ items.length) :
    Walks l.readSuggestion (cursorAt items b) (l.suggestionAt items b)
      (cursorAt items (b + l.stride)) := by
  rw [readSuggestion_eq, stride]
  rw [stride] at h
  have htext : b < items.length := by omega
  have hscore : b + (1 + l.scores.toNat) ≤ items.length := by omega
  refine (SearchResult.walks_nextAs Reply.asText htext).bind fun text _ => ?_
  refine (SearchResult.walks_nextIf l.scores .one Reply.asNumber hscore).bind fun score _ => ?_
  refine (SearchResult.walks_nextIf l.payloads none (Reply.orNil Reply.asText) h).bind
    fun payload _ => ?_
  exact Walks.pure _ _

def recordCount (l : Lookup) (items : List Reply) : Except Error Nat :=
  if items.length % l.stride = 0 then .ok (items.length / l.stride)
  else .error (Mismatch.unevenRecords items.length l.stride)

theorem recordCount_eq_ok_iff {n : Nat} :
    l.recordCount items = .ok n ↔ items.length % l.stride = 0 ∧ n = items.length / l.stride := by
  rw [recordCount]
  by_cases h : items.length % l.stride = 0 <;> simp [h, eq_comm]

theorem run_records_eq (l : Lookup) (items : List Reply) :
    run (expectStride l.stride >>= records l.readSuggestion) items =
      l.recordCount items >>= fun n =>
      (List.range n).mapM fun i => l.suggestionAt items (i * l.stride) := by
  have hcount : Walks (expectStride l.stride) (cursorAt items 0) (l.recordCount items)
      (cursorAt items 0) :=
    ⟨cursorAt items 0, expectStride_eq l.stride_pos _, fun _ _ => rfl⟩
  refine Walks.fst_eq (d := cursorAt items items.length) (hcount.bind fun n hn => ?_)
  obtain ⟨hmod, rfl⟩ := recordCount_eq_ok_iff.mp hn
  have hend : 0 + items.length / l.stride * l.stride = items.length := by
    rw [Nat.zero_add, Nat.div_mul_cancel (Nat.dvd_of_mod_eq_zero hmod)]
  have hwalk := SearchResult.walks_strided (fun _ hb => l.walks_readSuggestion hb) hend.le
  simpa only [hend, Nat.zero_add] using hwalk

/-- The elements of the record that begins at `b` can be read, each at its offset. -/
structure Readable (l : Lookup) (items : List Reply) (b : Nat) : Prop where
  text : ∃ r, items[b]? = some r ∧ ∃ text, r.asText = .ok text
  score : Stands items b (fun r => ∃ x, r.asNumber = .ok x) True l.scoreOffset
  payload : Stands items b (fun r => r = .nil ∨ ∃ text, r.asText = .ok text) True l.payloadOffset

/-- The suggestion holds what stands at the offsets of the record that begins at `b`. -/
structure HoldsAt (l : Lookup) (items : List Reply) (b : Nat) (s : Suggestion) : Prop where
  text : ∃ r, items[b]? = some r ∧ r.asText = .ok s.text
  score : Stands items b (fun r => r.asNumber = .ok s.score) (s.score = .one) l.scoreOffset
  payload : Stands items b
    (fun r => (r = .nil ∧ s.payload = none) ∨ ∃ text, r.asText = .ok text ∧ s.payload = some text)
    (s.payload = none) l.payloadOffset

/-- Nil, or a list that divides into records that can be read. -/
def Accepts (l : Lookup) (r : Reply) : Prop :=
  r = .nil ∨ ∃ items, (r = .array items ∨ r = .set items) ∧ items.length % l.stride = 0 ∧
    ∀ i < items.length / l.stride, Readable l items (i * l.stride)

/-- There are no suggestions in nil, and in a list one for every record, in order. -/
def Holds (l : Lookup) (r : Reply) (suggestions : List Suggestion) : Prop :=
  (r = .nil ∧ suggestions = []) ∨ ∃ items, (r = .array items ∨ r = .set items) ∧
    suggestions.length = items.length / l.stride ∧
    ∀ i s, suggestions[i]? = some s → HoldsAt l items (i * l.stride) s

theorem orNil_asText_eq_ok_iff {payload : Option String} :
    Reply.orNil Reply.asText r = .ok payload ↔
      (r = .nil ∧ payload = none) ∨ ∃ text, r.asText = .ok text ∧ payload = some text :=
  Reply.orNil_eq_ok_iff (by intro b h; cases h)

theorem suggestionAt_eq_ok_iff : l.suggestionAt items b = .ok suggestion ↔
    HoldsAt l items b suggestion := by
  obtain ⟨text, score, payload⟩ := suggestion
  simp only [suggestionAt, bind_eq_ok_iff, pure, Except.pure, Except.ok.injEq, Suggestion.mk.injEq,
    SearchResult.elementAs_eq_ok_iff, SearchResult.offsetAs_eq_ok_iff, orNil_asText_eq_ok_iff]
  constructor
  · rintro ⟨text, htext, score, hscore, payload, hpayload, rfl, rfl, rfl⟩
    exact ⟨htext, hscore, hpayload⟩
  · rintro ⟨htext, hscore, hpayload⟩
    exact ⟨_, htext, _, hscore, _, hpayload, rfl, rfl, rfl⟩

theorem exists_holdsAt_iff : (∃ s, HoldsAt l items b s) ↔ Readable l items b := by
  have hpayload (r : Reply) : (∃ payload, (r = .nil ∧ payload = none) ∨
      ∃ text, r.asText = .ok text ∧ payload = some text) ↔
        r = .nil ∨ ∃ text, r.asText = .ok text := by
    simp only [exists_or, exists_and_left, exists_eq, and_true]
    exact or_congr_right ⟨fun ⟨_, text, h, _⟩ => ⟨text, h⟩, fun ⟨text, h⟩ => ⟨_, text, h, rfl⟩⟩
  constructor
  · rintro ⟨s, htext, hscore, hs⟩
    obtain ⟨r, hr, htext⟩ := htext
    refine ⟨⟨r, hr, _, htext⟩, exists_stands_iff.mp ⟨_, hscore⟩, ?_⟩
    exact (exists_stands_iff.mp ⟨_, hs⟩).imp (fun r => (hpayload r).mp) id
  · rintro ⟨⟨r, hr, text, htext⟩, hscore, hs⟩
    obtain ⟨score, hscore⟩ := exists_stands_iff.mpr hscore
    obtain ⟨payload, hs⟩ := exists_stands_iff.mpr (hs.imp (fun r => (hpayload r).mpr) id)
    exact ⟨⟨text, score, payload⟩, ⟨r, hr, htext⟩, hscore, hs⟩

theorem read_eq_ok_iff : l.read r = .ok suggestions ↔
    (r = .nil ∧ suggestions = []) ∨ ∃ items, (r = .array items ∨ r = .set items) ∧
      items.length % l.stride = 0 ∧ List.Forall₂ (fun i s => HoldsAt l items (i * l.stride) s)
        (List.range (items.length / l.stride)) suggestions := by
  by_cases hnil : r = .nil
  · subst r
    simp [read, eq_comm]
  · simp only [read_of_ne_nil hnil, run_records_eq, bind_eq_ok_iff, recordCount_eq_ok_iff,
      mapM_eq_ok_iff, suggestionAt_eq_ok_iff, Reply.asList_eq_ok_iff, hnil, false_and, false_or]
    constructor
    · rintro ⟨items, hlist, _, ⟨hmod, rfl⟩, h⟩
      exact ⟨items, hlist, hmod, h⟩
    · rintro ⟨items, hlist, hmod, h⟩
      exact ⟨items, hlist, _, ⟨hmod, rfl⟩, h⟩

theorem holds_of_read (h : l.read r = .ok suggestions) : l.Holds r suggestions := by
  rcases read_eq_ok_iff.mp h with hnil | ⟨items, hlist, -, hrecords⟩
  · exact .inl hnil
  · obtain ⟨hlength, hrecord⟩ := forall₂_iff_getElem?.mp hrecords
    rw [List.length_range] at hlength
    refine .inr ⟨items, hlist, hlength.symm, fun i s hs => ?_⟩
    have hi : i < items.length / l.stride := hlength ▸ (List.getElem?_eq_some_iff.mp hs).1
    exact hrecord i i s (List.getElem?_range hi) hs

theorem exists_read_iff : (∃ suggestions, l.read r = .ok suggestions) ↔ l.Accepts r := by
  simp only [read_eq_ok_iff, Accepts, exists_or, exists_and_left, exists_eq, and_true]
  refine or_congr_right ?_
  constructor
  · rintro ⟨suggestions, items, hlist, hmod, hrecords⟩
    refine ⟨items, hlist, hmod, fun i hi => ?_⟩
    simp only [← suggestionAt_eq_ok_iff, ← mapM_eq_ok_iff] at hrecords
    obtain ⟨s, hs⟩ := exists_mapM_eq_ok_iff.mp ⟨_, hrecords⟩ i (List.mem_range.mpr hi)
    exact exists_holdsAt_iff.mp ⟨s, suggestionAt_eq_ok_iff.mp hs⟩
  · rintro ⟨items, hlist, hmod, hreadable⟩
    have hrecords : ∀ i ∈ List.range (items.length / l.stride),
        ∃ s, l.suggestionAt items (i * l.stride) = .ok s := by
      intro i hi
      obtain ⟨s, hs⟩ := exists_holdsAt_iff.mpr (hreadable i (List.mem_range.mp hi))
      exact ⟨s, suggestionAt_eq_ok_iff.mpr hs⟩
    obtain ⟨suggestions, hs⟩ := exists_mapM_eq_ok_iff.mpr hrecords
    simp only [mapM_eq_ok_iff, suggestionAt_eq_ok_iff] at hs
    exact ⟨suggestions, items, hlist, hmod, hs⟩

theorem failsByMismatch_read (l : Lookup) (r : Reply) : FailsByMismatch (l.read r) := by
  have htext (items : List Reply) (b : Nat) : FailsByMismatch (l.suggestionAt items b) := by
    have htext := SearchResult.failsByMismatch_elementAs Reply.failsByMismatch_asText items b
    refine htext.bind fun text => ?_
    have hscore := SearchResult.failsByMismatch_offsetAs .one Reply.failsByMismatch_asNumber items b
      l.scoreOffset
    refine hscore.bind fun score => ?_
    have hpayload := SearchResult.failsByMismatch_offsetAs none
      (Reply.failsByMismatch_orNil Reply.failsByMismatch_asText) items b l.payloadOffset
    exact hpayload.bind fun payload => .ok _
  by_cases hnil : r = .nil
  · subst r
    exact .ok []
  · rw [read_of_ne_nil hnil]
    refine (Reply.failsByMismatch_asList r).bind fun items => ?_
    rw [run_records_eq]
    have hcount : FailsByMismatch (l.recordCount items) := by
      rw [recordCount]
      split
      · exact .ok _
      · exact .mismatch _
    exact hcount.bind fun n => .mapM (fun i => htext items (i * l.stride)) _

/-- What is laid out as the tokens of a look-up ask is read back, and every other reply is accepted
exactly if it is nil or divides into records that can be read. Then the suggestions are what the
records hold. All else is refused by a mismatch. -/
theorem read_records (l : Lookup) :
    (∀ key start suggestions,
      let flags := afterMax (l.tokens key start)
      l.read (laidOut flags suggestions) = .ok (suggestions.map (Suggestion.shownBy flags))) ∧
    ∀ r, ((∃ suggestions, l.read r = .ok suggestions) ↔ l.Accepts r) ∧
      (∀ suggestions, l.read r = .ok suggestions → l.Holds r suggestions) ∧
      ∀ e, l.read r = .error e → ∃ cause, e = .mismatch cause := by
  constructor
  · intro key start suggestions
    simp only [afterMax_tokens]
    exact read_flagTokens l suggestions
  · intro r
    exact ⟨exists_read_iff, fun _ => holds_of_read, failsByMismatch_read l r⟩

end Lookup

end FullText
