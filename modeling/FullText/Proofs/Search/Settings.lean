import FullText.Proofs.Last
import FullText.Search.Query
import Mathlib.Data.List.Induction

namespace FullText

namespace Query

namespace Setting

/-- What a setting is about. Only settings of one kind change the same part of a query. -/
inductive Kind
  | limit
  | verbatim
  | noContent
  | noStopwords
  | withScores
  | withPayloads
  | language
  | scorer
  | inFields
  | inKeys
  | returnFields
  | sortBy
  | payload
  | highlight
  | summary
  | filter
deriving DecidableEq

def Kind.gathers : Kind → Bool
  | returnFields | filter => true
  | _ => false

def Kind.isFlag : Kind → Bool
  | verbatim | noContent | noStopwords | withScores | withPayloads => true
  | _ => false

def kind : Setting → Kind
  | limit .. => .limit
  | verbatim => .verbatim
  | noContent => .noContent
  | noStopwords => .noStopwords
  | withScores => .withScores
  | withPayloads => .withPayloads
  | language _ => .language
  | scorer _ => .scorer
  | inFields _ => .inFields
  | inKeys _ => .inKeys
  | returnFields _ | returnFieldAs .. => .returnFields
  | sortBy .. => .sortBy
  | payload _ => .payload
  | highlight _ => .highlight
  | summary _ => .summary
  | filter _ => .filter

def window? : Setting → Option (Nat × Nat)
  | limit offset count => some (offset, count)
  | _ => none

def language? : Setting → Option String
  | language name => some name
  | _ => none

def scorer? : Setting → Option String
  | scorer name => some name
  | _ => none

def inFields? : Setting → Option (List String)
  | inFields fields => some fields
  | _ => none

def inKeys? : Setting → Option (List String)
  | inKeys keys => some keys
  | _ => none

def sortedField? : Setting → Option SortedField
  | sortBy field order => some ⟨field, order⟩
  | _ => none

def payload? : Setting → Option Token
  | payload content => some content
  | _ => none

def highlight? : Setting → Option Highlight
  | highlight options => some options
  | _ => none

def summary? : Setting → Option Summary
  | summary options => some options
  | _ => none

def returned : Setting → List ReturnField
  | returnFields fields => fields.map fun name => ⟨name, none⟩
  | returnFieldAs field asName => [⟨field, some asName⟩]
  | _ => []

def filter? : Setting → Option Filter
  | filter f => some f
  | _ => none

end Setting

open Setting (Kind)

def ofKind (k : Kind) (settings : List Setting) : List Setting := settings.filter (·.kind = k)

def withoutKind (k : Kind) (settings : List Setting) : List Setting := settings.filter (·.kind ≠ k)

/-- The same settings, and those of each kind in the same order. -/
def SameByKind (settings others : List Setting) : Prop :=
  ∀ k, ofKind k settings = ofKind k others

variable {s t : Setting} {settings others : List Setting} {k : Kind}

theorem set_comm (q : Query) (h : s.kind ≠ t.kind) : (q.set s).set t = (q.set t).set s := by
  cases s <;> cases t <;> try rfl
  all_goals exact absurd rfl h

theorem set_set (q : Query) (h : s.kind = t.kind) (hk : s.kind.gathers = false) :
    (q.set s).set t = q.set t := by
  cases s <;> cases hk <;> cases t <;> cases h <;> rfl

theorem Setting.eq_of_isFlag (h : s.kind = t.kind) (hf : s.kind.isFlag) : s = t := by
  cases s <;> cases hf <;> cases t <;> cases h <;> rfl

theorem Setting.Kind.gathers_eq_false_of_isFlag (h : k.isFlag) : k.gathers = false := by
  cases k <;> cases h <;> rfl

theorem setAll_cons (q : Query) (s : Setting) (settings : List Setting) :
    q.setAll (s :: settings) = (q.set s).setAll settings := rfl

theorem setAll_append (q : Query) (settings others : List Setting) :
    q.setAll (settings ++ others) = (q.setAll settings).setAll others := List.foldl_append

theorem setAll_concat (q : Query) (settings : List Setting) (s : Setting) :
    q.setAll (settings ++ [s]) = (q.setAll settings).set s := setAll_append q settings [s]

theorem setAll_append_cons (q : Query) (h : ∀ t ∈ settings, t.kind ≠ s.kind) :
    q.setAll (settings ++ s :: others) = (q.set s).setAll (settings ++ others) := by
  induction settings generalizing q with
  | nil => rfl
  | cons t settings ih =>
      rw [List.forall_mem_cons] at h
      rw [List.cons_append, setAll_cons, ih _ h.2, set_comm q h.1, List.cons_append, setAll_cons]

theorem ofKind_cons (k : Kind) (s : Setting) (settings : List Setting) :
    ofKind k (s :: settings) = if s.kind = k then s :: ofKind k settings else ofKind k settings := by
  simp [ofKind, List.filter_cons]

theorem ofKind_append (k : Kind) (settings others : List Setting) :
    ofKind k (settings ++ others) = ofKind k settings ++ ofKind k others := List.filter_append ..

theorem mem_ofKind_iff : s ∈ ofKind k settings ↔ s ∈ settings ∧ s.kind = k := by
  simp [ofKind]

theorem ofKind_eq_nil_iff : ofKind k settings = [] ↔ ∀ t ∈ settings, t.kind ≠ k := by
  simp [ofKind]

theorem SameByKind.eq_nil (h : SameByKind [] others) : others = [] := by
  refine List.eq_nil_iff_forall_not_mem.mpr fun t ht => ?_
  exact ofKind_eq_nil_iff.mp (h t.kind).symm t ht rfl

theorem SameByKind.exists_append_cons (h : SameByKind (s :: settings) others) :
    ∃ before after, others = before ++ s :: after ∧ (∀ t ∈ before, t.kind ≠ s.kind) ∧
      SameByKind settings (before ++ after) := by
  have hfirst : ofKind s.kind others = s :: ofKind s.kind settings := by
    rw [← h s.kind, ofKind_cons, if_pos rfl]
  obtain ⟨before, after, rfl, hbefore, -, hafter⟩ := List.filter_eq_cons_iff.mp hfirst
  have hnone : ∀ t ∈ before, t.kind ≠ s.kind := by simpa using hbefore
  refine ⟨before, after, rfl, hnone, fun k => ?_⟩
  by_cases hk : s.kind = k
  · subst k
    rw [ofKind_append, ofKind_eq_nil_iff.mpr hnone]
    exact hafter.symm
  · have hothers := h k
    rwa [ofKind_cons, if_neg hk, ofKind_append, ofKind_cons, if_neg hk, ← ofKind_append] at hothers

theorem SameByKind.setAll_eq (h : SameByKind settings others) (q : Query) :
    q.setAll settings = q.setAll others := by
  induction settings generalizing q others with
  | nil => rw [h.eq_nil]
  | cons s settings ih =>
      obtain ⟨before, after, rfl, hbefore, hrest⟩ := h.exists_append_cons
      rw [setAll_append_cons q hbefore, setAll_cons, ih hrest]

theorem sameByKind_withoutKind_append (k : Kind) (settings : List Setting) :
    SameByKind settings (withoutKind k settings ++ ofKind k settings) := by
  intro j
  rw [ofKind_append]
  by_cases hj : j = k
  · subst j
    have hnone : ofKind k (withoutKind k settings) = [] :=
      ofKind_eq_nil_iff.mpr (by simp [withoutKind])
    have hall : ofKind k (ofKind k settings) = ofKind k settings := by simp [ofKind]
    rw [hnone, hall, List.nil_append]
  · have hnone : ofKind j (ofKind k settings) = [] := by
      refine ofKind_eq_nil_iff.mpr fun t ht => ?_
      rw [(mem_ofKind_iff.mp ht).2]
      exact Ne.symm hj
    have hall : ofKind j (withoutKind k settings) = ofKind j settings := by
      rw [ofKind, withoutKind, List.filter_filter]
      refine List.filter_congr fun t _ => ?_
      by_cases ht : t.kind = j <;> simp [ht, hj]
    rw [hnone, hall, List.append_nil]

theorem setAll_of_getLast? (q : Query) (hkind : ∀ t ∈ settings, t.kind = s.kind)
    (hk : s.kind.gathers = false) (hlast : settings.getLast? = some s) :
    q.setAll settings = q.set s := by
  induction settings generalizing q with
  | nil => nomatch hlast
  | cons t settings ih =>
      rw [List.forall_mem_cons] at hkind
      rw [setAll_cons]
      cases settings with
      | nil =>
          cases hlast
          rfl
      | cons u settings =>
          rw [ih _ hkind.2 (by simpa using hlast), set_set q hkind.1 (hkind.1 ▸ hk)]

theorem set_setAll_of_isFlag (q : Query) (hf : s.kind.isFlag) (hs : s ∈ settings) :
    (q.setAll settings).set s = q.setAll settings := by
  induction settings using List.reverseRecOn with
  | nil => nomatch hs
  | append_singleton settings t ih =>
      rw [setAll_concat]
      by_cases ht : t.kind = s.kind
      · rw [← Setting.eq_of_isFlag ht.symm hf, set_set _ rfl (Setting.Kind.gathers_eq_false_of_isFlag hf)]
      · have hmem : s ∈ settings := by
          rcases List.mem_append.mp hs with hs | hs
          · exact hs
          · rw [List.mem_singleton.mp hs] at ht
            exact absurd rfl ht
        rw [set_comm _ ht, ih hmem]

/-- The query with each field as a run of settings leaves it. Of the settings that replace a field the last
one counts, a flag is set if it was or if it is in the run, and return fields and filters gather up. -/
def outcome (q : Query) (settings : List Setting) : Query where
  text := q.text
  offset := ((last Setting.window? settings).getD (q.offset, q.count)).1
  count := ((last Setting.window? settings).getD (q.offset, q.count)).2
  verbatim := q.verbatim || decide (.verbatim ∈ settings)
  noContent := q.noContent || decide (.noContent ∈ settings)
  noStopwords := q.noStopwords || decide (.noStopwords ∈ settings)
  withScores := q.withScores || decide (.withScores ∈ settings)
  withPayloads := q.withPayloads || decide (.withPayloads ∈ settings)
  language := (last Setting.language? settings).or q.language
  scorer := (last Setting.scorer? settings).or q.scorer
  inFields := (last Setting.inFields? settings).getD q.inFields
  inKeys := (last Setting.inKeys? settings).getD q.inKeys
  returnFields := q.returnFields ++ settings.flatMap Setting.returned
  sortBy := (last Setting.sortedField? settings).or q.sortBy
  payload := (last Setting.payload? settings).or q.payload
  highlight := (last Setting.highlight? settings).or q.highlight
  summary := (last Setting.summary? settings).or q.summary
  filters := q.filters ++ settings.filterMap Setting.filter?

theorem setAll_eq_outcome (q : Query) (settings : List Setting) :
    q.setAll settings = q.outcome settings := by
  induction settings using List.reverseRecOn with
  | nil => simp [setAll, outcome, last]
  | append_singleton settings s ih =>
      rw [setAll_concat, ih]
      simp only [outcome, last_concat, List.flatMap_append, List.filterMap_append, List.mem_append,
        List.mem_singleton]
      cases s <;> simp [set, Setting.window?, Setting.language?, Setting.scorer?, Setting.inFields?,
        Setting.inKeys?, Setting.sortedField?, Setting.payload?, Setting.highlight?,
        Setting.summary?, Setting.returned, Setting.filter?]

/-- A run of settings leaves what the last of each kind says, the flags that are in it, and all filters and
return fields in its order. So runs that agree kind by kind give requests of the same tokens and the
same reply shape, a setting that comes later in its kind takes the place of those before it, and a flag
that is set again changes nothing. -/
theorem setAll_by_kind (q : Query) (settings : List Setting) :
    q.setAll settings = q.outcome settings ∧
    (∀ others, SameByKind settings others →
      (q.setAll others).tokens = (q.setAll settings).tokens ∧
      (q.setAll others).shape = (q.setAll settings).shape) ∧
    (∀ s, (ofKind s.kind settings).getLast? = some s → s.kind.gathers = false →
      q.setAll settings = (q.setAll (withoutKind s.kind settings)).set s) ∧
    (∀ s ∈ settings, s.kind.isFlag → (q.setAll settings).set s = q.setAll settings) := by
  refine ⟨setAll_eq_outcome q settings, fun others h => ?_, fun s hlast hk => ?_,
    fun s hs hf => set_setAll_of_isFlag q hf hs⟩
  · rw [h.setAll_eq]
    exact ⟨rfl, rfl⟩
  · have hkind : ∀ t ∈ ofKind s.kind settings, t.kind = s.kind := fun t ht =>
      (mem_ofKind_iff.mp ht).2
    rw [(sameByKind_withoutKind_append s.kind settings).setAll_eq q, setAll_append,
      setAll_of_getLast? _ hkind hk hlast]

/-- Limits, return fields and a flag given twice, with a filter between them. -/
def repeated : List Setting :=
  [.limit 5 10, .returnFieldAs "AS" "a", .verbatim,
    .filter (.numeric "n" (.closed (.infinity true) (.infinity false))), .limit 0 20,
    .returnFields ["b", "a"], .verbatim]

def scrambled : List Setting :=
  [.verbatim, .returnFieldAs "AS" "a", .returnFields ["b", "a"], .limit 5 10, .limit 0 20,
    .verbatim, .filter (.numeric "n" (.closed (.infinity true) (.infinity false)))]

theorem setAll_by_kind_scrambled :
    let q : Query := { text := "q" }
    SameByKind repeated scrambled ∧ repeated ≠ scrambled ∧
    q.setAll repeated =
      { text := "q", offset := 0, count := 20, verbatim := true,
        returnFields := [⟨"AS", some "a"⟩, ⟨"b", none⟩, ⟨"a", none⟩],
        filters := [.numeric "n" (.closed (.infinity true) (.infinity false))] } ∧
    (q.setAll repeated).tokens =
      (["q", "VERBATIM", "LIMIT", "0", "20", "FILTER", "n", "-inf", "+inf",
        "RETURN", "5", "AS", "AS", "a", "b", "a"] : Tokens) ∧
    (q.setAll scrambled).tokens = (q.setAll repeated).tokens ∧
    (q.setAll scrambled).shape = (q.setAll repeated).shape ∧
    (ofKind .limit repeated).getLast? = some (.limit 0 20) ∧ Kind.limit.gathers = false ∧
    q.setAll repeated = (q.setAll (withoutKind .limit repeated)).set (.limit 0 20) ∧
    .verbatim ∈ repeated ∧ Kind.verbatim.isFlag ∧
    (q.setAll repeated).set .verbatim = q.setAll repeated := by
  intro q
  have hsame : SameByKind repeated scrambled := by
    intro k
    cases k <;> rfl
  have hflag : .verbatim ∈ repeated := by decide
  obtain ⟨houtcome, horder, hlast, hrepeat⟩ := setAll_by_kind q repeated
  obtain ⟨htokens, hshape⟩ := horder scrambled hsame
  exact ⟨hsame, by decide, houtcome, by decide, htokens, hshape, rfl, rfl,
    hlast (.limit 0 20) rfl rfl, hflag, rfl, hrepeat .verbatim hflag rfl⟩

end Query

end FullText
