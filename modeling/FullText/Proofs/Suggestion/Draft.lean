import FullText.Proofs.Last
import FullText.Proofs.Number.Order
import FullText.Proofs.Number.ReadBack
import FullText.Proofs.Token.Reader
import FullText.Suggestion.Basic
import Mathlib.Data.List.Induction

namespace FullText.Suggestion

open Tokens Tokens.Reader

/-- What the tokens that add a suggestion say, the score as it is written. -/
structure AddCommand where
  key : String
  text : String
  score : String
  increment : Bool
  payload : Option String
deriving DecidableEq

namespace AddCommand

def reader : Reader AddCommand := do
  return {
    key := ← nextText
    text := ← nextText
    score := ← nextText
    increment := ← accept "INCR"
    payload := ← clause "PAYLOAD" nextText }

def read (ts : Tokens) : Option AddCommand := whole reader ts

end AddCommand

namespace Setting

def text? : Setting → Option String
  | .text t => some t
  | _ => none

def score? : Setting → Option Binary64
  | .score x => some x
  | _ => none

def payload? : Setting → Option String
  | .payload t => some t
  | _ => none

end Setting

/-- What `Draft.build` promises of a suggestion. -/
structure IsValid (s : Suggestion) : Prop where
  text : s.text ≠ ""
  score : s.score.InUnit

namespace Draft

def setAll (d : Draft) (settings : List Setting) : Draft := settings.foldl set d

theorem setAll_concat (d : Draft) (settings : List Setting) (s : Setting) :
    d.setAll (settings ++ [s]) = (d.setAll settings).set s := List.foldl_concat ..

theorem setAll_eq (settings : List Setting) : setAll {} settings =
    { text := last Setting.text? settings
      score := (last Setting.score? settings).getD .one
      payload := last Setting.payload? settings } := by
  induction settings using List.reverseRecOn with
  | nil => rfl
  | append_singleton settings s ih =>
      rw [setAll_concat, ih, last_concat, last_concat, last_concat]
      cases s <;> rfl

variable {d : Draft} {s : Suggestion}

theorem build_eq (d : Draft) : d.build =
    if d.text.getD "" = "" then .error InvalidArgument.noSuggestionString
    else if d.score.InUnit then .ok ⟨d.text.getD "", d.score, d.payload⟩
    else .error (InvalidArgument.suggestionScore d.score) := by
  obtain ⟨text, score, payload⟩ := d
  have hscore : (Binary64.zero.le score && score.le .one) = true ↔ score.InUnit := by
    rw [Bool.and_eq_true, Binary64.inUnit_iff]
  cases text with
  | none => rfl
  | some text => by_cases h : text = "" <;> simp [build, Option.filter, h, hscore]

theorem build_eq_ok_iff :
    d.build = .ok s ↔ s.IsValid ∧ d = ⟨some s.text, s.score, s.payload⟩ := by
  obtain ⟨text, score, payload⟩ := d
  rw [build_eq]
  constructor
  · intro h
    split at h
    next => exact nomatch h
    next htext =>
      split at h
      next hscore =>
        obtain rfl := Except.ok.inj h
        refine ⟨⟨htext, hscore⟩, ?_⟩
        cases text with
        | none => exact absurd rfl htext
        | some text => rfl
      next => exact nomatch h
  · rintro ⟨hvalid, hd⟩
    obtain ⟨rfl, rfl, rfl⟩ := Draft.mk.inj hd
    exact (if_neg hvalid.text).trans (if_pos hvalid.score)

theorem build_eq_error {e : Error} (h : d.build = .error e) :
    e = InvalidArgument.noSuggestionString ∨ e = InvalidArgument.suggestionScore d.score := by
  rw [build_eq] at h
  split at h
  next => exact .inl (Except.error.inj h).symm
  next =>
    split at h
    next => exact nomatch h
    next => exact .inr (Except.error.inj h).symm

end Draft

theorem read_addTokens (s : Suggestion) (key : String) (increment : Bool) :
    AddCommand.read (s.addTokens key increment) =
      some ⟨key, s.text, s.score.canonical, increment, s.payload⟩ :=
  ReadsAs.whole_eq <|
    (readsAs_nextText key).seq <|
    (readsAs_nextText s.text).seq <|
    (readsAs_nextText s.score.canonical).seq <|
    (isPart_accept increment "INCR").reads.part (by decide) <|
    (isPart_keyedText "PAYLOAD" s.payload).bind_pure _

/-- A suggestion is built if the last text is not empty and the last score is from zero to one, and is
refused otherwise. The tokens that add it are read to the last one, whatever the texts, and its score is
written as a decimal that is that score. -/
theorem build_setAll (settings : List Setting) :
    let d := Draft.setAll {} settings
    let text := last Setting.text? settings
    let score := (last Setting.score? settings).getD .one
    ((∃ s, d.build = .ok s) ↔ (∃ t, text = some t ∧ t ≠ "") ∧ score.InUnit) ∧
    (∀ e, d.build = .error e → e = InvalidArgument.noSuggestionString ∨
      e = InvalidArgument.suggestionScore score) ∧
    ∀ s, d.build = .ok s →
      (∀ key increment, ∃ t, text = some t ∧ AddCommand.read (s.addTokens key increment) =
        some ⟨key, t, score.canonical, increment, last Setting.payload? settings⟩) ∧
      (∃ whole fraction, Binary64.IsDecimal score.canonical.toList score.negative whole fraction ∧
        fraction ≠ []) ∧
      Binary64.read score.canonical.toList = some score := by
  intro d text score
  have hd : d = ⟨text, score, last Setting.payload? settings⟩ := Draft.setAll_eq settings
  have hok {s : Suggestion} (h : d.build = .ok s) : s.IsValid ∧
      text = some s.text ∧ score = s.score ∧ last Setting.payload? settings = s.payload := by
    rw [Draft.build_eq_ok_iff, hd, Draft.mk.injEq] at h
    exact h
  refine ⟨⟨?_, ?_⟩, ?_, ?_⟩
  · rintro ⟨s, h⟩
    obtain ⟨hvalid, htext, hscore, -⟩ := hok h
    exact ⟨⟨s.text, htext, hvalid.text⟩, hscore ▸ hvalid.score⟩
  · rintro ⟨⟨t, htext, hne⟩, hscore⟩
    refine ⟨⟨t, score, last Setting.payload? settings⟩, ?_⟩
    rw [Draft.build_eq_ok_iff, hd, htext]
    exact ⟨⟨hne, hscore⟩, rfl⟩
  · intro e h
    have herror := Draft.build_eq_error h
    rwa [hd] at herror
  · intro s h
    obtain ⟨hvalid, htext, hscore, hpayload⟩ := hok h
    have hfinite := hvalid.score.isFinite
    rw [hscore, hpayload]
    refine ⟨fun key increment => ⟨s.text, htext, read_addTokens s key increment⟩, ?_,
      Binary64.read_canonical hfinite⟩
    obtain ⟨whole, fraction, hdecimal, hne, -⟩ := Binary64.exists_isDecimal_canonical hfinite
    exact ⟨whole, fraction, hdecimal, hne⟩

theorem build_setAll_keywordTexts :
    let settings := [.score (.infinity false), .text "", .payload "", .text "PAYLOAD",
      .score (.ofRank true 0), .payload "INCR"]
    let s : Suggestion := ⟨"PAYLOAD", .ofRank true 0, some "INCR"⟩
    (Draft.setAll {} settings).build = .ok s ∧
      s.addTokens "INCR" true = ["INCR", "PAYLOAD", "-0.0", "INCR", "PAYLOAD", "INCR"] ∧
      AddCommand.read ["INCR", "PAYLOAD", "-0.0", "INCR", "PAYLOAD", "INCR"] =
        some ⟨"INCR", "PAYLOAD", "-0.0", true, some "INCR"⟩ := by
  intro settings s
  have hbuild : (Draft.setAll {} settings).build = .ok s :=
    Draft.build_eq_ok_iff.mpr ⟨⟨by decide, by decide +kernel⟩, rfl⟩
  have hscore : Binary64.canonical (.ofRank true 0) = "-0.0" := by decide +kernel
  have htokens : s.addTokens "INCR" true =
      ["INCR", "PAYLOAD", "-0.0", "INCR", "PAYLOAD", "INCR"] := by
    rw [addTokens, hscore]
    rfl
  obtain ⟨-, -, hread⟩ := build_setAll settings
  obtain ⟨t, ht, hcommand⟩ := (hread s hbuild).1 "INCR" true
  obtain rfl : "PAYLOAD" = t := Option.some.inj ht
  have hlast : (last Setting.score? settings).getD .one = .ofRank true 0 := rfl
  rw [htokens, hlast, hscore] at hcommand
  exact ⟨hbuild, htokens, hcommand⟩

end FullText.Suggestion
