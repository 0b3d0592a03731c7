import FullText.Proofs.Number.Order
import FullText.Proofs.Number.ReadBack
import FullText.Proofs.Query.Words
import FullText.Proofs.Search.Command

namespace FullText

open Binary64 Tokens.Reader

namespace Bound

/-- A parenthesis before a number excludes it. -/
def read : List Char → Option Bound
  | '(' :: text => (Binary64.read text).map (⟨·, true⟩)
  | text => (Binary64.read text).map (⟨·, false⟩)

def IsBelow (b : Bound) (x : Binary64) : Prop := if b.exclusive then b.value.lt x else b.value.le x

def IsAbove (b : Bound) (x : Binary64) : Prop := if b.exclusive then x.lt b.value else x.le b.value

/-- What the words of the bound say: that an infinity is exclusive is lost. -/
def shown (b : Bound) : Bound := { b with exclusive := b.exclusive && b.value.isFinite }

def signed (text : String) : String := if text = "inf" then "+inf" else text

end Bound

def cut (c : Char) (text : List Char) : Option (List Char × List Char) :=
  match text.dropWhile (· ≠ c) with
  | [] => none
  | _ :: rest => some (text.takeWhile (· ≠ c), rest)

namespace Interval

def read : List Char → Option Interval
  | '[' :: text => do
    let (lower, text) ← cut ' ' text
    let (upper, text) ← cut ']' text
    guard (text = [])
    return ⟨← Bound.read lower, ← Bound.read upper⟩
  | _ => none

def ofWords : FilterWords → Option Interval
  | .numeric _ lower upper => do return ⟨← Bound.read lower.toList, ← Bound.read upper.toList⟩
  | .geo .. => none

def ofTokens (ts : Tokens) : Option Interval := do
  ofWords (← ← whole SearchCommand.readFilter ts)

def Contains (i : Interval) (x : Binary64) : Prop := i.lower.IsBelow x ∧ i.upper.IsAbove x

/-- An interval is read, and of the finite numbers it has those with the property. -/
def Denotes (i : Option Interval) (s : Binary64 → Prop) : Prop :=
  ∃ j, i = some j ∧ ∀ x : Binary64, x.isFinite → (j.Contains x ↔ s x)

end Interval

namespace Bound

variable {b : Bound} {x : Binary64} {name : String}

theorem read_of_head {text : List Char} (h : ∀ c ∈ text.head?, c ≠ '(') :
    read text = (Binary64.read text).map (⟨·, false⟩) := by
  unfold read
  split
  · exact absurd rfl (h '(' rfl)
  · rfl

theorem text_infinity (negative exclusive : Bool) (name : String) :
    text name ⟨.infinity negative, exclusive⟩ = if negative then "-inf" else name := by
  cases negative <;> rfl

theorem text_of_isFinite (h : b.value.isFinite) (name : String) : b.text name =
    if b.exclusive then "(" ++ b.value.canonical else b.value.canonical := by
  have hne (negative : Bool) : b.value ≠ .infinity negative := by
    intro heq
    rw [heq] at h
    cases negative <;> exact absurd h (by decide)
  rw [text, if_neg (hne true), if_neg (hne false)]

theorem read_words (h : b.value.isNaN = false) (hname : name = "inf" ∨ name = "+inf") :
    read (b.text name).toList = some b.shown := by
  obtain ⟨value, exclusive⟩ := b
  rcases isFinite_or_eq_infinity h with hx | ⟨negative, rfl⟩
  · rw [text_of_isFinite hx, shown, hx, Bool.and_true]
    cases exclusive with
    | true => simp [read, read_canonical hx]
    | false =>
        have hhead : ∀ c ∈ value.canonical.toList.head?, c ≠ '(' := by
          rintro c hc rfl
          exact absurd (isNumeric_canonical (List.mem_of_mem_head? hc)) (by decide)
        simp [read_of_head hhead, read_canonical hx]
  · rw [text_infinity, shown]
    cases negative with
    | true =>
        rw [if_pos rfl]
        cases exclusive <;> decide
    | false => rcases hname with rfl | rfl <;> cases exclusive <;> decide

theorem text_signed (h : b.value.isNaN = false) : b.text "+inf" = signed (b.text "inf") := by
  rcases isFinite_or_eq_infinity h with hx | ⟨negative, hx⟩
  · have hne : b.text "inf" ≠ "inf" := by
      intro heq
      have hread := read_words h (.inl rfl)
      rw [heq] at hread
      have hvalue : .infinity false = b.value := congrArg value (Option.some.inj hread)
      rw [← hvalue] at hx
      exact absurd hx (by decide)
    rw [signed, if_neg hne, text_of_isFinite hx, text_of_isFinite hx]
  · obtain ⟨value, exclusive⟩ := b
    obtain rfl : value = .infinity negative := hx
    rw [text_infinity, text_infinity]
    cases negative <;> rfl

theorem shown_iff (h : b.value.isNaN = false) (hx : x.isFinite) :
    (b.shown.IsBelow x ↔ b.IsBelow x) ∧ (b.shown.IsAbove x ↔ b.IsAbove x) := by
  obtain ⟨value, exclusive⟩ := b
  rcases isFinite_or_eq_infinity h with hfinite | ⟨negative, rfl⟩
  · rw [shown, hfinite, Bool.and_true]
    exact ⟨Iff.rfl, Iff.rfl⟩
  · have hinfinite : (Binary64.infinity negative).isFinite = false := by
      cases negative <;> decide
    rw [shown, hinfinite, Bool.and_false]
    cases exclusive with
    | true => exact ⟨infinity_le_iff_lt negative hx, le_infinity_iff_lt negative hx⟩
    | false => exact ⟨Iff.rfl, Iff.rfl⟩

end Bound

theorem cut_append {c : Char} {before : List Char} (h : c ∉ before) (after : List Char) :
    cut c (before ++ c :: after) = some (before, after) := by
  have hbefore : ∀ d ∈ before, decide (d ≠ c) = true := fun d hd =>
    decide_eq_true fun heq => h (heq ▸ hd)
  rw [cut, List.dropWhile_append_of_pos hbefore, List.takeWhile_append_of_pos hbefore]
  simp

namespace Interval

variable {i : Interval} {s : Binary64 → Prop}

theorem read_range (hlower : i.lower.value.isNaN = false) (hupper : i.upper.value.isNaN = false) :
    read (Value.range i).text.toList = some ⟨i.lower.shown, i.upper.shown⟩ := by
  have hspace : ' ' ∉ (i.lower.text "inf").toList := mt Value.mem_boundText_cases (by decide)
  have hclosing : ']' ∉ (i.upper.text "inf").toList := mt Value.mem_boundText_cases (by decide)
  have htext : (Value.range i).text.toList =
      '[' :: ((i.lower.text "inf").toList ++ ' ' :: ((i.upper.text "inf").toList ++ [']'])) := by
    simp [Value.text]
  rw [htext, read, cut_append hspace]
  simp only [Option.bind_eq_bind, Option.bind_some]
  rw [cut_append hclosing]
  simp only [Option.bind_some, Bound.read_words hlower (.inl rfl), Bound.read_words hupper (.inl rfl)]
  rfl

theorem ofTokens_tokens (property : String) (hlower : i.lower.value.isNaN = false)
    (hupper : i.upper.value.isNaN = false) :
    ofTokens (Filter.numeric property i).tokens = some ⟨i.lower.shown, i.upper.shown⟩ := by
  have hwhole := (SearchCommand.isItem_readFilter (.numeric property i)).reads.whole_eq
  rw [ofTokens, hwhole]
  simp only [Option.bind_eq_bind, Option.bind_some, Filter.words, ofWords,
    Bound.read_words hlower (.inr rfl), Bound.read_words hupper (.inr rfl)]
  rfl

theorem denotes_shown (hlower : i.lower.value.isNaN = false) (hupper : i.upper.value.isNaN = false)
    (h : ∀ x, x.isFinite → (i.Contains x ↔ s x)) :
    Denotes (some ⟨i.lower.shown, i.upper.shown⟩) s := by
  refine ⟨_, rfl, fun x hx => ?_⟩
  have hbelow := (Bound.shown_iff hlower hx).1
  have habove := (Bound.shown_iff hupper hx).2
  exact (and_congr hbelow habove).trans (h x hx)

theorem denotes_range (hlower : i.lower.value.isNaN = false) (hupper : i.upper.value.isNaN = false)
    (h : ∀ x, x.isFinite → (i.Contains x ↔ s x)) :
    Denotes (read (Value.range i).text.toList) s := by
  rw [read_range hlower hupper]
  exact denotes_shown hlower hupper h

/-- The range and the filter between two numbers are intervals of the same finite numbers: those that are
between the numbers, or equal to one of them that is included. They have the same words, but for the
sign of an infinity. A comparison with a number is the interval of the numbers that compare so. -/
theorem denotes_between {lower upper : Binary64} (hlower : lower.isNaN = false)
    (hupper : upper.isNaN = false) (lowerIn upperIn : Bool) (property : String) :
    let v := ((Value.between lower upper).inclusiveLower lowerIn).inclusiveUpper upperIn
    let f := Filter.numeric property ⟨⟨lower, !lowerIn⟩, ⟨upper, !upperIn⟩⟩
    let s := fun x : Binary64 => (if lowerIn then lower.le x else lower.lt x) ∧
      (if upperIn then x.le upper else x.lt upper)
    Denotes (read v.text.toList) s ∧ Denotes (ofTokens f.tokens) s ∧
    (∃ lowerText upperText : String, v.text = "[" ++ lowerText ++ " " ++ upperText ++ "]" ∧
      f.tokens = ["FILTER", property, Bound.signed lowerText, Bound.signed upperText]) ∧
    ∀ n : Binary64, n.isNaN = false →
      Denotes (read (Value.eq n).text.toList) (·.sameValue n) ∧
      Denotes (read (Value.lt n).text.toList) (·.lt n) ∧
      Denotes (read (Value.le n).text.toList) (·.le n) ∧
      Denotes (read (Value.gt n).text.toList) (n.lt ·) ∧
      Denotes (read (Value.ge n).text.toList) (n.le ·) := by
  intro v f s
  have hcontains (x : Binary64) :
      Contains ⟨⟨lower, !lowerIn⟩, ⟨upper, !upperIn⟩⟩ x ↔ s x := by
    cases lowerIn <;> cases upperIn <;> exact Iff.rfl
  refine ⟨denotes_range hlower hupper fun x _ => hcontains x, ?_, ?_, fun n hn => ?_⟩
  · rw [ofTokens_tokens property hlower hupper]
    exact denotes_shown hlower hupper fun x _ => hcontains x
  · refine ⟨_, _, rfl, ?_⟩
    rw [← Bound.text_signed hlower, ← Bound.text_signed hupper]
    rfl
  · refine ⟨denotes_range hn hn fun x _ => sameValue_iff_le_and_le.symm,
      denotes_range (isNaN_infinity true) hn fun x hx => and_iff_right (infinity_le hx),
      denotes_range (isNaN_infinity true) hn fun x hx => and_iff_right (infinity_le hx),
      denotes_range hn (isNaN_infinity false) fun x hx => and_iff_left (le_infinity hx),
      denotes_range hn (isNaN_infinity false) fun x hx => and_iff_left (le_infinity hx)⟩

/-- A lower bound that is excluded though it is infinity, and an upper bound of a negative zero. -/
theorem denotes_between_infinityFirst :
    let lower := Binary64.infinity false
    let upper := Binary64.ofRank true 0
    lower.isNaN = false ∧ upper.isNaN = false ∧
    (((Value.between lower upper).inclusiveLower false).inclusiveUpper true).text = "[inf -0.0]" ∧
    Denotes (read "[inf -0.0]".toList) (fun x => lower.lt x ∧ x.le upper) ∧
    Denotes (ofTokens ["FILTER", "n", "+inf", "-0.0"]) (fun x => lower.lt x ∧ x.le upper) ∧
    (Value.eq upper).text = "[-0.0 -0.0]" ∧
    Denotes (read "[-0.0 -0.0]".toList) (·.sameValue upper) := by
  intro lower upper
  have hlower : lower.isNaN = false := by decide
  have hupper : upper.isNaN = false := by decide
  have hrange : (((Value.between lower upper).inclusiveLower false).inclusiveUpper true).text =
      "[inf -0.0]" := by decide +kernel
  have heq : (Value.eq upper).text = "[-0.0 -0.0]" := by decide +kernel
  have htokens : (Filter.numeric "n" ⟨⟨lower, true⟩, ⟨upper, false⟩⟩).tokens =
      ["FILTER", "n", "+inf", "-0.0"] := by decide +kernel
  obtain ⟨hread, hfilter, -, hcomparisons⟩ := denotes_between hlower hupper false true "n"
  obtain ⟨hequal, -⟩ := hcomparisons upper hupper
  rw [hrange] at hread
  rw [Bool.not_false, Bool.not_true, htokens] at hfilter
  rw [heq] at hequal
  exact ⟨hlower, hupper, hrange, hread, hfilter, heq, hequal⟩

end Interval

end FullText
