import FullText.Number.Numeral
import FullText.Text.Blank
import Mathlib.Data.List.TakeWhile

namespace FullText

namespace Numeral

theorem isDigit_of_mem_toDigits {n : Nat} {c : Char} (h : c ∈ Nat.toDigits 10 n) : isDigit c := by
  have hc := Nat.isDigit_of_mem_toDigits (by decide) (by decide) h
  simpa [Char.isDigit, isDigit, Char.le_def] using hc

theorem ofDigits_toDigits (n : Nat) : ofDigits (Nat.toDigits 10 n) = n := by
  rw [ofDigits, ← Nat.ofDigitChars_eq_foldl]
  exact Nat.ofDigitChars_toDigits (by decide) (by decide)

theorem all_isDigit_toDigits (n : Nat) : (Nat.toDigits 10 n).all isDigit :=
  List.all_eq_true.mpr fun _ hc => isDigit_of_mem_toDigits hc

def signText (negative : Bool) : List Char := if negative then ['-'] else []

theorem toList_repr (n : Int) :
    n.repr.toList = signText (n < 0) ++ Nat.toDigits 10 n.natAbs := by
  cases n with
  | ofNat k => simp [Int.repr, Nat.repr, signText]
  | negSucc k => simp [Int.repr, Nat.repr, signText]

theorem splitSign_of_head {text : List Char} (h : ∀ c ∈ text.head?, isDigit c) (negative : Bool) :
    splitSign (signText negative ++ text) = (negative, text) := by
  cases negative with
  | true => rfl
  | false =>
      change splitSign text = (false, text)
      unfold splitSign
      split
      · simp [isDigit] at h
      · simp [isDigit] at h
      · rfl

theorem splitSign_append {digits : List Char} (h : digits.all isDigit) (negative : Bool) :
    splitSign (signText negative ++ digits) = (negative, digits) :=
  splitSign_of_head (fun c hc => List.all_eq_true.mp h c (List.mem_of_mem_head? hc)) negative

theorem readInt_repr (n : Int) : readInt n.repr.toList = some n := by
  have hdigits := all_isDigit_toDigits n.natAbs
  rw [toList_repr, readInt, splitSign_append hdigits]
  simp only [List.isEmpty_iff, Nat.toDigits_ne_nil, hdigits, not_true_eq_false, or_self,
    if_false, ofDigits_toDigits, decide_eq_true_eq, Option.some.injEq]
  split <;> omega

/-- The text is a whole number in decimal. A plus stands for no sign, and zeros before the other
digits count for nothing. -/
inductive Spells : List Char → Int → Prop
  | unsigned {digits : List Char} (nonempty : digits ≠ []) (allDigits : digits.all isDigit) :
      Spells digits (ofDigits digits)
  | plus {digits : List Char} (nonempty : digits ≠ []) (allDigits : digits.all isDigit) :
      Spells ('+' :: digits) (ofDigits digits)
  | minus {digits : List Char} (nonempty : digits ≠ []) (allDigits : digits.all isDigit) :
      Spells ('-' :: digits) (-(ofDigits digits : Int))

theorem Spells.splitSign_eq {text : List Char} {n : Int} (h : Spells text n) :
    ∃ negative digits, splitSign text = (negative, digits) ∧ digits ≠ [] ∧ digits.all isDigit ∧
      n = if negative then -(ofDigits digits : Int) else ofDigits digits := by
  cases h with
  | unsigned nonempty allDigits =>
      exact ⟨false, _, splitSign_append allDigits false, nonempty, allDigits, rfl⟩
  | plus nonempty allDigits => exact ⟨false, _, rfl, nonempty, allDigits, rfl⟩
  | minus nonempty allDigits => exact ⟨true, _, rfl, nonempty, allDigits, rfl⟩

theorem readInt_eq_some_iff {text : List Char} {n : Int} : readInt text = some n ↔ Spells text n := by
  constructor
  · intro h
    rw [readInt] at h
    split at h
    next negative digits hsplit =>
      split at h
      · exact nomatch h
      next hdigits =>
        obtain ⟨nonempty, allDigits⟩ : digits ≠ [] ∧ digits.all isDigit := by simpa using hdigits
        obtain rfl := Option.some.inj h
        unfold splitSign at hsplit
        split at hsplit <;> cases hsplit
        · exact .minus nonempty allDigits
        · exact .plus nonempty allDigits
        · exact .unsigned nonempty allDigits
  · intro h
    obtain ⟨negative, digits, hsplit, nonempty, allDigits, rfl⟩ := h.splitSign_eq
    simp [readInt, hsplit, nonempty, allDigits]

theorem readUnsigned_of_digits {digits : List Char} (h : digits.all isDigit)
    (nonempty : digits ≠ []) (negative : Bool) :
    readUnsigned negative digits = some ⟨negative, ofDigits digits, 0⟩ := by
  have hall : ∀ c ∈ digits, isDigit c := List.all_eq_true.mp h
  have htake : digits.takeWhile isDigit = digits := List.takeWhile_eq_self_iff.mpr hall
  have hdrop : digits.dropWhile isDigit = [] := List.dropWhile_eq_nil_iff.mpr hall
  simp [readUnsigned, htake, hdrop, readExponent, nonempty]

theorem nearestRank_zero (n : Nat) : nearestRank n 0 = Binary64.nearestRank n 1 := by
  rw [nearestRank]
  by_cases hn : n = 0
  · simp [hn, Binary64.nearestRank, Binary64.nearestEven]
  · have hexponent : ¬ (0 : Int) < -(n.log2 + 400 : Nat) := by omega
    rw [if_neg (by simp only [hn, hexponent, or_self, not_false_eq_true])]
    simp

end Numeral

theorem Binary64.read_repr (n : Int) : read n.repr.toList = some (.ofInt n) := by
  have hdigits := Numeral.all_isDigit_toDigits n.natAbs
  have hnumeral := Numeral.readUnsigned_of_digits hdigits Nat.toDigits_ne_nil (n < 0)
  rw [Numeral.ofDigits_toDigits] at hnumeral
  simp only [Numeral.toList_repr, read, Numeral.splitSign_append hdigits, hnumeral,
    Numeral.nearest, Numeral.nearestRank_zero, ofInt]

theorem Text.trim_of_no_blank {text : List Char} (h : ∀ c ∈ text, isBlank c = false) :
    trim text = text := by
  have hdrop {chars : List Char} (hc : ∀ c ∈ chars, isBlank c = false) :
      chars.dropWhile isBlank = chars := by
    cases chars with
    | nil => rfl
    | cons c chars => rw [List.dropWhile_cons_of_neg (by simp [hc c List.mem_cons_self])]
  rw [trim, hdrop h, hdrop (by simpa using h), List.reverse_reverse]

theorem Text.isBlank_of_isDigit {c : Char} (h : Numeral.isDigit c) : isBlank c = false := by
  simp only [Numeral.isDigit, Bool.and_eq_true, decide_eq_true_eq, Char.le_def,
    UInt32.le_iff_toNat_le] at h
  have hlow : 48 ≤ c.toNat := h.1
  have hhigh : c.toNat ≤ 57 := h.2
  simp only [isBlank, Bool.or_eq_false_iff, Bool.and_eq_false_iff, decide_eq_false_iff_not]
  omega

theorem Text.trim_repr (n : Int) : trim n.repr.toList = n.repr.toList := by
  apply trim_of_no_blank
  intro c hc
  rw [Numeral.toList_repr, List.mem_append] at hc
  rcases hc with hsign | hdigit
  · have hminus : c = '-' := by
      rw [Numeral.signText] at hsign
      split at hsign
      · exact List.mem_singleton.mp hsign
      · exact nomatch hsign
    subst hminus
    rfl
  · exact isBlank_of_isDigit (Numeral.isDigit_of_mem_toDigits hdigit)

end FullText
