import FullText.Proofs.Number.Decimal
import FullText.Proofs.Number.Order

namespace FullText.Binary64

open Numeral

theorem exists_replicate_zero (digits : List Char) :
    ∃ k, digits = dropTrailingZeros digits ++ List.replicate k '0' := by
  have hzeros : ∀ c ∈ digits.reverse.takeWhile (· = '0'), c = '0' := by
    intro c hc
    simpa using List.mem_takeWhile_imp hc
  refine ⟨(digits.reverse.takeWhile (· = '0')).length, ?_⟩
  rw [dropTrailingZeros, ← List.reverse_replicate, ← List.eq_replicate_of_mem hzeros,
    ← List.reverse_append, List.takeWhile_append_dropWhile, List.reverse_reverse]

theorem getLast?_dropTrailingZeros (digits : List Char) :
    (dropTrailingZeros digits).getLast? ≠ some '0' := by
  rw [dropTrailingZeros, List.getLast?_reverse]
  intro h
  have hnot := List.head?_dropWhile_not (fun c : Char => decide (c = '0')) digits.reverse
  rw [h] at hnot
  exact absurd hnot (by decide)

theorem ofDigits_dropTrailingZeros (digits : List Char) :
    (dropTrailingZeros digits).length ≤ digits.length ∧
      ofDigits (dropTrailingZeros digits) *
        10 ^ (digits.length - (dropTrailingZeros digits).length) = ofDigits digits := by
  obtain ⟨k, hk⟩ := exists_replicate_zero digits
  generalize dropTrailingZeros digits = kept at *
  subst hk
  rw [List.length_append, List.length_replicate, Nat.add_sub_cancel_left, ofDigits_append,
    ofDigits_replicate_zero, List.length_replicate]
  exact ⟨Nat.le_add_right _ _, rfl⟩

def allFractionDigits (n decimal : Nat) : List Char :=
  let digits := Nat.toDigits 10 (decimal % Nat.pow 10 n)
  List.replicate (n - digits.length) '0' ++ digits

theorem fractionDigits_eq (decimal : Nat) :
    fractionDigits decimal = dropTrailingZeros (allFractionDigits places decimal) := rfl

theorem length_allFractionDigits {n : Nat} (hn : 0 < n) (decimal : Nat) :
    (allFractionDigits n decimal).length = n := by
  have hlt : decimal % 10 ^ n < 10 ^ n := Nat.mod_lt _ (Nat.pow_pos (by decide))
  have hle := (Nat.length_toDigits_le_iff (by decide) hn).mpr hlt
  rw [allFractionDigits, List.length_append, List.length_replicate]
  exact Nat.sub_add_cancel hle

theorem ofDigits_allFractionDigits (n decimal : Nat) :
    ofDigits (allFractionDigits n decimal) = decimal % Nat.pow 10 n := by
  rw [allFractionDigits, ofDigits_append, ofDigits_replicate_zero, ofDigits_toDigits, Nat.zero_mul,
    Nat.zero_add]

theorem length_fractionDigits_le (decimal : Nat) : (fractionDigits decimal).length ≤ places := by
  have hle := (ofDigits_dropTrailingZeros (allFractionDigits places decimal)).1
  rwa [length_allFractionDigits (by decide), ← fractionDigits_eq] at hle

theorem ofDigits_fractionDigits (decimal : Nat) :
    ofDigits (fractionDigits decimal) * 10 ^ (places - (fractionDigits decimal).length) =
      decimal % Nat.pow 10 places := by
  have heq := (ofDigits_dropTrailingZeros (allFractionDigits places decimal)).2
  rwa [length_allFractionDigits (by decide), ← fractionDigits_eq, ofDigits_allFractionDigits] at heq

theorem fractionDigits_eq_nil_iff (decimal : Nat) :
    fractionDigits decimal = [] ↔ Nat.pow 10 places ∣ decimal := by
  rw [Nat.dvd_iff_mod_eq_zero]
  constructor
  · intro h
    rw [← ofDigits_fractionDigits, h, ofDigits, List.foldl_nil, Nat.zero_mul]
  · intro h
    rw [fractionDigits_eq, allFractionDigits, h, dropTrailingZeros, List.reverse_eq_nil_iff,
      List.dropWhile_eq_nil_iff]
    intro c hc
    rw [List.mem_reverse, List.mem_append] at hc
    rcases hc with hc | hc
    · rw [List.eq_of_mem_replicate hc]
      rfl
    · rw [List.mem_singleton.mp hc]
      rfl

theorem all_isDigit_fractionDigits (decimal : Nat) : (fractionDigits decimal).all isDigit := by
  rw [List.all_eq_true]
  intro c hc
  rcases List.mem_append.mp (mem_of_mem_dropTrailingZeros hc) with hc | hc
  · rw [List.eq_of_mem_replicate hc]
    rfl
  · exact isDigit_of_mem_toDigits hc

theorem toList_write (text : Nat → List Char) {x : Binary64} (hx : x.isFinite) :
    (write text x).toList = signText x.negative ++ text x.rank := by
  have hrank := isFinite_iff.mp hx
  have hnan : x.isNaN = false := isNaN_of_isFinite hx
  have hinfinite : x.isInfinite = false := decide_eq_false (Nat.ne_of_lt hrank)
  rw [write, hnan, hinfinite]
  cases x.negative <;> simp [signText]

section Decimal

variable {text fraction : List Char} {decimal n : Nat} {x : Binary64}

theorem IsDecimal.read_eq_self (h : IsDecimal text x.negative (Nat.toDigits 10 n) fraction)
    (hx : x.isFinite) (hlength : fraction.length ≤ places)
    (hvalue : n * Nat.pow 10 places + ofDigits fraction * 10 ^ (places - fraction.length) = decimal)
    (hholds : holds x.rank decimal) : read text = some x := by
  have hdigits : ofDigits (Nat.toDigits 10 n ++ fraction) * 10 ^ (places - fraction.length) =
      decimal := by
    rw [ofDigits_append, ofDigits_toDigits, Nat.add_mul, Nat.mul_assoc, pow_mul_pow_sub hlength,
      hvalue]
  rw [h.read_eq hlength (isFinite_iff.mp hx) (by rwa [hdigits]), ofRank_rank]

theorem isDecimal_plain (hx : x.isFinite) :
    IsDecimal x.plain.toList x.negative (Nat.toDigits 10 (shortest x.rank / Nat.pow 10 places))
      (fractionDigits (shortest x.rank)) where
  eq := by rw [plain, toList_write _ hx, positional, pointed]
  nonempty := Nat.toDigits_ne_nil
  wholeDigits := all_isDigit_toDigits _
  fractionDigits := all_isDigit_fractionDigits _

theorem read_plain (hx : x.isFinite) : read x.plain.toList = some x := by
  apply (isDecimal_plain hx).read_eq_self hx (length_fractionDigits_le _) _ (holds_shortest x.rank)
  rw [ofDigits_fractionDigits, Nat.div_add_mod']

theorem isDecimal_canonical (hx : x.isIntegral) :
    IsDecimal x.canonical.toList x.negative
      (Nat.toDigits 10 (exactDecimal x.rank / Nat.pow 10 places)) ['0'] where
  eq := by
    obtain ⟨hfinite, hwhole⟩ := isIntegral_iff.mp hx
    have hfraction := (fractionDigits_eq_nil_iff _).mpr (pow_places_dvd_exactDecimal_iff.mpr hwhole)
    rw [canonical, if_pos hx, toList_write _ hfinite, positional, hfraction]
    rfl
  nonempty := Nat.toDigits_ne_nil
  wholeDigits := all_isDigit_toDigits _
  fractionDigits := by decide

theorem fractionDigits_ne_zero (decimal : Nat) : fractionDigits decimal ≠ ['0'] := by
  intro h
  have hlast := getLast?_dropTrailingZeros (allFractionDigits places decimal)
  rw [← fractionDigits_eq, h] at hlast
  exact hlast rfl

theorem fractionDigits_shortest_eq_nil_iff (hx : x.isFinite) :
    fractionDigits (shortest x.rank) = [] ↔ x.isIntegral := by
  rw [fractionDigits_eq_nil_iff, pow_places_dvd_shortest_iff, isIntegral_iff]
  exact ⟨fun h => ⟨hx, h⟩, And.right⟩

theorem canonical_eq_plain (hx : ¬ x.isIntegral) : x.canonical = x.plain := by
  rw [canonical, if_neg hx]

theorem read_canonical (hx : x.isFinite) : read x.canonical.toList = some x := by
  by_cases h : x.isIntegral
  · obtain ⟨-, hwhole⟩ := isIntegral_iff.mp h
    have hdiv := Nat.div_mul_cancel (pow_places_dvd_exactDecimal_iff.mpr hwhole)
    have hzero : ofDigits ['0'] = 0 := rfl
    apply (isDecimal_canonical h).read_eq_self hx (by decide) _ (holds_exactDecimal x.rank)
    rw [hdiv, hzero, Nat.zero_mul, Nat.add_zero]
  · rw [canonical_eq_plain h]
    exact read_plain hx

theorem exists_isDecimal_canonical (hx : x.isFinite) :
    ∃ whole fraction, IsDecimal x.canonical.toList x.negative whole fraction ∧ fraction ≠ [] ∧
      (fraction = ['0'] ↔ x.isIntegral) := by
  by_cases h : x.isIntegral
  · exact ⟨_, _, isDecimal_canonical h, List.cons_ne_nil _ _, iff_of_true rfl h⟩
  · have hnil := mt (fractionDigits_shortest_eq_nil_iff hx).mp h
    rw [canonical_eq_plain h]
    exact ⟨_, _, isDecimal_plain hx, hnil, iff_of_false (fractionDigits_ne_zero _) h⟩

/-- What has no digits has a name, and that is no whole number. -/
theorem isFinite_of_spells {m : Int} (h : Spells (Text.trim x.plain.toList) m) : x.isFinite := by
  by_contra hx
  have hname : x.plain = "NaN" ∨ x.plain = "-inf" ∨ x.plain = "inf" := by
    have hrank : infinityRank ≤ x.rank := Nat.not_lt.mp (mt isFinite_iff.mpr hx)
    rw [plain, write]
    rcases Nat.lt_or_eq_of_le hrank with hnan | hinfinite
    · exact .inl (if_pos (decide_eq_true hnan))
    · have hnan : x.isNaN = false := isNaN_eq_false_iff.mpr (Nat.le_of_eq hinfinite.symm)
      have hinfinite' : x.isInfinite = true := decide_eq_true hinfinite.symm
      rw [hnan, hinfinite']
      cases x.negative
      · exact .inr (.inr rfl)
      · exact .inr (.inl rfl)
  have hnone : readInt (Text.trim x.plain.toList) = none := by
    rcases hname with hname | hname | hname <;> rw [hname] <;> rfl
  rw [readInt_eq_some_iff.mpr h] at hnone
  exact Option.some_ne_none m hnone

end Decimal

end FullText.Binary64
