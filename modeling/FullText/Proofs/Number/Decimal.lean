import FullText.Number.Text
import FullText.Proofs.Number.Nearest
import FullText.Proofs.Number.Shortest
import FullText.Proofs.Number.Text
import FullText.Proofs.Number.Whole

namespace FullText

namespace Numeral

theorem ofDigits_append (ds es : List Char) :
    ofDigits (ds ++ es) = ofDigits ds * 10 ^ es.length + ofDigits es := by
  simp only [ofDigits, ← Nat.ofDigitChars_eq_foldl]
  rw [Nat.ofDigitChars_append, Nat.ofDigitChars_eq_ofDigitChars_zero, Nat.mul_comm]

theorem ofDigits_replicate_zero (k : Nat) : ofDigits (List.replicate k '0') = 0 := by
  rw [ofDigits, ← Nat.ofDigitChars_eq_foldl, Nat.ofDigitChars_replicate_zero, Nat.mul_zero]

/-- Digits, and behind a point those of the fraction if there are any. -/
def pointed (whole fraction : List Char) : List Char :=
  whole ++ if fraction.isEmpty then [] else '.' :: fraction

variable {whole fraction : List Char}

theorem pointed_nil : pointed whole [] = whole := List.append_nil whole

theorem pointed_of_ne_nil (h : fraction ≠ []) : pointed whole fraction = whole ++ '.' :: fraction := by
  rw [pointed, if_neg (by simpa using h)]

theorem readUnsigned_pointed (hwhole : whole.all isDigit) (nonempty : whole ≠ [])
    (hfraction : fraction.all isDigit) (negative : Bool) :
    readUnsigned negative (pointed whole fraction) =
      some ⟨negative, ofDigits (whole ++ fraction), -(fraction.length : Int)⟩ := by
  by_cases h : fraction = []
  · subst h
    rw [pointed_nil, List.append_nil]
    exact readUnsigned_of_digits hwhole nonempty negative
  · have hwhole' : ∀ c ∈ whole, isDigit c := List.all_eq_true.mp hwhole
    have hfraction' : ∀ c ∈ fraction, isDigit c := List.all_eq_true.mp hfraction
    have htake : (whole ++ '.' :: fraction).takeWhile isDigit = whole := by
      rw [List.takeWhile_append_of_pos hwhole', List.takeWhile_cons_of_neg (by decide),
        List.append_nil]
    have hdrop : (whole ++ '.' :: fraction).dropWhile isDigit = '.' :: fraction := by
      rw [List.dropWhile_append_of_pos hwhole', List.dropWhile_cons_of_neg (by decide)]
    have htake' : fraction.takeWhile isDigit = fraction := List.takeWhile_eq_self_iff.mpr hfraction'
    have hdrop' : fraction.dropWhile isDigit = [] := List.dropWhile_eq_nil_iff.mpr hfraction'
    simp [pointed_of_ne_nil h, readUnsigned, htake, hdrop, htake', hdrop', readExponent, nonempty]

theorem roundsTo_zero {digits k : Nat} (h : digits.log2 + 400 < k) :
    Binary64.RoundsTo (digits * Binary64.unitsInOne) (10 ^ k) 0 := by
  have hexp : digits.log2 + 2 + Binary64.places ≤ 3 * k := by
    have hplaces : Binary64.places = 1074 := rfl
    omega
  have hsmall : 2 * (digits * Binary64.unitsInOne) ≤ 10 ^ k := by
    calc 2 * (digits * Binary64.unitsInOne)
        ≤ 2 * (2 ^ (digits.log2 + 1) * Binary64.unitsInOne) :=
          Nat.mul_le_mul_left 2 (Nat.mul_le_mul_right _ (Nat.le_of_lt Nat.lt_log2_self))
      _ = 2 ^ (digits.log2 + 2 + Binary64.places) := by
          rw [Binary64.unitsInOne_eq, ← Nat.pow_add, ← Nat.pow_succ']
          exact congrArg (2 ^ ·) (by omega)
      _ ≤ 2 ^ (3 * k) := Nat.pow_le_pow_right (by decide) hexp
      _ = 8 ^ k := Nat.pow_mul 2 3 k
      _ ≤ 10 ^ k := Nat.pow_le_pow_left (by decide) k
  constructor
  · simp
  · rw [Binary64.units_succ, Binary64.units_zero, Nat.zero_add, Nat.zero_add]
    exact hsmall.trans (Nat.le_mul_of_pos_left _ (Binary64.gap_pos 0))
  · exact nofun
  · exact nofun

theorem nearestRank_neg (digits k : Nat) :
    nearestRank digits (-(k : Int)) = Binary64.nearestRank digits (10 ^ k) := by
  rcases Nat.eq_zero_or_pos k with rfl | hk
  · exact nearestRank_zero digits
  · rw [nearestRank]
    by_cases hfar : digits = 0 ∨ -(k : Int) < -(digits.log2 + 400 : Nat)
    · rw [if_pos hfar]
      symm
      rcases hfar with rfl | hfar
      · simp [Binary64.nearestRank, Binary64.nearestEven]
      · rw [Binary64.nearestRank_eq_iff (Nat.pow_pos (by decide)) (by decide)]
        exact roundsTo_zero (by omega)
    · rw [if_neg hfar, if_neg (by omega), if_pos (by omega), Int.natAbs_neg, Int.natAbs_natCast,
        Nat.pow_eq]

end Numeral

namespace Binary64

open Numeral

/-- The text is a sign or none and a decimal with the given digits. -/
structure IsDecimal (text : List Char) (negative : Bool) (whole fraction : List Char) : Prop where
  eq : text = signText negative ++ pointed whole fraction
  nonempty : whole ≠ []
  wholeDigits : whole.all isDigit
  fractionDigits : fraction.all isDigit

variable {text whole fraction : List Char} {negative : Bool} {rank : Nat}

theorem IsDecimal.splitSign_eq (h : IsDecimal text negative whole fraction) :
    splitSign text = (negative, pointed whole fraction) := by
  rw [h.eq]
  apply splitSign_of_head
  intro c hc
  apply List.all_eq_true.mp h.wholeDigits
  obtain ⟨d, ds, rfl⟩ := List.exists_cons_of_ne_nil h.nonempty
  rw [← Option.some.inj hc]
  exact List.mem_cons_self

theorem IsDecimal.mem_cases (h : IsDecimal text negative whole fraction) {c : Char} (hc : c ∈ text) :
    c = '-' ∨ isDigit c ∨ c = '.' ∧ fraction ≠ [] := by
  have hwhole := List.all_eq_true.mp h.wholeDigits
  have hfraction := List.all_eq_true.mp h.fractionDigits
  rw [h.eq, List.mem_append] at hc
  rcases hc with hsign | hc
  · cases negative with
    | true => exact .inl (List.mem_singleton.mp hsign)
    | false => exact absurd hsign List.not_mem_nil
  · by_cases hnil : fraction = []
    · rw [hnil, pointed_nil] at hc
      exact .inr (.inl (hwhole c hc))
    · rw [pointed_of_ne_nil hnil, List.mem_append, List.mem_cons] at hc
      rcases hc with hc | hpoint | hc
      · exact .inr (.inl (hwhole c hc))
      · exact .inr (.inr ⟨hpoint, hnil⟩)
      · exact .inr (.inl (hfraction c hc))

theorem IsDecimal.point_mem_iff (h : IsDecimal text negative whole fraction) :
    '.' ∈ text ↔ fraction ≠ [] := by
  constructor
  · intro hpoint
    rcases h.mem_cases hpoint with hminus | hdigit | ⟨-, hfraction⟩
    · exact absurd hminus (by decide)
    · exact absurd hdigit (by decide)
    · exact hfraction
  · intro hfraction
    rw [h.eq, pointed_of_ne_nil hfraction]
    exact List.mem_append_right _ (List.mem_append_right _ List.mem_cons_self)

theorem IsDecimal.trim_eq (h : IsDecimal text negative whole fraction) : Text.trim text = text := by
  apply Text.trim_of_no_blank
  intro c hc
  rcases h.mem_cases hc with rfl | hdigit | ⟨rfl, -⟩
  · rfl
  · exact Text.isBlank_of_isDigit hdigit
  · rfl

theorem pow_mul_pow_sub {k n : Nat} (h : k ≤ n) : 10 ^ k * 10 ^ (n - k) = Nat.pow 10 n := by
  rw [← Nat.pow_add, Nat.add_sub_cancel' h, Nat.pow_eq]

theorem IsDecimal.read_eq (h : IsDecimal text negative whole fraction)
    (hlength : fraction.length ≤ places) (hrank : rank < infinityRank)
    (hholds : holds rank (ofDigits (whole ++ fraction) * 10 ^ (places - fraction.length))) :
    read text = some (.ofRank negative rank) := by
  have hround : RoundsTo (ofDigits (whole ++ fraction) * unitsInOne) (10 ^ fraction.length) rank := by
    have hpow : 0 < 10 ^ (places - fraction.length) := Nat.pow_pos (by decide)
    rw [holds_iff, ← RoundsTo.scale_iff unitsInOne_pos, Nat.mul_comm decimalUnit, ← pow_places,
      ← pow_mul_pow_sub hlength, Nat.mul_right_comm, RoundsTo.scale_iff hpow] at hholds
    exact hholds
  have hnearest : Numeral.nearestRank (ofDigits (whole ++ fraction)) (-(fraction.length : Int)) =
      rank := by
    rw [nearestRank_neg]
    exact (nearestRank_eq_iff (Nat.pow_pos (by decide)) hrank).mpr hround
  simp only [read, h.splitSign_eq,
    readUnsigned_pointed h.wholeDigits h.nonempty h.fractionDigits, nearest, hnearest]

theorem exists_read_of_spells {n : Int} (h : Spells text n) (hn : n.natAbs ≤ 2 ^ 64) :
    ∃ x, read text = some x ∧ x.IsNearest n := by
  obtain ⟨negative, digits, hsplit, nonempty, allDigits, rfl⟩ := h.splitSign_eq
  have habs : ofDigits digits ≤ 2 ^ 64 := by
    split at hn <;> omega
  refine ⟨.ofRank negative (nearestRank (ofDigits digits) 1), ?_,
    isNearest_ofRank_nearestRank negative habs⟩
  simp only [read, hsplit, readUnsigned_of_digits allDigits nonempty, nearest, nearestRank_zero]

end Binary64

end FullText
