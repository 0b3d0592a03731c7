import FullText.Proofs.Number.ReadBack

namespace FullText.Binary64

open Numeral

theorem IsDecimal.spells_iff {text whole fraction : List Char} {negative : Bool} {m : Int}
    (h : IsDecimal text negative whole fraction) : Spells text m ↔
      fraction = [] ∧ m = if negative then -(ofDigits whole : Int) else ofDigits whole := by
  constructor
  · intro hspells
    obtain ⟨negative', digits, hsplit, -, allDigits, hm⟩ := hspells.splitSign_eq
    rw [h.splitSign_eq, Prod.mk.injEq] at hsplit
    obtain ⟨rfl, rfl⟩ := hsplit
    have hnil : fraction = [] := by
      by_contra hfraction
      have hpoint : '.' ∈ pointed whole fraction := by
        rw [pointed_of_ne_nil hfraction]
        exact List.mem_append_right _ List.mem_cons_self
      exact absurd (List.all_eq_true.mp allDigits _ hpoint) (by decide)
    subst hnil
    rw [pointed_nil] at hm
    exact ⟨rfl, hm⟩
  · rintro ⟨rfl, rfl⟩
    have htext : text = signText negative ++ whole := by rw [h.eq, pointed_nil]
    rw [htext]
    cases negative with
    | true => exact .minus h.nonempty h.wholeDigits
    | false => exact .unsigned h.nonempty h.wholeDigits

def shortestInt (x : Binary64) : Int :=
  let n := shortest x.rank / Nat.pow 10 places
  if x.negative then -(n : Int) else n

/-- The whole number is what the fewest digits make of the number: of the whole numbers to which it is
the nearest, none has more zeros at its end, and none with as many is nearer to it. -/
structure IsShortest (x : Binary64) (n : Int) : Prop where
  rounds : x.IsNearest n
  zeros : ∀ m, x.IsNearest m → ∀ p : Nat, (10 : Int) ^ p ∣ m → (10 : Int) ^ p ∣ n
  nearest : ∀ m, x.IsNearest m → (∀ p : Nat, (10 : Int) ^ p ∣ n → (10 : Int) ^ p ∣ m) →
    x.distance n ≤ x.distance m

variable {x : Binary64} {m : Int}

theorem spells_plain_iff :
    Spells (Text.trim x.plain.toList) m ↔ x.isIntegral ∧ m = x.shortestInt := by
  have hfinite (hx : x.isFinite) :
      Spells (Text.trim x.plain.toList) m ↔ x.isIntegral ∧ m = x.shortestInt := by
    have hplain := isDecimal_plain hx
    rw [hplain.trim_eq, hplain.spells_iff, ofDigits_toDigits, fractionDigits_shortest_eq_nil_iff hx,
      shortestInt]
  constructor
  · intro h
    exact (hfinite (isFinite_of_spells h)).mp h
  · intro h
    exact (hfinite (isIntegral_iff.mp h.1).1).mpr h

section Integral

variable (hx : x.isIntegral)

include hx

theorem shortest_eq_mul :
    shortest x.rank = shortest x.rank / Nat.pow 10 places * Nat.pow 10 places :=
  (Nat.div_mul_cancel (pow_places_dvd_shortest_iff.mpr (isIntegral_iff.mp hx).2)).symm

theorem isNearest_shortestInt : x.IsNearest x.shortestInt := by
  have hrank := isFinite_iff.mp (isIntegral_iff.mp hx).1
  have hnearest := isNearest_ofRank x.negative hrank (roundsTo_of_shortest_eq (shortest_eq_mul hx))
  rwa [ofRank_rank] at hnearest

theorem isInt_shortestInt (hgap : gap x.rank ∣ unitsInOne) : x.IsInt x.shortestInt := by
  have hunits := eq_units_of_whole hgap (roundsTo_of_shortest_eq (shortest_eq_mul hx))
  refine ⟨(isIntegral_iff.mp hx).1, ?_⟩
  rw [scaled, shortestInt, ← hunits]
  split
  · rw [Int.natCast_mul, Int.neg_mul]
  · rw [Int.natCast_mul]

end Integral

theorem natAbs_shortestInt (x : Binary64) :
    x.shortestInt.natAbs = shortest x.rank / Nat.pow 10 places := by
  rw [shortestInt]
  split
  · rw [Int.natAbs_neg, Int.natAbs_natCast]
  · rw [Int.natAbs_natCast]

theorem eq_ite_natAbs (m : Int) :
    m = if decide (m < 0) then -(m.natAbs : Int) else m.natAbs := by
  simp only [decide_eq_true_eq]
  split <;> omega

theorem IsNearest.holds (h : x.IsNearest m) (hrank : x.rank + 1 < infinityRank) :
    holds x.rank (m.natAbs * Nat.pow 10 places) := by
  rw [eq_ite_natAbs m] at h
  exact roundsTo_whole_iff.mpr (h.roundsTo hrank)

theorem IsNearest.distance_mul (h : x.IsNearest m) : x.distance m * decimalUnit =
    ((exactDecimal x.rank : Int) - (m.natAbs * Nat.pow 10 places : Nat)).natAbs := by
  have hdistance : x.distance m = ((units x.rank : Int) - (m.natAbs * unitsInOne : Nat)).natAbs := by
    have heq := eq_ite_natAbs m
    rw [heq] at h ⊢
    rw [h.distance_eq_natAbs, ← heq]
  rw [hdistance, exactDecimal_eq, pow_places, ← Nat.mul_assoc, Int.natCast_mul (units x.rank),
    Int.natCast_mul (m.natAbs * unitsInOne), ← Int.sub_mul, Int.natAbs_mul, Int.natAbs_natCast]

section Zeros

variable {p k n : Nat}

theorem pow_add_dvd_mul_iff : 10 ^ (p + k) ∣ n * Nat.pow 10 k ↔ 10 ^ p ∣ n := by
  rw [Nat.pow_add, Nat.pow_eq]
  exact Nat.mul_dvd_mul_iff_right (Nat.pow_pos (by decide))

theorem pow_dvd_mul_pow (h : p ≤ k) : 10 ^ p ∣ n * Nat.pow 10 k :=
  Nat.dvd_mul_left_of_dvd (Nat.pow_dvd_pow 10 h) n

theorem pow_dvd_iff_natAbs : (10 : Int) ^ p ∣ m ↔ 10 ^ p ∣ m.natAbs := by
  rw [← Int.natAbs_dvd_natAbs, Int.natAbs_pow]
  rfl

theorem pow_dvd_shortest_iff (hx : x.isIntegral) :
    10 ^ (p + places) ∣ shortest x.rank ↔ (10 : Int) ^ p ∣ x.shortestInt := by
  rw [shortest_eq_mul hx, pow_add_dvd_mul_iff, pow_dvd_iff_natAbs, natAbs_shortestInt]

end Zeros

theorem isShortest_shortestInt (hx : x.isIntegral) (hrank : x.rank + 1 < infinityRank) :
    x.IsShortest x.shortestInt where
  rounds := isNearest_shortestInt hx
  zeros m hm p hp := by
    rcases Nat.eq_zero_or_pos x.rank with hzero | hpos
    · rw [shortestInt, hzero, shortest_zero, Nat.zero_div]
      simp
    · have hdvd : 10 ^ (p + places) ∣ m.natAbs * Nat.pow 10 places :=
        pow_add_dvd_mul_iff.mpr (pow_dvd_iff_natAbs.mp hp)
      exact (pow_dvd_shortest_iff hx).mp (pow_dvd_shortest hpos (hm.holds hrank) hdvd)
  nearest m hm hzeros := by
    have hnearest := shortest_nearest (hm.holds hrank) fun p hp => by
      rcases Nat.le_total p places with hle | hge
      · exact pow_dvd_mul_pow hle
      · obtain ⟨q, rfl⟩ := Nat.exists_eq_add_of_le' hge
        exact pow_add_dvd_mul_iff.mpr
          (pow_dvd_iff_natAbs.mp (hzeros q ((pow_dvd_shortest_iff hx).mp hp)))
    have hmul := (isNearest_shortestInt hx).distance_mul
    rw [natAbs_shortestInt, ← shortest_eq_mul hx] at hmul
    rw [← hm.distance_mul, ← hmul] at hnearest
    exact Nat.le_of_mul_le_mul_right hnearest decimalUnit_pos

/-- The rank of `2 ^ k`. -/
def powRank (k : Nat) : Nat := (1023 + k) * binade

theorem units_powRank (k : Nat) : units (powRank k) = 2 ^ k * unitsInOne := by
  have hrank : powRank k = (1022 + k) * binade + binade := by
    rw [powRank, ← Nat.succ_mul]
    exact congrArg (· * binade) (by omega)
  have hbinade : binade = 2 ^ 52 := by decide
  have hplaces : 52 + (1022 + k) = k + places := by
    unfold places
    omega
  rw [hrank, units_significand (by decide) (.inr (Nat.le_refl _)), unitsInOne_eq, hbinade,
    ← Nat.pow_add, ← Nat.pow_add, hplaces]

theorem exactDecimal_powRank (k : Nat) : exactDecimal (powRank k) = 2 ^ k * Nat.pow 10 places := by
  rw [exactDecimal_eq, units_powRank, pow_places, Nat.mul_assoc]

theorem gap_dvd_unitsInOne {rank : Nat} (h : rank < powRank 53) : gap rank ∣ unitsInOne := by
  rw [gap, unitsInOne_eq]
  apply Nat.pow_dvd_pow
  unfold powRank binade places at *
  omega

namespace IsInt

theorem natAbs_mul (h : x.IsInt m) : m.natAbs * unitsInOne = units x.rank := by
  have habs : x.scaled.natAbs = units x.rank := by
    rw [scaled]
    split
    · rw [Int.natAbs_neg, Int.natAbs_natCast]
    · rw [Int.natAbs_natCast]
  rw [← habs, h.value, Int.natAbs_mul, Int.natAbs_natCast]

theorem natAbs_lt_iff (h : x.IsInt m) (k : Nat) : m.natAbs < 2 ^ k ↔ x.rank < powRank k := by
  have hlt : units x.rank < units (powRank k) ↔ x.rank < powRank k := units_strictMono.lt_iff_lt
  rwa [units_powRank, ← h.natAbs_mul, Nat.mul_lt_mul_right unitsInOne_pos] at hlt

theorem unique {n : Int} (hm : x.IsInt m) (hn : x.IsInt n) : m = n := by
  have hunits : (unitsInOne : Int) ≠ 0 := Int.natCast_ne_zero.mpr (Nat.ne_of_gt unitsInOne_pos)
  exact Int.eq_of_mul_eq_mul_right hunits (hm.value.symm.trans hn.value)

end IsInt

theorem shortestInt_eq (h : x.IsInt m) (hm : m.natAbs < 2 ^ 53) : x.shortestInt = m := by
  have hgap := gap_dvd_unitsInOne ((h.natAbs_lt_iff 53).mp hm)
  exact (isInt_shortestInt (isIntegral_iff_exists_isInt.mpr ⟨m, h⟩) hgap).unique h

theorem natAbs_shortestInt_lt (h : x.rank < powRank 63) : x.shortestInt.natAbs < 2 ^ 63 := by
  rw [natAbs_shortestInt, Nat.div_lt_iff_lt_mul pow_places_pos, ← exactDecimal_powRank]
  exact shortest_lt h

theorem lt_natAbs_shortestInt (hx : x.isIntegral) (h : powRank 63 ≤ x.rank) :
    2 ^ 63 < x.shortestInt.natAbs := by
  have hlt : exactDecimal (powRank 63) < shortest x.rank := by
    rcases Nat.lt_or_eq_of_le h with hlt | heq
    · exact lt_shortest hlt
    · rw [← heq]
      decide +kernel
  rw [exactDecimal_powRank, shortest_eq_mul hx] at hlt
  rw [natAbs_shortestInt]
  exact Nat.lt_of_mul_lt_mul_right hlt

/-- The double -2^63 is a whole number of 64 bits, but the shortest decimal of it is not. -/
theorem exists_toInt_eq_iff :
    (∃ n : Int64, x.isIntegral ∧ n.toInt = x.shortestInt) ↔
      ∃ m, x.IsInt m ∧ -2 ^ 63 < m ∧ m < 2 ^ 63 := by
  constructor
  · rintro ⟨n, hx, hn⟩
    have hlow := n.le_toInt
    have hhigh := n.toInt_lt
    obtain ⟨m, hm⟩ := isIntegral_iff_exists_isInt.mp hx
    have hrank : x.rank < powRank 63 := by
      by_contra hge
      have hlt := lt_natAbs_shortestInt hx (Nat.not_lt.mp hge)
      omega
    have hlt := (hm.natAbs_lt_iff 63).mpr hrank
    exact ⟨m, hm, by omega, by omega⟩
  · rintro ⟨m, hm, hlow, hhigh⟩
    have hlt := natAbs_shortestInt_lt ((hm.natAbs_lt_iff 63).mp (by omega))
    refine ⟨.ofInt x.shortestInt, isIntegral_iff_exists_isInt.mpr ⟨m, hm⟩, ?_⟩
    exact Int64.toInt_ofInt_of_le (by omega) (by omega)

end FullText.Binary64
