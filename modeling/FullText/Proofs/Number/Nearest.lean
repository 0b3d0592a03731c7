import FullText.Number.Numeral
import FullText.Proofs.Number.Magnitude
import Mathlib.Data.Nat.Log

namespace FullText.Binary64

theorem nearestEven_spec (n : Nat) {den : Nat} (hden : 0 < den) :
    let q := nearestEven n den
    2 * q * den ≤ 2 * n + den ∧ 2 * n ≤ (2 * q + 1) * den ∧
      (q % 2 = 1 → 2 * q * den ≠ 2 * n + den ∧ 2 * n ≠ (2 * q + 1) * den) := by
  intro q
  have hdiv := Nat.div_add_mod n den
  have hmod := Nat.mod_lt n hden
  have hbelow : 2 * (n / den) * den = 2 * (den * (n / den)) := by ring
  have hmiddle : (2 * (n / den) + 1) * den = 2 * (den * (n / den)) + den := by ring
  have habove : 2 * (n / den + 1) * den = 2 * (den * (n / den)) + 2 * den := by ring
  have hlast : (2 * (n / den + 1) + 1) * den = 2 * (den * (n / den)) + 3 * den := by ring
  have hq : q = n / den ∧ (2 * (n % den) < den ∨ 2 * (n % den) = den ∧ n / den % 2 = 0) ∨
      q = n / den + 1 ∧ (den < 2 * (n % den) ∨ 2 * (n % den) = den ∧ n / den % 2 = 1) := by
    simp only [q, nearestEven]
    split
    · omega
    · split
      · omega
      · omega
  rcases hq with ⟨hq, hr⟩ | ⟨hq, hr⟩
  · rw [hq, hbelow, hmiddle]
    omega
  · rw [hq, habove, hlast]
    omega

theorem nearestEven_mono_le {n den q : Nat} (hden : 0 < den) (h : q * den ≤ n) :
    q ≤ nearestEven n den := by
  obtain ⟨-, hhigh, -⟩ := nearestEven_spec n hden
  by_contra hlt
  have hle : (2 * nearestEven n den + 1) * den < 2 * q * den :=
    Nat.mul_lt_mul_of_pos_right (by omega) hden
  have hdouble : 2 * q * den = 2 * (q * den) := Nat.mul_assoc 2 q den
  omega

theorem nearestEven_le {n den q : Nat} (hden : 0 < den) (h : n ≤ q * den) :
    nearestEven n den ≤ q := by
  obtain ⟨hlow, -, -⟩ := nearestEven_spec n hden
  by_contra hlt
  have hle : (2 * q + 1) * den < 2 * nearestEven n den * den :=
    Nat.mul_lt_mul_of_pos_right (by omega) hden
  have hdouble : (2 * q + 1) * den = 2 * (q * den) + den := by ring
  omega

/-- The rank before it is cut off at that of the infinities. -/
def unboundedRank (n den : Nat) : Nat :=
  let shift := (n / den).log2 - 52
  shift * binade + nearestEven n (den * 2 ^ shift)

theorem nearestRank_eq (num den : Nat) :
    nearestRank num den = min infinityRank (unboundedRank (num * unitsInOne) den) := rfl

theorem shift_bounds (n : Nat) {den : Nat} (hden : 0 < den) :
    let s := (n / den).log2 - 52
    n ≤ 2 * binade * (den * 2 ^ s) ∧ (s = 0 ∨ binade * (den * 2 ^ s) ≤ n) := by
  intro s
  have hlog : n / den < 2 ^ ((n / den).log2 + 1) := Nat.lt_log2_self
  have hbinade : binade = 2 ^ 52 := by decide
  constructor
  · have hexp : 2 ^ ((n / den).log2 + 1) ≤ 2 * binade * 2 ^ s := by
      rw [hbinade, ← Nat.pow_succ', ← Nat.pow_add]
      exact Nat.pow_le_pow_right Nat.two_pos (by omega)
    have hlt : n < 2 * binade * 2 ^ s * den :=
      (Nat.div_lt_iff_lt_mul hden).mp (Nat.lt_of_lt_of_le hlog hexp)
    calc n ≤ 2 * binade * 2 ^ s * den := Nat.le_of_lt hlt
      _ = 2 * binade * (den * 2 ^ s) := by ring
  · rcases Nat.eq_zero_or_pos s with hs | hs
    · exact .inl hs
    · right
      have hne : n / den ≠ 0 := by
        intro hzero
        simp [s, hzero] at hs
      have hle : 2 ^ (n / den).log2 ≤ n / den := Nat.log2_self_le hne
      have hexp : binade * 2 ^ s ≤ n / den := by
        rw [hbinade, ← Nat.pow_add]
        exact (Nat.pow_le_pow_right Nat.two_pos (by omega)).trans hle
      calc binade * (den * 2 ^ s) = binade * 2 ^ s * den := by ring
        _ ≤ n := (Nat.le_div_iff_mul_le hden).mp hexp

section Significand

variable {n den s m : Nat}

theorem le_gap_significand (hm : m ≤ 2 * binade) (h : s = 0 ∨ binade ≤ m) :
    2 ^ s ≤ gap (s * binade + m) := by
  rcases Nat.lt_or_eq_of_le hm with hlt | rfl
  · exact Nat.le_of_eq (gap_significand hlt h).symm
  · have hlast : gap (s * binade + (2 * binade - 1)) = 2 ^ s :=
      gap_significand (by decide) (.inr (by decide))
    rw [← hlast]
    exact gap_mono (Nat.add_le_add_left (Nat.sub_le _ _) _)

theorem mod_two_significand : (s * binade + m) % 2 = m % 2 := by
  unfold binade
  omega

theorem le_middle_after (hm : m ≤ 2 * binade) (h : s = 0 ∨ binade ≤ m) :
    (2 * m + 1) * (den * 2 ^ s) ≤
      (units (s * binade + m) + units (s * binade + m + 1)) * den := by
  rw [units_succ, units_significand hm h]
  calc (2 * m + 1) * (den * 2 ^ s) = (m * 2 ^ s + (m * 2 ^ s + 2 ^ s)) * den := by ring
    _ ≤ _ := Nat.mul_le_mul_right den
      (Nat.add_le_add_left (Nat.add_le_add_left (le_gap_significand hm h) _) _)

theorem middle_before (hden : 0 < den) (hm : m ≤ 2 * binade) (h : s = 0 ∨ binade ≤ m)
    (hn : s = 0 ∨ binade * (den * 2 ^ s) ≤ n) :
    (units (s * binade + m - 1) + units (s * binade + m)) * den < 2 * n ∨
      (units (s * binade + m - 1) + units (s * binade + m)) * den =
        2 * m * (den * 2 ^ s) - den * 2 ^ s := by
  have hunits : units (s * binade + m) = m * 2 ^ s := units_significand hm h
  by_cases hleast : s ≠ 0 ∧ m = binade
  · obtain ⟨hs, rfl⟩ := hleast
    have hlt : units (s * binade + binade - 1) < units (s * binade + binade) :=
      units_strictMono (by unfold binade; omega)
    left
    calc (units (s * binade + binade - 1) + units (s * binade + binade)) * den
        < 2 * (binade * 2 ^ s) * den := by
          rw [← hunits]
          exact Nat.mul_lt_mul_of_pos_right (by omega) hden
      _ = 2 * (binade * (den * 2 ^ s)) := by ring
      _ ≤ 2 * n := Nat.mul_le_mul_left 2 (hn.resolve_left hs)
  · right
    rcases Nat.eq_zero_or_pos m with rfl | hpos
    · have hs : s = 0 := h.resolve_right (by decide)
      simp [hs]
    · obtain ⟨k, rfl⟩ := Nat.exists_eq_add_of_le' hpos
      have hk : s = 0 ∨ binade ≤ k := by omega
      rw [← Nat.add_assoc, Nat.add_sub_cancel, units_significand (by omega) hk, Nat.add_assoc,
        hunits]
      apply Nat.eq_sub_of_add_eq
      ring

theorem roundsTo_significand (hden : 0 < den) (hm : m ≤ 2 * binade) (h : s = 0 ∨ binade ≤ m)
    (hn : s = 0 ∨ binade * (den * 2 ^ s) ≤ n) (hlow : 2 * m * (den * 2 ^ s) ≤ 2 * n + den * 2 ^ s)
    (hhigh : 2 * n ≤ (2 * m + 1) * (den * 2 ^ s))
    (hodd : m % 2 = 1 → 2 * m * (den * 2 ^ s) ≠ 2 * n + den * 2 ^ s ∧
      2 * n ≠ (2 * m + 1) * (den * 2 ^ s)) :
    RoundsTo n den (s * binade + m) := by
  have hafter : (2 * m + 1) * (den * 2 ^ s) ≤ _ := le_middle_after hm h
  have hbefore := middle_before hden hm h hn
  refine ⟨by omega, by omega, fun hr => ?_, fun hr => ?_⟩
  · rw [mod_two_significand] at hr
    have hne := (hodd hr).1
    have hle : den * 2 ^ s ≤ 2 * m * (den * 2 ^ s) := Nat.le_mul_of_pos_left _ (by omega)
    omega
  · rw [mod_two_significand] at hr
    have hne := (hodd hr).2
    omega

end Significand

theorem roundsTo_unboundedRank (n : Nat) {den : Nat} (hden : 0 < den) :
    RoundsTo n den (unboundedRank n den) := by
  obtain ⟨hle, hn⟩ := shift_bounds n hden
  have hpos : 0 < den * 2 ^ ((n / den).log2 - 52) := Nat.mul_pos hden (Nat.two_pow_pos _)
  obtain ⟨hlow, hhigh, hodd⟩ := nearestEven_spec n hpos
  have hm := nearestEven_le hpos hle
  have h := hn.imp_right (nearestEven_mono_le hpos)
  exact roundsTo_significand hden hm h hn hlow hhigh hodd

/-- A finite rank is computed for the fractions that round to it, and for no others. -/
theorem nearestRank_eq_iff {num den rank : Nat} (hden : 0 < den) (hrank : rank < infinityRank) :
    nearestRank num den = rank ↔ RoundsTo (num * unitsInOne) den rank := by
  have hround := roundsTo_unboundedRank (num * unitsInOne) hden
  rw [nearestRank_eq]
  constructor
  · intro h
    have hrank : unboundedRank (num * unitsInOne) den = rank := by omega
    exact hrank ▸ hround
  · intro h
    have hrank := hround.unique hden h
    omega

theorem isFinite_iff {x : Binary64} : x.isFinite ↔ x.rank < infinityRank := decide_eq_true_iff

theorem rank_ofRank (negative : Bool) {rank : Nat} (h : rank < signBit) :
    (ofRank negative rank).rank = rank := by
  unfold signBit at *
  cases negative <;> simp [ofRank, Binary64.rank, signBit] <;> omega

theorem negative_ofRank (negative : Bool) {rank : Nat} (h : rank < signBit) :
    (ofRank negative rank).negative = negative := by
  unfold signBit at *
  cases negative <;> simp [ofRank, Binary64.negative, signBit] <;> omega

theorem ofRank_rank (x : Binary64) : ofRank x.negative x.rank = x := by
  have hlt := x.bits.toNat_lt
  have hsign : signBit = 0x8000000000000000 := rfl
  have hbits : (if x.negative then signBit + x.rank else x.rank) = x.bits.toNat := by
    rw [rank, negative]
    by_cases h : signBit ≤ x.bits.toNat
    · rw [if_pos (decide_eq_true h)]
      rw [hsign] at h ⊢
      omega
    · rw [if_neg (by simpa using h)]
      rw [hsign] at h ⊢
      omega
  rw [ofRank, hbits, UInt64.ofNat_toNat]

theorem lt_signBit_of_lt_infinityRank {rank : Nat} (h : rank < infinityRank) : rank < signBit :=
  h.trans (by decide)

theorem scaled_ofRank (negative : Bool) {rank : Nat} (h : rank < signBit) :
    (ofRank negative rank).scaled = if negative then -(units rank : Int) else units rank := by
  rw [scaled, negative_ofRank negative h, rank_ofRank negative h]

structure IsInt (x : Binary64) (n : Int) : Prop where
  finite : x.isFinite
  value : x.scaled = n * unitsInOne

theorem isIntegral_iff {x : Binary64} : x.isIntegral ↔ x.isFinite ∧ unitsInOne ∣ units x.rank := by
  rw [isIntegral, Bool.and_eq_true, decide_eq_true_eq, Nat.dvd_iff_mod_eq_zero]

theorem isIntegral_iff_exists_isInt {x : Binary64} : x.isIntegral ↔ ∃ n, x.IsInt n := by
  have hscaled : (unitsInOne : Int) ∣ x.scaled ↔ unitsInOne ∣ units x.rank := by
    rw [scaled]
    split
    · rw [Int.dvd_neg, Int.natCast_dvd_natCast]
    · rw [Int.natCast_dvd_natCast]
  rw [isIntegral_iff, ← hscaled]
  constructor
  · rintro ⟨hfinite, n, hn⟩
    exact ⟨n, hfinite, hn.trans (Int.mul_comm _ n)⟩
  · rintro ⟨n, hfinite, hn⟩
    exact ⟨hfinite, n, hn.trans (Int.mul_comm n _)⟩

def distance (x : Binary64) (n : Int) : Nat := (x.scaled - n * unitsInOne).natAbs

/-- No finite number is nearer to the whole number, and where another one is as near it is this one
that has the even significand. The zeros count as one. -/
structure IsNearest (x : Binary64) (n : Int) : Prop where
  finite : x.isFinite
  nearest : ∀ y : Binary64, y.isFinite → x.distance n ≤ y.distance n
  even : ∀ y : Binary64, y.isFinite → y.distance n = x.distance n → y.scaled ≠ x.scaled →
    x.rank % 2 = 0

theorem distance_eq (x : Binary64) (negative : Bool) (n : Nat) :
    x.distance (if negative then -(n : Int) else n) =
      if x.negative = negative then ((units x.rank : Int) - (n * unitsInOne : Nat)).natAbs
      else units x.rank + n * unitsInOne := by
  have hmul : (if negative then -(n : Int) else n) * unitsInOne =
      if negative then -((n * unitsInOne : Nat) : Int) else (n * unitsInOne : Nat) := by
    split
    · rw [Int.neg_mul, Int.natCast_mul]
    · rw [Int.natCast_mul]
  rw [distance, scaled, hmul]
  generalize n * unitsInOne = total
  cases negative <;> cases x.negative <;> simp <;> omega

section Rank

variable (negative : Bool) {n rank : Nat}

theorem isFinite_ofRank (hrank : rank < infinityRank) : (ofRank negative rank).isFinite := by
  rwa [isFinite_iff, rank_ofRank negative (lt_signBit_of_lt_infinityRank hrank)]

theorem distance_ofRank (n : Nat) (hrank : rank < infinityRank) :
    (ofRank negative rank).distance (if negative then -(n : Int) else n) =
      ((units rank : Int) - (n * unitsInOne : Nat)).natAbs := by
  have hsign := lt_signBit_of_lt_infinityRank hrank
  rw [distance_eq, if_pos (negative_ofRank negative hsign), rank_ofRank negative hsign]

theorem isNearest_ofRank (hrank : rank < infinityRank) (h : RoundsTo (n * unitsInOne) 1 rank) :
    (ofRank negative rank).IsNearest (if negative then -(n : Int) else n) := by
  have hsign := lt_signBit_of_lt_infinityRank hrank
  have hdistance := distance_ofRank negative n hrank
  have hzero := h.nearest 0
  rw [units_zero] at hzero
  refine ⟨isFinite_ofRank negative hrank, fun y _ => ?_, fun y _ heq hne => ?_⟩
  · have hy := h.nearest y.rank
    rw [hdistance, distance_eq]
    split <;> omega
  · have hy := h.nearest y.rank
    rw [hdistance, distance_eq] at heq
    rw [scaled_ofRank negative hsign, scaled] at hne
    rw [rank_ofRank negative hsign]
    split at heq
    next hs =>
      apply hy.2 heq
      rintro hrank
      simp [hs, hrank] at hne
    next hs => omega

namespace IsNearest

variable {negative} {x : Binary64}

theorem distance_le (h : x.IsNearest (if negative then -(n : Int) else n))
    (hrank : rank < infinityRank) : x.distance (if negative then -(n : Int) else n) ≤
      ((units rank : Int) - (n * unitsInOne : Nat)).natAbs := by
  rw [← distance_ofRank negative n hrank]
  exact h.nearest _ (isFinite_ofRank negative hrank)

theorem negative_eq (h : x.IsNearest (if negative then -(n : Int) else n)) (hpos : 0 < x.rank) :
    x.negative = negative := by
  have hzero := h.distance_le (show 0 < infinityRank by decide)
  have hunits := units_strictMono hpos
  by_contra hne
  rw [distance_eq, if_neg hne] at hzero
  rw [units_zero] at hzero hunits
  omega

theorem distance_eq_natAbs (h : x.IsNearest (if negative then -(n : Int) else n)) :
    x.distance (if negative then -(n : Int) else n) =
      ((units x.rank : Int) - (n * unitsInOne : Nat)).natAbs := by
  rw [distance_eq]
  split
  · rfl
  next hne =>
    have hx : x.rank = 0 := Nat.eq_zero_of_not_pos fun hpos => hne (h.negative_eq hpos)
    rw [hx, units_zero]
    omega

theorem even_of_eq (h : x.IsNearest (if negative then -(n : Int) else n))
    (hrank : rank < infinityRank) (hne : rank ≠ x.rank)
    (heq : ((units rank : Int) - (n * unitsInOne : Nat)).natAbs =
      ((units x.rank : Int) - (n * unitsInOne : Nat)).natAbs) : x.rank % 2 = 0 := by
  by_contra hodd
  have hscaled : (ofRank negative rank).scaled ≠ x.scaled := by
    have hunits : units rank ≠ units x.rank := fun heq => hne (units_strictMono.injective heq)
    rw [scaled_ofRank negative (lt_signBit_of_lt_infinityRank hrank), scaled,
      h.negative_eq (by omega)]
    split <;> omega
  rw [← h.distance_eq_natAbs, ← distance_ofRank negative n hrank] at heq
  exact hodd (h.even _ (isFinite_ofRank negative hrank) heq hscaled)

/-- A number rounds to the one that is nearest to it, but for the last magnitude, which is the nearest
finite one to all that is greater. -/
theorem roundsTo (h : x.IsNearest (if negative then -(n : Int) else n))
    (hrank : x.rank + 1 < infinityRank) : RoundsTo (n * unitsInOne) 1 x.rank := by
  have hnext := h.distance_le hrank
  have hprevious := h.distance_le (show x.rank - 1 < infinityRank by omega)
  rw [h.distance_eq_natAbs] at hnext hprevious
  have hlt : units x.rank < units (x.rank + 1) := units_strictMono (Nat.lt_succ_self _)
  have hbefore : units (x.rank - 1) < units x.rank ∨ x.rank = 0 := by
    refine (Nat.eq_zero_or_pos x.rank).symm.imp_left fun hpos => units_strictMono ?_
    omega
  refine ⟨?_, by omega, fun hodd heq => ?_, fun hodd heq => ?_⟩
  · rcases hbefore with hlt | hx
    · omega
    · simp [hx]
  · have heven := h.even_of_eq (show x.rank - 1 < infinityRank by omega) (by omega) (by omega)
    omega
  · have heven := h.even_of_eq hrank (by omega) (by omega)
    omega

end IsNearest

end Rank

theorem isNearest_zero : zero.IsNearest 0 := by
  have hround : RoundsTo (0 * unitsInOne) 1 0 := by
    rw [Nat.zero_mul]
    constructor <;> simp
  -- Against `zero` itself the product would be computed to find the whole number.
  have hnearest := isNearest_ofRank false (by decide) hround
  exact hnearest

theorem nearestRank_lt_infinityRank {n : Nat} (hn : n ≤ 2 ^ 64) : nearestRank n 1 < infinityRank := by
  have hround := roundsTo_unboundedRank (n * unitsInOne) Nat.one_pos
  have hlast : 2 * (2 ^ 64 * unitsInOne) < units infinityRank := by decide +kernel
  rw [nearestRank_eq]
  by_contra hle
  have hunits : units infinityRank ≤ units (unboundedRank (n * unitsInOne) 1) :=
    units_strictMono.monotone (by omega)
  have hsize : n * unitsInOne ≤ 2 ^ 64 * unitsInOne := Nat.mul_le_mul_right _ hn
  have hlow := hround.low
  omega

theorem isNearest_ofRank_nearestRank (negative : Bool) {n : Nat} (hn : n ≤ 2 ^ 64) :
    (ofRank negative (nearestRank n 1)).IsNearest (if negative then -(n : Int) else n) := by
  have hrank := nearestRank_lt_infinityRank hn
  exact isNearest_ofRank negative hrank ((nearestRank_eq_iff Nat.one_pos hrank).mp rfl)

end FullText.Binary64
