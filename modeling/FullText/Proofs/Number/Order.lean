import FullText.Proofs.Number.Nearest

namespace FullText.Binary64

variable {x y : Binary64}

theorem natAbs_scaled (x : Binary64) : x.scaled.natAbs = units x.rank := by
  rw [scaled]
  split <;> simp

theorem isNaN_eq_false_iff : x.isNaN = false ↔ x.rank ≤ infinityRank := by
  rw [isNaN, decide_eq_false_iff_not, Nat.not_lt]

theorem isNaN_of_isFinite (h : x.isFinite) : x.isNaN = false :=
  isNaN_eq_false_iff.mpr (Nat.le_of_lt (isFinite_iff.mp h))

theorem isNaN_infinity (negative : Bool) : (infinity negative).isNaN = false := by
  cases negative <;> decide

theorem isFinite_or_eq_infinity (h : x.isNaN = false) :
    x.isFinite ∨ ∃ negative, x = infinity negative := by
  rcases Nat.lt_or_eq_of_le (isNaN_eq_false_iff.mp h) with hrank | hrank
  · exact .inl (isFinite_iff.mpr hrank)
  · refine .inr ⟨x.negative, ?_⟩
    rw [infinity, ← hrank, ofRank_rank]

theorem scaled_infinity (negative : Bool) : (infinity negative).scaled =
    if negative then -(units infinityRank : Int) else units infinityRank :=
  scaled_ofRank negative (by decide)

theorem scaled_between (h : x.isFinite) :
    (infinity true).scaled < x.scaled ∧ x.scaled < (infinity false).scaled := by
  have hunits := units_strictMono (isFinite_iff.mp h)
  rw [← natAbs_scaled] at hunits
  rw [scaled_infinity, scaled_infinity]
  simp only [↓reduceIte, Bool.false_eq_true]
  omega

theorem le_iff (hx : x.isNaN = false) (hy : y.isNaN = false) : x.le y ↔ x.scaled ≤ y.scaled := by
  simp [Binary64.le, hx, hy]

theorem lt_iff (hx : x.isNaN = false) (hy : y.isNaN = false) : x.lt y ↔ x.scaled < y.scaled := by
  simp [Binary64.lt, hx, hy]

theorem sameValue_iff_le_and_le : x.sameValue y ↔ y.le x ∧ x.le y := by
  simp only [sameValue, Binary64.le, Bool.and_eq_true, decide_eq_true_eq]
  constructor
  · rintro ⟨⟨hx, hy⟩, heq⟩
    exact ⟨⟨⟨hy, hx⟩, Int.le_of_eq heq.symm⟩, ⟨hx, hy⟩, Int.le_of_eq heq⟩
  · rintro ⟨⟨⟨hy, hx⟩, hle⟩, -, hge⟩
    exact ⟨⟨hx, hy⟩, Int.le_antisymm hge hle⟩

theorem infinity_le_iff_lt (negative : Bool) (h : x.isFinite) :
    (infinity negative).le x ↔ (infinity negative).lt x := by
  have hbetween := scaled_between h
  have hx := isNaN_of_isFinite h
  rw [le_iff (isNaN_infinity negative) hx, lt_iff (isNaN_infinity negative) hx]
  cases negative <;> omega

theorem le_infinity_iff_lt (negative : Bool) (h : x.isFinite) :
    x.le (infinity negative) ↔ x.lt (infinity negative) := by
  have hbetween := scaled_between h
  have hx := isNaN_of_isFinite h
  rw [le_iff hx (isNaN_infinity negative), lt_iff hx (isNaN_infinity negative)]
  cases negative <;> omega

theorem infinity_le (h : x.isFinite) : (infinity true).le x :=
  (le_iff (isNaN_infinity true) (isNaN_of_isFinite h)).mpr (Int.le_of_lt (scaled_between h).1)

theorem le_infinity (h : x.isFinite) : x.le (infinity false) :=
  (le_iff (isNaN_of_isFinite h) (isNaN_infinity false)).mpr (Int.le_of_lt (scaled_between h).2)

/-- The value is a number from zero to one. -/
structure InUnit (x : Binary64) : Prop where
  number : x.isNaN = false
  nonnegative : 0 ≤ x.scaled
  atMostOne : x.scaled ≤ unitsInOne

theorem inUnit_iff : x.InUnit ↔ zero.le x ∧ x.le one := by
  have hzero : zero.scaled = 0 := by decide +kernel
  have hone : one.scaled = unitsInOne := by decide +kernel
  have hnotNaN : zero.isNaN = false ∧ one.isNaN = false := by decide
  constructor
  · rintro ⟨hx, hlow, hhigh⟩
    rw [le_iff hnotNaN.1 hx, le_iff hx hnotNaN.2, hzero, hone]
    exact ⟨hlow, hhigh⟩
  · rintro ⟨hlow, hhigh⟩
    have hx : x.isNaN = false := by
      simp only [Binary64.le, Bool.and_eq_true, Bool.not_eq_true'] at hlow
      exact hlow.1.2
    rw [le_iff hnotNaN.1 hx, hzero] at hlow
    rw [le_iff hx hnotNaN.2, hone] at hhigh
    exact ⟨hx, hlow, hhigh⟩

instance : Decidable x.InUnit := decidable_of_iff _ inUnit_iff.symm

theorem InUnit.isFinite (h : x.InUnit) : x.isFinite := by
  have hone : unitsInOne < units infinityRank := by decide +kernel
  have hsize : units x.rank < units infinityRank := by
    have hlow := h.nonnegative
    have hhigh := h.atMostOne
    rw [← natAbs_scaled]
    omega
  exact isFinite_iff.mpr (units_strictMono.lt_iff_lt.mp hsize)

end FullText.Binary64
