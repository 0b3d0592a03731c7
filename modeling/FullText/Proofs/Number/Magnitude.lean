import FullText.Number.Binary64
import Mathlib.Order.Monotone.Basic
import Mathlib.Tactic.Linarith
import Mathlib.Tactic.Ring

namespace FullText.Binary64

/-- The number of units from the magnitude of the given rank to the next one. -/
def gap (rank : Nat) : Nat := 2 ^ (rank / binade - 1)

theorem gap_pos (rank : Nat) : 0 < gap rank := Nat.two_pow_pos _

theorem gap_mono {r s : Nat} (h : r ≤ s) : gap r ≤ gap s :=
  Nat.pow_le_pow_right Nat.two_pos (Nat.sub_le_sub_right (Nat.div_le_div_right h) 1)

/-- The magnitude with the significand `m`, whose last place is worth `2 ^ s` units. -/
theorem units_significand {s m : Nat} (hm : m ≤ 2 * binade) (h : s = 0 ∨ binade ≤ m) :
    units (s * binade + m) = m * 2 ^ s := by
  rw [units, Nat.pow_eq]
  by_cases hsmall : s * binade + m < binade
  · have hs : s = 0 := by
      unfold binade at *
      omega
    subst hs
    rw [if_pos hsmall]
    simp
  · rw [if_neg hsmall]
    by_cases hlast : m = 2 * binade
    · have hmod : (s * binade + m) % binade = 0 := by
        unfold binade at *
        omega
      have hdiv : (s * binade + m) / binade - 1 = s + 1 := by
        unfold binade at *
        omega
      rw [hmod, hdiv, hlast, Nat.pow_succ]
      ring
    · have hmod : binade + (s * binade + m) % binade = m := by
        unfold binade at *
        omega
      have hdiv : (s * binade + m) / binade - 1 = s := by
        unfold binade at *
        omega
      rw [hmod, hdiv]

theorem gap_significand {s m : Nat} (hm : m < 2 * binade) (h : s = 0 ∨ binade ≤ m) :
    gap (s * binade + m) = 2 ^ s := by
  have hdiv : (s * binade + m) / binade - 1 = s := by
    unfold binade at *
    omega
  rw [gap, hdiv]

theorem exists_significand (rank : Nat) :
    ∃ s m, rank = s * binade + m ∧ m < 2 * binade ∧ (s = 0 ∨ binade ≤ m) := by
  refine ⟨rank / binade - 1, rank - (rank / binade - 1) * binade, ?_⟩
  unfold binade
  omega

theorem units_succ (rank : Nat) : units (rank + 1) = units rank + gap rank := by
  obtain ⟨s, m, rfl, hm, h⟩ := exists_significand rank
  have hnext : s = 0 ∨ binade ≤ m + 1 := h.imp_right fun h => Nat.le_succ_of_le h
  rw [Nat.add_assoc, units_significand hm hnext, units_significand (Nat.le_of_lt hm) h,
    gap_significand hm h, Nat.succ_mul]

theorem units_strictMono : StrictMono units := by
  apply strictMono_nat_of_lt_succ
  intro rank
  rw [units_succ]
  exact Nat.lt_add_of_pos_right (gap_pos rank)

@[simp]
theorem units_zero : units 0 = 0 := rfl

theorem gap_dvd_units (rank : Nat) : gap rank ∣ units rank := by
  obtain ⟨s, m, rfl, hm, h⟩ := exists_significand rank
  rw [gap_significand hm h, units_significand (Nat.le_of_lt hm) h]
  exact Nat.dvd_mul_left _ _

/-- The number `n / den` lies between the middles of the gaps around the magnitude of the given rank,
all counted in units. A middle itself belongs to the even rank. -/
structure RoundsTo (n den rank : Nat) : Prop where
  low : (units (rank - 1) + units rank) * den ≤ 2 * n
  high : 2 * n ≤ (units rank + units (rank + 1)) * den
  lowOdd : rank % 2 = 1 → (units (rank - 1) + units rank) * den ≠ 2 * n
  highOdd : rank % 2 = 1 → 2 * n ≠ (units rank + units (rank + 1)) * den

namespace RoundsTo

variable {n m den rank : Nat}

theorem unique (hden : 0 < den) {r s : Nat} (hr : RoundsTo n den r) (hs : RoundsTo n den s) :
    r = s := by
  wlog h : r < s generalizing r s
  · rcases Nat.lt_trichotomy r s with hlt | heq | hgt
    · exact absurd hlt h
    · exact heq
    · exact (this hs hr hgt).symm
  have hmiddles : units (s - 1) + units s ≤ units r + units (r + 1) :=
    Nat.le_of_mul_le_mul_right (hs.low.trans hr.high) hden
  have hnext : s = r + 1 := by
    by_contra hne
    have hlow : units r < units (s - 1) := units_strictMono (by omega)
    have hhigh : units (r + 1) < units s := units_strictMono (by omega)
    omega
  subst hnext
  rw [Nat.add_sub_cancel] at *
  have hmiddle : 2 * n = (units r + units (r + 1)) * den := Nat.le_antisymm hr.high hs.low
  rcases Nat.mod_two_eq_zero_or_one r with heven | hodd
  · exact absurd hmiddle.symm (hs.lowOdd (by omega))
  · exact absurd hmiddle (hr.highOdd hodd)

theorem scale_iff {k : Nat} (hk : 0 < k) : RoundsTo (n * k) (den * k) rank ↔ RoundsTo n den rank := by
  have hle (a b : Nat) : a * k ≤ b * k ↔ a ≤ b := Nat.mul_le_mul_right_iff hk
  have heq (a b : Nat) : a * k = b * k ↔ a = b := Nat.mul_left_inj (Nat.ne_of_gt hk)
  have hn : 2 * (n * k) = 2 * n * k := (Nat.mul_assoc 2 n k).symm
  have hden (u : Nat) : u * (den * k) = u * den * k := (Nat.mul_assoc u den k).symm
  constructor
  · rintro ⟨hlow, hhigh, hlowOdd, hhighOdd⟩
    simp only [hn, hden, ne_eq, hle, heq] at hlow hhigh hlowOdd hhighOdd
    exact ⟨hlow, hhigh, hlowOdd, hhighOdd⟩
  · rintro ⟨hlow, hhigh, hlowOdd, hhighOdd⟩
    constructor <;> simpa only [hn, hden, ne_eq, hle, heq]

theorem between {a b : Nat} (ha : RoundsTo a den rank) (hb : RoundsTo b den rank) (han : a ≤ n)
    (hnb : n ≤ b) : RoundsTo n den rank := by
  obtain ⟨hlow, -, hlowOdd, -⟩ := ha
  obtain ⟨-, hhigh, -, hhighOdd⟩ := hb
  refine ⟨by omega, by omega, fun hodd => ?_, fun hodd => ?_⟩
  · have hne := hlowOdd hodd
    omega
  · have hne := hhighOdd hodd
    omega

theorem units_mul (hden : 0 < den) : RoundsTo (units rank * den) den rank := by
  have hlow : units (rank - 1) ≤ units rank := units_strictMono.monotone (Nat.sub_le rank 1)
  have hhigh : units rank < units (rank + 1) := units_strictMono (Nat.lt_succ_self rank)
  have hdouble : 2 * (units rank * den) = (units rank + units rank) * den := by ring
  refine ⟨?_, ?_, fun hodd => ?_, fun _ => ?_⟩
  · rw [hdouble]
    exact Nat.mul_le_mul_right den (by omega)
  · rw [hdouble]
    exact Nat.mul_le_mul_right den (by omega)
  · have hbefore : units (rank - 1) < units rank := units_strictMono (by omega)
    rw [hdouble]
    exact Nat.ne_of_lt (Nat.mul_lt_mul_of_pos_right (by omega) hden)
  · rw [hdouble]
    exact Nat.ne_of_lt (Nat.mul_lt_mul_of_pos_right (by omega) hden)

theorem eq_units_of_gap_dvd (h : RoundsTo n 1 rank) (hgap : gap rank ∣ n) : n = units rank := by
  obtain ⟨hlow, hhigh, -, -⟩ := h
  obtain ⟨a, ha⟩ := gap_dvd_units rank
  obtain ⟨b, rfl⟩ := hgap
  have hbefore : units rank ≤ units (rank - 1) + gap rank := by
    rcases Nat.eq_zero_or_pos rank with rfl | hpos
    · exact Nat.zero_le _
    · obtain ⟨r, rfl⟩ := Nat.exists_eq_add_of_le' hpos
      rw [units_succ, Nat.add_sub_cancel]
      exact Nat.add_le_add_left (gap_mono (Nat.le_succ r)) _
  rw [units_succ] at hhigh
  rw [ha] at hlow hhigh hbefore ⊢
  have hpos := gap_pos rank
  have hle : b ≤ a := by
    have hdouble : gap rank * (2 * b) ≤ gap rank * (2 * a + 1) := by linarith
    have := Nat.le_of_mul_le_mul_left hdouble hpos
    omega
  have hge : a ≤ b := by
    have hdouble : gap rank * (2 * a) ≤ gap rank * (2 * b + 1) := by linarith
    have := Nat.le_of_mul_le_mul_left hdouble hpos
    omega
  rw [Nat.le_antisymm hle hge]

/-- No magnitude is nearer, and one that is as near leaves the even rank. -/
theorem nearest (h : RoundsTo n 1 rank) (r : Nat) :
    ((units rank : Int) - n).natAbs ≤ ((units r : Int) - n).natAbs ∧
      (((units r : Int) - n).natAbs = ((units rank : Int) - n).natAbs → r ≠ rank →
        rank % 2 = 0) := by
  obtain ⟨hlow, hhigh, hlowOdd, hhighOdd⟩ := h
  have hparity := Nat.mod_two_eq_zero_or_one rank
  rcases Nat.lt_trichotomy r rank with hlt | rfl | hgt
  · have hr : units r ≤ units (rank - 1) := units_strictMono.monotone (by omega)
    have hbefore : units (rank - 1) < units rank := units_strictMono (by omega)
    omega
  · omega
  · have hr : units (rank + 1) ≤ units r := units_strictMono.monotone hgt
    have hnext : units rank < units (rank + 1) := units_strictMono (Nat.lt_succ_self rank)
    omega

end RoundsTo

end FullText.Binary64
