import FullText.Number.Shortest
import FullText.Proofs.Number.Magnitude

namespace FullText.Binary64

/-- The number of units of `10 ^ -places` in a unit of 2^-1074. -/
def decimalUnit : Nat := Nat.pow 5 places

-- Only the kernel computes powers of this size. What follows is argued from these two equations.

theorem decimalUnit_eq : decimalUnit = 5 ^ places := by decide +kernel

theorem unitsInOne_eq : unitsInOne = 2 ^ places := by decide +kernel

theorem pow_five_places : Nat.pow 5 places = decimalUnit := by rw [decimalUnit_eq, Nat.pow_eq]

theorem pow_places : Nat.pow 10 places = unitsInOne * decimalUnit := by
  have hten : 10 = 2 * 5 := rfl
  rw [Nat.pow_eq, hten, Nat.mul_pow, unitsInOne_eq, decimalUnit_eq]

theorem decimalUnit_pos : 0 < decimalUnit := by
  rw [decimalUnit_eq]
  exact Nat.pow_pos (by decide)

theorem unitsInOne_pos : 0 < unitsInOne := by
  rw [unitsInOne_eq]
  exact Nat.two_pow_pos places

theorem pow_places_pos : 0 < Nat.pow 10 places := by
  rw [pow_places]
  exact Nat.mul_pos unitsInOne_pos decimalUnit_pos

variable {rank decimal step : Nat}

theorem exactDecimal_eq : exactDecimal rank = units rank * decimalUnit := by
  rw [exactDecimal, pow_five_places]

theorem holds_iff : holds rank decimal ↔ RoundsTo decimal decimalUnit rank := by
  simp only [holds, pow_five_places]
  split
  next heven =>
    simp only [Bool.and_eq_true, decide_eq_true_eq]
    constructor
    · rintro ⟨hlow, hhigh⟩
      exact ⟨hlow, hhigh, fun hodd => by omega, fun hodd => by omega⟩
    · rintro ⟨hlow, hhigh, -, -⟩
      exact ⟨hlow, hhigh⟩
  next hodd =>
    simp only [Bool.and_eq_true, decide_eq_true_eq]
    constructor
    · rintro ⟨hlow, hhigh⟩
      exact ⟨Nat.le_of_lt hlow, Nat.le_of_lt hhigh, fun _ => Nat.ne_of_lt hlow,
        fun _ => Nat.ne_of_lt hhigh⟩
    · rintro ⟨hlow, hhigh, hlowOdd, hhighOdd⟩
      exact ⟨Nat.lt_of_le_of_ne hlow (hlowOdd (by omega)),
        Nat.lt_of_le_of_ne hhigh (hhighOdd (by omega))⟩

theorem holds_exactDecimal (rank : Nat) : holds rank (exactDecimal rank) := by
  rw [exactDecimal_eq, holds_iff]
  exact .units_mul decimalUnit_pos

theorem holds_between {a b : Nat} (ha : holds rank a) (hb : holds rank b) (hle : a ≤ decimal)
    (hge : decimal ≤ b) : holds rank decimal :=
  holds_iff.mpr ((holds_iff.mp ha).between (holds_iff.mp hb) hle hge)

theorem holds_of_onGrid (h : onGrid rank step = some decimal) :
    holds rank decimal ∧ step ∣ decimal := by
  have hbelow : step ∣ exactDecimal rank / step * step := Nat.dvd_mul_left _ _
  have habove : step ∣ exactDecimal rank / step * step + step := Nat.dvd_add_self_right.mpr hbelow
  simp only [onGrid] at h
  split at h
  next hboth =>
    rw [Bool.and_eq_true] at hboth
    obtain rfl := Option.some.inj h
    split
    · exact ⟨hboth.1, hbelow⟩
    · exact ⟨hboth.2, habove⟩
  next =>
    split at h
    next hholds =>
      obtain rfl := Option.some.inj h
      exact ⟨hholds, hbelow⟩
    next =>
      split at h
      next hholds =>
        obtain rfl := Option.some.inj h
        exact ⟨hholds, habove⟩
      next => exact nomatch h

theorem grid_neighbours (hdvd : step ∣ decimal) :
    decimal ≤ exactDecimal rank / step * step ∨ exactDecimal rank / step * step + step ≤ decimal := by
  obtain ⟨k, rfl⟩ := hdvd
  rw [Nat.mul_comm step k, ← Nat.succ_mul]
  rcases Nat.lt_or_ge (exactDecimal rank / step) k with hlt | hle
  · exact .inr (Nat.mul_le_mul_right step hlt)
  · exact .inl (Nat.mul_le_mul_right step hle)

theorem holds_neighbour (hstep : 0 < step) (h : holds rank decimal) (hdvd : step ∣ decimal) :
    decimal ≤ exactDecimal rank / step * step ∧ holds rank (exactDecimal rank / step * step) ∨
      exactDecimal rank / step * step + step ≤ decimal ∧
        holds rank (exactDecimal rank / step * step + step) := by
  have hexact := holds_exactDecimal rank
  rcases grid_neighbours hdvd with hle | hge
  · exact .inl ⟨hle, holds_between h hexact hle (Nat.div_mul_le_self _ _)⟩
  · exact .inr ⟨hge, holds_between hexact h (Nat.le_of_lt (Nat.lt_div_mul_add hstep)) hge⟩

theorem exists_onGrid (hstep : 0 < step) (h : holds rank decimal) (hdvd : step ∣ decimal) :
    ∃ d, onGrid rank step = some d := by
  simp only [onGrid]
  rcases holds_neighbour hstep h hdvd with ⟨-, hbelow⟩ | ⟨-, habove⟩
  · cases holds rank (exactDecimal rank / step * step + step) <;> simp [hbelow]
  · cases holds rank (exactDecimal rank / step * step) <;> simp [habove]

/-- Of the decimals of a grid that round to the magnitude, none is nearer than the one that is taken. -/
theorem onGrid_nearest {taken : Nat} (hstep : 0 < step) (htaken : onGrid rank step = some taken)
    (h : holds rank decimal) (hdvd : step ∣ decimal) :
    ((exactDecimal rank : Int) - taken).natAbs ≤ ((exactDecimal rank : Int) - decimal).natAbs := by
  have hbelow : exactDecimal rank / step * step ≤ exactDecimal rank := Nat.div_mul_le_self _ _
  have habove : exactDecimal rank < exactDecimal rank / step * step + step :=
    Nat.lt_div_mul_add hstep
  have hneighbour := holds_neighbour hstep h hdvd
  simp only [onGrid] at htaken
  split at htaken
  next =>
    obtain rfl := Option.some.inj htaken
    split <;> omega
  next hnot =>
    split at htaken
    next hholds =>
      obtain rfl := Option.some.inj htaken
      rcases hneighbour with ⟨hle, -⟩ | ⟨-, hholds'⟩
      · omega
      · exact absurd (by rw [hholds, hholds']; rfl) hnot
    next hnone =>
      split at htaken
      next =>
        obtain rfl := Option.some.inj htaken
        rcases hneighbour with ⟨-, hholds⟩ | ⟨hge, -⟩
        · exact absurd hholds hnone
        · omega
      next => exact nomatch htaken

theorem findSome?_downwards {α : Type} (f : Nat → Option α) (n : Nat) :
    ((List.range n).reverse.findSome? f = none ∧ ∀ p < n, f p = none) ∨
      ∃ p < n, (List.range n).reverse.findSome? f = f p ∧ (f p).isSome ∧
        ∀ q < n, p < q → f q = none := by
  induction n with
  | zero => exact .inl ⟨rfl, fun p hp => absurd hp (Nat.not_lt_zero p)⟩
  | succ n ih =>
      rw [List.range_succ, List.reverse_append, List.reverse_singleton, List.singleton_append,
        List.findSome?_cons]
      cases hn : f n with
      | some a =>
          exact .inr ⟨n, Nat.lt_succ_self n, hn.symm, by rw [hn]; rfl, fun q hq hlt => by omega⟩
      | none =>
          have hlast {P : Nat → Prop} (h : ∀ q < n, P q) (hP : P n) : ∀ q < n + 1, P q := by
            intro q hq
            rcases Nat.lt_succ_iff_lt_or_eq.mp hq with hlt | rfl
            · exact h q hlt
            · exact hP
          rcases ih with ⟨hnone, h⟩ | ⟨p, hp, hsome, hp', h⟩
          · exact .inl ⟨hnone, hlast h hn⟩
          · exact .inr ⟨p, Nat.lt_succ_of_lt hp, hsome, hp', hlast h fun _ => hn⟩

theorem shortest_spec (rank : Nat) :
    let grids := (exactDecimal rank).log2 / 3 + 1
    (shortest rank = exactDecimal rank ∧ ∀ p < grids, onGrid rank (10 ^ p) = none) ∨
      ∃ p < grids, onGrid rank (10 ^ p) = some (shortest rank) ∧
        ∀ q < grids, p < q → onGrid rank (10 ^ q) = none := by
  intro grids
  rcases findSome?_downwards (fun p => onGrid rank (Nat.pow 10 p)) grids with
    ⟨hnone, h⟩ | ⟨p, hp, hsome, hp', h⟩
  · exact .inl ⟨by rw [shortest, hnone]; rfl, h⟩
  · obtain ⟨d, hd⟩ := Option.isSome_iff_exists.mp hp'
    have hd' : onGrid rank (10 ^ p) = some d := hd
    rw [hd] at hsome
    exact .inr ⟨p, hp, by rw [hd', shortest, hsome]; rfl, h⟩

theorem holds_shortest (rank : Nat) : holds rank (shortest rank) := by
  rcases shortest_spec rank with ⟨h, -⟩ | ⟨p, -, h, -⟩
  · rw [h]
    exact holds_exactDecimal rank
  · exact (holds_of_onGrid h).1

theorem shortest_zero : shortest 0 = 0 := by decide +kernel

theorem units_pos (hrank : 0 < rank) : 0 < units rank := by
  have hlt := units_strictMono hrank
  rwa [units_zero] at hlt

theorem three_mul_pow_le {p : Nat} (hp : 2 ≤ p) : 3 * 8 ^ p ≤ 2 * 10 ^ p := by
  induction p, hp using Nat.le_induction with
  | base => decide
  | succ p _ ih =>
      rw [Nat.pow_succ, Nat.pow_succ]
      omega

theorem decimalUnit_le_exactDecimal (hrank : 0 < rank) : decimalUnit ≤ exactDecimal rank := by
  rw [exactDecimal_eq]
  exact Nat.le_mul_of_pos_left _ (units_pos hrank)

theorem pos_of_holds (hrank : 0 < rank) (h : holds rank decimal) : 0 < decimal := by
  have hlow := (holds_iff.mp h).low
  have hpos : 0 < (units (rank - 1) + units rank) * decimalUnit :=
    Nat.mul_pos (Nat.add_pos_right _ (units_pos hrank)) decimalUnit_pos
  omega

theorem two_mul_le_of_holds (hrank : 0 < rank) (h : holds rank decimal) :
    2 * decimal ≤ 3 * exactDecimal rank := by
  have hgap := Nat.le_of_dvd (units_pos hrank) (gap_dvd_units rank)
  calc 2 * decimal ≤ (units rank + units (rank + 1)) * decimalUnit := (holds_iff.mp h).high
    _ ≤ 3 * units rank * decimalUnit := by
      rw [units_succ]
      exact Nat.mul_le_mul_right _ (by omega)
    _ = 3 * exactDecimal rank := by rw [exactDecimal_eq, Nat.mul_assoc]

theorem lt_grids_of_holds (hrank : 0 < rank) {p : Nat} (h : holds rank decimal)
    (hdvd : 10 ^ p ∣ decimal) : p < (exactDecimal rank).log2 / 3 + 1 := by
  have hunit := decimalUnit_le_exactDecimal hrank
  have hle : 10 ^ p ≤ decimal := Nat.le_of_dvd (pos_of_holds hrank h) hdvd
  have hsize := two_mul_le_of_holds hrank h
  have hpow : 2 ^ (3 * p) ≤ exactDecimal rank := by
    rw [show 2 ^ (3 * p) = 8 ^ p from Nat.pow_mul 2 3 p]
    rcases Nat.lt_or_ge p 2 with hp | hp
    · calc 8 ^ p ≤ 8 ^ 1 := Nat.pow_le_pow_right (by decide) (by omega)
        _ ≤ 5 ^ 2 := by decide
        _ ≤ decimalUnit := by
          rw [decimalUnit_eq]
          exact Nat.pow_le_pow_right (by decide) (by decide)
        _ ≤ exactDecimal rank := hunit
    · have hpow := three_mul_pow_le hp
      omega
  have hpos : 0 < exactDecimal rank := Nat.lt_of_lt_of_le decimalUnit_pos hunit
  have hlog := (Nat.le_log2 (Nat.ne_of_gt hpos)).mpr hpow
  omega

/-- No decimal that rounds to the magnitude has more zeros at its end than the shortest. -/
theorem pow_dvd_shortest (hrank : 0 < rank) {p : Nat} (h : holds rank decimal)
    (hdvd : 10 ^ p ∣ decimal) : 10 ^ p ∣ shortest rank := by
  have hp := lt_grids_of_holds hrank h hdvd
  obtain ⟨d, hd⟩ := exists_onGrid (Nat.pow_pos (by decide)) h hdvd
  rcases shortest_spec rank with ⟨-, hnone⟩ | ⟨q, -, hgrid, hlast⟩
  · have hempty := hnone p hp
    rw [hd] at hempty
    exact nomatch hempty
  · have hpq : p ≤ q := by
      by_contra hlt
      have hempty := hlast p hp (by omega)
      rw [hd] at hempty
      exact nomatch hempty
    exact (Nat.pow_dvd_pow 10 hpq).trans (holds_of_onGrid hgrid).2

/-- Of the decimals that round to the magnitude and have at least as many zeros at their ends, none is
nearer than the shortest. -/
theorem shortest_nearest (h : holds rank decimal)
    (hzeros : ∀ p, 10 ^ p ∣ shortest rank → 10 ^ p ∣ decimal) :
    ((exactDecimal rank : Int) - shortest rank).natAbs ≤
      ((exactDecimal rank : Int) - decimal).natAbs := by
  rcases shortest_spec rank with ⟨hexact, -⟩ | ⟨p, -, hgrid, -⟩
  · rw [hexact, Int.sub_self]
    exact Nat.zero_le _
  · exact onGrid_nearest (Nat.pow_pos (by decide)) hgrid h (hzeros p (holds_of_onGrid hgrid).2)

theorem shortest_lt {greater : Nat} (h : rank < greater) : shortest rank < exactDecimal greater := by
  have hhigh := (holds_iff.mp (holds_shortest rank)).high
  have hrank : units rank < units greater := units_strictMono h
  have hnext : units (rank + 1) ≤ units greater := units_strictMono.monotone h
  have hlt : (units rank + units (rank + 1)) * decimalUnit < 2 * units greater * decimalUnit :=
    Nat.mul_lt_mul_of_pos_right (by omega) decimalUnit_pos
  rw [Nat.mul_assoc, ← exactDecimal_eq] at hlt
  omega

theorem lt_shortest {less : Nat} (h : less < rank) : exactDecimal less < shortest rank := by
  have hlow := (holds_iff.mp (holds_shortest rank)).low
  have hrank : units less < units rank := units_strictMono h
  have hprevious : units less ≤ units (rank - 1) := units_strictMono.monotone (by omega)
  have hlt : 2 * units less * decimalUnit < (units (rank - 1) + units rank) * decimalUnit :=
    Nat.mul_lt_mul_of_pos_right (by omega) decimalUnit_pos
  rw [Nat.mul_assoc, ← exactDecimal_eq] at hlt
  omega

theorem gap_dvd_total (rank : Nat) : gap rank ∣ unitsInOne ∨ unitsInOne ∣ gap rank := by
  rw [unitsInOne_eq, gap]
  exact (Nat.le_total _ _).imp (Nat.pow_dvd_pow 2) (Nat.pow_dvd_pow 2)

theorem eq_units_of_whole {n : Nat} (hgap : gap rank ∣ unitsInOne)
    (h : RoundsTo (n * unitsInOne) 1 rank) : n * unitsInOne = units rank :=
  h.eq_units_of_gap_dvd (hgap.trans (Nat.dvd_mul_left _ _))

theorem roundsTo_whole_iff {n : Nat} :
    holds rank (n * Nat.pow 10 places) ↔ RoundsTo (n * unitsInOne) 1 rank := by
  have hscale : RoundsTo (n * unitsInOne * decimalUnit) (1 * decimalUnit) rank ↔
      RoundsTo (n * unitsInOne) 1 rank := RoundsTo.scale_iff decimalUnit_pos
  rw [holds_iff, pow_places, ← Nat.mul_assoc, ← hscale, Nat.one_mul]

theorem pow_places_dvd_exactDecimal_iff :
    Nat.pow 10 places ∣ exactDecimal rank ↔ unitsInOne ∣ units rank := by
  rw [exactDecimal_eq, pow_places]
  exact Nat.mul_dvd_mul_iff_right decimalUnit_pos

theorem roundsTo_of_shortest_eq {n : Nat} (h : shortest rank = n * Nat.pow 10 places) :
    RoundsTo (n * unitsInOne) 1 rank :=
  roundsTo_whole_iff.mp (h ▸ holds_shortest rank)

theorem pow_places_dvd_shortest_iff :
    Nat.pow 10 places ∣ shortest rank ↔ unitsInOne ∣ units rank := by
  constructor
  · rintro ⟨n, hn⟩
    rcases gap_dvd_total rank with hgap | hgap
    · rw [← eq_units_of_whole hgap (roundsTo_of_shortest_eq (hn.trans (Nat.mul_comm _ _)))]
      exact Nat.dvd_mul_left _ _
    · exact hgap.trans (gap_dvd_units rank)
  · intro hwhole
    rcases Nat.eq_zero_or_pos rank with rfl | hrank
    · rw [shortest_zero]
      exact Nat.dvd_zero _
    · have hgrid (p : Nat) : Nat.pow 10 p ∣ exactDecimal rank → Nat.pow 10 p ∣ shortest rank :=
        pow_dvd_shortest hrank (holds_exactDecimal rank)
      exact hgrid places (pow_places_dvd_exactDecimal_iff.mpr hwhole)

end FullText.Binary64
