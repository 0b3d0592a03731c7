import FullText.Proofs.Aggregation.Cell
import FullText.Proofs.Number.ShortestInt
import FullText.Proofs.Reply.Cursor

namespace FullText.Reply

open Binary64 Reading

variable {x : Binary64}

theorem asInt_double_eq_ok_iff {n : Int64} :
    (double x).asInt = .ok n ↔ x.isIntegral ∧ n.toInt = x.shortestInt := by
  simp only [asInt_eq_ok_iff, asText_double, Except.ok.injEq, exists_eq_left', spells_plain_iff]

theorem asInt_double_eq_error {e : Error} (h : (double x).asInt = .error e) :
    e = .mismatch (.notAnInteger x.plain) := by
  simp only [asInt, asText_double, bind, Except.bind] at h
  split at h
  next => cases h
  next => exact (Except.error.inj h).symm

/-- The whole number that is read off a double, from a list or from a row. There is one for the whole
doubles strictly between -2^63 and 2^63, it has the fewest digits that round to the double, and below
2^53 it is the double itself. -/
theorem asInt_double (x : Binary64) :
    (∀ p rest, (nextAs asInt ⟨p, double x :: rest⟩).1 = (double x).asInt) ∧
    (∀ (row : Row) name, row.fields.get? name = some (double x) →
      row.int name = (double x).asInt) ∧
    ((∃ n, (double x).asInt = .ok n) ↔ ∃ m : Int, x.IsInt m ∧ -2 ^ 63 < m ∧ m < 2 ^ 63) ∧
    (∀ e, (double x).asInt = .error e → e = .mismatch (.notAnInteger x.plain)) ∧
    (∀ n, (double x).asInt = .ok n → x.IsShortest n.toInt) ∧
    ∀ n : Int64, x.IsInt n.toInt → n.toInt.natAbs < 2 ^ 53 → (double x).asInt = .ok n := by
  have hok : (∃ n, (double x).asInt = .ok n) ↔ ∃ m : Int, x.IsInt m ∧ -2 ^ 63 < m ∧ m < 2 ^ 63 := by
    simp only [asInt_double_eq_ok_iff, exists_toInt_eq_iff]
  refine ⟨fun p rest => ?_, fun row name hvalue => ?_, hok, fun e => asInt_double_eq_error,
    fun n hn => ?_, fun n hn hsmall => ?_⟩
  · rw [nextAs_cons]
  · rw [Row.int, Row.getAs, hvalue]
  · obtain ⟨hx, heq⟩ := asInt_double_eq_ok_iff.mp hn
    obtain ⟨m, hm, hlow, hhigh⟩ := hok.mp ⟨n, hn⟩
    have hrank : x.rank < powRank 63 := (hm.natAbs_lt_iff 63).mp (by omega)
    have hlast : powRank 63 < infinityRank := by decide
    rw [heq]
    exact isShortest_shortestInt hx (by omega)
  · have hx := isIntegral_iff_exists_isInt.mpr ⟨_, hn⟩
    exact asInt_double_eq_ok_iff.mpr ⟨hx, (shortestInt_eq hn hsmall).symm⟩

def twoPow60 : Binary64 := .ofRank false (powRank 60)

theorem isInt_twoPow60 : twoPow60.IsInt 1152921504606846976 := ⟨by decide, by decide +kernel⟩

theorem asInt_twoPow60 : (double twoPow60).asInt = .ok 1152921504606847000 :=
  asInt_double_eq_ok_iff.mpr ⟨by decide +kernel, by decide +kernel⟩

theorem asInt_double_twoPow60 :
    (double twoPow60).asInt = .ok 1152921504606847000 ∧
      twoPow60.IsShortest 1152921504606847000 ∧
      (⟨⟨[("n", double twoPow60)]⟩⟩ : Row).int "n" = .ok 1152921504606847000 := by
  obtain ⟨-, hrow, -, -, hshortest, -⟩ := asInt_double twoPow60
  exact ⟨asInt_twoPow60, hshortest _ asInt_twoPow60, (hrow _ "n" rfl).trans asInt_twoPow60⟩

/-- What is read of 2^60 is not 2^60, and -2^63 is refused. -/
theorem not_isInt_of_asInt :
    twoPow60.IsInt 1152921504606846976 ∧
    (double twoPow60).asInt = .ok 1152921504606847000 ∧ ¬ twoPow60.IsInt 1152921504606847000 ∧
    (ofRank true (powRank 63)).IsInt (-9223372036854775808) ∧
    ¬ ∃ n, (double (ofRank true (powRank 63))).asInt = .ok n := by
  refine ⟨isInt_twoPow60, asInt_twoPow60, fun h => ?_, ⟨by decide, by decide +kernel⟩, ?_⟩
  · exact absurd (h.unique isInt_twoPow60) (by decide)
  · rintro ⟨n, hn⟩
    obtain ⟨hx, heq⟩ := asInt_double_eq_ok_iff.mp hn
    have hrank : (ofRank true (powRank 63)).rank = powRank 63 := rank_ofRank true (by decide)
    have hlt := lt_natAbs_shortestInt hx (Nat.le_of_eq hrank.symm)
    have hlow := n.le_toInt
    have hhigh := n.toInt_lt
    omega

end FullText.Reply
