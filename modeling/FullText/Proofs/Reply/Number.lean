import FullText.Proofs.Number.ReadBack
import FullText.Proofs.Reply.Coercion

namespace FullText.Reply

open Binary64 Numeral

variable {x : Binary64}

theorem asText_int (n : Int64) : (int n).asText = .ok n.toInt.repr := asText_eq_ok rfl

theorem asText_double (x : Binary64) : (double x).asText = .ok x.plain := asText_eq_ok rfl

theorem readInt64_eq_some_iff {text : String} {n : Int64} :
    readInt64 text = some n ↔ Spells (Text.trim text.toList) n.toInt := by
  rw [← readInt_eq_some_iff, readInt64]
  cases readInt (Text.trim text.toList) with
  | none => simp
  | some k =>
      simp only [Option.some.injEq]
      constructor
      · intro h
        split at h
        next hrange =>
          obtain rfl := Option.some.inj h
          exact (Int64.toInt_ofInt_of_le hrange.1 (Int.lt_of_le_of_lt hrange.2 (by decide))).symm
        next => exact nomatch h
      · rintro rfl
        simp only [Int64.minValue_le_toInt, Int64.toInt_le, and_self, if_true, Int64.ofInt_toInt]

theorem readInt64_repr (n : Int64) : readInt64 n.toInt.repr = some n := by
  rw [readInt64_eq_some_iff, Text.trim_repr, ← readInt_eq_some_iff, readInt_repr]

theorem asInt_eq_ok_iff {r : Reply} {n : Int64} :
    r.asInt = .ok n ↔ ∃ text, r.asText = .ok text ∧ Spells (Text.trim text.toList) n.toInt := by
  simp only [← readInt64_eq_some_iff]
  cases r with
  | int m => simp [asInt, asText_int, readInt64_repr]
  | _ =>
      refine bind_eq_ok_iff.trans (exists_congr fun text => and_congr_right fun _ => ?_)
      cases readInt64 text <;> simp

theorem asNumber_bulkText (text : String) : (bulkText text).asNumber = readNumber text := by
  change (bulkText text).asText >>= readNumber = readNumber text
  simp only [asText_bulkText, bind, Except.bind]

theorem readNumber_eq_ok {text : String} (htrim : Text.trim text.toList = text.toList)
    (hread : read text.toList = some x) : readNumber text = .ok x := by
  simp only [readNumber, htrim, hread]

theorem asNumber_eq_readNumber {r : Reply} {text : String} {n : Int} (htext : r.asText = .ok text)
    (h : Spells (Text.trim text.toList) n) : r.asNumber = readNumber text := by
  cases r with
  | double x =>
      obtain rfl := Except.ok.inj ((asText_double x).symm.trans htext)
      have hx := isFinite_of_spells h
      exact (readNumber_eq_ok (isDecimal_plain hx).trim_eq (read_plain hx)).symm
  | int m =>
      obtain rfl := Except.ok.inj ((asText_int m).symm.trans htext)
      exact (readNumber_eq_ok (Text.trim_repr m.toInt) (read_repr m.toInt)).symm
  | bulk | simple | verbatim | okay =>
      change asText _ >>= readNumber = _
      simp only [htext, bind, Except.bind]
  | _ => exact nomatch htext

theorem exists_asNumber_of_asInt {r : Reply} {n : Int64} (h : r.asInt = .ok n) :
    ∃ x, r.asNumber = .ok x ∧ x.IsNearest n.toInt := by
  obtain ⟨text, htext, hspells⟩ := asInt_eq_ok_iff.mp h
  have hsize : n.toInt.natAbs ≤ 2 ^ 64 := by
    have hlow := n.le_toInt
    have hhigh := n.toInt_lt
    omega
  obtain ⟨x, hx, hnearest⟩ := exists_read_of_spells hspells hsize
  have hread : readNumber text = .ok x := by simp only [readNumber, hx]
  exact ⟨x, (asNumber_eq_readNumber htext hspells).trans hread, hnearest⟩

/-- What is written for a finite number, in a request or in a reply. In a request a whole number has
the one decimal place `0`, in a reply it has no point. -/
theorem asNumber_written (hx : x.isFinite) :
    (∃ whole fraction, IsDecimal x.canonical.toList x.negative whole fraction ∧ fraction ≠ [] ∧
      (fraction = ['0'] ↔ ∃ n, x.IsInt n)) ∧
    (bulkText x.canonical).asNumber = .ok x ∧
    ∃ text : String, (double x).asBytes = .ok text.toUTF8 ∧
      (∃ whole fraction, IsDecimal text.toList x.negative whole fraction) ∧
      ('.' ∈ text.toList ↔ ¬ ∃ n, x.IsInt n) ∧
      (bulkText text).asNumber = .ok x := by
  have hplain := isDecimal_plain hx
  have hnil := fractionDigits_shortest_eq_nil_iff hx
  have hcanonical := exists_isDecimal_canonical hx
  simp only [← isIntegral_iff_exists_isInt]
  refine ⟨hcanonical, ?_, x.plain, rfl, ⟨_, _, hplain⟩, ?_, ?_⟩
  · obtain ⟨whole, fraction, hdecimal, -, -⟩ := hcanonical
    exact (asNumber_bulkText _).trans (readNumber_eq_ok hdecimal.trim_eq (read_canonical hx))
  · rw [hplain.point_mem_iff, Ne, hnil]
  · exact (asNumber_bulkText _).trans (readNumber_eq_ok hplain.trim_eq (read_plain hx))

theorem asNumber_written_negativeZero :
    let x : Binary64 := .ofRank true 0
    x.isFinite ∧ x.canonical = "-0.0" ∧ (bulkText "-0.0").asNumber = .ok x ∧ x ≠ .zero := by
  intro x
  have hx : x.isFinite := by decide
  have hcanonical : x.canonical = "-0.0" := by decide +kernel
  obtain ⟨-, hread, -⟩ := asNumber_written hx
  rw [hcanonical] at hread
  exact ⟨hx, hcanonical, hread, by decide⟩

end FullText.Reply
