import FullText.Number.Text

namespace FullText.Binary64

/-- Digits, the point, the sign and the letters of the names of what has no digits. -/
def isNumeric (c : Char) : Bool := c.isDigit || c ∈ ['.', '-', 'i', 'n', 'f', 'N', 'a']

theorem isNumeric_of_isDigit {c : Char} (h : c.isDigit) : isNumeric c := by
  simp only [isNumeric, h, Bool.true_or]

theorem isNumeric_toDigits {n : Nat} {c : Char} (h : c ∈ Nat.toDigits 10 n) : isNumeric c :=
  isNumeric_of_isDigit (Nat.isDigit_of_mem_toDigits (by decide) (by decide) h)

theorem mem_of_mem_dropTrailingZeros {digits : List Char} {c : Char}
    (h : c ∈ dropTrailingZeros digits) : c ∈ digits := by
  rw [dropTrailingZeros, List.mem_reverse] at h
  exact List.mem_reverse.mp ((List.dropWhile_sublist _).subset h)

theorem isNumeric_fractionDigits {decimal : Nat} {c : Char} (h : c ∈ fractionDigits decimal) :
    isNumeric c := by
  rcases List.mem_append.mp (mem_of_mem_dropTrailingZeros h) with hc | hc
  · rw [(List.mem_replicate.mp hc).2]
    rfl
  · exact isNumeric_toDigits hc

theorem isNumeric_positional {whole : List Char} {decimal : Nat} {c : Char}
    (hw : ∀ d ∈ whole, isNumeric d) (h : c ∈ positional whole decimal) : isNumeric c := by
  rcases List.mem_append.mp h with hc | hc
  · exact isNumeric_toDigits hc
  · split at hc
    · exact hw c hc
    · rcases List.mem_cons.mp hc with rfl | hc
      · rfl
      · exact isNumeric_fractionDigits hc

theorem isNumeric_write {text : Nat → List Char} (ht : ∀ r, ∀ c ∈ text r, isNumeric c)
    {x : Binary64} {c : Char} (h : c ∈ (write text x).toList) : isNumeric c := by
  have hm : ∀ d ∈ if x.isInfinite then ['i', 'n', 'f'] else text x.rank, isNumeric d := by
    intro d hd
    split at hd
    · exact List.all_eq_true.mp (by decide) d hd
    · exact ht _ d hd
  rw [write] at h
  split at h
  · exact List.all_eq_true.mp (by decide) c h
  · rw [String.toList_ofList] at h
    split at h
    · rcases List.mem_cons.mp h with rfl | hc
      · rfl
      · exact hm c hc
    · exact hm c h

theorem isNumeric_canonical {x : Binary64} {c : Char} (h : c ∈ x.canonical.toList) :
    isNumeric c := by
  have hwhole : ∀ d ∈ ['.', '0'], isNumeric d := List.all_eq_true.mp (by decide)
  rw [canonical] at h
  split at h
  · exact isNumeric_write (fun r d hd => isNumeric_positional hwhole hd) h
  · exact isNumeric_write (fun r d hd => isNumeric_positional (List.forall_mem_nil _) hd) h

end FullText.Binary64
