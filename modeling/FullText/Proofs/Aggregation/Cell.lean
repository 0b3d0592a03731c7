import FullText.Aggregation.Result
import FullText.Proofs.Reply.Number

namespace FullText

namespace Row

variable {α : Type}

theorem getAs_eq (read : Reply → Except Error α) (default : α) (row : Row) (name : String) :
    row.getAs read default name =
      (·.getD default) <$> ((row.fields.get? name).elim (.ok none) (Reply.orNil read)) := by
  rw [getAs]
  cases row.fields.get? name with
  | none => rfl
  | some value =>
      cases value with
      | nil => rfl
      | _ =>
          change read _ = (·.getD default) <$> some <$> read _
          rw [← comp_map]
          exact (id_map _).symm

theorem number_eq_getAs (row : Row) (name : String) :
    row.number name = row.getAs Reply.asNumber .zero name := by
  rw [number, getAs]
  cases row.fields.get? name with
  | none => rfl
  | some value => cases value <;> rfl

theorem getAs_cases (row : Row) (name : String) :
    (row.fields.get? name = none ∨ row.fields.get? name = some .nil) ∧
        (∀ {α : Type} (read : Reply → Except Error α) (default : α),
          row.getAs read default name = .ok default) ∨
      ∃ value, row.fields.get? name = some value ∧ value ≠ .nil ∧
        ∀ {α : Type} (read : Reply → Except Error α) (default : α),
          row.getAs read default name = read value := by
  unfold getAs
  cases row.fields.get? name with
  | none => exact .inl ⟨.inl rfl, fun _ _ => rfl⟩
  | some value =>
      cases value with
      | nil => exact .inl ⟨.inr rfl, fun _ _ => rfl⟩
      | _ => exact .inr ⟨_, rfl, nofun, fun _ _ => rfl⟩

/-- The number under a name is what the value is read as, and agrees with the whole number and the
text that are read under that name. -/
theorem number_agrees (row : Row) (name : String) :
    (row.number name = match row.fields.get? name with
      | none | some .nil => .ok .zero
      | some value => value.asNumber) ∧
    ∀ n : Int64, row.int name = .ok n →
      (∃ x, row.number name = .ok x ∧ x.IsNearest n.toInt) ∧
      ∀ value, row.fields.get? name = some value → value ≠ .nil →
        ∃ text, row.text name = .ok text ∧ Numeral.Spells (Text.trim text.toList) n.toInt := by
  refine ⟨number_eq_getAs row name, fun n hn => ?_⟩
  rw [number_eq_getAs]
  rcases getAs_cases row name with ⟨hnothing, hget⟩ | ⟨value, hvalue, -, hget⟩
  · have hzero : n = 0 := (Except.ok.inj ((hget Reply.asInt 0).symm.trans hn)).symm
    subst hzero
    refine ⟨⟨.zero, hget _ _, Binary64.isNearest_zero⟩, fun value hvalue hnil => ?_⟩
    rcases hnothing with hnone | hnone
    · exact nomatch hnone.symm.trans hvalue
    · exact absurd (Option.some.inj (hvalue.symm.trans hnone)) hnil
  · have hint : value.asInt = .ok n := (hget Reply.asInt 0).symm.trans hn
    obtain ⟨x, hx, hnearest⟩ := Reply.exists_asNumber_of_asInt hint
    obtain ⟨text, htext, hspells⟩ := Reply.asInt_eq_ok_iff.mp hint
    exact ⟨⟨x, (hget _ _).trans hx, hnearest⟩, fun _ _ _ => ⟨text, (hget _ _).trans htext, hspells⟩⟩

/-- A text with blanks at its ends, a sign and a zero too many, whose number is one that 53 bits do not
hold. -/
def spelledRow : Row := ⟨⟨[("n", .bulkText " +09007199254740993\n")]⟩⟩

theorem number_agrees_spelledRow :
    spelledRow.int "n" = .ok 9007199254740993 ∧
      (∃ x, spelledRow.number "n" = .ok x ∧ x.IsNearest 9007199254740993) ∧
      ∃ text, spelledRow.text "n" = .ok text ∧
        Numeral.Spells (Text.trim text.toList) 9007199254740993 := by
  have hint : spelledRow.int "n" = .ok 9007199254740993 := rfl
  obtain ⟨-, hagrees⟩ := number_agrees spelledRow "n"
  obtain ⟨hnumber, htext⟩ := hagrees _ hint
  exact ⟨hint, hnumber, htext _ rfl nofun⟩

end Row

end FullText
