namespace FullText

variable {α β : Type}

/-- The last of what is selected. -/
def last (select : β → Option α) (items : List β) : Option α := (items.filterMap select).getLast?

theorem last_append (select : β → Option α) (items more : List β) :
    last select (items ++ more) = (last select more).or (last select items) := by
  rw [last, List.filterMap_append, List.getLast?_append]
  rfl

theorem last_singleton (select : β → Option α) (b : β) : last select [b] = select b := by
  cases h : select b <;> simp [last, h]

theorem last_concat (select : β → Option α) (items : List β) (b : β) :
    last select (items ++ [b]) = (select b).or (last select items) := by
  rw [last_append, last_singleton]

end FullText
