import FullText.Proofs.Query.Separators

namespace FullText

theorem Value.scans_text {v : Value} (h : v.IsWorded) : Scans v.text [] True := by
  cases hc : v.isCombinable with
  | true => exact Scans.of_adds (Adds.word (isWord_text h hc).2)
  | false =>
      rcases isEnclosed_text h hc with hb | hb
      · exact Scans.of_adds (Adds.enclosed hb fun _ _ => rfl)
      · exact Scans.of_adds (Adds.enclosed hb fun _ _ => rfl)

namespace Clause

theorem adds_fieldText {c : Clause} (h : c.IsWorded) : Adds c.fieldText.toList [] [] := by
  have hat : Adds ['@'] [] [] := Adds.plain fun _ => rfl
  have hcolon : Adds [':'] [] [] := Adds.plain fun _ => rfl
  simpa [fieldText] using (hat.append (Adds.word h.field.2)).append hcolon

theorem scans_render {c : Clause} (h : c.IsProper) (mode : ParenMode) :
    Scans (c.render mode) [] True := by
  have hvalue : ∀ v ∈ c.values, Scans v.text [] True := fun v hv => Value.scans_text (h.values v hv)
  have hfield := adds_fieldText h.toIsWorded
  rw [render]
  split
  · exact (((Scans.wrap_intercalate h.join hvalue (by simp_all)).after hfield).congr (by simp))
  · rw [List.map_map]
    have hclause : ∀ v ∈ c.values, Scans (c.fieldText ++ v.text) [] True :=
      fun v hv => (hvalue v hv).after hfield
    exact (Scans.wrap_intercalate h.join hclause (by simp_all)).congr (by simp)

end Clause

namespace Node

mutual

/-- The separators that the node adds to a group in which it is rendered bare. -/
def bareJoins : Node → List Char
  | leaf _ => []
  | group kind children =>
    if kind.sign.isSome then [] else kind.join.toList.intercalate (bareJoinsIn children)

def bareJoinsIn : List Node → List (List Char)
  | [] => []
  | n :: ns => n.bareJoins :: bareJoinsIn ns

end

theorem bareJoinsIn_eq (children : List Node) : bareJoinsIn children = children.map bareJoins := by
  induction children with
  | nil => rfl
  | cons n ns ih => rw [bareJoinsIn, ih, List.map_cons]

/-- Rendered bare, the node puts nothing but `join` between clauses. -/
inductive JoinsOnlyBy (join : String) : Node → Prop
  | leaf {clause : Clause} : JoinsOnlyBy join (leaf clause)
  | signed {kind : GroupKind} {children : List Node} (sign : kind.sign.isSome) :
      JoinsOnlyBy join (group kind children)
  | unsigned {kind : GroupKind} {children : List Node} (sign : kind.sign.isSome = false)
      (own : 1 < children.length → kind.join = join) (each : ∀ n ∈ children, JoinsOnlyBy join n) :
      JoinsOnlyBy join (group kind children)

/-- Below each sign of the tree the groups that are rendered bare all have one join, where those
of a single child have none. -/
inductive KeepsPrecedence : Node → Prop
  | leaf {clause : Clause} : KeepsPrecedence (leaf clause)
  | signed {kind : GroupKind} {children : List Node} (sign : kind.sign.isSome) (join : String)
      (own : 1 < children.length → kind.join = join) (bare : ∀ n ∈ children, n.JoinsOnlyBy join)
      (each : ∀ n ∈ children, KeepsPrecedence n) : KeepsPrecedence (group kind children)
  | unsigned {kind : GroupKind} {children : List Node} (sign : kind.sign.isSome = false)
      (each : ∀ n ∈ children, KeepsPrecedence n) : KeepsPrecedence (group kind children)

variable {P : Clause → Prop} {kind : GroupKind} {children : List Node}

theorem length_joins (nonempty : children ≠ [])
    (h : ∀ n ∈ children, n.bareJoins.length + 1 = n.clauses) :
    (kind.join.toList.intercalate (bareJoinsIn children)).length + 1 = clausesIn children := by
  obtain ⟨c, -, hc⟩ := kind.isJoin_join.exists_separator
  rw [hc, String.toList_singleton, bareJoinsIn_eq]
  induction children with
  | nil => exact absurd rfl nonempty
  | cons n ns ih =>
      rw [List.forall_mem_cons] at h
      rw [clausesIn, ← h.1]
      by_cases hn : ns = []
      · simp [hn, clausesIn]
      · rw [List.map_cons, List.intercalate_cons_of_ne_nil (by simpa using hn), ← ih hn h.2]
        simp only [List.length_append, List.length_singleton]
        omega

theorem length_bareJoins {n : Node} (h : n.FilledWith P) : n.bareJoins.length + 1 = n.clauses := by
  induction h with
  | leaf => rfl
  | group nonempty each ih =>
      rw [bareJoins, clauses]
      split
      · rfl
      · exact length_joins nonempty ih

theorem mem_joins_iff {c : Char} :
    c ∈ kind.join.toList.intercalate (bareJoinsIn children) ↔
      1 < children.length ∧ String.singleton c = kind.join ∨ ∃ n ∈ children, c ∈ n.bareJoins := by
  obtain ⟨d, -, hd⟩ := kind.isJoin_join.exists_separator
  rw [mem_intercalate_iff, bareJoinsIn_eq, List.length_map, hd]
  refine or_congr (by simp [String.singleton_inj]) ?_
  constructor
  · rintro ⟨text, ht, hc⟩
    obtain ⟨n, hn, rfl⟩ := List.mem_map.mp ht
    exact ⟨n, hn, hc⟩
  · rintro ⟨n, hn, hc⟩
    exact ⟨n.bareJoins, List.mem_map_of_mem hn, hc⟩

theorem forall_mem_joins_iff {join : String} :
    (∀ c ∈ kind.join.toList.intercalate (bareJoinsIn children), String.singleton c = join) ↔
      (1 < children.length → kind.join = join) ∧
        ∀ n ∈ children, ∀ c ∈ n.bareJoins, String.singleton c = join := by
  obtain ⟨d, -, hd⟩ := kind.isJoin_join.exists_separator
  simp only [mem_joins_iff]
  constructor
  · intro h
    refine ⟨fun hl => ?_, fun n hn c hc => h c (.inr ⟨n, hn, hc⟩)⟩
    exact hd.trans (h d (.inl ⟨hl, hd.symm⟩))
  · rintro ⟨hown, heach⟩ c (⟨hl, hc⟩ | ⟨n, hn, hc⟩)
    · exact hc.trans (hown hl)
    · exact heach n hn c hc

theorem joinsOnlyBy_iff {join : String} {n : Node} (h : n.FilledWith P) :
    n.JoinsOnlyBy join ↔ ∀ c ∈ n.bareJoins, String.singleton c = join := by
  induction h with
  | leaf => exact iff_of_true .leaf fun c hc => nomatch hc
  | @group kind children nonempty each ih =>
      cases hs : kind.sign.isSome with
      | true => exact iff_of_true (.signed hs) (by simp [bareJoins, hs])
      | false =>
          simp only [bareJoins, hs, Bool.false_eq_true, ↓reduceIte, forall_mem_joins_iff]
          constructor
          · intro hj
            cases hj with
            | signed sign => exact absurd sign (by simp [hs])
            | unsigned sign own heach => exact ⟨own, fun n hn => (ih n hn).mp (heach n hn)⟩
          · rintro ⟨hown, heach⟩
            exact .unsigned hs hown fun n hn => (ih n hn).mpr (heach n hn)

theorem unmixed_joins_iff (each : ∀ n ∈ children, n.FilledWith P) :
    Unmixed (kind.join.toList.intercalate (bareJoinsIn children)) ↔
      ∃ join, (1 < children.length → kind.join = join) ∧
        ∀ n ∈ children, n.JoinsOnlyBy join := by
  have hjoin : ∀ join, (∀ c ∈ kind.join.toList.intercalate (bareJoinsIn children),
      String.singleton c = join) ↔ (1 < children.length → kind.join = join) ∧
        ∀ n ∈ children, n.JoinsOnlyBy join := fun join =>
    forall_mem_joins_iff.trans
      (and_congr_right fun _ => forall₂_congr fun n hn => (joinsOnlyBy_iff (each n hn)).symm)
  simp only [← hjoin]
  constructor
  · intro h
    cases hj : kind.join.toList.intercalate (bareJoinsIn children) with
    | nil => exact ⟨"", fun c hc => nomatch hc⟩
    | cons d joins =>
        rw [hj] at h
        exact ⟨String.singleton d, fun c hc => congrArg _ (h c hc d List.mem_cons_self)⟩
  · rintro ⟨join, h⟩ c hc d hd
    exact String.singleton_inj.mp ((h c hc).trans (h d hd).symm)

theorem keepsPrecedence_signed_iff (each : ∀ n ∈ children, n.FilledWith P)
    (sign : kind.sign.isSome) : (group kind children).KeepsPrecedence ↔
      (∀ n ∈ children, n.KeepsPrecedence) ∧
        Unmixed (kind.join.toList.intercalate (bareJoinsIn children)) := by
  rw [unmixed_joins_iff each]
  constructor
  · intro h
    cases h with
    | signed _ join own bare hkeeps => exact ⟨hkeeps, join, own, bare⟩
    | unsigned hs => exact absurd sign (by simp [hs])
  · rintro ⟨hkeeps, join, own, bare⟩
    exact .signed sign join own bare hkeeps

theorem keepsPrecedence_unsigned_iff (sign : kind.sign.isSome = false) :
    (group kind children).KeepsPrecedence ↔ ∀ n ∈ children, n.KeepsPrecedence := by
  constructor
  · intro h
    cases h with
    | signed hs => exact absurd hs (by simp [sign])
    | unsigned _ hkeeps => exact hkeeps
  · exact .unsigned sign

theorem adds_sign {sign : String} (h : kind.sign = some sign) : Adds sign.toList [] [] := by
  cases kind with
  | disjunct | disjunctUnion | optional =>
      cases h
      exact Adds.plain fun _ => rfl
  | intersect | union => nomatch h

theorem scans_render_signed (nonempty : children ≠ [])
    (each : ∀ n ∈ children, n.FilledWith P) (sign : kind.sign.isSome)
    (h : ∀ n ∈ children, Scans (n.render .never) n.bareJoins n.KeepsPrecedence)
    (mode : ParenMode) :
    Scans ((group kind children).render mode) [] (group kind children).KeepsPrecedence := by
  have hbody := Scans.intercalate kind.isJoin_join h
  rw [← bareJoinsIn_eq, ← renderAll_eq] at hbody
  rw [render, keepsPrecedence_signed_iff each sign]
  split
  · rename_i hs
    simp [hs] at sign
  · rename_i s hs
    refine (hbody.wrap _ fun hp => ?_).after (adds_sign hs)
    have hlength : (kind.join.toList.intercalate (bareJoinsIn children)).length + 1 =
        clausesIn children :=
      length_joins nonempty fun n hn => length_bareJoins (each n hn)
    simp only [Bool.or_eq_false_iff, decide_eq_false_iff_not] at hp
    exact List.length_eq_zero_iff.mp (by omega)

theorem scans_render_never {n : Node} (h : n.FilledWith Clause.IsProper) :
    Scans (n.render .never) n.bareJoins n.KeepsPrecedence := by
  induction h with
  | leaf h => exact (Clause.scans_render h .never).congr (iff_of_true trivial .leaf)
  | @group kind children nonempty each ih =>
      cases hs : kind.sign.isSome with
      | true =>
          simp only [bareJoins, hs, ↓reduceIte]
          exact scans_render_signed nonempty each hs ih .never
      | false =>
          have hnone : kind.sign = none := by simpa using hs
          have hbody := Scans.intercalate kind.isJoin_join ih
          rw [keepsPrecedence_unsigned_iff hs]
          simpa [render, hnone, bareJoins, renderAll_eq, bareJoinsIn_eq, ParenMode.wraps, wrap]
            using hbody

theorem scans_text {n : Node} (h : n.FilledWith Clause.IsProper) :
    Scans n.text [] n.KeepsPrecedence := by
  induction h with
  | leaf h => exact (Clause.scans_render h .default).congr (iff_of_true trivial .leaf)
  | @group kind children nonempty each ih =>
      cases hs : kind.sign.isSome with
      | true =>
          exact scans_render_signed nonempty each hs (fun n hn => scans_render_never (each n hn)) _
      | false =>
          have hnone : kind.sign = none := by simpa using hs
          rw [keepsPrecedence_unsigned_iff hs, text, render, hnone, renderAll_eq]
          exact Scans.wrap_intercalate kind.isJoin_join ih (by simp [ParenMode.wraps])

/-- No group of the text is separated both by spaces and by bars exactly if the groups that are
rendered bare below one sign agree in their joins. -/
theorem unmixed_iff_keepsPrecedence {n : Node} (h : n.FilledWith Clause.IsProper) :
    (∀ separators ∈ separatorsIn n.text, Unmixed separators) ↔ n.KeepsPrecedence := by
  rw [(scans_text h).separatorsIn_iff, and_iff_left unmixed_nil]

/-- Words a, b and c in fields of their names: a clause and a group of two more, below a minus. -/
def negated (inner : GroupKind) : Node :=
  .group .disjunct [GroupKind.disjunct.clause "a" [.scalar "x"],
    .group inner [inner.clause "b" [.scalar "y"], inner.clause "c" [.scalar "z"]]]

theorem filledWith_negated (inner : GroupKind) : (negated inner).FilledWith Clause.IsProper := by
  refine .group (List.cons_ne_nil _ _) ?_
  rw [List.forall_mem_cons, List.forall_mem_singleton]
  refine ⟨.leaf (by decide), .group (List.cons_ne_nil _ _) ?_⟩
  rw [List.forall_mem_cons, List.forall_mem_singleton]
  cases inner with
  | intersect | union | disjunct | disjunctUnion | optional =>
      exact ⟨.leaf (by decide), .leaf (by decide)⟩

theorem unmixed_negated_intersect :
    (negated .intersect).FilledWith Clause.IsProper ∧
      (negated .intersect).text = "-(@a:x @b:y @c:z)" ∧
      ∀ separators ∈ separatorsIn (negated .intersect).text, Unmixed separators := by
  refine ⟨filledWith_negated _, by decide, ?_⟩
  refine (unmixed_iff_keepsPrecedence (filledWith_negated _)).mpr ?_
  refine .signed rfl " " (fun _ => rfl) ?_ ?_
  · rw [List.forall_mem_cons, List.forall_mem_singleton]
    refine ⟨.leaf, .unsigned rfl (fun _ => rfl) ?_⟩
    rw [List.forall_mem_cons, List.forall_mem_singleton]
    exact ⟨.leaf, .leaf⟩
  · rw [List.forall_mem_cons, List.forall_mem_singleton]
    refine ⟨.leaf, .unsigned rfl ?_⟩
    rw [List.forall_mem_cons, List.forall_mem_singleton]
    exact ⟨.leaf, .leaf⟩

theorem not_unmixed_negated_union :
    (negated .union).FilledWith Clause.IsProper ∧
      (negated .union).text = "-(@a:x @b:y|@c:z)" ∧
      ¬ ∀ separators ∈ separatorsIn (negated .union).text, Unmixed separators := by
  have htext : (negated .union).text = "-(@a:x @b:y|@c:z)" := by decide
  refine ⟨filledWith_negated _, htext, ?_⟩
  have hseparators : separatorsIn "-(@a:x @b:y|@c:z)" = [[' ', '|'], []] := by decide
  rw [htext, hseparators]
  intro h
  have hmixed := h [' ', '|'] (by decide) ' ' (by decide) '|' (by decide)
  exact absurd hmixed (by decide)

end Node

end FullText
