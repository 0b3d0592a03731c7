import FullText.Proofs.Query.Precedence

namespace FullText

/-- The text has something in it, and no separator outside all of its parentheses and brackets. -/
def IsOneClause (text : String) : Prop := text ≠ "" ∧ Separates text []

theorem wrap_ne_empty {text : String} (h : text ≠ "") (parens : Bool) : wrap parens text ≠ "" := by
  cases parens with
  | false => exact h
  | true => simp [wrap]

theorem intercalate_cons_ne_empty {join text : String} (h : text ≠ "") (texts : List String) :
    join.intercalate (text :: texts) ≠ "" := by
  by_cases hn : texts = []
  · simpa [hn] using h
  · simp [String.intercalate_cons_of_ne_nil hn, h]

namespace Separates

variable {join text : String}

theorem wrap (h : Separates text []) (parens : Bool) : Separates (wrap parens text) [] := by
  cases parens with
  | false => exact h
  | true => exact h.parenthesized

theorem wrap_intercalate {α : Type} {items : List α} {f : α → String} {parens : Bool}
    (hj : 1 < items.length → ∃ joined, Separates join joined)
    (h : ∀ a ∈ items, Separates (f a) []) (hp : 1 < items.length → parens) :
    Separates (FullText.wrap parens (join.intercalate (items.map f))) [] := by
  match items with
  | [] =>
      have hempty : Separates "" [] := ⟨[], Adds.nil⟩
      exact hempty.wrap parens
  | [a] => simpa using wrap (h a List.mem_cons_self) parens
  | a :: b :: items =>
      have hlength : 1 < (a :: b :: items).length := by simp
      obtain ⟨joined, hj⟩ := hj hlength
      rw [hp hlength]
      exact (intercalate hj h).parenthesized

end Separates

namespace Clause

/-- No parenthesis or bracket is left open or closed by what stands between the values. -/
structure IsMatched (c : Clause) : Prop extends c.IsWorded where
  join : 1 < c.values.length → ∃ joined, Separates c.join joined

theorem separates_render {c : Clause} (h : c.IsMatched) (mode : ParenMode) :
    Separates (c.render mode) [] := by
  have hvalue : ∀ v ∈ c.values, Separates v.text [] := fun v hv =>
    (Value.scans_text (h.values v hv)).separates
  have hfield := adds_fieldText h.toIsWorded
  rw [render]
  split
  · exact (Separates.wrap_intercalate h.join hvalue (by simp_all)).after hfield
  · rw [List.map_map]
    exact Separates.wrap_intercalate h.join (fun v hv => (hvalue v hv).after hfield) (by simp_all)

theorem render_ne_empty (c : Clause) (mode : ParenMode) : c.render mode ≠ "" := by
  rw [render]
  split
  · simp [fieldText]
  · rename_i h
    have hlength : 1 < c.values.length := by
      rcases hvalues : c.values with _ | ⟨v, _ | ⟨w, vs⟩⟩
      · simp [isGrouped, hvalues] at h
      · simp [isGrouped, hvalues] at h
      · simp
    simp [hlength, wrap]

end Clause

namespace Node

variable {P : Clause → Prop} {kind : GroupKind} {children : List Node} {sign : String}

theorem render_ne_empty {n : Node} (h : n.FilledWith P) (mode : ParenMode) :
    n.render mode ≠ "" := by
  induction h generalizing mode with
  | leaf h => exact Clause.render_ne_empty _ mode
  | @group kind children nonempty each ih =>
      obtain ⟨n, ns, rfl⟩ := List.exists_cons_of_ne_nil nonempty
      have hbody (parens : Bool) (mode : ParenMode) :
          wrap parens (kind.join.intercalate (renderAll (n :: ns) mode)) ≠ "" :=
        wrap_ne_empty (intercalate_cons_ne_empty (ih n List.mem_cons_self mode) _) parens
      rw [render]
      split
      · exact hbody _ mode
      · simp [hbody]

/-- The children of a group, as they stand behind a sign. -/
def bareText (kind : GroupKind) (children : List Node) : String :=
  kind.join.intercalate (renderAll children .never)

theorem separates_bareText (kind : GroupKind)
    (h : ∀ n ∈ children, Separates (n.render .never) n.bareJoins) :
    Separates (bareText kind children) (kind.join.toList.intercalate (bareJoinsIn children)) := by
  rw [bareText, renderAll_eq, bareJoinsIn_eq]
  exact Separates.intercalate ⟨[], Adds.join kind.isJoin_join⟩ h

theorem length_le_clausesIn (each : ∀ n ∈ children, n.FilledWith P) :
    children.length ≤ clausesIn children := by
  induction children with
  | nil => exact Nat.le_refl 0
  | cons n ns ih =>
      rw [List.forall_mem_cons] at each
      have hn := length_bareJoins each.1
      have hns := ih each.2
      rw [List.length_cons, clausesIn]
      omega

theorem render_signed (h : kind.sign = some sign) (each : ∀ n ∈ children, n.FilledWith P)
    (mode : ParenMode) : (group kind children).render mode =
      sign ++ wrap (mode = .always || 1 < clausesIn children) (bareText kind children) := by
  have hmany : 1 < children.length → 1 < clausesIn children := fun h =>
    Nat.lt_of_lt_of_le h (length_le_clausesIn each)
  have hparens : (mode.wraps children.length || decide (1 < clausesIn children)) =
      (mode = .always || decide (1 < clausesIn children)) := by
    cases mode with
    | always | never => rfl
    | default => simpa [ParenMode.wraps] using hmany
  simp only [render, h]
  rw [hparens]
  rfl

theorem isOneClause_bareText_iff (kind : GroupKind) (nonempty : children ≠ [])
    (each : ∀ n ∈ children, n.FilledWith P)
    (h : ∀ n ∈ children, Separates (n.render .never) n.bareJoins) :
    IsOneClause (bareText kind children) ↔ clausesIn children = 1 := by
  have hlength : (kind.join.toList.intercalate (bareJoinsIn children)).length + 1 =
      clausesIn children := length_joins nonempty fun n hn => length_bareJoins (each n hn)
  have hbare := separates_bareText kind h
  have htext : bareText kind children ≠ "" := by
    obtain ⟨n, ns, rfl⟩ := List.exists_cons_of_ne_nil nonempty
    exact intercalate_cons_ne_empty (render_ne_empty (each n List.mem_cons_self) _) _
  constructor
  · rintro ⟨-, hone⟩
    rw [← hlength, hbare.eq hone, List.length_nil]
  · intro hclauses
    have hnil : kind.join.toList.intercalate (bareJoinsIn children) = [] :=
      List.length_eq_zero_iff.mp (by omega)
    exact ⟨htext, hnil ▸ hbare⟩

theorem isOneClause_wrap_bareText (kind : GroupKind) (nonempty : children ≠ [])
    (each : ∀ n ∈ children, n.FilledWith P)
    (h : ∀ n ∈ children, Separates (n.render .never) n.bareJoins) {parens : Bool}
    (hp : 1 < clausesIn children → parens) :
    IsOneClause (wrap parens (bareText kind children)) := by
  cases parens with
  | true => exact ⟨by simp [wrap], (separates_bareText kind h).parenthesized⟩
  | false =>
      have hfew : ¬ 1 < clausesIn children := fun hmany => Bool.false_ne_true (hp hmany)
      have hlength := length_le_clausesIn each
      have hpos := List.length_pos_iff.mpr nonempty
      exact (isOneClause_bareText_iff kind nonempty each h).mpr (by omega)

theorem separates_render_never {n : Node} (h : n.FilledWith Clause.IsMatched) :
    Separates (n.render .never) n.bareJoins := by
  induction h with
  | leaf h => exact Clause.separates_render h .never
  | @group kind children nonempty each ih =>
      cases hs : kind.sign with
      | some sign =>
          have hone : IsOneClause (wrap (1 < clausesIn children) (bareText kind children)) :=
            isOneClause_wrap_bareText kind nonempty each ih (by simp)
          simpa [render_signed hs each, bareJoins, hs] using hone.2.after (adds_sign hs)
      | none =>
          have hbare := separates_bareText kind ih
          simpa [render, hs, bareJoins, ParenMode.wraps, wrap, bareText] using hbare

/-- Without being asked for parentheses, the mode does not matter behind a sign. With joins that match
their own, the sign covers all that is under it: it stands before one clause, and always asking for
parentheses puts a pair around a clause that is one already. -/
theorem render_sign_one (h : (group kind children).FilledWith Clause.IsWorded)
    (hs : kind.sign = some sign) :
    let n := group kind children
    let bare := bareText kind children
    n.render .default = n.render .never ∧
    (n.FilledWith Clause.IsMatched →
      (∀ mode, ∃ clause, n.render mode = sign ++ clause ∧ IsOneClause clause) ∧
      (IsOneClause bare → n.render .default = sign ++ bare ∧
        n.render .always = sign ++ "(" ++ bare ++ ")") ∧
      (¬ IsOneClause bare → n.render .always = n.render .default)) := by
  intro n bare
  obtain ⟨nonempty, each⟩ := h.of_group
  have hrender (mode : ParenMode) : n.render mode = _ := render_signed hs each mode
  refine ⟨by simp [hrender], fun hmatched => ?_⟩
  have hnever := fun n hn => separates_render_never (hmatched.of_group.2 n hn)
  have hone := isOneClause_bareText_iff kind nonempty each hnever
  have hpos : 0 < clausesIn children :=
    Nat.lt_of_lt_of_le (List.length_pos_iff.mpr nonempty) (length_le_clausesIn each)
  refine ⟨fun mode => ?_, fun hbare => ?_, fun hbare => ?_⟩
  · exact ⟨_, hrender mode, isOneClause_wrap_bareText kind nonempty each hnever (by simp_all)⟩
  · have hclauses := hone.mp hbare
    simp [hrender, hclauses, wrap, String.append_assoc, bare]
  · have hclauses := mt hone.mpr hbare
    have hmany : 1 < clausesIn children := by omega
    simp [hrender, hmany]

def negatedPair (join : String) : Node :=
  .group .disjunct [.leaf ⟨"f", [.scalar "a", .scalar "b"], join⟩]

theorem filledWith_negatedPair {P : Clause → Prop} {join : String}
    (h : P ⟨"f", [.scalar "a", .scalar "b"], join⟩) : (negatedPair join).FilledWith P :=
  .group (List.cons_ne_nil _ _) (List.forall_mem_singleton.mpr (.leaf h))

theorem render_sign_one_negatedPair :
    (negatedPair ", ").FilledWith Clause.IsWorded ∧
      (negatedPair ", ").FilledWith Clause.IsMatched ∧ GroupKind.disjunct.sign = some "-" ∧
      (negatedPair ", ").render .default = "-@f:(a, b)" ∧
      (negatedPair ", ").render .default = (negatedPair ", ").render .never ∧
      (negatedPair ", ").render .always = "-(@f:(a, b))" ∧
      ∃ clause, (negatedPair ", ").render .always = "-" ++ clause ∧ IsOneClause clause := by
  have hjoin : Separates ", " [' '] := by
    have hcomma : Separates "," [] := ⟨[], Adds.plain fun _ => rfl⟩
    exact hcomma.append ⟨[], Adds.join (.inl rfl)⟩
  have hworded : Clause.IsWorded ⟨"f", [.scalar "a", .scalar "b"], ", "⟩ := ⟨by decide, by decide⟩
  have hmatched := filledWith_negatedPair (P := Clause.IsMatched) ⟨hworded, fun _ => ⟨_, hjoin⟩⟩
  obtain ⟨hsame, hone⟩ := render_sign_one (filledWith_negatedPair hworded) rfl
  exact ⟨filledWith_negatedPair hworded, hmatched, rfl, by decide, hsame, by decide,
    (hone hmatched).1 .always⟩

/-- A join that closes the parentheses around the values, and opens others, gives two clauses. -/
theorem not_isOneClause_negatedPair :
    (negatedPair ")|(").FilledWith Clause.IsWorded ∧
      (negatedPair ")|(").text = "-@f:(a)|(b)" ∧
      ¬ ∃ clause, (negatedPair ")|(").text = "-" ++ clause ∧ IsOneClause clause := by
  have hfilled : (negatedPair ")|(").FilledWith Clause.IsWorded :=
    filledWith_negatedPair ⟨by decide, by decide⟩
  have htext : (negatedPair ")|(").text = "-" ++ "@f:(a)|(b)" := by decide
  refine ⟨hfilled, htext, ?_⟩
  rintro ⟨clause, hclause, -, groups, hadds⟩
  obtain rfl := (String.append_right_inj "-").mp (htext.symm.trans hclause)
  have hbar : [['|']] = [[]] := congrArg Scan.openGroups (hadds [] [] [])
  exact absurd hbar (by decide)

end Node

end FullText
