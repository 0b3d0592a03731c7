import FullText.Proofs.Query.Signs

namespace FullText

/-- The separators outside all parentheses and brackets, of the text read from its beginning. -/
def outerSeparators (text : String) : List Char :=
  (text.toList.foldl Scan.step ⟨none, [[]], []⟩).openGroups.getLast?.getD []

def clausesSeen (text : String) : Nat := (outerSeparators text).length + 1

theorem Separates.outerSeparators_eq {text : String} {separators : List Char}
    (h : Separates text separators) : outerSeparators text = separators := by
  obtain ⟨groups, hadds⟩ := h
  rw [outerSeparators, hadds [] [] []]
  rfl

theorem Clause.IsProper.isMatched {c : Clause} (h : c.IsProper) : c.IsMatched :=
  ⟨h.toIsWorded, fun _ => ⟨_, [], Adds.join h.join⟩⟩

namespace Node

variable {kind : GroupKind} {children : List Node}

theorem clauses_eq_seen {n : Node} (h : n.FilledWith Clause.IsMatched) :
    n.clauses = clausesSeen (n.render .never) := by
  rw [clausesSeen, (separates_render_never h).outerSeparators_eq, length_bareJoins h]

/-- A group has as many clauses as are seen in its text, to which each of its children contributes the
clauses seen in its own. So what stands behind a sign is in parentheses if it is seen to be several
clauses, and otherwise only if that is asked for. -/
theorem clausesIn_eq_seen (h : (group kind children).FilledWith Clause.IsMatched) :
    let bare := bareText kind children
    clausesIn children = clausesSeen bare ∧
    (∀ n ∈ children, n.clauses = clausesSeen (n.render .never)) ∧
    ∀ sign mode, kind.sign = some sign → (group kind children).render mode =
      sign ++ wrap (mode = .always || 1 < clausesSeen bare) bare := by
  intro bare
  obtain ⟨nonempty, each⟩ := h.of_group
  have hlength : (kind.join.toList.intercalate (bareJoinsIn children)).length + 1 =
      clausesIn children := length_joins nonempty fun n hn => length_bareJoins (each n hn)
  have hbare := separates_bareText kind fun n hn => separates_render_never (each n hn)
  have hcount : clausesIn children = clausesSeen bare := by
    rw [clausesSeen, hbare.outerSeparators_eq, hlength]
  refine ⟨hcount, fun n hn => clauses_eq_seen (each n hn), fun sign mode hs => ?_⟩
  rw [← hcount]
  exact render_signed hs each mode

/-- A group of two clauses, one behind a sign, and beside it two ranges in one field. -/
def mixedParts : List Node :=
  [.group .union [GroupKind.union.clause "a" [.scalar "x", .scalar "y"],
    .group .disjunct [GroupKind.disjunct.clause "b" [.tags ["s", "t"]]]],
   GroupKind.union.clause "n" [.gt .one, .lt .zero]]

theorem filledWith_mixedParts : (group .optional mixedParts).FilledWith Clause.IsMatched := by
  have hproper (c : Clause) (h : c.IsProper) : (leaf c).FilledWith Clause.IsMatched :=
    .leaf h.isMatched
  refine .group (List.cons_ne_nil _ _) ?_
  rw [mixedParts, List.forall_mem_cons, List.forall_mem_singleton]
  refine ⟨.group (List.cons_ne_nil _ _) ?_, hproper _ (by decide)⟩
  rw [List.forall_mem_cons, List.forall_mem_singleton]
  refine ⟨hproper _ (by decide), .group (List.cons_ne_nil _ _) ?_⟩
  exact List.forall_mem_singleton.mpr (hproper _ (by decide))

theorem clausesIn_eq_seen_mixedParts :
    let bare := "@a:(x|y)|-@b:\x7bs | t\x7d (@n:[(1.0 inf]|@n:[-inf (0.0])"
    (group .optional mixedParts).FilledWith Clause.IsMatched ∧
      bareText .optional mixedParts = bare ∧ outerSeparators bare = ['|', ' '] ∧
      clausesIn mixedParts = clausesSeen bare ∧
      (group .optional mixedParts).render .default = "~(" ++ bare ++ ")" := by
  intro bare
  have hbare : bareText .optional mixedParts = bare := by decide +kernel
  have houter : outerSeparators bare = ['|', ' '] := by decide
  obtain ⟨hcount, -, hrender⟩ := clausesIn_eq_seen filledWith_mixedParts
  rw [hbare] at hcount hrender
  refine ⟨filledWith_mixedParts, hbare, houter, hcount, ?_⟩
  rw [hrender "~" .default rfl, clausesSeen, houter]
  rfl

/-- A join that closes the parentheses around the values, and opens others, is seen between clauses. -/
theorem clausesIn_ne_seen_looseJoin :
    let children := [.leaf ⟨"f", [.scalar "a", .scalar "b"], ")|("⟩]
    (group .optional children).FilledWith Clause.IsWorded ∧
      bareText .optional children = "@f:(a)|(b)" ∧ clausesIn children = 1 ∧
      clausesSeen (bareText .optional children) = 2 := by
  intro children
  have hworded : Clause.IsWorded ⟨"f", [.scalar "a", .scalar "b"], ")|("⟩ := ⟨by decide, by decide⟩
  have hfilled : (group .optional children).FilledWith Clause.IsWorded :=
    .group (List.cons_ne_nil _ _) (List.forall_mem_singleton.mpr (.leaf hworded))
  exact ⟨hfilled, by decide, rfl, by decide⟩

end Node

end FullText
