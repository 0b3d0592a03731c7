import FullText.Proofs.Query.Words

namespace FullText

def isParen (c : Char) : Bool := c = '(' || c = ')'

def withoutParens (text : String) : String := String.ofList (text.toList.filter (!isParen ·))

@[simp]
theorem withoutParens_append (left right : String) :
    withoutParens (left ++ right) = withoutParens left ++ withoutParens right := by
  simp [withoutParens]

@[simp]
theorem withoutParens_wrap (parens : Bool) (text : String) :
    withoutParens (wrap parens text) = withoutParens text := by
  have hopening : withoutParens "(" = "" := by decide
  have hclosing : withoutParens ")" = "" := by decide
  cases parens with
  | false => rfl
  | true => simp [wrap, hopening, hclosing]

theorem withoutParens_intercalate (join : String) (texts : List String) :
    withoutParens (join.intercalate texts) =
      (withoutParens join).intercalate (texts.map withoutParens) := by
  induction texts with
  | nil => rfl
  | cons text texts ih =>
      by_cases hn : texts = []
      · simp [hn]
      · rw [String.intercalate_cons_of_ne_nil hn, List.map_cons,
          String.intercalate_cons_of_ne_nil (by simpa using hn)]
        simp [ih]

namespace GroupKind

theorem withoutParens_join (kind : GroupKind) : withoutParens kind.join = kind.join := by
  cases kind <;> decide

theorem withoutParens_sign {kind : GroupKind} {sign : String} (h : kind.sign = some sign) :
    withoutParens sign = sign := by
  cases kind <;> cases h <;> decide

end GroupKind

namespace Clause

/-- The values behind their field, each behind its own if the first of several cannot share it. -/
def spelled (c : Clause) : String :=
  let field := "@" ++ c.field ++ ":"
  match c.values with
  | [] => field
  | [v] => field ++ v.text
  | v :: w :: vs =>
    if v.isCombinable then field ++ c.join.intercalate ((v :: w :: vs).map Value.text)
    else c.join.intercalate ((v :: w :: vs).map fun u => field ++ u.text)

theorem withoutParens_render_spelled (c : Clause) (mode : ParenMode) :
    withoutParens (c.render mode) = withoutParens c.spelled := by
  obtain ⟨field, values, join⟩ := c
  match values with
  | [] =>
      have hempty : withoutParens "" = "" := by decide
      simp [render, isGrouped, spelled, fieldText, hempty]
  | [v] => simp [render, isGrouped, spelled, fieldText]
  | v :: w :: vs =>
      cases hv : v.isCombinable with
      | true => simp [render, isGrouped, spelled, fieldText, hv]
      | false => simp [render, isGrouped, spelled, fieldText, hv, Function.comp_def]

theorem withoutParens_render (c : Clause) (mode other : ParenMode) :
    withoutParens (c.render mode) = withoutParens (c.render other) := by
  rw [withoutParens_render_spelled, withoutParens_render_spelled]

end Clause

namespace Node

inductive Piece
  | clause (c : Clause)
  | join (text : String)
  | sign (text : String)

namespace Piece

def clause? : Piece → Option Clause
  | clause c => some c
  | _ => none

def text (mode : ParenMode) : Piece → String
  | clause c => withoutParens (c.render mode)
  | join text => text
  | sign text => text

end Piece

def spell (mode : ParenMode) (pieces : List Piece) : String :=
  String.join (pieces.map (Piece.text mode))

mutual

/-- The sign of a group stands before the pieces of its children, and its join between them. -/
def pieces : Node → List Piece
  | leaf clause => [.clause clause]
  | group kind children =>
    kind.sign.toList.map .sign ++ [.join kind.join].intercalate (piecesIn children)

def piecesIn : List Node → List (List Piece)
  | [] => []
  | n :: ns => n.pieces :: piecesIn ns

end

mutual

def leaves : Node → List Clause
  | leaf clause => [clause]
  | group _ children => leavesIn children

def leavesIn : List Node → List Clause
  | [] => []
  | n :: ns => n.leaves ++ leavesIn ns

end

theorem spell_append (mode : ParenMode) (left right : List Piece) :
    spell mode (left ++ right) = spell mode left ++ spell mode right := by
  simp [spell]

theorem spell_intercalate (mode : ParenMode) (join : String) (parts : List (List Piece)) :
    spell mode ([.join join].intercalate parts) = join.intercalate (parts.map (spell mode)) :=
  join_map_intercalate (Piece.text mode) (.join join) parts

mutual

theorem withoutParens_render (clauseMode : ParenMode) : ∀ (n : Node) (mode : ParenMode),
    withoutParens (n.render mode) = spell clauseMode n.pieces
  | leaf clause, mode => by
    simpa [render, pieces, spell, Piece.text] using clause.withoutParens_render mode clauseMode
  | group kind children, mode => by
    have hchildren (mode : ParenMode) :
        withoutParens (kind.join.intercalate (renderAll children mode)) =
          spell clauseMode ([.join kind.join].intercalate (piecesIn children)) := by
      rw [withoutParens_intercalate, kind.withoutParens_join, spell_intercalate,
        withoutParens_renderAll clauseMode children mode]
    rw [render, pieces, spell_append]
    cases hsign : kind.sign with
    | none => simp [hchildren, spell]
    | some sign => simp [hchildren, GroupKind.withoutParens_sign hsign, spell, Piece.text]

theorem withoutParens_renderAll (clauseMode : ParenMode) : ∀ (ns : List Node) (mode : ParenMode),
    (renderAll ns mode).map withoutParens = (piecesIn ns).map (spell clauseMode)
  | [], _ => rfl
  | n :: ns, mode => by
    rw [renderAll, piecesIn, List.map_cons, List.map_cons, withoutParens_render clauseMode n mode,
      withoutParens_renderAll clauseMode ns mode]

end

mutual

theorem filterMap_clause?_pieces : ∀ n : Node, n.pieces.filterMap Piece.clause? = n.leaves
  | leaf _ => rfl
  | group kind children => by
    have hsign : (kind.sign.toList.map Piece.sign).filterMap Piece.clause? = [] := by
      cases kind <;> rfl
    rw [pieces, List.filterMap_append, hsign, List.nil_append, filterMap_intercalate rfl,
      flatMap_clause?_piecesIn children, leaves]

theorem flatMap_clause?_piecesIn :
    ∀ ns : List Node, (piecesIn ns).flatMap (List.filterMap Piece.clause?) = leavesIn ns
  | [] => rfl
  | n :: ns => by
    rw [piecesIn, List.flatMap_cons, filterMap_clause?_pieces n, flatMap_clause?_piecesIn ns,
      leavesIn]

end

/-- Without parentheses the text of a tree is the same in all modes. It is what the pieces of the tree
spell, whatever the mode that their clauses are rendered in, and of the clauses the pieces have each
leaf once, in the order of the tree, with its values behind their field. -/
theorem withoutParens_render_any_mode (n : Node) :
    (∀ mode other, withoutParens (n.render mode) = withoutParens (n.render other)) ∧
      (∀ mode clauseMode, withoutParens (n.render mode) = spell clauseMode n.pieces) ∧
      n.pieces.filterMap Piece.clause? = n.leaves ∧
      ∀ c ∈ n.leaves, ∀ mode, withoutParens (c.render mode) = withoutParens c.spelled := by
  have hspell (mode clauseMode : ParenMode) :
      withoutParens (n.render mode) = spell clauseMode n.pieces :=
    withoutParens_render clauseMode n mode
  refine ⟨fun mode other => ?_, hspell, filterMap_clause?_pieces n,
    fun c _ => c.withoutParens_render_spelled⟩
  exact (hspell mode .default).trans (hspell other .default).symm

/-- A join between values may be a parenthesis, and an empty group still has joins beside it. -/
example : withoutParens ((group .disjunct
    [.leaf ⟨"f", [.scalar "a", .scalar "b"], ")"⟩, group .union []]).render .always) = "-@f:ab " := by
  decide

end Node

end FullText
