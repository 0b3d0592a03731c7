import FullText.Proofs.Query.Reader

namespace FullText

namespace Outline

def joined (join : String) : List Outline → Outline
  | [part] => part
  | parts => group join parts

mutual

def entries : Outline → List (String × String)
  | one field value => [(field, value)]
  | several field _ values => values.map fun value => (field, value)
  | group _ parts => entriesIn parts

def entriesIn : List Outline → List (String × String)
  | [] => []
  | part :: parts => part.entries ++ entriesIn parts

end

theorem entries_joined (join : String) (parts : List Outline) :
    (joined join parts).entries = entriesIn parts := by
  cases parts with
  | nil => rfl
  | cons part parts =>
      cases parts with
      | nil => simp only [joined, entriesIn, List.append_nil]
      | cons _ _ => rfl

end Outline

namespace Clause

/-- Several scalars share the field, and other values are clauses of their own. -/
def outline (c : Clause) : Outline :=
  match c.values with
  | [v] => .one c.field v.text
  | values =>
    if values.all Value.isCombinable then .several c.field c.join (values.map Value.text)
    else .group c.join (values.map fun v => .one c.field v.text)

def entries (c : Clause) : List (String × String) := c.values.map fun v => (c.field, v.text)

/-- The clause has values, and either all of them are scalars or none is. -/
structure IsAlike (c : Clause) : Prop extends c.IsProper where
  nonempty : c.values ≠ []
  alike : (∀ v ∈ c.values, v.isCombinable) ∨ ∀ v ∈ c.values, v.isCombinable = false

instance (c : Clause) : Decidable c.IsAlike :=
  decidable_of_iff (c.IsProper ∧ c.values ≠ [] ∧
      ((∀ v ∈ c.values, v.isCombinable) ∨ ∀ v ∈ c.values, v.isCombinable = false))
    ⟨fun ⟨proper, nonempty, alike⟩ => ⟨proper, nonempty, alike⟩,
      fun h => ⟨h.toIsProper, h.nonempty, h.alike⟩⟩

theorem entries_outline (c : Clause) : c.outline.entries = c.entries := by
  rw [outline, entries]
  split
  · rename_i v hv
    rw [hv]
    rfl
  · split
    · simp only [Outline.entries, List.map_map, Function.comp_def]
    · rw [Outline.entries]
      induction c.values with
      | nil => rfl
      | cons v vs ih => rw [List.map_cons, List.map_cons, Outline.entriesIn, ih, Outline.entries,
          List.singleton_append]

variable {c : Clause}

theorem render_of_one {v : Value} (hv : c.values = [v]) :
    c.render .default = c.fieldText ++ v.text := by
  simp [render, isGrouped, hv, wrap]

theorem render_of_scalars (hl : 1 < c.values.length) (h : ∀ v ∈ c.values, v.isCombinable) :
    c.render .default =
      c.fieldText ++ wrap true (c.join.intercalate (c.values.map Value.text)) := by
  obtain ⟨v, vs, hv⟩ := List.exists_cons_of_length_pos (Nat.lt_of_succ_lt hl)
  have hgrouped : c.isGrouped := by simp [isGrouped, hv, h v (hv ▸ List.mem_cons_self)]
  simp only [render, hgrouped, hl, decide_true, Bool.true_or, ↓reduceIte]

theorem render_of_others (hl : 1 < c.values.length)
    (h : ∀ v ∈ c.values, v.isCombinable = false) :
    c.render .default =
      wrap true (c.join.intercalate (c.values.map fun v => c.fieldText ++ v.text)) := by
  obtain ⟨v, vs, hv⟩ := List.exists_cons_of_length_pos (Nat.lt_of_succ_lt hl)
  have hgrouped : c.isGrouped = false := by
    have hfirst := h v (hv ▸ List.mem_cons_self)
    have hone : ¬ c.values.length = 1 := Nat.ne_of_gt hl
    rw [isGrouped, decide_eq_false hone, Bool.false_or, hv, List.head?_cons, Option.map_some,
      Option.getD_some, hfirst]
  simp only [render, hgrouped, hl, decide_true, Bool.true_or, Bool.false_eq_true, ↓reduceIte,
    List.map_map, Function.comp_def]

theorem outline_of_scalars (hl : 1 < c.values.length) (h : ∀ v ∈ c.values, v.isCombinable) :
    c.outline = .several c.field c.join (c.values.map Value.text) := by
  rw [outline]
  split
  · simp_all
  · rw [if_pos (List.all_eq_true.mpr h)]

theorem outline_of_others (hl : 1 < c.values.length)
    (h : ∀ v ∈ c.values, v.isCombinable = false) :
    c.outline = .group c.join (c.values.map fun v => .one c.field v.text) := by
  obtain ⟨v, hv⟩ := List.exists_mem_of_ne_nil c.values (List.length_pos_iff.mp (by omega))
  rw [outline]
  split
  · simp_all
  · refine if_neg fun hall => ?_
    exact absurd (List.all_eq_true.mp hall v hv) (by simp [h v hv])

theorem toList_fieldText (c : Clause) : c.fieldText.toList = '@' :: (c.field.toList ++ [':']) := by
  simp [fieldText]

theorem readClause_field (h : IsWord c.field) (fuel : Nat) (rest : List Char) :
    Outline.readClause (fuel + 1) (c.fieldText.toList ++ rest) = Outline.readOf c.field rest := by
  have hword := Outline.readWord_append h (Outline.endsWord_cons (c := ':') (by decide) rest)
  rw [toList_fieldText, List.cons_append, List.append_assoc, List.singleton_append,
    Outline.readClause, hword]
  rfl

end Clause

theorem Outline.readOf_text {v : Value} (h : v.IsWorded) (field : String) {rest : List Char}
    (hr : EndsWord rest) :
    readOf field (v.text.toList ++ rest) = some (.one field v.text, rest) := by
  have hparen : ∀ text, v.text.toList ++ rest = '(' :: text → False := by
    intro text he
    cases hc : v.isCombinable with
    | true =>
        obtain ⟨c, cs, htext, hchar⟩ := (Value.isWord_text h hc).exists_cons
        rw [htext] at he
        cases he
        exact absurd hchar (by decide)
    | false =>
        rcases Value.isEnclosed_text h hc with ⟨body, -, htext⟩ | ⟨body, -, htext⟩
        · rw [htext] at he
          nomatch he
        · rw [htext] at he
          nomatch he
  rw [readOf, readValue_append h hr]
  · rfl
  · exact hparen

theorem Clause.readClause_one {c : Clause} (hf : IsWord c.field) {v : Value} (hv : v.IsWorded)
    (fuel : Nat) {rest : List Char} (hr : Outline.EndsWord rest) :
    Outline.readClause (fuel + 1) ((c.fieldText ++ v.text).toList ++ rest) =
      some (.one c.field v.text, rest) := by
  rw [String.toList_append, List.append_assoc, readClause_field hf, Outline.readOf_text hv _ hr]

theorem Outline.readClause_wrap {α : Type} {join : String} (hj : IsJoin join) {items : List α}
    {f : α → String} {g : α → Outline} {fuel : Nat}
    (h : ∀ a ∈ items, ∀ rest, EndsWord rest →
      readClause fuel ((f a).toList ++ rest) = some (g a, rest))
    (hl : 1 < items.length) (rest : List Char) :
    readClause (fuel + 1) ((wrap true (join.intercalate (items.map f))).toList ++ rest) =
      some (.group join (items.map g), rest) := by
  have hseveral := readSeveral_intercalate hj h hl rest
  rw [toList_wrap, List.cons_append, List.append_assoc, List.singleton_append,
    String.toList_intercalate, List.map_map, readClause]
  rw [Function.comp_def, hseveral]
  rfl

theorem exists_eq_singleton {α : Type} {items : List α} (nonempty : items ≠ [])
    (hl : ¬ 1 < items.length) : ∃ a, items = [a] := by
  refine List.length_eq_one_iff.mp ?_
  have hpos := List.length_pos_iff.mpr nonempty
  omega

theorem length_le_of_mem {α : Type} (join : String) {items : List α} (f : α → String) {a : α}
    (ha : a ∈ items) :
    (f a).toList.length ≤ (join.intercalate (items.map f)).toList.length := by
  induction items with
  | nil => nomatch ha
  | cons b items ih =>
      by_cases hn : items = []
      · rw [hn, List.mem_singleton] at ha
        simp [hn, ha]
      · rw [List.map_cons, String.intercalate_cons_of_ne_nil (by simpa using hn)]
        simp only [String.toList_append, List.length_append]
        rcases List.mem_cons.mp ha with rfl | ha
        · omega
        · have hle := ih ha
          omega

theorem length_lt_of_mem {α : Type} (join : String) {items : List α} (f : α → String) {a : α}
    (ha : a ∈ items) :
    (f a).toList.length < (wrap true (join.intercalate (items.map f))).toList.length := by
  have hle := length_le_of_mem join f ha
  rw [toList_wrap, List.length_cons, List.length_append]
  omega

namespace Clause

variable {c : Clause}

theorem readClause_scalars (hf : IsWord c.field) (hj : IsJoin c.join)
    (hv : ∀ v ∈ c.values, IsWord v.text) (hl : 1 < c.values.length) (fuel : Nat)
    (rest : List Char) :
    Outline.readClause (fuel + 1)
      ((c.fieldText ++ wrap true (c.join.intercalate (c.values.map Value.text))).toList ++ rest) =
        some (.several c.field c.join (c.values.map Value.text), rest) := by
  have hseveral := Outline.readSeveral_intercalate (f := fun v => (Value.text v).toList) hj
    (fun v hmem rest hr => Outline.readWord_append (hv v hmem) hr) hl rest
  rw [String.toList_append, List.append_assoc, readClause_field hf, toList_wrap, List.cons_append,
    List.append_assoc, List.singleton_append, String.toList_intercalate, List.map_map,
    Outline.readOf, Function.comp_def, hseveral]
  rfl

theorem length_fieldText_pos (c : Clause) : 0 < c.fieldText.toList.length := by
  rw [toList_fieldText]
  exact Nat.succ_pos _

theorem readClause_render (h : c.IsAlike) {fuel : Nat} {rest : List Char}
    (hfuel : (c.render .default).toList.length ≤ fuel) (hr : Outline.EndsWord rest) :
    Outline.readClause fuel ((c.render .default).toList ++ rest) = some (c.outline, rest) := by
  have hpos := c.length_fieldText_pos
  by_cases hl : 1 < c.values.length
  · rcases h.alike with hs | ho
    · rw [render_of_scalars hl hs] at hfuel ⊢
      rw [outline_of_scalars hl hs]
      rw [String.toList_append, List.length_append] at hfuel
      obtain ⟨fuel, rfl⟩ := Nat.exists_eq_add_of_le' (show 1 ≤ fuel by omega)
      have hwords : ∀ v ∈ c.values, IsWord v.text :=
        fun v hv => Value.isWord_text (h.values v hv) (hs v hv)
      exact readClause_scalars h.field h.join hwords hl fuel rest
    · rw [render_of_others hl ho] at hfuel ⊢
      rw [outline_of_others hl ho]
      obtain ⟨v, hv⟩ := List.exists_mem_of_ne_nil c.values h.nonempty
      have hlt := length_lt_of_mem c.join (fun v => c.fieldText ++ v.text) hv
      rw [String.toList_append, List.length_append] at hlt
      obtain ⟨fuel, rfl⟩ := Nat.exists_eq_add_of_le' (show 2 ≤ fuel by omega)
      exact Outline.readClause_wrap h.join
        (fun v hv rest hr => readClause_one h.field (h.values v hv) fuel hr) hl rest
  · obtain ⟨v, hv⟩ := exists_eq_singleton h.nonempty hl
    rw [render_of_one hv] at hfuel ⊢
    rw [String.toList_append, List.length_append] at hfuel
    obtain ⟨fuel, rfl⟩ := Nat.exists_eq_add_of_le' (show 1 ≤ fuel by omega)
    have hone := readClause_one h.field (h.values v (hv ▸ List.mem_cons_self)) fuel hr
    rw [hone, outline, hv]

end Clause

namespace Node

mutual

/-- The tree without the groups of one child. -/
def outline : Node → Outline
  | leaf clause => clause.outline
  | group kind children => .joined kind.join (outlines children)

def outlines : List Node → List Outline
  | [] => []
  | n :: ns => n.outline :: outlines ns

end

mutual

def entries : Node → List (String × String)
  | leaf clause => clause.entries
  | group _ children => entriesIn children

def entriesIn : List Node → List (String × String)
  | [] => []
  | n :: ns => n.entries ++ entriesIn ns

end

/-- Intersections and unions of such clauses, none of them empty. -/
inductive IsPositive : Node → Prop
  | leaf {clause : Clause} (h : clause.IsAlike) : IsPositive (leaf clause)
  | group {kind : GroupKind} {children : List Node} (sign : kind.sign = none)
      (nonempty : children ≠ []) (each : ∀ n ∈ children, IsPositive n) :
      IsPositive (group kind children)

theorem outlines_eq (children : List Node) : outlines children = children.map outline := by
  induction children with
  | nil => rfl
  | cons n ns ih => rw [outlines, ih, List.map_cons]

variable {kind : GroupKind} {children : List Node}

theorem text_group_of_one (sign : kind.sign = none) (n : Node) :
    (group kind [n]).text = n.text := by
  simp [text, render, renderAll, sign, ParenMode.wraps, wrap]

theorem text_group (sign : kind.sign = none) (hl : 1 < children.length) :
    (group kind children).text = wrap true (kind.join.intercalate (children.map text)) := by
  simp only [text, render, sign, ParenMode.wraps, hl, decide_true, renderAll_eq]
  rfl

theorem outline_group_of_one (n : Node) : (group kind [n]).outline = n.outline := rfl

theorem outline_group (hl : 1 < children.length) :
    (group kind children).outline = .group kind.join (children.map outline) := by
  rw [outline, outlines_eq]
  match children, hl with
  | _ :: _ :: _, _ => rfl

theorem readClause_text {n : Node} (h : n.IsPositive) {fuel : Nat} {rest : List Char}
    (hfuel : n.text.toList.length ≤ fuel) (hr : Outline.EndsWord rest) :
    Outline.readClause fuel (n.text.toList ++ rest) = some (n.outline, rest) := by
  induction h generalizing fuel rest with
  | leaf h => exact Clause.readClause_render h hfuel hr
  | @group kind children sign nonempty each ih =>
      by_cases hl : 1 < children.length
      · rw [text_group sign hl] at hfuel ⊢
        rw [outline_group hl]
        -- The parentheses pay for the level of nesting that a child is read with less.
        have hlt : ∀ n ∈ children, n.text.toList.length < fuel :=
          fun n hn => Nat.lt_of_lt_of_le (length_lt_of_mem _ text hn) hfuel
        obtain ⟨n, hn⟩ := List.exists_mem_of_ne_nil children nonempty
        have hpos : 1 ≤ fuel := Nat.lt_of_le_of_lt (Nat.zero_le _) (hlt n hn)
        obtain ⟨fuel, rfl⟩ := Nat.exists_eq_add_of_le' hpos
        exact Outline.readClause_wrap kind.isJoin_join
          (fun n hn rest hr => ih n hn (Nat.le_of_lt_succ (hlt n hn)) hr) hl rest
      · obtain ⟨n, rfl⟩ := exists_eq_singleton nonempty hl
        rw [text_group_of_one sign] at hfuel ⊢
        rw [outline_group_of_one]
        exact ih n List.mem_cons_self hfuel hr

mutual

theorem entries_outline : ∀ n : Node, n.outline.entries = n.entries
  | leaf clause => clause.entries_outline
  | group kind children => by
    rw [outline, Outline.entries_joined, entries, entriesIn_outlines children]

theorem entriesIn_outlines :
    ∀ children : List Node, Outline.entriesIn (outlines children) = entriesIn children
  | [] => rfl
  | n :: ns => by
    rw [outlines, Outline.entriesIn, entries_outline n, entriesIn_outlines ns, entriesIn]

end

theorem read_eq_outline {n : Node} (h : n.IsPositive) : Outline.read n.text = some n.outline := by
  have hread := readClause_text h (Nat.le_refl n.text.length) Outline.endsWord_nil
  rw [List.append_nil] at hread
  rw [Outline.read, hread]

/-- The text of a tree reads back to its outline, which has the values of the tree in their order
and is the same for all trees of one text. -/
theorem read_text {n : Node} (h : n.IsPositive) :
    Outline.read n.text = some n.outline ∧ n.outline.entries = n.entries ∧
      ∀ m : Node, m.IsPositive → m.text = n.text → m.outline = n.outline := by
  refine ⟨read_eq_outline h, entries_outline n, ?_⟩
  intro m hm htext
  have hread := read_eq_outline hm
  rw [htext, read_eq_outline h] at hread
  exact (Option.some.inj hread).symm

/-- A union of one child, with several tag sets, beside scalars and a range without bounds. -/
def tagged : Node :=
  .group .intersect [
    .group .union [GroupKind.union.clause "tag" [.tags ["red", "blue"], .tags ["green"]]],
    GroupKind.union.clause "name" [.scalar "mark", .scalar "dvir"],
    GroupKind.intersect.clause "time" [.between (.infinity true) (.infinity false)]]

theorem isPositive_tagged : tagged.IsPositive := by
  refine .group rfl (List.cons_ne_nil _ _) ?_
  rw [List.forall_mem_cons, List.forall_mem_cons, List.forall_mem_singleton]
  refine ⟨.group rfl (List.cons_ne_nil _ _) ?_, .leaf (by decide), .leaf (by decide)⟩
  exact List.forall_mem_singleton.mpr (.leaf (by decide))

theorem read_tagged :
    tagged.IsPositive ∧
      tagged.text =
        "((@tag:\x7bred | blue\x7d|@tag:\x7bgreen\x7d) @name:(mark|dvir) @time:[-inf inf])" ∧
      Outline.read tagged.text = some (.group " " [
        .group "|" [.one "tag" "\x7bred | blue\x7d", .one "tag" "\x7bgreen\x7d"],
        .several "name" "|" ["mark", "dvir"],
        .one "time" "[-inf inf]"]) := by
  refine ⟨isPositive_tagged, by decide, ?_⟩
  rw [(read_text isPositive_tagged).1]
  rfl

end Node

end FullText
