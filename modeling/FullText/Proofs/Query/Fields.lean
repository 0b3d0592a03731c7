import FullText.Proofs.Query.Words
import Mathlib.Data.List.Basic

namespace FullText

namespace Clause

inductive Part
  | field
  | opening
  | closing
  | join
  | value (v : Value)

namespace Part

def value? : Part → Option Value
  | value v => some v
  | _ => none

def enclose (parens : Bool) (parts : List Part) : List Part :=
  if parens then opening :: (parts ++ [closing]) else parts

/-- Values with joins between them, each after the same parts. -/
def each (lead : List Part) (values : List Value) : List Part :=
  [join].intercalate (values.map fun v => lead ++ [value v])

/-- The field stands directly before. -/
def EndInField (before : List Part) : Prop := before.getLast? = some field

/-- A parenthesis that was opened behind the field is still open. -/
def OpenGroup (before : List Part) : Prop :=
  ∃ left body, before = left ++ field :: opening :: body ∧ closing ∉ body

/-- Each value that cannot share a field has its own directly before it, and stands in no group. -/
def SetApart (parts : List Part) : Prop :=
  ∀ before v after, parts = before ++ value v :: after → v.isCombinable = false →
    EndInField before ∧ ¬ OpenGroup before

variable {lead body before after : List Part} {values : List Value} {v : Value}

theorem each_cons (lead : List Part) (v : Value) (hn : values ≠ []) :
    each lead (v :: values) = lead ++ value v :: join :: each lead values := by
  rw [each, List.map_cons, List.intercalate_cons_of_ne_nil (by simpa using hn)]
  simp [each]

theorem filterMap_value?_each (h : lead.filterMap value? = []) (values : List Value) :
    (each lead values).filterMap value? = values := by
  have hvalue (v : Value) : (lead ++ [value v]).filterMap value? = [v] := by
    rw [List.filterMap_append, h]
    rfl
  rw [each, filterMap_intercalate rfl, List.flatMap_map]
  simp [hvalue]

theorem mem_each {p : Part} (h : p ∈ each lead values) :
    p ∈ lead ∨ p = join ∨ ∃ v, p = value v := by
  rcases mem_intercalate_iff.mp h with ⟨-, hp⟩ | ⟨part, hpart, hp⟩
  · exact .inr (.inl (List.mem_singleton.mp hp))
  · obtain ⟨v, -, rfl⟩ := List.mem_map.mp hpart
    rcases List.mem_append.mp hp with hp | hp
    · exact .inl hp
    · exact .inr (.inr ⟨v, List.mem_singleton.mp hp⟩)

theorem EndInField.cons {p : Part} (h : EndInField before) : EndInField (p :: before) := by
  rw [EndInField] at h
  rw [EndInField, List.getLast?_cons, h, Option.getD_some]

theorem endInField_of_each (h : each [field] values = before ++ value v :: after) :
    EndInField before := by
  induction values generalizing before with
  | nil => simp [each] at h
  | cons w values ih =>
      by_cases hn : values = []
      · subst hn
        match before, h with
        | [_], h =>
          cases h
          rfl
        | _ :: _ :: _, h => simp [each] at h
      · rw [each_cons _ w hn] at h
        match before, h with
        | [_], h =>
          cases h
          rfl
        | _ :: _ :: _ :: _, h =>
          simp only [List.cons_append, List.cons.injEq, List.nil_append] at h
          exact (ih h.2.2.2).cons.cons.cons

theorem exists_of_append_closing (h : body ++ [closing] = before ++ value v :: after) :
    ∃ rest, body = before ++ value v :: rest := by
  rcases List.eq_nil_or_concat' after with rfl | ⟨rest, p, rfl⟩
  · nomatch (List.append_inj' h rfl).2
  · rw [← List.cons_append, ← List.append_assoc] at h
    exact ⟨rest, (List.append_inj' h rfl).1⟩

theorem openGroup_of_field
    (h : field :: enclose true (each [] values) = before ++ value v :: after) :
    OpenGroup before := by
  match before, h with
  | _ :: _ :: before, h =>
    simp only [enclose, ↓reduceIte, List.cons_append, List.cons.injEq] at h
    obtain ⟨rfl, rfl, h⟩ := h
    obtain ⟨rest, hbody⟩ := exists_of_append_closing h
    refine ⟨[], before, rfl, fun hclosing => ?_⟩
    have hmem : closing ∈ each [] values := hbody ▸ List.mem_append_left _ hclosing
    rcases mem_each hmem with hp | hp | ⟨_, hp⟩ <;> nomatch hp

theorem setApart_of_fields
    (h : enclose true (each [field] values) = before ++ value v :: after) :
    EndInField before ∧ ¬ OpenGroup before := by
  match before, h with
  | _ :: before, h =>
    simp only [enclose, ↓reduceIte, List.cons_append, List.cons.injEq] at h
    obtain ⟨rfl, h⟩ := h
    obtain ⟨rest, hbody⟩ := exists_of_append_closing h
    refine ⟨(endInField_of_each hbody).cons, ?_⟩
    rintro ⟨left, body, hleft, -⟩
    match left, hleft with
    | _ :: left, hleft =>
      simp only [List.cons_append, List.cons.injEq] at hleft
      have hopening : opening ∈ before := by simp [hleft.2]
      have hmem : opening ∈ each [field] values := hbody ▸ List.mem_append_left _ hopening
      rcases mem_each hmem with hp | hp | ⟨_, hp⟩
      · exact absurd (List.mem_singleton.mp hp) nofun
      · nomatch hp
      · nomatch hp

end Part

def partText (c : Clause) : Part → String
  | .field => c.fieldText
  | .opening => "("
  | .closing => ")"
  | .join => c.join
  | .value v => v.text

def spell (c : Clause) (parts : List Part) : String := String.join (parts.map c.partText)

/-- The text of the clause in its parts. -/
def parts (c : Clause) (mode : ParenMode) : List Part :=
  let parens := 1 < c.values.length || mode = .always
  if c.isGrouped then .field :: Part.enclose parens (Part.each [] c.values)
  else Part.enclose parens (Part.each [.field] c.values)

theorem spell_enclose (c : Clause) (parens : Bool) (parts : List Part) :
    c.spell (Part.enclose parens parts) = wrap parens (c.spell parts) := by
  cases parens with
  | false => rfl
  | true => simp [spell, Part.enclose, partText, wrap, String.append_assoc]

theorem spell_each (c : Clause) (lead : List Part) (values : List Value) :
    c.spell (Part.each lead values) =
      c.join.intercalate (values.map fun v => c.spell lead ++ v.text) := by
  rw [spell, Part.each, join_map_intercalate, List.map_map]
  simp [spell, partText, Function.comp_def]

theorem spell_parts (c : Clause) (mode : ParenMode) : c.spell (c.parts mode) = c.render mode := by
  have hfield (parts : List Part) : c.spell (.field :: parts) = c.fieldText ++ c.spell parts := by
    simp [spell, partText]
  have hnil : c.spell [] = "" := rfl
  rw [parts, render]
  split
  · simp [hfield, spell_enclose, spell_each, hnil]
  · simp [hfield, spell_enclose, spell_each, hnil, Function.comp_def]

theorem filterMap_value?_parts (c : Clause) (mode : ParenMode) :
    (c.parts mode).filterMap Part.value? = c.values := by
  have henclose (parens : Bool) (parts : List Part) :
      (Part.enclose parens parts).filterMap Part.value? = parts.filterMap Part.value? := by
    cases parens <;> simp [Part.enclose, Part.value?, List.filterMap_cons]
  rw [parts]
  split
  · rw [List.filterMap_cons_none rfl, henclose, Part.filterMap_value?_each rfl]
  · rw [henclose, Part.filterMap_value?_each rfl]

variable {c : Clause}

theorem isGrouped_iff (hl : 1 < c.values.length) :
    c.isGrouped ↔ ∀ v ∈ c.values.head?, v.isCombinable := by
  have hone : c.values.length ≠ 1 := Nat.ne_of_gt hl
  obtain ⟨v, values, hv⟩ := List.exists_cons_of_length_pos (Nat.lt_of_succ_lt hl)
  rw [isGrouped, decide_eq_false hone, Bool.false_or, hv]
  simp

theorem parts_of_several (hl : 1 < c.values.length) (mode : ParenMode) : c.parts mode =
    if c.isGrouped then .field :: Part.enclose true (Part.each [] c.values)
    else Part.enclose true (Part.each [.field] c.values) := by
  rw [parts, decide_eq_true hl, Bool.true_or]

theorem mem_values_of_parts {mode : ParenMode} {before after : List Part} {v : Value}
    (h : c.parts mode = before ++ .value v :: after) : v ∈ c.values := by
  rw [← filterMap_value?_parts c mode, h]
  exact List.mem_filterMap.mpr ⟨.value v, by simp, rfl⟩

theorem exists_parts_of_mem (mode : ParenMode) {v : Value} (h : v ∈ c.values) :
    ∃ before after, c.parts mode = before ++ .value v :: after := by
  rw [← filterMap_value?_parts c mode] at h
  obtain ⟨p, hp, hv⟩ := List.mem_filterMap.mp h
  cases p with
  | value w =>
      cases hv
      exact List.append_of_mem hp
  | _ => nomatch hv

theorem setApart_parts_iff (hl : 1 < c.values.length) (mode : ParenMode) :
    Part.SetApart (c.parts mode) ↔
      ((∀ v ∈ c.values.head?, v.isCombinable) → ∀ v ∈ c.values, v.isCombinable) := by
  rw [← isGrouped_iff hl]
  constructor
  · intro hapart hgrouped v hv
    by_contra hc
    obtain ⟨before, after, hparts⟩ := exists_parts_of_mem mode hv
    have hopen : Part.OpenGroup before := by
      rw [parts_of_several hl, if_pos hgrouped] at hparts
      exact Part.openGroup_of_field hparts
    exact (hapart before v after hparts (by simpa using hc)).2 hopen
  · intro hall before v after hparts hc
    have hseparate : ¬ c.isGrouped := by
      intro hgrouped
      have hv := hall hgrouped v (mem_values_of_parts hparts)
      exact Bool.false_ne_true (hc.symm.trans hv)
    rw [parts_of_several hl, if_neg hseparate] at hparts
    exact Part.setApart_of_fields hparts

/-- The text of several values is spelled by parts that have the values in their order. Among them
those that cannot share a field are each set apart with their own, exactly if the first value is one
of them or there is none. -/
theorem setApart_iff {c : Clause} (hl : 1 < c.values.length) (mode : ParenMode) :
    c.spell (c.parts mode) = c.render mode ∧ (c.parts mode).filterMap Part.value? = c.values ∧
      (Part.SetApart (c.parts mode) ↔
        ((∀ v ∈ c.values.head?, v.isCombinable) → ∀ v ∈ c.values, v.isCombinable)) :=
  ⟨spell_parts c mode, filterMap_value?_parts c mode, setApart_parts_iff hl mode⟩

def unboundedRange : Value := .between (.infinity true) (.infinity false)

/-- The join of a clause may itself look like a field and a group. -/
def rangeFirst : Clause := ⟨"f", [unboundedRange, .scalar "a", .tags ["t"]], " @g:("⟩

def wordFirst : Clause := ⟨"f", [.scalar "a", unboundedRange], " "⟩

theorem setApart_rangeFirst :
    1 < rangeFirst.values.length ∧
      rangeFirst.render .never = "(@f:[-inf inf] @g:(@f:a @g:(@f:\x7bt\x7d)" ∧
      Part.SetApart (rangeFirst.parts .never) := by
  obtain ⟨-, -, hiff⟩ := setApart_iff (c := rangeFirst) (by decide) .never
  refine ⟨by decide, by decide, hiff.mpr fun hfirst => ?_⟩
  exact absurd (hfirst unboundedRange rfl) (by decide)

/-- Behind a word the range stands in the group of the word, after the join. -/
theorem not_setApart_wordFirst :
    1 < wordFirst.values.length ∧ wordFirst.render .default = "@f:(a [-inf inf])" ∧
      ¬ Part.SetApart (wordFirst.parts .default) := by
  refine ⟨by decide, by decide, fun hapart => ?_⟩
  obtain ⟨hfield, -⟩ := hapart [.field, .opening, .value (.scalar "a"), .join] unboundedRange
    [.closing] rfl rfl
  nomatch hfield

end Clause

end FullText
