import FullText.Proofs.Number.Text
import FullText.Query.Tree
import FullText.Text.Blank

namespace FullText

def isMark (c : Char) : Bool := c ∈ ['(', ')', '[', ']', '\x7b', '\x7d', '|', ':']

def isWordChar (c : Char) : Bool := !Text.isBlank c && !isMark c

def IsWord (text : String) : Prop := text ≠ "" ∧ text.toList.all isWordChar

instance (text : String) : Decidable (IsWord text) := inferInstanceAs (Decidable (_ ∧ _))

theorem IsWord.toList_ne_nil {text : String} (h : IsWord text) : text.toList ≠ [] :=
  fun hn => h.1 (String.toList_eq_nil_iff.mp hn)

theorem IsWord.isWordChar {text : String} (h : IsWord text) {c : Char} (hc : c ∈ text.toList) :
    isWordChar c :=
  List.all_eq_true.mp h.2 c hc

theorem IsWord.exists_cons {text : String} (h : IsWord text) :
    ∃ c cs, text.toList = c :: cs ∧ FullText.isWordChar c := by
  obtain ⟨c, cs, htext⟩ := List.exists_cons_of_ne_nil h.toList_ne_nil
  exact ⟨c, cs, htext, h.isWordChar (htext ▸ List.mem_cons_self)⟩

/-- The text stands in a pair of brackets and the closing one is not inside them. -/
def IsEnclosed (opening closing : Char) (text : List Char) : Prop :=
  ∃ body, closing ∉ body ∧ text = opening :: (body ++ [closing])

def IsJoin (join : String) : Prop := join = " " ∨ join = "|"

instance (join : String) : Decidable (IsJoin join) := inferInstanceAs (Decidable (_ ∨ _))

def isSeparator (c : Char) : Bool := c = ' ' || c = '|'

theorem isSeparator_eq_false {c : Char} (h : isWordChar c) : isSeparator c = false := by
  rw [← Bool.not_eq_true]
  intro hc
  simp only [isSeparator, Bool.or_eq_true, decide_eq_true_eq] at hc
  rcases hc with rfl | rfl
  · exact absurd h (by decide)
  · exact absurd h (by decide)

theorem IsJoin.exists_separator {join : String} (h : IsJoin join) :
    ∃ c, isSeparator c ∧ join = String.singleton c := by
  rcases h with rfl | rfl
  · exact ⟨' ', rfl, rfl⟩
  · exact ⟨'|', rfl, rfl⟩

theorem GroupKind.isJoin_join (kind : GroupKind) : IsJoin kind.join := by
  cases kind <;> decide

theorem toList_wrap (text : String) : (wrap true text).toList = '(' :: (text.toList ++ [')']) := by
  simp [wrap]

theorem mem_intercalate_iff {α : Type} {separator : List α} {texts : List (List α)} {a : α} :
    a ∈ separator.intercalate texts ↔
      1 < texts.length ∧ a ∈ separator ∨ ∃ text ∈ texts, a ∈ text := by
  induction texts with
  | nil => simp
  | cons text texts ih =>
      by_cases hn : texts = []
      · simp [hn]
      · have hpos : 1 < (text :: texts).length := Nat.succ_lt_succ (List.length_pos_iff.mpr hn)
        simp only [List.intercalate_cons_of_ne_nil hn, List.mem_append, ih, List.mem_cons,
          exists_eq_or_imp]
        constructor
        · rintro ((h | h) | ⟨-, h⟩ | h)
          · exact .inr (.inl h)
          · exact .inl ⟨hpos, h⟩
          · exact .inl ⟨hpos, h⟩
          · exact .inr (.inr h)
        · rintro (⟨-, h⟩ | h | h)
          · exact .inl (.inr h)
          · exact .inl (.inl h)
          · exact .inr (.inr h)

theorem not_mem_intercalate {separator : String} {texts : List String} {c : Char}
    (hs : c ∉ separator.toList) (ht : ∀ text ∈ texts, c ∉ text.toList) :
    c ∉ (separator.intercalate texts).toList := by
  rw [String.toList_intercalate, mem_intercalate_iff]
  rintro (⟨-, h⟩ | ⟨chars, hchars, h⟩)
  · exact hs h
  · obtain ⟨text, htext, rfl⟩ := List.mem_map.mp hchars
    exact ht text htext h

theorem join_map_intercalate {α : Type} (spell : α → String) (separator : α)
    (parts : List (List α)) :
    String.join (([separator].intercalate parts).map spell) =
      (spell separator).intercalate (parts.map fun part => String.join (part.map spell)) := by
  induction parts with
  | nil => rfl
  | cons part parts ih =>
      by_cases hn : parts = []
      · simp [hn]
      · rw [List.intercalate_cons_of_ne_nil hn, List.map_cons,
          String.intercalate_cons_of_ne_nil (by simpa using hn), ← ih]
        simp [String.append_assoc]

theorem filterMap_intercalate {α β : Type} {f : α → Option β} {separator : List α}
    (h : separator.filterMap f = []) (parts : List (List α)) :
    (separator.intercalate parts).filterMap f = parts.flatMap (List.filterMap f) := by
  induction parts with
  | nil => rfl
  | cons part parts ih =>
      by_cases hn : parts = []
      · simp [hn]
      · rw [List.intercalate_cons_of_ne_nil hn, List.filterMap_append, List.filterMap_append, h, ih,
          List.append_nil, List.flatMap_cons]

namespace Value

/-- Scalars and tags are words. -/
def IsWorded : Value → Prop
  | scalar text => IsWord text
  | tags names => ∀ name ∈ names, IsWord name
  | _ => True

instance : DecidablePred IsWorded
  | scalar text => inferInstanceAs (Decidable (IsWord text))
  | tags names => inferInstanceAs (Decidable (∀ name ∈ names, IsWord name))
  | range _ | geo _ => .isTrue trivial

theorem isWord_text {v : Value} (h : v.IsWorded) (hc : v.isCombinable) : IsWord v.text := by
  cases v with
  | scalar text => exact h
  | range i => nomatch hc
  | geo area => nomatch hc
  | tags names => nomatch hc

theorem not_mem_canonical {x : Binary64} : ']' ∉ x.canonical.toList := by
  intro h
  exact absurd (Binary64.isNumeric_canonical h) (by decide)

theorem mem_boundText_cases {b : Bound} {c : Char} (h : c ∈ (b.text "inf").toList) :
    Binary64.isNumeric c ∨ c = '(' := by
  have hnamed {name : String} (hname : name.toList.all Binary64.isNumeric) (hc : c ∈ name.toList) :
      Binary64.isNumeric c ∨ c = '(' := .inl (List.all_eq_true.mp hname c hc)
  rw [Bound.text] at h
  split at h
  · exact hnamed (by decide) h
  split at h
  · exact hnamed (by decide) h
  split at h
  · rw [String.toList_append, List.mem_append] at h
    rcases h with h | h
    · exact .inr (List.mem_singleton.mp h)
    · exact .inl (Binary64.isNumeric_canonical h)
  · exact .inl (Binary64.isNumeric_canonical h)

theorem not_mem_words (area : GeoArea) : ∀ word ∈ area.words, ']' ∉ word.toList := by
  intro word h
  simp only [GeoArea.words, List.mem_cons, List.not_mem_nil, or_false] at h
  rcases h with rfl | rfl | rfl | rfl
  · exact not_mem_canonical
  · exact not_mem_canonical
  · exact not_mem_canonical
  · cases area.unit <;> decide

theorem isEnclosed_text {v : Value} (h : v.IsWorded) (hc : v.isCombinable = false) :
    IsEnclosed '[' ']' v.text.toList ∨ IsEnclosed '\x7b' '\x7d' v.text.toList := by
  cases v with
  | scalar text => nomatch hc
  | range i =>
      refine .inl ⟨(i.lower.text "inf" ++ " " ++ i.upper.text "inf").toList, ?_, ?_⟩
      · have hbound (b : Bound) : ']' ∉ (b.text "inf").toList := mt mem_boundText_cases (by decide)
        simp only [String.toList_append, List.mem_append, not_or]
        exact ⟨⟨hbound _, by decide⟩, hbound _⟩
      · simp [text]
  | geo area =>
      refine .inl ⟨(" ".intercalate area.words).toList, ?_, ?_⟩
      · exact not_mem_intercalate (by decide) (not_mem_words area)
      · simp [text]
  | tags names =>
      refine .inr ⟨(" | ".intercalate names).toList, ?_, ?_⟩
      · apply not_mem_intercalate (by decide)
        intro name hn hm
        exact absurd ((h name hn).isWordChar hm) (by decide)
      · simp [text]

end Value

namespace Clause

/-- The field and what of the values is not in brackets are words. -/
structure IsWorded (c : Clause) : Prop where
  field : IsWord c.field
  values : ∀ v ∈ c.values, v.IsWorded

structure IsProper (c : Clause) : Prop extends c.IsWorded where
  join : IsJoin c.join

instance (c : Clause) : Decidable c.IsProper :=
  decidable_of_iff (IsWord c.field ∧ (∀ v ∈ c.values, v.IsWorded) ∧ IsJoin c.join)
    ⟨fun ⟨field, values, join⟩ => ⟨⟨field, values⟩, join⟩, fun h => ⟨h.field, h.values, h.join⟩⟩

end Clause

namespace Node

/-- Every group of the tree has children, and every leaf is such a clause. -/
inductive FilledWith (P : Clause → Prop) : Node → Prop
  | leaf {clause : Clause} (h : P clause) : FilledWith P (leaf clause)
  | group {kind : GroupKind} {children : List Node} (nonempty : children ≠ [])
      (each : ∀ n ∈ children, FilledWith P n) : FilledWith P (group kind children)

theorem FilledWith.of_group {P : Clause → Prop} {kind : GroupKind} {children : List Node}
    (h : (Node.group kind children).FilledWith P) :
    children ≠ [] ∧ ∀ n ∈ children, n.FilledWith P := by
  cases h with
  | group nonempty each => exact ⟨nonempty, each⟩

theorem renderAll_eq (children : List Node) (mode : ParenMode) :
    renderAll children mode = children.map (render · mode) := by
  induction children with
  | nil => rfl
  | cons n ns ih => rw [renderAll, ih, List.map_cons]

end Node

end FullText
