import FullText.Proofs.Query.Words
import Mathlib.Tactic.Choose

namespace FullText

/-- What is known after a part of a query text: the mark that ends the brackets which are open, and
the separators so far of each open group, innermost first, and of each closed one. -/
structure Scan where
  ending : Option Char
  openGroups : List (List Char)
  closedGroups : List (List Char)

namespace Scan

def separate (c : Char) (s : Scan) : Scan :=
  match s.openGroups with
  | separators :: outer => { s with openGroups := (separators ++ [c]) :: outer }
  | [] => s

def close (s : Scan) : Scan :=
  match s.openGroups with
  | separators :: outer =>
    { s with openGroups := outer, closedGroups := s.closedGroups ++ [separators] }
  | [] => s

def read (s : Scan) (c : Char) : Scan :=
  if c = '[' then { s with ending := some ']' }
  else if c = '\x7b' then { s with ending := some '\x7d' }
  else if c = '(' then { s with openGroups := [] :: s.openGroups }
  else if c = ')' then s.close
  else if isSeparator c then s.separate c
  else s

/-- Brackets hide what is in them, so a parenthesis at the bound of a range opens no group. -/
def step (s : Scan) (c : Char) : Scan :=
  match s.ending with
  | some ending => if c = ending then { s with ending := none } else s
  | none => s.read c

theorem read_of_isWordChar {s : Scan} {c : Char} (h : isWordChar c) : s.read c = s := by
  have hm := h
  simp only [isWordChar, isMark, Bool.and_eq_true, Bool.not_eq_true', decide_eq_false_iff_not,
    List.mem_cons, not_or] at hm
  simp only [read, hm, isSeparator_eq_false h, Bool.false_eq_true, ↓reduceIte]

end Scan

/-- The separators of each group of the text, that of all the text with them. -/
def separatorsIn (text : String) : List (List Char) :=
  let s := text.toList.foldl Scan.step ⟨none, [[]], []⟩
  s.closedGroups ++ s.openGroups

/-- The text adds the separators to the group that it stands in, and closes the groups. -/
def Adds (text separators : List Char) (groups : List (List Char)) : Prop :=
  ∀ inner outer closed, text.foldl Scan.step ⟨none, inner :: outer, closed⟩ =
    ⟨none, (inner ++ separators) :: outer, closed ++ groups⟩

namespace Adds

variable {text text' separators separators' : List Char} {groups groups' : List (List Char)}

theorem nil : Adds [] [] [] := by
  intro inner outer closed
  simp only [List.foldl_nil, List.append_nil]

theorem append (h : Adds text separators groups) (h' : Adds text' separators' groups') :
    Adds (text ++ text') (separators ++ separators') (groups ++ groups') := by
  intro inner outer closed
  rw [List.foldl_append, h, h', List.append_assoc, List.append_assoc]

theorem plain {c : Char} (h : ∀ s, Scan.read s c = s) : Adds [c] [] [] := by
  intro inner outer closed
  rw [List.foldl_cons, List.foldl_nil, Scan.step, h, List.append_nil, List.append_nil]

theorem separator {c : Char} (h : isSeparator c) : Adds [c] [c] [] := by
  intro inner outer closed
  simp only [isSeparator, Bool.or_eq_true, decide_eq_true_eq] at h
  rcases h with rfl | rfl <;> simp only [List.append_nil] <;> rfl

theorem join {join : String} (h : IsJoin join) : Adds join.toList join.toList [] := by
  obtain ⟨c, hc, rfl⟩ := h.exists_separator
  rw [String.toList_singleton]
  exact separator hc

theorem word (h : text.all isWordChar) : Adds text [] [] := by
  induction text with
  | nil => exact nil
  | cons c text ih =>
      rw [List.all_cons, Bool.and_eq_true] at h
      have hread : ∀ s, Scan.read s c = s := fun s => Scan.read_of_isWordChar h.1
      exact (plain hread).append (ih h.2)

theorem parenthesized (h : Adds text separators groups) :
    Adds ('(' :: (text ++ [')'])) [] (groups ++ [separators]) := by
  intro inner outer closed
  have hopen : Scan.step ⟨none, inner :: outer, closed⟩ '(' =
      ⟨none, [] :: inner :: outer, closed⟩ := rfl
  rw [List.foldl_cons, hopen, List.foldl_append, h, List.nil_append, List.append_nil,
    ← List.append_assoc]
  rfl

theorem foldl_step_of_not_mem {ending : Char} {groups closed : List (List Char)}
    (h : ending ∉ text) : text.foldl Scan.step ⟨some ending, groups, closed⟩ =
      ⟨some ending, groups, closed⟩ := by
  induction text with
  | nil => rfl
  | cons c text ih =>
      rw [List.mem_cons, not_or] at h
      simp only [List.foldl_cons, Scan.step, Ne.symm h.1, ↓reduceIte]
      exact ih h.2

theorem enclosed {opening closing : Char} (h : IsEnclosed opening closing text)
    (hopen : ∀ groups closed, Scan.step ⟨none, groups, closed⟩ opening =
      ⟨some closing, groups, closed⟩) : Adds text [] [] := by
  obtain ⟨body, hbody, rfl⟩ := h
  intro inner outer closed
  rw [List.foldl_cons, hopen, List.foldl_append, foldl_step_of_not_mem hbody, List.foldl_cons,
    List.foldl_nil, List.append_nil, List.append_nil]
  simp only [Scan.step, ↓reduceIte]

theorem intercalate {α : Type} {join joined : List Char} {joinedGroups : List (List Char)}
    (hj : Adds join joined joinedGroups) {items : List α} {f g : α → List Char}
    {k : α → List (List Char)} (h : ∀ a ∈ items, Adds (f a) (g a) (k a)) :
    Adds (join.intercalate (items.map f)) (joined.intercalate (items.map g))
      (joinedGroups.intercalate (items.map k)) := by
  induction items with
  | nil => exact nil
  | cons a items ih =>
      have ha := h a List.mem_cons_self
      have hitems := ih fun b hb => h b (List.mem_cons_of_mem _ hb)
      simp only [List.map_cons]
      by_cases hn : items = []
      · simpa only [hn, List.map_nil, List.intercalate_singleton] using ha
      · rw [List.intercalate_cons_of_ne_nil (by simpa using hn),
          List.intercalate_cons_of_ne_nil (by simpa using hn),
          List.intercalate_cons_of_ne_nil (by simpa using hn)]
        exact (ha.append hj).append hitems

theorem separators_eq (h : Adds text separators groups) (h' : Adds text separators' groups') :
    separators = separators' := by
  have hscan : separators = separators' ∧ groups = groups' := by
    simpa using (h [] [] []).symm.trans (h' [] [] [])
  exact hscan.1

end Adds

/-- The separators that the text has outside all of its parentheses and brackets. -/
def Separates (text : String) (separators : List Char) : Prop :=
  ∃ groups, Adds text.toList separators groups

namespace Separates

variable {text text' : String} {separators separators' : List Char}

theorem append (h : Separates text separators) (h' : Separates text' separators') :
    Separates (text ++ text') (separators ++ separators') := by
  obtain ⟨groups, hadds⟩ := h
  obtain ⟨groups', hadds'⟩ := h'
  refine ⟨groups ++ groups', ?_⟩
  rw [String.toList_append]
  exact hadds.append hadds'

theorem after (hp : Adds text.toList [] []) (h : Separates text' separators) :
    Separates (text ++ text') separators :=
  append ⟨[], hp⟩ h

theorem parenthesized (h : Separates text separators) : Separates (wrap true text) [] := by
  obtain ⟨groups, hadds⟩ := h
  refine ⟨groups ++ [separators], ?_⟩
  rw [toList_wrap]
  exact hadds.parenthesized

theorem intercalate {α : Type} {join : String} {joined : List Char} (hj : Separates join joined)
    {items : List α} {f : α → String} {g : α → List Char}
    (h : ∀ a ∈ items, Separates (f a) (g a)) :
    Separates (join.intercalate (items.map f)) (joined.intercalate (items.map g)) := by
  obtain ⟨joinedGroups, hj⟩ := hj
  choose! k hk using h
  refine ⟨joinedGroups.intercalate (items.map k), ?_⟩
  rw [String.toList_intercalate, List.map_map]
  exact hj.intercalate hk

theorem eq (h : Separates text separators) (h' : Separates text separators') :
    separators = separators' := by
  obtain ⟨_, hadds⟩ := h
  obtain ⟨_, hadds'⟩ := h'
  exact hadds.separators_eq hadds'

end Separates

def Unmixed (separators : List Char) : Prop := ∀ c ∈ separators, ∀ d ∈ separators, c = d

theorem unmixed_nil : Unmixed [] := fun _ h => nomatch h

theorem unmixed_of_forall_eq {separators : List Char} {e : Char} (h : ∀ c ∈ separators, c = e) :
    Unmixed separators :=
  fun c hc d hd => (h c hc).trans (h d hd).symm

/-- The text adds the separators to the group that it stands in, and exactly if `kept` no group in
it is mixed. -/
def Scans (text : String) (separators : List Char) (kept : Prop) : Prop :=
  ∃ groups, Adds text.toList separators groups ∧ ((∀ g ∈ groups, Unmixed g) ↔ kept)

namespace Scans

variable {text text' : String} {separators separators' : List Char} {kept kept' : Prop}

theorem congr (h : Scans text separators kept) (hk : kept ↔ kept') :
    Scans text separators kept' := by
  obtain ⟨groups, hadds, hgroups⟩ := h
  exact ⟨groups, hadds, hgroups.trans hk⟩

theorem of_adds (h : Adds text.toList [] []) : Scans text [] True :=
  ⟨[], h, iff_of_true (fun _ hg => nomatch hg) trivial⟩

theorem append (h : Scans text separators kept) (h' : Scans text' separators' kept') :
    Scans (text ++ text') (separators ++ separators') (kept ∧ kept') := by
  obtain ⟨groups, hadds, hgroups⟩ := h
  obtain ⟨groups', hadds', hgroups'⟩ := h'
  refine ⟨groups ++ groups', ?_, ?_⟩
  · rw [String.toList_append]
    exact hadds.append hadds'
  · rw [List.forall_mem_append, hgroups, hgroups']

theorem after (hp : Adds text.toList [] []) (h : Scans text' separators kept) :
    Scans (text ++ text') separators kept :=
  ((of_adds hp).append h).congr (by simp)

theorem parenthesized (h : Scans text separators kept) :
    Scans (wrap true text) [] (kept ∧ Unmixed separators) := by
  obtain ⟨groups, hadds, hgroups⟩ := h
  refine ⟨groups ++ [separators], ?_, ?_⟩
  · rw [toList_wrap]
    exact hadds.parenthesized
  · rw [List.forall_mem_append, hgroups, List.forall_mem_singleton]

theorem separates (h : Scans text separators kept) : Separates text separators := by
  obtain ⟨groups, hadds, -⟩ := h
  exact ⟨groups, hadds⟩

theorem intercalate {α : Type} {join : String} (hj : IsJoin join) {items : List α}
    {f : α → String} {g : α → List Char} {p : α → Prop}
    (h : ∀ a ∈ items, Scans (f a) (g a) (p a)) :
    Scans (join.intercalate (items.map f)) (join.toList.intercalate (items.map g))
      (∀ a ∈ items, p a) := by
  choose! k hk hkept using h
  refine ⟨List.intercalate [] (items.map k), ?_, ?_⟩
  · rw [String.toList_intercalate, List.map_map]
    exact (Adds.join hj).intercalate hk
  · rw [← forall₂_congr hkept]
    simp only [mem_intercalate_iff, List.not_mem_nil, and_false, false_or, List.mem_map]
    constructor
    · exact fun h a ha g hg => h g ⟨k a, ⟨a, ha, rfl⟩, hg⟩
    · rintro h g ⟨_, ⟨a, ha, rfl⟩, hg⟩
      exact h a ha g hg

theorem wrap (h : Scans text separators kept) (parens : Bool)
    (hp : parens = false → separators = []) :
    Scans (wrap parens text) [] (kept ∧ Unmixed separators) := by
  cases parens with
  | true => exact h.parenthesized
  | false =>
      have hnil := hp rfl
      subst hnil
      exact h.congr (by simp [unmixed_nil])

theorem wrap_intercalate {α : Type} {join : String} (hj : IsJoin join) {items : List α}
    {f : α → String} {p : α → Prop} (h : ∀ a ∈ items, Scans (f a) [] (p a)) {parens : Bool}
    (hp : 1 < items.length → parens) :
    Scans (FullText.wrap parens (join.intercalate (items.map f))) [] (∀ a ∈ items, p a) := by
  obtain ⟨c, hc, hjoin⟩ := hj.exists_separator
  have hmem : ∀ d ∈ join.toList.intercalate (items.map fun _ => []),
      1 < items.length ∧ d = c := by
    intro d hd
    rcases mem_intercalate_iff.mp hd with ⟨hl, hd⟩ | ⟨text, ht, hd⟩
    · rw [hjoin, String.toList_singleton, List.mem_singleton] at hd
      exact ⟨by simpa using hl, hd⟩
    · obtain ⟨a, -, rfl⟩ := List.mem_map.mp ht
      exact nomatch hd
  have hwrap := (intercalate hj h).wrap parens fun hf =>
    List.eq_nil_iff_forall_not_mem.mpr fun d hd => by simp [hp (hmem d hd).1] at hf
  exact hwrap.congr (and_iff_left (unmixed_of_forall_eq fun d hd => (hmem d hd).2))

theorem separatorsIn_iff (h : Scans text separators kept) :
    (∀ g ∈ separatorsIn text, Unmixed g) ↔ kept ∧ Unmixed separators := by
  obtain ⟨groups, hadds, hgroups⟩ := h
  rw [separatorsIn, hadds, List.nil_append, List.nil_append, List.forall_mem_append, hgroups,
    List.forall_mem_singleton]

end Scans

end FullText
