import FullText.Proofs.Query.Separators

namespace FullText

/-- What a query text says: one value of a field, several scalars of a field, or several parts. -/
inductive Outline
  | one (field value : String)
  | several (field join : String) (values : List String)
  | group (join : String) (parts : List Outline)

namespace Outline

def readWord (text : List Char) : Option (String × List Char) :=
  let word := text.takeWhile isWordChar
  if word.isEmpty then none else some (String.ofList word, text.dropWhile isWordChar)

def readEnclosed (opening closing : Char) (text : List Char) : Option (String × List Char) :=
  match text.dropWhile (· ≠ closing) with
  | [] => none
  | _ :: rest =>
    some (String.ofList (opening :: (text.takeWhile (· ≠ closing) ++ [closing])), rest)

def readValue : List Char → Option (String × List Char)
  | '[' :: text => readEnclosed '[' ']' text
  | '\x7b' :: text => readEnclosed '\x7b' '\x7d' text
  | text => readWord text

section Lists

variable {α : Type} (item : List Char → Option (α × List Char))

/-- Items with one separator between them, up to the parenthesis that closes the list. -/
def readRest (separator : Char) : Nat → List Char → Option (List α × List Char)
  | 0, _ => none
  | fuel + 1, text => do
    let (first, text) ← item text
    match text with
    | [] => none
    | c :: text =>
      if c = ')' then return ([first], text)
      else if c = separator then
        let (more, text) ← readRest separator fuel text
        return (first :: more, text)
      else none

/-- Two or more items, where the first separator decides on the others. -/
def readSeveral (text : List Char) : Option ((String × List α) × List Char) := do
  let (first, text) ← item text
  match text with
  | [] => none
  | c :: text =>
    if isSeparator c then
      let (more, text) ← readRest item c text.length text
      return ((String.singleton c, first :: more), text)
    else none

end Lists

def readOf (field : String) : List Char → Option (Outline × List Char)
  | '(' :: text => do
    let ((join, values), text) ← readSeveral readWord text
    return (several field join values, text)
  | text => do
    let (value, text) ← readValue text
    return (one field value, text)

/-- A clause whose groups are nested less than `fuel` deep. -/
def readClause : Nat → List Char → Option (Outline × List Char)
  | 0, _ => none
  | fuel + 1, '(' :: text => do
    let ((join, parts), text) ← readSeveral (readClause fuel) text
    return (group join parts, text)
  | _ + 1, '@' :: text => do
    let (field, text) ← readWord text
    match text with
    | ':' :: text => readOf field text
    | _ => none
  | _ + 1, _ => none

def read (text : String) : Option Outline :=
  match readClause text.length text.toList with
  | some (outline, []) => some outline
  | _ => none

def EndsWord (rest : List Char) : Prop := ∀ c ∈ rest.head?, isWordChar c = false

theorem endsWord_nil : EndsWord [] := fun _ hc => nomatch hc

theorem endsWord_cons {c : Char} (h : isWordChar c = false) (rest : List Char) :
    EndsWord (c :: rest) := by
  intro d hd
  cases hd
  exact h

theorem endsWord_separator {c : Char} (h : isSeparator c) (rest : List Char) :
    EndsWord (c :: rest) := by
  refine endsWord_cons ?_ rest
  cases hc : isWordChar c with
  | false => rfl
  | true => exact absurd h (by simp [isSeparator_eq_false hc])

theorem EndsWord.takeWhile_eq {rest : List Char} (h : EndsWord rest) :
    rest.takeWhile isWordChar = [] := by
  cases rest with
  | nil => rfl
  | cons c rest => exact List.takeWhile_cons_of_neg (by simp [h c rfl])

theorem EndsWord.dropWhile_eq {rest : List Char} (h : EndsWord rest) :
    rest.dropWhile isWordChar = rest := by
  cases rest with
  | nil => rfl
  | cons c rest => exact List.dropWhile_cons_of_neg (by simp [h c rfl])

theorem readWord_append {word : String} (h : IsWord word) {rest : List Char}
    (hr : EndsWord rest) : readWord (word.toList ++ rest) = some (word, rest) := by
  have hchars : ∀ c ∈ word.toList, isWordChar c := fun c hc => h.isWordChar hc
  rw [readWord, List.takeWhile_append_of_pos hchars, List.dropWhile_append_of_pos hchars,
    hr.takeWhile_eq, hr.dropWhile_eq, List.append_nil]
  simp [h.toList_ne_nil, String.ofList_toList]

theorem readEnclosed_append {opening closing : Char} {body : List Char} (h : closing ∉ body)
    (rest : List Char) : readEnclosed opening closing (body ++ closing :: rest) =
      some (String.ofList (opening :: (body ++ [closing])), rest) := by
  have hbody : ∀ c ∈ body, decide (c ≠ closing) = true := by
    intro c hc
    exact decide_eq_true fun he => h (he ▸ hc)
  rw [readEnclosed, List.takeWhile_append_of_pos hbody, List.dropWhile_append_of_pos hbody]
  simp

theorem readValue_append {v : Value} (h : v.IsWorded) {rest : List Char} (hr : EndsWord rest) :
    readValue (v.text.toList ++ rest) = some (v.text, rest) := by
  cases hc : v.isCombinable with
  | true =>
      have hword := Value.isWord_text h hc
      obtain ⟨c, cs, htext, hchar⟩ := hword.exists_cons
      rw [← readWord_append hword hr, htext, List.cons_append, readValue]
      · intro text he
        cases he
        exact absurd hchar (by decide)
      · intro text he
        cases he
        exact absurd hchar (by decide)
  | false =>
      rcases Value.isEnclosed_text h hc with ⟨body, hbody, htext⟩ | ⟨body, hbody, htext⟩
      · rw [htext, List.cons_append, List.append_assoc, List.singleton_append, readValue,
          readEnclosed_append hbody, ← htext, String.ofList_toList]
      · rw [htext, List.cons_append, List.append_assoc, List.singleton_append, readValue,
          readEnclosed_append hbody, ← htext, String.ofList_toList]

theorem length_le_length_intercalate {α : Type} (a : α) (texts : List (List α)) :
    texts.length ≤ ([a].intercalate texts).length + 1 := by
  induction texts with
  | nil => exact Nat.zero_le _
  | cons text texts ih =>
      by_cases hn : texts = []
      · simp [hn]
      · rw [List.intercalate_cons_of_ne_nil hn]
        simp only [List.length_cons, List.length_append, List.length_nil]
        omega

variable {α β : Type} {item : List Char → Option (α × List Char)} {items : List β}
  {f : β → List Char} {g : β → α}

theorem readRest_intercalate {separator : Char} (hs : isSeparator separator)
    (h : ∀ b ∈ items, ∀ rest, EndsWord rest → item (f b ++ rest) = some (g b, rest))
    (nonempty : items ≠ []) {fuel : Nat} (hfuel : items.length ≤ fuel) (rest : List Char) :
    readRest item separator fuel ([separator].intercalate (items.map f) ++ ')' :: rest) =
      some (items.map g, rest) := by
  have hclose : separator ≠ ')' := by
    rintro rfl
    exact absurd hs (by decide)
  induction items generalizing fuel with
  | nil => exact absurd rfl nonempty
  | cons b items ih =>
      obtain ⟨fuel, rfl⟩ := Nat.exists_eq_add_of_le' (Nat.le_trans (Nat.succ_pos _) hfuel)
      have hb := h b List.mem_cons_self
      by_cases hn : items = []
      · subst hn
        have hfirst := hb (')' :: rest) (endsWord_cons (by decide) rest)
        simp only [List.map_cons, List.map_nil, List.intercalate_singleton, readRest, hfirst,
          Option.bind_eq_bind, Option.bind_some, ↓reduceIte]
        rfl
      · have hmap : items.map f ≠ [] := by simpa using hn
        have hfirst := hb (separator :: ([separator].intercalate (items.map f) ++ ')' :: rest))
          (endsWord_separator hs _)
        have hmore := ih (fun b hb => h b (List.mem_cons_of_mem _ hb)) hn
          (Nat.le_of_succ_le_succ hfuel)
        rw [List.map_cons, List.intercalate_cons_of_ne_nil hmap, List.append_assoc,
          List.append_assoc, List.singleton_append]
        simp only [readRest, hfirst, Option.bind_eq_bind, Option.bind_some, hclose, ↓reduceIte,
          hmore]
        rfl

theorem readSeveral_intercalate {join : String} (hj : IsJoin join)
    (h : ∀ b ∈ items, ∀ rest, EndsWord rest → item (f b ++ rest) = some (g b, rest))
    (hl : 1 < items.length) (rest : List Char) :
    readSeveral item (join.toList.intercalate (items.map f) ++ ')' :: rest) =
      some ((join, items.map g), rest) := by
  obtain ⟨c, hc, rfl⟩ := hj.exists_separator
  rw [String.toList_singleton]
  cases items with
  | nil => nomatch hl
  | cons b items =>
      have hn : items ≠ [] := List.length_pos_iff.mp (Nat.lt_of_succ_lt_succ hl)
      have hmap : items.map f ≠ [] := by simpa using hn
      have hfirst := h b List.mem_cons_self
        (c :: ([c].intercalate (items.map f) ++ ')' :: rest)) (endsWord_separator hc _)
      have hlength : items.length ≤ ([c].intercalate (items.map f) ++ ')' :: rest).length := by
        have hle := length_le_length_intercalate c (items.map f)
        rw [List.length_map] at hle
        rw [List.length_append, List.length_cons]
        omega
      have hmore := readRest_intercalate hc (fun b hb => h b (List.mem_cons_of_mem _ hb)) hn
        hlength rest
      rw [List.map_cons, List.intercalate_cons_of_ne_nil hmap, List.append_assoc,
        List.append_assoc, List.singleton_append]
      simp only [readSeveral, hfirst, Option.bind_eq_bind, Option.bind_some, hc, ↓reduceIte, hmore]
      rfl

end Outline

end FullText
