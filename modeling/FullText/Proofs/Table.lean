import FullText.Table
import Mathlib.Data.List.Dedup
import Mathlib.Data.List.Induction
import Mathlib.Data.List.Nodup

namespace FullText.Table

variable {α : Type}

def names (t : Table α) : List String := t.entries.map Prod.fst

theorem lookup_pair (name other : String) (value : α) (es : List (String × α)) :
    ((name, value) :: es).lookup other = if other = name then some value else es.lookup other := by
  rw [List.lookup_cons]
  by_cases h : other = name
  · simp [h]
  · rw [beq_false_of_ne h, if_neg h]

theorem lookup_map {β : Type} (f : α → β) (es : List (String × α)) (name : String) :
    (es.map fun e => (e.1, f e.2)).lookup name = (es.lookup name).map f := by
  induction es with
  | nil => rfl
  | cons e es ih =>
      rw [List.map_cons, lookup_pair, ih, ← Prod.eta e, lookup_pair]
      split <;> rfl

theorem lookup_insertEntry (name : String) (value : α) (es : List (String × α)) (other : String) :
    (insertEntry name value es).lookup other =
      if other = name then some value else es.lookup other := by
  induction es with
  | nil => exact lookup_pair name other value []
  | cons e es ih =>
      obtain ⟨n, v⟩ := e
      by_cases hn : n = name
      · subst n
        simp only [insertEntry, if_true, lookup_pair]
        by_cases h : other = name <;> simp [h]
      · simp only [insertEntry, hn, if_false, lookup_pair, ih]
        by_cases h : other = name
        · subst other
          simp [Ne.symm hn]
        · simp [h]

theorem get?_insert (t : Table α) (name : String) (value : α) (other : String) :
    (t.insert name value).get? other = if other = name then some value else t.get? other :=
  lookup_insertEntry name value t.entries other

theorem map_fst_insertEntry (name : String) (value : α) (es : List (String × α)) :
    (insertEntry name value es).map Prod.fst =
      if name ∈ es.map Prod.fst then es.map Prod.fst else es.map Prod.fst ++ [name] := by
  induction es with
  | nil => simp [insertEntry]
  | cons e es ih =>
      by_cases hn : e.1 = name
      · simp [insertEntry, hn]
      · by_cases hm : name ∈ es.map Prod.fst <;>
          simp_all [insertEntry, Ne.symm hn]

theorem names_insert (t : Table α) (name : String) (value : α) :
    (t.insert name value).names = if name ∈ t.names then t.names else t.names ++ [name] :=
  map_fst_insertEntry name value t.entries

theorem nodup_names_insert {t : Table α} (ht : t.names.Nodup) (name : String) (value : α) :
    (t.insert name value).names.Nodup := by
  rw [names_insert]
  split
  next => exact ht
  next hm =>
    have hfresh : ∀ a ∈ t.names, ∀ b ∈ [name], a ≠ b := by
      intro a ha b hb hab
      rw [List.mem_singleton.mp hb] at hab
      exact hm (hab ▸ ha)
    exact List.nodup_append.mpr ⟨ht, List.nodup_singleton name, hfresh⟩

theorem ofList_concat (pairs : List (String × α)) (p : String × α) :
    ofList (pairs ++ [p]) = (ofList pairs).insert p.1 p.2 := by
  simp [ofList]

theorem get?_ofList (pairs : List (String × α)) (name : String) :
    (ofList pairs).get? name = pairs.reverse.lookup name := by
  induction pairs using List.reverseRecOn with
  | nil => rfl
  | append_singleton pairs p ih =>
      rw [ofList_concat, get?_insert, ih, List.reverse_append, List.reverse_singleton,
        List.singleton_append, lookup_pair]

theorem nodup_names_ofList (pairs : List (String × α)) : (ofList pairs).names.Nodup := by
  induction pairs using List.reverseRecOn with
  | nil => exact List.nodup_nil
  | append_singleton pairs p ih =>
      rw [ofList_concat]
      exact nodup_names_insert ih p.1 p.2

theorem mem_names_ofList (pairs : List (String × α)) (name : String) :
    name ∈ (ofList pairs).names ↔ name ∈ pairs.map Prod.fst := by
  induction pairs using List.reverseRecOn with
  | nil => exact Iff.rfl
  | append_singleton pairs p ih =>
      rw [ofList_concat, names_insert, List.map_append, List.mem_append, ← ih]
      by_cases hp : p.1 ∈ (ofList pairs).names <;> simp [hp]
      rintro rfl
      exact hp

theorem names_ofList_perm (pairs : List (String × α)) :
    (ofList pairs).names.Perm (pairs.map Prod.fst).dedup := by
  refine (List.perm_ext_iff_of_nodup (nodup_names_ofList pairs) (List.nodup_dedup _)).mpr ?_
  intro name
  rw [mem_names_ofList, List.mem_dedup]

/-- The names stand in the order in which they were first given. -/
theorem pairwise_idxOf_names_ofList (pairs : List (String × α)) :
    (ofList pairs).names.Pairwise fun name other =>
      (pairs.map Prod.fst).idxOf name < (pairs.map Prod.fst).idxOf other := by
  induction pairs using List.reverseRecOn with
  | nil => exact List.Pairwise.nil
  | append_singleton pairs p ih =>
      have hgiven : ∀ name ∈ (ofList pairs).names, name ∈ pairs.map Prod.fst := fun name =>
        (mem_names_ofList pairs name).mp
      have hplace : ∀ name ∈ (ofList pairs).names,
          ((pairs ++ [p]).map Prod.fst).idxOf name = (pairs.map Prod.fst).idxOf name := by
        intro name hname
        rw [List.map_append, List.idxOf_append_of_mem (hgiven name hname)]
      have hkept := ih.imp_of_mem fun {name other} hname hother hlt => by
        rwa [← hplace name hname, ← hplace other hother] at hlt
      rw [ofList_concat, names_insert]
      split
      next => exact hkept
      next hnew =>
        refine List.pairwise_append.mpr ⟨hkept, List.pairwise_singleton _ _, ?_⟩
        intro name hname other hother
        obtain rfl := List.mem_singleton.mp hother
        have hlast : p.1 ∉ pairs.map Prod.fst := mt (mem_names_ofList pairs p.1).mpr hnew
        rw [hplace name hname, List.map_append, List.idxOf_append_of_notMem hlast]
        exact Nat.lt_add_right _ (List.idxOf_lt_length_iff.mpr (hgiven name hname))

theorem length_names (t : Table α) : t.names.length = t.size := List.length_map _

theorem getElem?_concat_eq_some_iff {as : List α} {a b : α} {i : Nat} :
    (as ++ [a])[i]? = some b ↔ as[i]? = some b ∨ i = as.length ∧ a = b := by
  rcases Nat.lt_trichotomy i as.length with h | rfl | h
  · simp [List.getElem?_append_left h, Nat.ne_of_lt h]
  · simp
  · rw [List.getElem?_eq_none (by simp; omega), List.getElem?_eq_none (Nat.le_of_lt h)]
    simp [Nat.ne_of_gt h]

/-- Under a name stands the value that it was given at its last place. -/
theorem get?_ofList_eq_some_iff {pairs : List (String × α)} {name : String} {value : α} :
    (ofList pairs).get? name = some value ↔
      ∃ j, pairs[j]? = some (name, value) ∧
        ∀ (i : Nat) (p : String × α), j < i → pairs[i]? = some p → p.1 ≠ name := by
  induction pairs using List.reverseRecOn with
  | nil => simp [ofList, get?, empty]
  | append_singleton pairs p ih =>
      have hend {j : Nat} {q : String × α} (h : pairs[j]? = some q) : j < pairs.length :=
        (List.getElem?_eq_some_iff.mp h).1
      rw [ofList_concat, get?_insert]
      simp only [getElem?_concat_eq_some_iff]
      by_cases hp : name = p.1
      · subst hp
        rw [if_pos rfl, Option.some.injEq]
        constructor
        · rintro rfl
          refine ⟨pairs.length, .inr ⟨rfl, rfl⟩, ?_⟩
          rintro i q hi (hq | ⟨rfl, -⟩)
          · exact absurd (hend hq) (Nat.not_lt.mpr (Nat.le_of_lt hi))
          · exact absurd hi (Nat.lt_irrefl _)
        · rintro ⟨j, hj | ⟨-, hj⟩, hlast⟩
          · exact absurd rfl (hlast pairs.length p (hend hj) (.inr ⟨rfl, rfl⟩))
          · exact congrArg Prod.snd hj
      · rw [if_neg hp, ih]
        constructor
        · rintro ⟨j, hj, hlast⟩
          refine ⟨j, .inl hj, ?_⟩
          rintro i q hi (hq | ⟨-, rfl⟩)
          · exact hlast i q hi hq
          · exact Ne.symm hp
        · rintro ⟨j, hj | ⟨-, rfl⟩, hlast⟩
          · exact ⟨j, hj, fun i q hi hq => hlast i q hi (.inl hq)⟩
          · exact absurd rfl hp

theorem get?_ofList_eq_some_iff_append {pairs : List (String × α)} {name : String} {value : α} :
    (ofList pairs).get? name = some value ↔
      ∃ before after, pairs = before ++ (name, value) :: after ∧ name ∉ after.map Prod.fst := by
  rw [get?_ofList, List.lookup_eq_some_iff]
  constructor
  · rintro ⟨later, earlier, hpairs, hlater⟩
    refine ⟨earlier.reverse, later.reverse, ?_, ?_⟩
    · rw [← List.reverse_reverse pairs, hpairs]
      simp
    · simpa using fun value hv => bne_iff_ne.mp (hlater (name, value) hv) rfl
  · rintro ⟨before, after, rfl, hafter⟩
    refine ⟨after.reverse, before.reverse, by simp, fun p hp => ?_⟩
    rw [bne_iff_ne]
    rintro rfl
    exact hafter (List.mem_map_of_mem (List.mem_reverse.mp hp))

theorem mem_entries_iff {t : Table α} (ht : t.names.Nodup) (name : String) (value : α) :
    (name, value) ∈ t.entries ↔ t.get? name = some value := by
  rw [get?, List.lookup_eq_some_iff]
  constructor
  · intro h
    obtain ⟨before, after, hentries⟩ := List.append_of_mem h
    refine ⟨before, after, hentries, fun e he => ?_⟩
    rw [names, hentries, List.map_append, List.nodup_append] at ht
    have hne := ht.2.2 e.1 (List.mem_map_of_mem he) name List.mem_cons_self
    exact bne_iff_ne.mpr hne.symm
  · rintro ⟨before, after, hentries, -⟩
    rw [hentries]
    exact List.mem_append_right before List.mem_cons_self

variable {β : Type} {R : α → β → Prop}

/-- The tables have the same names in the same places, and related values under them. -/
def Pointwise (R : α → β → Prop) (t : Table α) (u : Table β) : Prop :=
  List.Forall₂ (fun e f => e.1 = f.1 ∧ R e.2 f.2) t.entries u.entries

theorem Pointwise.insert {t : Table α} {u : Table β} (h : Pointwise R t u) (name : String) {a : α}
    {b : β} (hab : R a b) : Pointwise R (t.insert name a) (u.insert name b) := by
  obtain ⟨es⟩ := t
  obtain ⟨fs⟩ := u
  change List.Forall₂ _ (insertEntry name a es) (insertEntry name b fs)
  change List.Forall₂ _ es fs at h
  induction h with
  | nil => exact .cons ⟨rfl, hab⟩ .nil
  | @cons e f es fs hef hrest ih =>
      rw [insertEntry, insertEntry, ← hef.1]
      by_cases hn : e.1 = name
      · rw [if_pos hn, if_pos hn]
        exact .cons ⟨rfl, hab⟩ hrest
      · rw [if_neg hn, if_neg hn]
        exact .cons hef ih

theorem pointwise_ofList {pairs : List (String × α)} {pairs' : List (String × β)}
    (h : List.Forall₂ (fun e f => e.1 = f.1 ∧ R e.2 f.2) pairs pairs') :
    Pointwise R (ofList pairs) (ofList pairs') := by
  have hfold {t : Table α} {u : Table β} (htu : Pointwise R t u) : Pointwise R
      (pairs.foldl (fun t p => t.insert p.1 p.2) t)
      (pairs'.foldl (fun t p => t.insert p.1 p.2) u) := by
    induction h generalizing t u with
    | nil => exact htu
    | cons hef _ ih =>
        rw [List.foldl_cons, List.foldl_cons, ← hef.1]
        exact ih (htu.insert _ hef.2)
  exact hfold .nil

theorem Pointwise.names_eq {t : Table α} {u : Table β} (h : Pointwise R t u) :
    t.names = u.names := by
  obtain ⟨es⟩ := t
  obtain ⟨fs⟩ := u
  change List.Forall₂ _ es fs at h
  change es.map Prod.fst = fs.map Prod.fst
  induction h with
  | nil => rfl
  | cons hef _ ih => rw [List.map_cons, List.map_cons, hef.1, ih]

theorem Pointwise.get? {t : Table α} {u : Table β} (h : Pointwise R t u) (name : String) :
    Option.Rel R (t.get? name) (u.get? name) := by
  obtain ⟨es⟩ := t
  obtain ⟨fs⟩ := u
  change List.Forall₂ _ es fs at h
  change Option.Rel R (es.lookup name) (fs.lookup name)
  induction h with
  | nil => exact .none
  | @cons e f _ _ hef _ ih =>
      rw [← Prod.eta e, ← Prod.eta f, lookup_pair, lookup_pair, ← hef.1]
      split
      · exact .some hef.2
      · exact ih

end FullText.Table
