import FullText.Reply.Coercion
import Mathlib.Data.List.Forall2

namespace FullText

variable {α β : Type}

theorem forall₂_iff_getElem? {R : α → β → Prop} {as : List α} {bs : List β} :
    List.Forall₂ R as bs ↔ as.length = bs.length ∧
      ∀ (i : Nat) (a : α) (b : β), as[i]? = some a → bs[i]? = some b → R a b := by
  rw [List.forall₂_iff_get]
  refine and_congr_right fun _ => ⟨?_, ?_⟩
  · intro h i a b ha hb
    obtain ⟨hi, rfl⟩ := List.getElem?_eq_some_iff.mp ha
    obtain ⟨hj, rfl⟩ := List.getElem?_eq_some_iff.mp hb
    exact h i hi hj
  · intro h i hi hj
    exact h i _ _ (List.getElem?_eq_getElem hi) (List.getElem?_eq_getElem hj)

theorem bind_eq_ok_iff {x : Except Error α} {f : α → Except Error β} {b : β} :
    x >>= f = .ok b ↔ ∃ a, x = .ok a ∧ f a = .ok b := by
  cases x with
  | error e => simp [bind, Except.bind]
  | ok a => simp [bind, Except.bind]

theorem map_eq_ok_iff {x : Except Error α} {f : α → β} {b : β} :
    f <$> x = .ok b ↔ ∃ a, x = .ok a ∧ f a = b := by
  cases x with
  | error e => simp [Functor.map, Except.map]
  | ok a => simp [Functor.map, Except.map]

theorem map_eq_error_iff {x : Except Error α} {f : α → β} {e : Error} :
    f <$> x = .error e ↔ x = .error e := by
  cases x with
  | error e' => simp [Functor.map, Except.map]
  | ok a => simp [Functor.map, Except.map]

theorem mapM_eq_ok_iff {f : α → Except Error β} {as : List α} {bs : List β} :
    as.mapM f = .ok bs ↔ List.Forall₂ (fun a b => f a = .ok b) as bs := by
  induction as generalizing bs with
  | nil => simp [pure, Except.pure, eq_comm]
  | cons a as ih =>
      rw [List.mapM_cons, List.forall₂_cons_left_iff]
      cases hf : f a with
      | error e => simp [bind, Except.bind]
      | ok b =>
          cases hm : as.mapM f with
          | error e =>
              simp only [hm, bind, Except.bind] at ih ⊢
              simp [← ih]
          | ok rest =>
              simp only [hm, bind, Except.bind, pure, Except.pure, Except.ok.injEq] at ih ⊢
              simp [← ih, eq_comm]

theorem mapM_cons_eq_error_iff {f : α → Except Error β} {a : α} {as : List α} {e : Error} :
    (a :: as).mapM f = .error e ↔
      f a = .error e ∨ (∃ b, f a = .ok b) ∧ as.mapM f = .error e := by
  rw [List.mapM_cons]
  cases hf : f a with
  | error e' => simp [bind, Except.bind]
  | ok b => cases hm : as.mapM f <;> simp [bind, Except.bind, pure, Except.pure]

theorem mapM_eq_error_iff {f : α → Except Error β} {as : List α} {e : Error} :
    as.mapM f = .error e ↔ ∃ (j : Nat) (a : α), as[j]? = some a ∧ f a = .error e ∧
      ∀ (i : Nat) (b : α), i < j → as[i]? = some b → ∃ c, f b = .ok c := by
  induction as with
  | nil => simp [pure, Except.pure]
  | cons a as ih =>
      rw [mapM_cons_eq_error_iff, ih]
      constructor
      · rintro (ha | ⟨hok, j, b, hb, he, hbefore⟩)
        · exact ⟨0, a, rfl, ha, fun i _ hi => absurd hi (Nat.not_lt_zero i)⟩
        · refine ⟨j + 1, b, hb, he, fun i c hi hc => ?_⟩
          cases i with
          | zero => exact Option.some.inj hc ▸ hok
          | succ i => exact hbefore i c (Nat.lt_of_succ_lt_succ hi) hc
      · rintro ⟨j, b, hb, he, hbefore⟩
        cases j with
        | zero => exact .inl (Option.some.inj hb ▸ he)
        | succ j =>
            exact .inr ⟨hbefore 0 a (Nat.succ_pos j) rfl, j, b, hb, he,
              fun i c hi => hbefore (i + 1) c (Nat.succ_lt_succ hi)⟩

theorem mapM_map {γ : Type} (f : β → γ) (g : α → Except Error β) (as : List α) :
    (as.mapM fun a => f <$> g a) = List.map f <$> as.mapM g := by
  induction as with
  | nil => rfl
  | cons a as ih =>
      rw [List.mapM_cons, List.mapM_cons, ih]
      cases g a with
      | error e => rfl
      | ok b => cases as.mapM g <;> rfl

theorem exists_mapM_eq_ok_iff {f : α → Except Error β} {as : List α} :
    (∃ bs, as.mapM f = .ok bs) ↔ ∀ a ∈ as, ∃ b, f a = .ok b := by
  simp only [mapM_eq_ok_iff]
  induction as with
  | nil => simp
  | cons a as ih =>
      simp only [List.forall₂_cons_left_iff, List.forall_mem_cons, ← ih]
      constructor
      · rintro ⟨_, b, bs, hb, hbs, rfl⟩
        exact ⟨⟨b, hb⟩, bs, hbs⟩
      · rintro ⟨⟨b, hb⟩, bs, hbs⟩
        exact ⟨b :: bs, b, bs, hb, hbs, rfl⟩

/-- A result that is missing, if at all, for the way in which a reply is laid out. -/
def FailsByMismatch (x : Except Error α) : Prop := ∀ e, x = .error e → ∃ cause, e = .mismatch cause

namespace FailsByMismatch

theorem ok (a : α) : FailsByMismatch (.ok a) := by
  intro e h
  cases h

theorem mismatch (cause : Mismatch) : FailsByMismatch (.error cause : Except Error α) := by
  intro e h
  cases h
  exact ⟨cause, rfl⟩

theorem bind {x : Except Error α} {f : α → Except Error β} (hx : FailsByMismatch x)
    (hf : ∀ a, FailsByMismatch (f a)) : FailsByMismatch (x >>= f) := by
  cases x with
  | error e =>
      intro e' h
      cases h
      exact hx e rfl
  | ok a => exact hf a

theorem map {x : Except Error α} (hx : FailsByMismatch x) (f : α → β) :
    FailsByMismatch (f <$> x) := by
  cases x with
  | error e =>
      intro e' h
      cases h
      exact hx e rfl
  | ok a => exact ok (f a)

theorem mapM {f : α → Except Error β} (hf : ∀ a, FailsByMismatch (f a)) (as : List α) :
    FailsByMismatch (as.mapM f) := by
  induction as with
  | nil => exact ok []
  | cons a as ih =>
      rw [List.mapM_cons]
      exact bind (hf a) fun b => bind ih fun bs => ok (b :: bs)

end FailsByMismatch

namespace Utf8

theorem fromUTF8?_toUTF8 (text : String) : String.fromUTF8? text.toUTF8 = some text := by
  rw [String.toUTF8_eq_toByteArray, String.fromUTF8?, dif_pos text.isValidUTF8]
  rfl

theorem decode_toUTF8 (text : String) : decode text.toUTF8 = .ok text := by
  rw [decode, fromUTF8?_toUTF8]

end Utf8

namespace Reply

theorem asText_eq_ok {r : Reply} {text : String} (h : r.asBytes = .ok text.toUTF8) :
    r.asText = .ok text := by
  simp only [asText, h, bind, Except.bind, Utf8.decode_toUTF8]

theorem asText_bulkText (text : String) : (bulkText text).asText = .ok text := asText_eq_ok rfl

theorem asList_eq_ok_iff {r : Reply} {items : List Reply} :
    r.asList = .ok items ↔ r = .array items ∨ r = .set items := by
  cases r <;> simp [asList]

theorem asTotal_eq_ok_iff {r : Reply} {total : Nat} :
    r.asTotal = .ok total ↔ ∃ n : Int64, r.asInt = .ok n ∧ n.toInt = total := by
  cases h : r.asInt with
  | error e => simp [asTotal, h, bind, Except.bind]
  | ok n =>
      have hzero : (0 : Int64).toInt = 0 := rfl
      simp only [asTotal, h, bind, Except.bind, Except.ok.injEq, exists_eq_left',
        Int64.lt_iff_toInt_lt, hzero]
      by_cases hneg : n.toInt < 0
      · simp only [hneg, if_true, reduceCtorEq, false_iff]
        omega
      · simp only [hneg, if_false, Except.ok.injEq]
        omega

theorem exists_asTotal_iff {r : Reply} :
    (∃ total, r.asTotal = .ok total) ↔ ∃ n, r.asInt = .ok n ∧ 0 ≤ n := by
  simp only [asTotal_eq_ok_iff, Int64.le_iff_toInt_le, Int64.toInt_zero]
  constructor
  · rintro ⟨total, n, hn, htotal⟩
    exact ⟨n, hn, htotal ▸ Int.natCast_nonneg total⟩
  · rintro ⟨n, hn, hpos⟩
    exact ⟨n.toInt.toNat, n, hn, (Int.toNat_of_nonneg hpos).symm⟩

theorem asInt_ne_ok_of_asList {r : Reply} {items : List Reply} (h : r.asList = .ok items)
    (n : Int64) : r.asInt ≠ .ok n := by
  rcases asList_eq_ok_iff.mp h with rfl | rfl <;> exact nofun

theorem orNil_eq_ok_iff {read : Reply → Except Error α} (hnil : ∀ b, read .nil ≠ .ok b)
    {r : Reply} {a : Option α} :
    orNil read r = .ok a ↔ (r = .nil ∧ a = none) ∨ ∃ b, read r = .ok b ∧ a = some b := by
  cases r with
  | nil => simp [orNil, hnil, eq_comm]
  | _ =>
      simp only [orNil, reduceCtorEq, false_and, false_or]
      cases h : read _ <;> simp [Functor.map, Except.map, eq_comm]

theorem failsByMismatch_asList (r : Reply) : FailsByMismatch r.asList := by
  cases r with
  | array items | set items => exact .ok items
  | _ => exact .mismatch _

theorem failsByMismatch_asBytes (r : Reply) : FailsByMismatch r.asBytes := by
  cases r with
  | bulk | simple | verbatim | okay | int | double => exact .ok _
  | _ => exact .mismatch _

theorem failsByMismatch_asText (r : Reply) : FailsByMismatch r.asText := by
  refine (failsByMismatch_asBytes r).bind fun bytes => ?_
  cases Utf8.decode bytes with
  | ok text => exact .ok text
  | error cause => exact .mismatch _

theorem failsByMismatch_asInt (r : Reply) : FailsByMismatch r.asInt := by
  unfold asInt
  split
  next n => exact .ok n
  next =>
    refine (failsByMismatch_asText r).bind fun text => ?_
    cases readInt64 text with
    | some n => exact .ok n
    | none => exact .mismatch _

theorem failsByMismatch_readNumber (text : String) : FailsByMismatch (readNumber text) := by
  rw [readNumber]
  cases Binary64.read (Text.trim text.toList) with
  | some x => exact .ok x
  | none => exact .mismatch _

theorem failsByMismatch_asNumber (r : Reply) : FailsByMismatch r.asNumber := by
  unfold asNumber
  split
  next x => exact .ok x
  next n => exact .ok _
  next => exact (failsByMismatch_asText r).bind failsByMismatch_readNumber

theorem failsByMismatch_asTotal (r : Reply) : FailsByMismatch r.asTotal := by
  refine (failsByMismatch_asInt r).bind fun n => ?_
  split
  · exact .mismatch _
  · exact .ok _

theorem failsByMismatch_orNil {read : Reply → Except Error α}
    (hread : ∀ r, FailsByMismatch (read r)) (r : Reply) : FailsByMismatch (orNil read r) := by
  cases r with
  | nil => exact .ok none
  | _ => exact .map (hread _) some

theorem failsByMismatch_asPairs (odd : Nat → Mismatch) (r : Reply) :
    FailsByMismatch (r.asPairs odd) := by
  refine (failsByMismatch_asList r).bind fun items => ?_
  split
  · exact .mismatch _
  · exact .ok _

end Reply

end FullText
