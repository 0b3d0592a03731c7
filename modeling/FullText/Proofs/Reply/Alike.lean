import FullText.Proofs.Reply.Cursor
import FullText.Proofs.Reply.Number

namespace FullText

variable {α β γ δ : Type}

/-- Both fail, or both give results and these are related. -/
inductive Agree (R : α → β → Prop) : Except Error α → Except Error β → Prop
  | ok {a : α} {b : β} (h : R a b) : Agree R (.ok a) (.ok b)
  | error (e e' : Error) : Agree R (.error e) (.error e')

namespace Agree

variable {R : α → β → Prop} {S : γ → δ → Prop}

theorem refl (x : Except Error α) : Agree Eq x x := by
  cases x with
  | error e => exact .error e e
  | ok a => exact .ok rfl

theorem of_eq {x y : Except Error α} (h : x = y) : Agree Eq x y := h ▸ refl x

theorem bind {x : Except Error α} {y : Except Error β} {f : α → Except Error γ}
    {g : β → Except Error δ} (h : Agree R x y) (hf : ∀ a b, R a b → Agree S (f a) (g b)) :
    Agree S (x >>= f) (y >>= g) := by
  cases h with
  | error e e' => exact .error e e'
  | ok hab => exact hf _ _ hab

theorem bind_same {x y : Except Error α} {f : α → Except Error γ} {g : α → Except Error δ}
    (h : Agree Eq x y) (hf : ∀ a, Agree S (f a) (g a)) : Agree S (x >>= f) (y >>= g) := by
  refine h.bind fun a b hab => ?_
  rw [hab]
  exact hf b

theorem map {x : Except Error α} {y : Except Error β} {f : α → γ} {g : β → δ} (h : Agree R x y)
    (hf : ∀ a b, R a b → S (f a) (g b)) : Agree S (f <$> x) (g <$> y) := by
  cases h with
  | error e e' => exact .error e e'
  | ok hab => exact .ok (hf _ _ hab)

theorem mapM {f : α → Except Error γ} {g : β → Except Error δ}
    (hf : ∀ a b, R a b → Agree S (f a) (g b)) {as : List α} {bs : List β}
    (h : List.Forall₂ R as bs) : Agree (List.Forall₂ S) (as.mapM f) (bs.mapM g) := by
  induction h with
  | nil => exact .ok .nil
  | cons hab _ ih =>
      rw [List.mapM_cons, List.mapM_cons]
      exact (hf _ _ hab).bind fun c d hcd => ih.bind fun cs ds hs => .ok (.cons hcd hs)

theorem mapM_same {R : α → β → Prop} {f : α → Except Error γ} {g : β → Except Error γ}
    (hf : ∀ a b, R a b → Agree Eq (f a) (g b)) {as : List α} {bs : List β}
    (h : List.Forall₂ R as bs) : Agree Eq (as.mapM f) (bs.mapM g) := by
  simpa only [List.forall₂_eq_eq_eq] using mapM hf h

end Agree

namespace Reply

/-- The forms in which a text is sent, a whole number being one of them. -/
def isTextual : Reply → Bool
  | bulk _ | simple _ | verbatim _ _ | okay | int _ => true
  | _ => false

/-- The replies are the same but for the forms of the texts and of the lists in them. -/
inductive Alike : Reply → Reply → Prop
  | refl (r : Reply) : Alike r r
  | textual {r s : Reply} {bytes : ByteArray} (textualLeft : r.isTextual)
      (textualRight : s.isTextual) (left : r.asBytes = .ok bytes) (right : s.asBytes = .ok bytes) :
      Alike r s
  | lists {r s : Reply} {as bs : List Reply} (left : r = .array as ∨ r = .set as)
      (right : s = .array bs ∨ s = .set bs) (each : List.Forall₂ Alike as bs) : Alike r s

theorem asInt_of_isTextual {r : Reply} (h : r.isTextual) :
    r.asInt = r.asText >>= fun text =>
      match readInt64 text with
      | some n => .ok n
      | none => .error (Mismatch.notAnInteger text) := by
  cases r with
  | int n =>
      rw [asText_int]
      simp only [bind, Except.bind, readInt64_repr]
      rfl
  | bulk | simple | verbatim | okay => rfl
  | _ => nomatch h

theorem asNumber_of_isTextual {r : Reply} (h : r.isTextual) :
    r.asNumber = r.asText >>= readNumber := by
  cases r with
  | int n =>
      rw [asText_int]
      simp only [bind, Except.bind, readNumber, Text.trim_repr, Binary64.read_repr]
      rfl
  | bulk | simple | verbatim | okay => rfl
  | _ => simp [isTextual] at h

theorem Alike.eq_nil_iff {r s : Reply} (h : Alike r s) : r = .nil ↔ s = .nil := by
  cases h with
  | refl => rfl
  | textual hr hs =>
      refine iff_of_false ?_ ?_
      · rintro rfl
        exact nomatch hr
      · rintro rfl
        exact nomatch hs
  | lists left right => rcases left with rfl | rfl <;> rcases right with rfl | rfl <;> simp

/-- What is read from alike replies is related. -/
def Respects (R : α → α → Prop) (read : Reply → Except Error α) : Prop :=
  ∀ r s, Alike r s → Agree R (read r) (read s)

theorem respects_of_octets {read : Reply → Except Error α}
    (octets : ∀ r s : Reply, r.isTextual → s.isTextual → r.asBytes = s.asBytes → read r = read s)
    (list : ∀ (r : Reply) items, r.asList = .ok items → ∃ e, read r = .error e) :
    Respects Eq read := by
  intro r s h
  cases h with
  | refl => exact .refl _
  | textual hr hs left right => exact .of_eq (octets r s hr hs (left.trans right.symm))
  | lists left right =>
      obtain ⟨e, he⟩ := list r _ (asList_eq_ok_iff.mpr left)
      obtain ⟨e', he'⟩ := list s _ (asList_eq_ok_iff.mpr right)
      rw [he, he']
      exact .error e e'

theorem respects_asBytes : Respects Eq asBytes := by
  refine respects_of_octets (fun _ _ _ _ h => h) fun r items h => ?_
  rcases asList_eq_ok_iff.mp h with rfl | rfl <;> exact ⟨_, rfl⟩

theorem asText_congr {r s : Reply} (h : r.asBytes = s.asBytes) : r.asText = s.asText := by
  rw [asText, asText, h]

theorem respects_asText : Respects Eq asText := by
  refine respects_of_octets (fun _ _ _ _ => asText_congr) fun r items h => ?_
  rcases asList_eq_ok_iff.mp h with rfl | rfl <;> exact ⟨_, rfl⟩

theorem respects_asInt : Respects Eq asInt := by
  refine respects_of_octets (fun r s hr hs h => ?_) fun r items h => ?_
  · rw [asInt_of_isTextual hr, asInt_of_isTextual hs, asText_congr h]
  · rcases asList_eq_ok_iff.mp h with rfl | rfl <;> exact ⟨_, rfl⟩

theorem respects_asNumber : Respects Eq asNumber := by
  refine respects_of_octets (fun r s hr hs h => ?_) fun r items h => ?_
  · rw [asNumber_of_isTextual hr, asNumber_of_isTextual hs, asText_congr h]
  · rcases asList_eq_ok_iff.mp h with rfl | rfl <;> exact ⟨_, rfl⟩

theorem respects_asTotal : Respects Eq asTotal :=
  fun r s h => (respects_asInt r s h).bind_same fun _ => .refl _

theorem orNil_of_ne_nil {read : Reply → Except Error α} {r : Reply} (hr : r ≠ .nil) :
    orNil read r = some <$> read r := by
  unfold orNil
  split
  · exact absurd rfl hr
  · rfl

theorem respects_orNil {read : Reply → Except Error α} (h : Respects Eq read) :
    Respects Eq (orNil read) := by
  intro r s hrs
  by_cases hr : r = .nil
  · rw [hr, hrs.eq_nil_iff.mp hr]
    exact .refl _
  · rw [orNil_of_ne_nil hr, orNil_of_ne_nil (mt hrs.eq_nil_iff.mpr hr)]
    exact (h r s hrs).map fun _ _ => congrArg some

theorem respects_asList : Respects (List.Forall₂ Alike) asList := by
  intro r s h
  have htextual {r : Reply} (hr : r.isTextual) : ∃ e, r.asList = .error e := by
    cases r with
    | bulk | simple | verbatim | okay | int => exact ⟨_, rfl⟩
    | _ => nomatch hr
  cases h with
  | refl =>
      cases r.asList with
      | error e => exact .error e e
      | ok items => exact .ok (List.forall₂_same.mpr fun item _ => .refl item)
  | textual hr hs =>
      obtain ⟨e, he⟩ := htextual hr
      obtain ⟨e', he'⟩ := htextual hs
      rw [he, he']
      exact .error e e'
  | lists left right each =>
      rw [asList_eq_ok_iff.mpr left, asList_eq_ok_iff.mpr right]
      exact .ok each

def AlikePair (p q : Reply × Reply) : Prop := Alike p.1 q.1 ∧ Alike p.2 q.2

theorem forall₂_pairUp {as bs : List Reply} (h : List.Forall₂ Alike as bs) :
    List.Forall₂ AlikePair (pairUp as) (pairUp bs) := by
  induction as using pairUp.induct generalizing bs with
  | case1 a a' as ih =>
      cases h with
      | cons ha h =>
          cases h with
          | cons ha' h => exact .cons ⟨ha, ha'⟩ (ih h)
  | case2 as hshort =>
      cases h with
      | nil => exact .nil
      | cons ha h =>
          cases h with
          | nil => exact .nil
          | cons ha' h => exact absurd rfl (hshort _ _ _)

theorem respects_asPairs (odd : Nat → Mismatch) :
    Respects (List.Forall₂ AlikePair) (asPairs odd) := by
  intro r s h
  refine (respects_asList r s h).bind fun as bs hitems => ?_
  rw [hitems.length_eq]
  split
  · exact .error _ _
  · exact .ok (forall₂_pairUp hitems)

end Reply

structure Cursor.Alike (c d : Cursor) : Prop where
  position : c.position = d.position
  rest : List.Forall₂ Reply.Alike c.rest d.rest

theorem Cursor.Alike.remaining_eq {c d : Cursor} (h : c.Alike d) : c.remaining = d.remaining :=
  h.rest.length_eq

namespace Reading

/-- Over alike lists the readings give related results, and move alike. -/
def InStep (R : α → β → Prop) (x : Reading α) (y : Reading β) : Prop :=
  ∀ c d : Cursor, c.Alike d → Agree R (x c).1 (y d).1 ∧ (x c).2.Alike (y d).2

namespace InStep

theorem pure {R : α → β → Prop} {a : α} {b : β} (h : R a b) :
    InStep R (Pure.pure a) (Pure.pure b) :=
  fun _ _ hcd => ⟨.ok h, hcd⟩

theorem bind {R : α → β → Prop} {S : γ → δ → Prop} {x : Reading α} {y : Reading β}
    {f : α → Reading γ} {g : β → Reading δ} (h : InStep R x y)
    (hf : ∀ a b, R a b → InStep S (f a) (g b)) : InStep S (x >>= f) (y >>= g) := by
  intro c d hcd
  obtain ⟨hagree, hmove⟩ := h c d hcd
  obtain ⟨v, c', hx⟩ : ∃ v c', x c = (v, c') := ⟨_, _, rfl⟩
  obtain ⟨w, d', hy⟩ : ∃ w d', y d = (w, d') := ⟨_, _, rfl⟩
  rw [hx, hy] at hagree hmove
  cases hagree with
  | error e e' =>
      rw [bind_error hx, bind_error hy]
      exact ⟨.error e e', hmove⟩
  | ok hab =>
      rw [bind_ok hx, bind_ok hy]
      exact hf _ _ hab c' d' hmove

theorem bind_same {S : γ → δ → Prop} {x y : Reading α} {f : α → Reading γ} {g : α → Reading δ}
    (h : InStep Eq x y) (hf : ∀ a, InStep S (f a) (g a)) : InStep S (x >>= f) (y >>= g) := by
  refine h.bind fun a b hab => ?_
  rw [hab]
  exact hf b

theorem nextAs {R : α → α → Prop} {read : Reply → Except Error α} (h : Reply.Respects R read) :
    InStep R (nextAs read) (nextAs read) := by
  rintro ⟨p, as⟩ ⟨q, bs⟩ ⟨hpos, hrest⟩
  cases hrest with
  | nil =>
      rw [nextAs_nil, nextAs_nil]
      exact ⟨.error _ _, hpos, .nil⟩
  | cons hab hrest =>
      rw [nextAs_cons, nextAs_cons]
      exact ⟨h _ _ hab, congrArg (· + 1) hpos, hrest⟩

theorem nextIf {read : Reply → Except Error α} (h : Reply.Respects Eq read) (given : Bool)
    (default : α) : InStep Eq (nextIf given default read) (nextIf given default read) := by
  cases given with
  | false => exact pure rfl
  | true => exact nextAs h

theorem records {R : α → β → Prop} {x : Reading α} {y : Reading β} (h : InStep R x y) (n : Nat) :
    InStep (List.Forall₂ R) (records x n) (records y n) := by
  induction n with
  | zero => exact pure .nil
  | succ n ih => exact h.bind fun _ _ hab => ih.bind fun _ _ hrest => pure (.cons hab hrest)

theorem records_same {x : Reading α} (h : InStep Eq x x) (n : Nat) :
    InStep Eq (Reading.records x n) (Reading.records x n) := by
  simpa only [List.forall₂_eq_eq_eq] using h.records n

theorem expectStride (stride : Nat) :
    InStep Eq (expectStride stride) (expectStride stride) := by
  intro c d hcd
  simp only [Reading.expectStride, hcd.remaining_eq]
  split
  · exact ⟨.error _ _, hcd⟩
  · exact ⟨.ok rfl, hcd⟩

theorem remainder : InStep (List.Forall₂ Reply.Alike) remainder remainder :=
  fun _ _ hcd => ⟨.ok hcd.rest, congrArg₂ (· + ·) hcd.position hcd.remaining_eq, .nil⟩

theorem first {R : α → α → Prop} {read : Reply → Except Error α} (h : Reply.Respects R read) :
    InStep (fun p q => R p.1 q.1 ∧ List.Forall₂ Reply.Alike p.2 q.2)
      (do return (← Reading.nextAs read, ← Reading.remainder))
      (do return (← Reading.nextAs read, ← Reading.remainder)) :=
  (nextAs h).bind fun _ _ hfirst => remainder.bind fun _ _ hrest => pure ⟨hfirst, hrest⟩

theorem run {R : α → β → Prop} {x : Reading α} {y : Reading β} (h : InStep R x y)
    {as bs : List Reply} (hitems : List.Forall₂ Reply.Alike as bs) : Agree R (run x as) (run y bs) :=
  (h (.start as) (.start bs) ⟨rfl, hitems⟩).1

end InStep

end Reading

end FullText
