import FullText.Index.Info
import FullText.Proofs.Aggregation.Page

namespace FullText

open Reading

namespace Reply

variable {r s : Reply}

/-- The second list is the first one with more elements at its end. -/
inductive Lengthens : Reply → Reply → Prop
  | array (items : List Reply) {more : List Reply} (nonempty : more ≠ []) :
      Lengthens (.array items) (.array (items ++ more))
  | set (items : List Reply) {more : List Reply} (nonempty : more ≠ []) :
      Lengthens (.set items) (.set (items ++ more))

/-- One of the lists in a list is lengthened. -/
inductive LengthensOne : Reply → Reply → Prop
  | array (before after : List Reply) {a b : Reply} (h : Lengthens a b) :
      LengthensOne (.array (before ++ a :: after)) (.array (before ++ b :: after))
  | set (before after : List Reply) {a b : Reply} (h : Lengthens a b) :
      LengthensOne (.set (before ++ a :: after)) (.set (before ++ b :: after))

theorem Lengthens.asList_eq {items : List Reply} (h : Lengthens r s) (hr : r.asList = .ok items) :
    ∃ more, s.asList = .ok (items ++ more) := by
  cases h with
  | array _ _ =>
      obtain rfl := Except.ok.inj hr
      exact ⟨_, rfl⟩
  | set _ _ =>
      obtain rfl := Except.ok.inj hr
      exact ⟨_, rfl⟩

theorem LengthensOne.asList_eq (h : LengthensOne r s) : ∃ before a b after, Lengthens a b ∧
    r.asList = .ok (before ++ a :: after) ∧ s.asList = .ok (before ++ b :: after) := by
  cases h with
  | array before after hab => exact ⟨before, _, _, after, hab, rfl, rfl⟩
  | set before after hab => exact ⟨before, _, _, after, hab, rfl, rfl⟩

end Reply

variable {r s : Reply}

theorem RowPage.readPage_lengthened {items : List Reply} {page : RowPage} (h : r.Lengthens s)
    (hr : r.asList = .ok items) (htwo : items.length = 2) :
    readPage s = .ok page ↔ readPage r = .ok page := by
  have hread {r first second : Reply} {more : List Reply}
      (h : r.asList = .ok (first :: second :: more)) : readPage r = .ok page ↔
        ∃ plain cursor, readRows first = .ok plain ∧ IsCursor cursor (some second) ∧
          page = { plain with cursor } := by
    refine readPage_eq_ok_iff.trans ⟨?_, fun hpage => ⟨first, _, Reply.asList_eq_ok_iff.mp h, hpage⟩⟩
    rintro ⟨first', rest, hlist, hpage⟩
    rw [Reply.asList_eq_ok_iff.mpr hlist, Except.ok.injEq, List.cons.injEq] at h
    obtain ⟨rfl, rfl⟩ := h
    exact hpage
  obtain ⟨first, second, rfl⟩ := List.length_eq_two.mp htwo
  obtain ⟨more, hs⟩ := h.asList_eq hr
  exact (hread hs).trans (hread hr).symm

theorem readOption_eq_ok_iff {option : String × Option String} : readOption r = .ok option ↔
    ∃ name value rest, r.asList = .ok (name :: value :: rest) ∧ name.asText = .ok option.1 ∧
      value.orNil Reply.asText = .ok option.2 := by
  obtain ⟨option, text⟩ := option
  simp only [readOption, bind_eq_ok_iff, run_pair_eq_ok_iff]
  constructor
  · rintro ⟨items, hitems, name, value, rest, rfl, hread⟩
    exact ⟨name, value, rest, hitems, hread⟩
  · rintro ⟨name, value, rest, hitems, hread⟩
    exact ⟨_, hitems, name, value, rest, rfl, hread⟩

theorem readOption_lengthened {option : String × Option String} (h : r.Lengthens s)
    (hr : readOption r = .ok option) : readOption s = .ok option := by
  obtain ⟨name, value, rest, hitems, hread⟩ := readOption_eq_ok_iff.mp hr
  obtain ⟨more, hs⟩ := h.asList_eq hitems
  exact readOption_eq_ok_iff.mpr ⟨name, value, rest ++ more, hs, hread⟩

theorem readOptions_eq_ok_iff {table : Table (Option String)} : readOptions r = .ok table ↔
    ∃ items options, r.asList = .ok items ∧
      List.Forall₂ (fun item option => readOption item = .ok option) items options ∧
      .ofList options = table := by
  simp only [readOptions, bind_eq_ok_iff, mapM_eq_ok_iff, pure, Except.pure, Except.ok.injEq]
  constructor
  · rintro ⟨items, hitems, options, hoptions, rfl⟩
    exact ⟨items, options, hitems, hoptions, rfl⟩
  · rintro ⟨items, options, hitems, hoptions, rfl⟩
    exact ⟨items, hitems, options, hoptions, rfl⟩

theorem forall₂_replace {α β : Type} {R : α → β → Prop} {before after : List α} {a a' : α}
    {bs : List β} (h : List.Forall₂ R (before ++ a :: after) bs) (hab : ∀ b, R a b → R a' b) :
    List.Forall₂ R (before ++ a' :: after) bs := by
  induction before generalizing bs with
  | nil =>
      cases h with
      | cons ha hafter => exact .cons (hab _ ha) hafter
  | cons _ before ih =>
      cases h with
      | cons hfirst hrest => exact .cons hfirst (ih hrest)

theorem readOptions_lengthened {table : Table (Option String)} (h : r.LengthensOne s)
    (hr : readOptions r = .ok table) : readOptions s = .ok table := by
  obtain ⟨before, a, b, after, hab, hritems, hsitems⟩ := h.asList_eq
  obtain ⟨items, options, hitems, hoptions, htable⟩ := readOptions_eq_ok_iff.mp hr
  rw [hritems, Except.ok.injEq] at hitems
  subst items
  have hlengthened := forall₂_replace hoptions fun _ => readOption_lengthened hab
  exact readOptions_eq_ok_iff.mpr ⟨_, options, hsitems, hlengthened, htable⟩

/-- With more elements behind the second one, a page is refused exactly if it is refused without them,
and options that are accepted are never refused. What is accepted gives the same as without them. -/
theorem read_lengthened (r s : Reply) :
    (r.Lengthens s → (∃ items, r.asList = .ok items ∧ items.length = 2) →
      (∀ page, RowPage.read true s = .ok page ↔ RowPage.read true r = .ok page) ∧
      ((∃ cause, RowPage.read true s = .error (.mismatch cause)) ↔
        ¬ ∃ page, RowPage.read true r = .ok page)) ∧
    (r.LengthensOne s → ∀ table, readOptions r = .ok table → readOptions s = .ok table) := by
  refine ⟨fun h htwo => ?_, fun h table => readOptions_lengthened h⟩
  obtain ⟨items, hr, htwo⟩ := htwo
  have hpage (page : RowPage) : RowPage.read true s = .ok page ↔ RowPage.read true r = .ok page :=
    RowPage.readPage_lengthened h hr htwo
  refine ⟨hpage, ?_⟩
  rw [← exists_congr hpage]
  constructor
  · rintro ⟨cause, hs⟩ ⟨page, hs'⟩
    rw [hs] at hs'
    cases hs'
  · intro hrefused
    cases hs : RowPage.read true s with
    | ok page => exact absurd ⟨page, hs⟩ hrefused
    | error e =>
        obtain ⟨cause, rfl⟩ := RowPage.failsByMismatch_read true s e hs
        exact ⟨cause, rfl⟩

/-- The last page of an aggregation, which found nothing. -/
def emptyPage : List Reply := [.array [.int 0], .int 0]

def timeoutOption : List Reply := [.bulkText "TIMEOUT", .bulkText "500"]

theorem read_lengthened_emptyPage :
    let page : RowPage := ⟨0, [], none⟩
    let table : Table (Option String) := .ofList [("TIMEOUT", some "500")]
    (RowPage.read true (.array emptyPage) = .ok page ∧
      RowPage.read true (.array (emptyPage ++ [.int 1])) = .ok page) ∧
    readOptions (.set [.array timeoutOption]) = .ok table ∧
      readOptions (.set [.array (timeoutOption ++ [.nil])]) = .ok table := by
  intro page table
  have hpage : RowPage.read true (.array emptyPage) = .ok page := rfl
  have htable : readOptions (.set [.array timeoutOption]) = .ok table := rfl
  obtain ⟨hpages, -⟩ := read_lengthened (.array emptyPage) (.array (emptyPage ++ [.int 1]))
  obtain ⟨-, hoptions⟩ :=
    read_lengthened (.set [.array timeoutOption]) (.set [.array (timeoutOption ++ [.nil])])
  have hread := (hpages (.array _ (by simp)) ⟨emptyPage, rfl, rfl⟩).1 page
  exact ⟨⟨hpage, hread.mpr hpage⟩, htable, hoptions (.set [] [] (.array _ (by simp))) table htable⟩

/-- No element too many is refused. -/
theorem not_mismatch_emptyPage :
    (∃ page, RowPage.read true (.array emptyPage) = .ok page) ∧
    (¬ ∃ cause, RowPage.read true (.array (emptyPage ++ [.int 1])) = .error (.mismatch cause)) ∧
    (∃ table, readOptions (.array [.array timeoutOption]) = .ok table) ∧
    ¬ ∃ cause, readOptions (.array [.array (timeoutOption ++ [.bulkText "junk"])]) =
      .error (.mismatch cause) := by
  refine ⟨⟨⟨0, [], none⟩, rfl⟩, ?_, ⟨.ofList [("TIMEOUT", some "500")], rfl⟩, ?_⟩
  · rintro ⟨cause, h⟩
    cases h
  · rintro ⟨cause, h⟩
    cases h

end FullText
