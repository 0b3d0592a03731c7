import FullText.Proofs.Reply.Coercion

namespace FullText.Reply

theorem getElem?_pairUp (items : List Reply) (j : Nat) (a b : Reply) :
    (pairUp items)[j]? = some (a, b) ↔ items[2 * j]? = some a ∧ items[2 * j + 1]? = some b := by
  induction items using pairUp.induct generalizing j with
  | case1 c d rest ih =>
      cases j with
      | zero => simp [pairUp]
      | succ j => simp [pairUp, ih, Nat.mul_succ]
  | case2 items h =>
      rcases items with _ | ⟨c, _ | ⟨d, rest⟩⟩
      · simp [pairUp]
      · simp [pairUp]
      · exact absurd rfl (h c d rest)

theorem length_pairUp (items : List Reply) : (pairUp items).length = items.length / 2 := by
  induction items using pairUp.induct with
  | case1 a b rest ih =>
      simp only [pairUp, List.length_cons, ih]
      omega
  | case2 items h =>
      rcases items with _ | ⟨c, _ | ⟨d, rest⟩⟩
      · rfl
      · simp [pairUp]
      · exact absurd rfl (h c d rest)

theorem asPairs_eq_ok_iff {odd : Nat → Mismatch} {r : Reply} {pairs : List (Reply × Reply)} :
    r.asPairs odd = .ok pairs ↔
      ∃ items, r.asList = .ok items ∧ items.length % 2 = 0 ∧ pairs = pairUp items := by
  rw [asPairs, bind_eq_ok_iff]
  refine exists_congr fun items => and_congr_right fun _ => ?_
  by_cases h : items.length % 2 = 0 <;> simp [h, eq_comm]

theorem forall₂_pairUp_iff {γ : Type} (P : Reply → Reply → γ → Prop) {items : List Reply}
    (heven : items.length % 2 = 0) {cs : List γ} :
    List.Forall₂ (fun p c => P p.1 p.2 c) (pairUp items) cs ↔
      items.length = 2 * cs.length ∧ ∀ j c, cs[j]? = some c →
        ∃ a b, items[2 * j]? = some a ∧ items[2 * j + 1]? = some b ∧ P a b c := by
  rw [forall₂_iff_getElem?, length_pairUp]
  refine ⟨fun ⟨hlength, h⟩ => ⟨by omega, fun j c hc => ?_⟩,
    fun ⟨hlength, h⟩ => ⟨by omega, fun j p c hp hc => ?_⟩⟩
  · have hj : j < (pairUp items).length := by
      rw [length_pairUp, hlength]
      exact (List.getElem?_eq_some_iff.mp hc).1
    have hp := List.getElem?_eq_getElem hj
    obtain ⟨ha, hb⟩ := (getElem?_pairUp items j _ _).mp hp
    exact ⟨_, _, ha, hb, h j _ c hp hc⟩
  · obtain ⟨a, b, ha, hb, hP⟩ := h j c hc
    rw [(getElem?_pairUp items j a b).mpr ⟨ha, hb⟩, Option.some.injEq] at hp
    exact hp ▸ hP

theorem asEntry_eq_ok_iff {pair : Reply × Reply} {entry : String × Reply} :
    asEntry pair = .ok entry ↔ pair.1.asText = .ok entry.1 ∧ pair.2 = entry.2 := by
  obtain ⟨name, value⟩ := entry
  simp only [asEntry, bind_eq_ok_iff, pure, Except.pure, Except.ok.injEq, Prod.mk.injEq]
  constructor
  · rintro ⟨name, hname, rfl, hvalue⟩
    exact ⟨hname, hvalue⟩
  · rintro ⟨hname, hvalue⟩
    exact ⟨name, hname, rfl, hvalue⟩

theorem asEntry_eq_error_iff {pair : Reply × Reply} {e : Error} :
    asEntry pair = .error e ↔ pair.1.asText = .error e := by
  rw [asEntry, ← map_eq_pure_bind, map_eq_error_iff]

theorem exists_asEntry_iff {pair : Reply × Reply} :
    (∃ entry, asEntry pair = .ok entry) ↔ ∃ name, pair.1.asText = .ok name := by
  simp [asEntry_eq_ok_iff]

theorem getElem?_of_mapM_asEntry {pairs : List (Reply × Reply)} {entries : List (String × Reply)}
    (h : pairs.mapM asEntry = .ok entries) {j : Nat} {name : String} {value : Reply} :
    entries[j]? = some (name, value) ↔
      ∃ key, pairs[j]? = some (key, value) ∧ key.asText = .ok name := by
  obtain ⟨hlength, hentry⟩ := forall₂_iff_getElem?.mp (mapM_eq_ok_iff.mp h)
  constructor
  · intro hj
    have hbound := (List.getElem?_eq_some_iff.mp hj).1
    have hp := List.getElem?_eq_getElem (hlength ▸ hbound : j < pairs.length)
    obtain ⟨hname, rfl⟩ := asEntry_eq_ok_iff.mp (hentry j _ _ hp hj)
    exact ⟨_, hp, hname⟩
  · rintro ⟨key, hp, hname⟩
    have hbound := (List.getElem?_eq_some_iff.mp hp).1
    have hj := List.getElem?_eq_getElem (hlength ▸ hbound : j < entries.length)
    have hread : asEntry (key, value) = .ok (name, value) := asEntry_eq_ok_iff.mpr ⟨hname, rfl⟩
    rw [hj, Except.ok.inj ((hentry j _ _ hp hj).symm.trans hread)]

theorem failsByMismatch_asEntry (pair : Reply × Reply) : FailsByMismatch (asEntry pair) :=
  (failsByMismatch_asText pair.1).bind fun name => .ok (name, pair.2)

/-- The entries of a list that has names and values in turn. -/
structure Lists (items : List Reply) (entries : List (String × Reply)) : Prop where
  length : items.length = 2 * entries.length
  entry : ∀ j name value, entries[j]? = some (name, value) →
    ∃ e, items[2 * j]? = some e ∧ e.asText = .ok name ∧ items[2 * j + 1]? = some value

theorem mapM_asEntry_eq_ok_iff {items : List Reply} (heven : items.length % 2 = 0)
    {entries : List (String × Reply)} :
    (pairUp items).mapM asEntry = .ok entries ↔ Lists items entries := by
  simp only [mapM_eq_ok_iff, asEntry_eq_ok_iff]
  refine (forall₂_pairUp_iff
    (fun a b (p : String × Reply) => a.asText = .ok p.1 ∧ b = p.2) heven).trans ⟨?_, ?_⟩
  · rintro ⟨hlength, h⟩
    refine ⟨hlength, fun j name value hentry => ?_⟩
    obtain ⟨a, b, ha, hb, hname, rfl⟩ := h j _ hentry
    exact ⟨a, ha, hname, hb⟩
  · rintro ⟨hlength, h⟩
    refine ⟨hlength, fun j p hentry => ?_⟩
    obtain ⟨a, ha, hname, hb⟩ := h j p.1 p.2 hentry
    exact ⟨a, p.2, ha, hb, hname, rfl⟩

theorem exists_lists_iff {items : List Reply} :
    (∃ entries, Lists items entries) ↔ items.length % 2 = 0 ∧
      ∀ p e, p % 2 = 0 → items[p]? = some e → ∃ name, e.asText = .ok name := by
  constructor
  · rintro ⟨entries, hlength, hentry⟩
    refine ⟨by omega, fun p e hp he => ?_⟩
    have hj : p / 2 < entries.length := by
      have hbound := (List.getElem?_eq_some_iff.mp he).1
      omega
    obtain ⟨e', he', hname, -⟩ := hentry (p / 2) _ _ (List.getElem?_eq_getElem hj)
    rw [show 2 * (p / 2) = p by omega, he, Option.some.injEq] at he'
    exact ⟨_, he' ▸ hname⟩
  · rintro ⟨heven, hnames⟩
    have hpairs : ∀ pair ∈ pairUp items, ∃ entry, asEntry pair = .ok entry := by
      rintro ⟨a, b⟩ hab
      obtain ⟨j, hj⟩ := List.mem_iff_getElem?.mp hab
      obtain ⟨name, hname⟩ := hnames _ a (by omega) ((getElem?_pairUp items j a b).mp hj).1
      exact ⟨(name, b), asEntry_eq_ok_iff.mpr ⟨hname, rfl⟩⟩
    obtain ⟨entries, hentries⟩ := exists_mapM_eq_ok_iff.mpr hpairs
    exact ⟨entries, (mapM_asEntry_eq_ok_iff heven).mp hentries⟩

end FullText.Reply
