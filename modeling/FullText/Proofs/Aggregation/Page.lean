import FullText.Aggregation.Result
import FullText.Proofs.Reply.Cursor
import FullText.Proofs.Reply.Pairs
import FullText.Proofs.Table

namespace FullText

open Reading

namespace RowPage

variable {r first : Reply} {row : Row} {page : RowPage}

/-- A list of names and values in turn, whose names can be read. -/
def IsRow (r : Reply) : Prop :=
  ∃ items, (r = .array items ∨ r = .set items) ∧ items.length % 2 = 0 ∧
    ∀ p e, p % 2 = 0 → items[p]? = some e → ∃ name, e.asText = .ok name

/-- The row has each name of the list once, with the value after the last occurrence of the name. -/
structure Keeps (entries : List (String × Reply)) (row : Row) : Prop where
  names : row.fields.names.Perm (entries.map Prod.fst).dedup
  size : row.fields.size = (entries.map Prod.fst).dedup.length
  value : ∀ name value, row.fields.get? name = some value ↔
    ∃ j, entries[j]? = some (name, value) ∧
      ∀ (i : Nat) (p : String × Reply), j < i → entries[i]? = some p → p.1 ≠ name

def HoldsRow (r : Reply) (row : Row) : Prop :=
  ∃ items entries, (r = .array items ∨ r = .set items) ∧ Reply.Lists items entries ∧
    Keeps entries row

def IsRows (r : Reply) : Prop :=
  ∃ first rest, (r = .array (first :: rest) ∨ r = .set (first :: rest)) ∧
    (∃ n, first.asInt = .ok n ∧ 0 ≤ n) ∧ ∀ e ∈ rest, IsRow e

def HoldsRows (r : Reply) (page : RowPage) : Prop :=
  ∃ first rest, (r = .array (first :: rest) ∨ r = .set (first :: rest)) ∧
    (∃ n, first.asInt = .ok n ∧ n.toInt = page.total) ∧
    List.Forall₂ HoldsRow rest page.rows ∧ page.cursor = none

/-- The cursor that an element stands for, if there is one. An id of zero stands for none. -/
def IsCursor (cursor : Option Nat) : Option Reply → Prop
  | none => cursor = none
  | some e =>
    ∃ n, e.asInt = .ok n ∧ 0 ≤ n ∧ cursor = if n = 0 then none else some n.toInt.toNat

theorem keeps_ofList (entries : List (String × Reply)) : Keeps entries ⟨.ofList entries⟩ where
  names := Table.names_ofList_perm entries
  size := by
    rw [← Table.length_names]
    exact (Table.names_ofList_perm entries).length_eq
  value := fun _ _ => Table.get?_ofList_eq_some_iff

theorem readRow_eq_ok_iff : readRow r = .ok row ↔
    ∃ items entries, (r = .array items ∨ r = .set items) ∧ Reply.Lists items entries ∧
      row = ⟨.ofList entries⟩ := by
  simp only [readRow, bind_eq_ok_iff, Reply.asPairs_eq_ok_iff, Reply.asList_eq_ok_iff, pure,
    Except.pure, Except.ok.injEq]
  constructor
  · rintro ⟨_, ⟨items, hlist, heven, rfl⟩, entries, hentries, rfl⟩
    exact ⟨items, entries, hlist, (Reply.mapM_asEntry_eq_ok_iff heven).mp hentries, rfl⟩
  · rintro ⟨items, entries, hlist, hlists, rfl⟩
    have heven : items.length % 2 = 0 := by
      rw [hlists.length, Nat.mul_mod_right]
    exact ⟨_, ⟨items, hlist, heven, rfl⟩, entries,
      (Reply.mapM_asEntry_eq_ok_iff heven).mpr hlists, rfl⟩

theorem holdsRow_of_readRow (h : readRow r = .ok row) : HoldsRow r row := by
  obtain ⟨items, entries, hlist, hlists, rfl⟩ := readRow_eq_ok_iff.mp h
  exact ⟨items, entries, hlist, hlists, keeps_ofList entries⟩

theorem exists_readRow_iff : (∃ row, readRow r = .ok row) ↔ IsRow r := by
  simp only [readRow_eq_ok_iff]
  constructor
  · rintro ⟨_, items, entries, hlist, hlists, -⟩
    exact ⟨items, hlist, Reply.exists_lists_iff.mp ⟨entries, hlists⟩⟩
  · rintro ⟨items, hlist, hnames⟩
    obtain ⟨entries, hlists⟩ := Reply.exists_lists_iff.mpr hnames
    exact ⟨_, items, entries, hlist, hlists, rfl⟩

theorem failsByMismatch_readRow (r : Reply) : FailsByMismatch (readRow r) :=
  (Reply.failsByMismatch_asPairs Mismatch.oddRow r).bind fun pairs =>
    (FailsByMismatch.mapM Reply.failsByMismatch_asEntry pairs).bind fun _ => .ok _

theorem readRows_eq_ok_iff : readRows r = .ok page ↔
    ∃ first rest, (r = .array (first :: rest) ∨ r = .set (first :: rest)) ∧
      first.asTotal = .ok page.total ∧
      List.Forall₂ (fun e row => readRow e = .ok row) rest page.rows ∧ page.cursor = none := by
  simp only [readRows, bind_eq_ok_iff, Reply.asList_eq_ok_iff, Prod.exists, run_first_eq_ok_iff,
    mapM_eq_ok_iff]
  constructor
  · rintro ⟨_, hlist, total, rest, ⟨first, rfl, htotal⟩, rows, hrows, hpage⟩
    obtain rfl := Except.ok.inj hpage
    exact ⟨first, rest, hlist, htotal, hrows, rfl⟩
  · obtain ⟨total, rows, cursor⟩ := page
    rintro ⟨first, rest, hlist, htotal, hrows, rfl⟩
    exact ⟨_, hlist, total, rest, ⟨first, rfl, htotal⟩, rows, hrows, rfl⟩

theorem holdsRows_of_readRows (h : readRows r = .ok page) : HoldsRows r page := by
  obtain ⟨first, rest, hlist, htotal, hrows, hcursor⟩ := readRows_eq_ok_iff.mp h
  exact ⟨first, rest, hlist, Reply.asTotal_eq_ok_iff.mp htotal,
    hrows.imp fun _ _ => holdsRow_of_readRow, hcursor⟩

theorem exists_readRows_iff : (∃ page, readRows r = .ok page) ↔ IsRows r := by
  constructor
  · rintro ⟨page, h⟩
    obtain ⟨first, rest, hlist, htotal, hrows, -⟩ := readRows_eq_ok_iff.mp h
    refine ⟨first, rest, hlist, Reply.exists_asTotal_iff.mp ⟨_, htotal⟩, fun e he => ?_⟩
    exact exists_readRow_iff.mp (exists_mapM_eq_ok_iff.mp ⟨_, mapM_eq_ok_iff.mpr hrows⟩ e he)
  · rintro ⟨first, rest, hlist, htotal, hrows⟩
    obtain ⟨total, htotal⟩ := Reply.exists_asTotal_iff.mpr htotal
    obtain ⟨rows, hrows⟩ :=
      exists_mapM_eq_ok_iff.mpr fun e he => exists_readRow_iff.mpr (hrows e he)
    exact ⟨⟨total, rows, none⟩, readRows_eq_ok_iff.mpr
      ⟨first, rest, hlist, htotal, mapM_eq_ok_iff.mp hrows, rfl⟩⟩

theorem readCursor_eq_ok_iff {e : Reply} {cursor : Option Nat} :
    readCursor e = .ok cursor ↔ IsCursor cursor (some e) := by
  simp only [readCursor, bind_eq_ok_iff, IsCursor]
  refine exists_congr fun n => and_congr_right fun _ => ?_
  by_cases hneg : n < 0
  · simp [hneg, Int64.not_le.mpr hneg]
  · simp [hneg, Int64.not_lt.mp hneg, eq_comm]

theorem readPage_eq_ok_iff : readPage r = .ok page ↔
    ∃ first rest, (r = .array (first :: rest) ∨ r = .set (first :: rest)) ∧
      ∃ plain cursor, readRows first = .ok plain ∧ IsCursor cursor rest.head? ∧
        page = { plain with cursor } := by
  simp only [readPage, bind_eq_ok_iff, Reply.asList_eq_ok_iff, Prod.exists, run_first_eq_ok_iff]
  constructor
  · rintro ⟨_, hlist, plain, rest, ⟨first, rfl, hplain⟩, hpage⟩
    refine ⟨first, rest, hlist, plain, page.cursor, hplain, ?_⟩
    cases rest with
    | nil =>
        obtain rfl := Except.ok.inj hpage
        obtain ⟨-, -, -, -, -, hcursor⟩ := readRows_eq_ok_iff.mp hplain
        exact ⟨hcursor, rfl⟩
    | cons e rest =>
        obtain ⟨cursor, hcursor, hpage⟩ := bind_eq_ok_iff.mp hpage
        obtain rfl := Except.ok.inj hpage
        exact ⟨readCursor_eq_ok_iff.mp hcursor, rfl⟩
  · rintro ⟨first, rest, hlist, plain, cursor, hplain, hcursor, rfl⟩
    refine ⟨_, hlist, plain, rest, ⟨first, rfl, hplain⟩, ?_⟩
    cases rest with
    | nil =>
        obtain ⟨-, -, -, -, -, hnone⟩ := readRows_eq_ok_iff.mp hplain
        obtain rfl : cursor = plain.cursor := Eq.trans hcursor hnone.symm
        rfl
    | cons e rest =>
        exact bind_eq_ok_iff.mpr ⟨cursor, readCursor_eq_ok_iff.mpr hcursor, rfl⟩

theorem failsByMismatch_readRows (r : Reply) : FailsByMismatch (readRows r) :=
  (Reply.failsByMismatch_asList r).bind fun items =>
    (failsByMismatch_run_first Reply.failsByMismatch_asTotal items).bind fun p =>
      (FailsByMismatch.mapM failsByMismatch_readRow p.2).bind fun _ => .ok _

theorem failsByMismatch_readCursor (r : Reply) : FailsByMismatch (readCursor r) := by
  refine (Reply.failsByMismatch_asInt r).bind fun id => ?_
  split
  · exact .mismatch _
  · exact .ok _

theorem failsByMismatch_read (paged : Bool) (r : Reply) : FailsByMismatch (read paged r) := by
  cases paged with
  | false => exact failsByMismatch_readRows r
  | true =>
      refine (Reply.failsByMismatch_asList r).bind fun items => ?_
      refine (failsByMismatch_run_first failsByMismatch_readRows items).bind fun ⟨page, rest⟩ => ?_
      cases rest with
      | nil => exact .ok page
      | cons e _ => exact (failsByMismatch_readCursor e).bind fun _ => .ok _

theorem not_readRows_of_readPage {plain : RowPage} (hpage : readPage r = .ok page) :
    readRows r ≠ .ok plain := by
  intro hplain
  obtain ⟨first, rest, hlist, _, -, hrows, -⟩ := readPage_eq_ok_iff.mp hpage
  obtain ⟨first', rest', hlist', htotal, -⟩ := readRows_eq_ok_iff.mp hplain
  have hsame := Reply.asList_eq_ok_iff.mpr hlist
  rw [Reply.asList_eq_ok_iff.mpr hlist', Except.ok.injEq, List.cons.injEq] at hsame
  obtain ⟨n, hn, -⟩ := Reply.asTotal_eq_ok_iff.mp htotal
  obtain ⟨_, _, hfirst, -⟩ := readRows_eq_ok_iff.mp hrows
  exact Reply.asInt_ne_ok_of_asList (Reply.asList_eq_ok_iff.mpr hfirst) n (hsame.1 ▸ hn)

/-- Rows are read exactly from a list of a count and rows, and hold what stands there. With a cursor
they stand first in a list of one or two elements, where the second is the id of the cursor. No reply
can be read both ways, and a reply that cannot be read is refused by a mismatch. -/
theorem read_exactly (r : Reply) :
    ((∃ page, read false r = .ok page) ↔ IsRows r) ∧
    (∀ page, read false r = .ok page → HoldsRows r page) ∧
    (∀ (first : Reply) (second : Option Reply) (page : RowPage),
      (r = .array (first :: second.toList) ∨ r = .set (first :: second.toList)) →
      (read true r = .ok page ↔ ∃ plain cursor, read false first = .ok plain ∧
        IsCursor cursor second ∧ page = { plain with cursor })) ∧
    ¬ ((∃ page, read false r = .ok page) ∧ ∃ page, read true r = .ok page) ∧
    ∀ paged e, read paged r = .error e → ∃ cause, e = .mismatch cause := by
  refine ⟨exists_readRows_iff, fun page => holdsRows_of_readRows, ?_, ?_, ?_⟩
  · intro first second page hlist
    refine readPage_eq_ok_iff.trans ⟨?_, fun h => ⟨first, second.toList, hlist, ?_⟩⟩
    · rintro ⟨first', rest, hlist', h⟩
      have hsame := Reply.asList_eq_ok_iff.mpr hlist'
      rw [Reply.asList_eq_ok_iff.mpr hlist, Except.ok.injEq, List.cons.injEq] at hsame
      obtain ⟨rfl, rfl⟩ := hsame
      rwa [Option.head?_toList] at h
    · rwa [Option.head?_toList]
  · rintro ⟨⟨plain, hplain⟩, page, hpage⟩
    exact not_readRows_of_readPage hpage hplain
  · exact fun paged => failsByMismatch_read paged r

/-- Rows of which one has a name twice, the second time with a list under it. -/
def repeatedName : Reply :=
  .set [.bulkText " 2", .array [.bulkText "k", .nil, .int 5, .okay, .simple "k", .array [.nil]]]

theorem read_exactly_repeatedName :
    let plain : RowPage := ⟨2, [⟨⟨[("k", .array [.nil]), ("5", .okay)]⟩⟩], none⟩
    let paged : Reply := .array [repeatedName, .bulkText " +7"]
    read false repeatedName = .ok plain ∧ HoldsRows repeatedName plain ∧
      (paged = .array (repeatedName :: (some (.bulkText " +7")).toList) ∨
        paged = .set (repeatedName :: (some (.bulkText " +7")).toList)) ∧
      read true paged = .ok { plain with cursor := some 7 } ∧
      read true repeatedName = .error (.mismatch (.notAList (.bulkText " 2"))) ∧
      ∃ cause, Error.mismatch (.notAList (.bulkText " 2")) = .mismatch cause := by
  intro plain paged
  have hplain : read false repeatedName = .ok plain := rfl
  have hrefused : read true repeatedName = .error (.mismatch (.notAList (.bulkText " 2"))) := rfl
  obtain ⟨-, hholds, -, -, hmismatch⟩ := read_exactly repeatedName
  obtain ⟨-, -, hpaged, -⟩ := read_exactly paged
  refine ⟨hplain, hholds plain hplain, .inl rfl, ?_, hrefused, hmismatch true _ hrefused⟩
  exact (hpaged repeatedName (some (.bulkText " +7")) _ (.inl rfl)).mpr
    ⟨plain, some 7, hplain, ⟨7, rfl, by decide, rfl⟩, rfl⟩

end RowPage

end FullText
