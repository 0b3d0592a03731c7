import FullText.Index.Info
import FullText.Proofs.Aggregation.Cell
import FullText.Proofs.Aggregation.Page
import FullText.Proofs.Reply.Alike
import FullText.Proofs.Search.Document
import FullText.Proofs.Suggestion.Layout

namespace FullText

open Reading
open Reply (Alike Respects)

theorem Reply.agree_asEntry (p q : Reply × Reply) (h : AlikePair p q) :
    Agree (fun e f => e.1 = f.1 ∧ Alike e.2 f.2) (asEntry p) (asEntry q) :=
  (respects_asText _ _ h.1).bind_same fun _ => .ok ⟨rfl, h.2⟩

namespace SearchResult

theorem agree_readEntry (p q : Reply × Reply) (h : Reply.AlikePair p q) :
    Agree Eq (readEntry p) (readEntry q) :=
  (Reply.respects_asText _ _ h.1).bind_same fun _ =>
    (Reply.respects_orNil Reply.respects_asBytes _ _ h.2).bind_same fun _ => .refl _

theorem respects_readProperties (asText : Bool) : Respects Eq (readProperties asText) := by
  intro r s h
  have hentries : Agree Eq (readEntries r) (readEntries s) := by
    by_cases hr : r = .nil
    · rw [hr, h.eq_nil_iff.mp hr]
      exact .refl _
    · rw [readEntries_of_ne_nil hr, readEntries_of_ne_nil (mt h.eq_nil_iff.mpr hr)]
      exact (Reply.respects_asPairs _ r s h).bind fun _ _ => .mapM_same agree_readEntry
  rw [readProperties_eq, readProperties_eq]
  exact hentries.map fun _ _ => congrArg _

theorem inStep_readDocument (s : Shape) (asText : Bool) :
    InStep Eq (readDocument s asText) (readDocument s asText) := by
  rw [readDocument_eq]
  refine (InStep.nextAs Reply.respects_asText).bind_same fun id => ?_
  refine (InStep.nextIf Reply.respects_asNumber _ _).bind_same fun score => ?_
  refine (InStep.nextIf (Reply.respects_orNil Reply.respects_asBytes) _ _).bind_same
    fun payload => ?_
  refine (InStep.nextIf (respects_readProperties asText) _ _).bind_same fun properties => ?_
  exact .pure rfl

theorem respects_read (s : Shape) (asText : Bool) : Respects Eq (read s asText) := by
  intro r r' h
  refine (Reply.respects_asList r r' h).bind fun _ _ => InStep.run ?_
  refine (InStep.nextAs Reply.respects_asTotal).bind_same fun total => ?_
  refine (InStep.expectStride s.stride).bind_same fun n => ?_
  exact (inStep_readDocument s asText).records_same n |>.bind_same fun documents => .pure rfl

end SearchResult

namespace Lookup

theorem inStep_readSuggestion (l : Lookup) : InStep Eq l.readSuggestion l.readSuggestion := by
  rw [readSuggestion_eq]
  refine (InStep.nextAs Reply.respects_asText).bind_same fun text => ?_
  refine (InStep.nextIf Reply.respects_asNumber _ _).bind_same fun score => ?_
  refine (InStep.nextIf (Reply.respects_orNil Reply.respects_asText) _ _).bind_same
    fun payload => ?_
  exact .pure rfl

theorem respects_read (l : Lookup) : Respects Eq l.read := by
  intro r s h
  by_cases hr : r = .nil
  · rw [hr, h.eq_nil_iff.mp hr]
    exact .refl _
  · rw [read_of_ne_nil hr, read_of_ne_nil (mt h.eq_nil_iff.mpr hr)]
    refine (Reply.respects_asList r s h).bind fun _ _ => InStep.run ?_
    exact (InStep.expectStride l.stride).bind_same l.inStep_readSuggestion.records_same

end Lookup

theorem respects_readOption : Respects Eq readOption := by
  intro r s h
  refine (Reply.respects_asList r s h).bind fun _ _ => InStep.run ?_
  refine (InStep.nextAs Reply.respects_asText).bind_same fun name => ?_
  refine (InStep.nextAs (Reply.respects_orNil Reply.respects_asText)).bind_same fun value => ?_
  exact .pure rfl

theorem respects_readOptions : Respects Eq readOptions := by
  intro r s h
  refine (Reply.respects_asList r s h).bind fun _ _ hitems => ?_
  exact (Agree.mapM_same respects_readOption hitems).bind_same fun _ => .refl _

namespace Row

/-- The rows have the same names, and what is read under a name is the same. -/
structure Same (row row' : Row) : Prop where
  names : row.fields.names = row'.fields.names
  text : ∀ name, Agree Eq (row.text name) (row'.text name)
  int : ∀ name, Agree Eq (row.int name) (row'.int name)
  number : ∀ name, Agree Eq (row.number name) (row'.number name)

theorem agree_getAs {read : Reply → Except Error α} (h : Respects Eq read) (default : α)
    {row row' : Row} (hrow : row.fields.Pointwise Alike row'.fields) (name : String) :
    Agree Eq (row.getAs read default name) (row'.getAs read default name) := by
  have hvalue {v w : Option Reply} (hvw : Option.Rel Alike v w) :
      Agree Eq (v.elim (.ok none) (Reply.orNil read)) (w.elim (.ok none) (Reply.orNil read)) := by
    cases hvw with
    | none => exact .refl _
    | some hrs => exact Reply.respects_orNil h _ _ hrs
  rw [getAs_eq, getAs_eq]
  exact (hvalue (hrow.get? name)).map fun _ _ => congrArg (Option.getD · default)

theorem same_of_pointwise {row row' : Row} (h : row.fields.Pointwise Alike row'.fields) :
    row.Same row' where
  names := h.names_eq
  text := agree_getAs Reply.respects_asText _ h
  int := agree_getAs Reply.respects_asInt _ h
  number name := by
    rw [number_eq_getAs, number_eq_getAs]
    exact agree_getAs Reply.respects_asNumber _ h name

end Row

namespace RowPage

structure Same (page page' : RowPage) : Prop where
  total : page.total = page'.total
  rows : List.Forall₂ Row.Same page.rows page'.rows
  cursor : page.cursor = page'.cursor

theorem respects_readRow : Respects Row.Same readRow := by
  intro r s h
  refine (Reply.respects_asPairs _ r s h).bind fun ps qs hpairs => ?_
  refine (Agree.mapM Reply.agree_asEntry hpairs).bind fun es fs hentries => ?_
  exact .ok (Row.same_of_pointwise (Table.pointwise_ofList hentries))

theorem respects_readRows : Respects Same readRows := by
  intro r s h
  refine (Reply.respects_asList r s h).bind fun as bs hitems => ?_
  refine ((InStep.first Reply.respects_asTotal).run hitems).bind fun p q ⟨htotal, hrest⟩ => ?_
  exact (Agree.mapM respects_readRow hrest).bind fun _ _ hrows => .ok ⟨htotal, hrows, rfl⟩

theorem respects_readCursor : Respects Eq readCursor :=
  fun r s h => (Reply.respects_asInt r s h).bind_same fun _ => .refl _

theorem respects_readPage : Respects Same readPage := by
  intro r s h
  refine (Reply.respects_asList r s h).bind fun as bs hitems => ?_
  refine ((InStep.first respects_readRows).run hitems).bind ?_
  rintro ⟨page, rest⟩ ⟨page', rest'⟩ ⟨hpage, hrest⟩
  cases hrest with
  | nil => exact .ok hpage
  | cons hid _ =>
      exact (respects_readCursor _ _ hid).bind_same fun _ => .ok ⟨hpage.total, hpage.rows, rfl⟩

theorem respects_read (paged : Bool) : Respects Same (read paged) := by
  cases paged with
  | false => exact respects_readRows
  | true => exact respects_readPage

end RowPage

namespace Reply

/-- Alike replies are both refused, or the same is read of them. -/
theorem agree_of_alike {r s : Reply} (h : r.Alike s) :
    (∀ shape asText,
      Agree Eq (SearchResult.read shape asText r) (SearchResult.read shape asText s)) ∧
    (∀ l : Lookup, Agree Eq (l.read r) (l.read s)) ∧
    Agree Eq (readOptions r) (readOptions s) ∧
    ∀ paged, Agree RowPage.Same (RowPage.read paged r) (RowPage.read paged s) :=
  ⟨fun shape asText => SearchResult.respects_read shape asText r s h,
    fun l => l.respects_read r s h, respects_readOptions r s h,
    fun paged => RowPage.respects_read paged r s h⟩

/-- One row, and the same in other forms. Its number is one that 53 bits do not hold. -/
def longNumber : Reply := .array [.int 1, .array [.bulkText "n", .int 9007199254740993]]

def longNumberAsText : Reply :=
  .set [.bulkText "1", .set [.simple "n", .verbatim .text "9007199254740993"]]

theorem agree_of_alike_longNumber :
    let row : Row := ⟨⟨[("n", .int 9007199254740993)]⟩⟩
    let row' : Row := ⟨⟨[("n", .verbatim .text "9007199254740993")]⟩⟩
    Alike longNumber longNumberAsText ∧
      RowPage.read false longNumber = .ok ⟨1, [row], none⟩ ∧
      RowPage.read false longNumberAsText = .ok ⟨1, [row'], none⟩ ∧
      Agree RowPage.Same (RowPage.read false longNumber) (RowPage.read false longNumberAsText) ∧
      row.int "n" = .ok 9007199254740993 ∧ row'.int "n" = .ok 9007199254740993 ∧
      Agree Eq (row.number "n") (row'.number "n") := by
  intro row row'
  have hcount : Alike (.int 1) (.bulkText "1") := .textual rfl rfl rfl rfl
  have hname : Alike (.bulkText "n") (.simple "n") := .textual rfl rfl rfl rfl
  have hvalue : Alike (.int 9007199254740993) (.verbatim .text "9007199254740993") :=
    .textual rfl rfl rfl rfl
  have hfields := Alike.lists (.inl rfl) (.inr rfl) (.cons hname (.cons hvalue .nil))
  have h := Alike.lists (.inl rfl) (.inr rfl) (.cons hcount (.cons hfields .nil))
  obtain ⟨-, -, -, hpages⟩ := agree_of_alike h
  have hpage : Agree RowPage.Same (.ok ⟨1, [row], none⟩) (.ok ⟨1, [row'], none⟩) := hpages false
  cases hpage with
  | ok hpage =>
      cases hpage.rows with
      | cons hrow _ => exact ⟨h, rfl, rfl, hpages false, rfl, rfl, hrow.number "n"⟩

end Reply

end FullText
