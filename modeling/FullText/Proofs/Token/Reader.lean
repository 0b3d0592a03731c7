import FullText.Proofs.Number.Whole
import FullText.Proofs.Reply.Coercion
import FullText.Search.SortOrder

namespace FullText

namespace Numeral

def readCount (text : List Char) : Option Nat :=
  if text.isEmpty ∨ ¬ text.all isDigit then none else some (ofDigits text)

theorem readCount_repr (n : Nat) : readCount n.repr.toList = some n := by
  rw [Nat.repr, String.toList_ofList, readCount, ofDigits_toDigits, if_neg]
  simp only [List.isEmpty_iff, Nat.toDigits_ne_nil, all_isDigit_toDigits, not_true_eq_false,
    or_self, not_false_eq_true]

end Numeral

namespace Token

def text? (t : Token) : Option String := String.fromUTF8? t.bytes

def nat? (t : Token) : Option Nat := t.text?.bind fun s => Numeral.readCount s.toList

@[simp]
theorem text?_ofString (s : String) : (ofString s).text? = some s := Utf8.fromUTF8?_toUTF8 s

@[simp]
theorem nat?_ofNat (n : Nat) : (ofNat n).nat? = some n := by
  rw [nat?, ofNat, text?_ofString, Option.bind_some, Numeral.readCount_repr]

@[simp]
theorem ofString_inj {s t : String} : ofString s = ofString t ↔ s = t := by
  simp [ofString, String.toByteArray_inj]

end Token

namespace Tokens

abbrev Reader (α : Type) := StateT Tokens Option α

namespace Reader

variable {α β : Type}

def nextToken : Reader Token
  | [] => none
  | t :: ts => some (t, ts)

def nextText : Reader String := do (← nextToken).text?

def nextNat : Reader Nat := do (← nextToken).nat?

def accept (keyword : String) : Reader Bool := fun ts =>
  if ts.head? = some ↑keyword then some (true, ts.tail) else some (false, ts)

def expect (keyword : String) : Reader Unit := do guard (← accept keyword)

def clause (keyword : String) (body : Reader α) : Reader (Option α) := do
  if ← accept keyword then return some (← body) else return none

def either (first second : Reader (Option α)) : Reader (Option α) := do
  match ← first with
  | some a => return some a
  | none => second

def times (item : Reader α) : Nat → Reader (List α)
  | 0 => return []
  | n + 1 => do return (← item) :: (← times item n)

def countedTexts : Reader (List String) := do times nextText (← nextNat)

def textList (keyword : String) : Reader (List String) := do
  return (← clause keyword countedTexts).getD []

def itemsUpTo (item : Reader (Option α)) : Nat → Reader (List α)
  | 0 => return []
  | fuel + 1 => do
    match ← item with
    | none => return []
    | some a => return a :: (← itemsUpTo item fuel)

/-- Items as long as there are some. No item is without tokens, so the tokens are enough fuel. -/
def items (item : Reader (Option α)) : Reader (List α) := fun ts => itemsUpTo item ts.length ts

def unlessDone (item : Reader α) : Reader (Option α) := fun ts =>
  if ts.isEmpty then some (none, ts) else (some <$> item) ts

def whole (r : Reader α) (ts : Tokens) : Option α :=
  match r ts with
  | some (a, []) => some a
  | _ => none

end Reader

/-- There are no tokens, or they begin with one of the keywords. -/
def Opens (keywords : List String) (ts : Tokens) : Prop :=
  ∀ t ∈ ts.head?, t ∈ keywords.map Token.ofString

def Avoids (keywords : List String) (ts : Tokens) : Prop :=
  ∀ t ∈ ts.head?, t ∉ keywords.map Token.ofString

variable {keyword : String} {first stops first' stops' : List String} {ts us : Tokens}

theorem opens_nil (keywords : List String) : Opens keywords [] := fun _ ht => nomatch ht

theorem opens_cons {text : String} (h : text ∈ first) (ts : Tokens) :
    Opens first (Token.ofString text :: ts) := by
  intro t ht
  cases ht
  exact List.mem_map_of_mem h

theorem avoids_nil (keywords : List String) : Avoids keywords [] := fun _ ht => nomatch ht

theorem avoids_no_keyword (ts : Tokens) : Avoids [] ts := fun _ _ => List.not_mem_nil

theorem avoids_cons {text : String} (h : text ∉ stops) (ts : Tokens) :
    Avoids stops (Token.ofString text :: ts) := by
  intro t ht
  cases ht
  simpa using h

theorem Opens.mono (h : Opens first ts) (hsub : first ⊆ first') : Opens first' ts :=
  fun t ht => List.map_subset _ hsub (h t ht)

theorem Avoids.mono (h : Avoids stops ts) (hsub : stops' ⊆ stops) : Avoids stops' ts :=
  fun t ht hmem => h t ht (List.map_subset _ hsub hmem)

theorem Opens.append (ht : Opens first ts) (hu : Opens first' us) :
    Opens (first ++ first') (ts ++ us) := by
  cases ts with
  | nil => exact hu.mono (List.subset_append_right first first')
  | cons t ts => exact ht.mono (List.subset_append_left first first')

theorem Opens.avoids (h : Opens first ts) (hdisj : ∀ k ∈ stops, k ∉ first) : Avoids stops ts := by
  intro t ht hstop
  obtain ⟨k, hk, rfl⟩ := List.mem_map.mp hstop
  obtain ⟨l, hl, he⟩ := List.mem_map.mp (h _ ht)
  exact hdisj k hk (Token.ofString_inj.mp he ▸ hl)

theorem Opens.append_of_ne_nil (h : Opens first ts) (nonempty : ts ≠ []) (us : Tokens) :
    Opens first (ts ++ us) := by
  cases ts with
  | nil => exact absurd rfl nonempty
  | cons t ts => exact h

theorem Opens.avoids_append (h : Opens first ts) (hdisj : ∀ k ∈ stops, k ∉ first)
    (hu : Avoids stops us) : Avoids stops (ts ++ us) := by
  cases ts with
  | nil => exact hu
  | cons t ts => exact h.avoids hdisj

namespace Reader

variable {α β : Type} {r : Reader α} {a : α} {b : β}

theorem bind_eq {f : α → Reader β} (h : r ts = some (a, us)) : (r >>= f) ts = f a us := by
  change (r ts).bind (fun p => f p.1 p.2) = _
  rw [h, Option.bind_some]

theorem map_eq (f : α → β) (h : r ts = some (a, us)) : (f <$> r) ts = some (f a, us) := by
  change (r ts).bind (fun p => some (f p.1, p.2)) = _
  rw [h, Option.bind_some]

/-- The tokens are read as `a` before all that does not begin with one of the `stops`. -/
def ReadsAs (stops : List String) (r : Reader α) (ts : Tokens) (a : α) : Prop :=
  ∀ rest, Avoids stops rest → r (ts ++ rest) = some (a, rest)

theorem ReadsAs.mono (h : ReadsAs stops r ts a) (hsub : stops ⊆ stops') :
    ReadsAs stops' r ts a :=
  fun rest hrest => h rest (hrest.mono hsub)

theorem ReadsAs.bind_apply (h : ReadsAs stops r ts a) (f : α → Reader β) {rest : Tokens}
    (hrest : Avoids stops rest) : (r >>= f) (ts ++ rest) = f a rest :=
  bind_eq (h rest hrest)

theorem ReadsAs.whole_eq (h : ReadsAs stops r ts a) : whole r ts = some a := by
  have hread := h [] (avoids_nil stops)
  rw [List.append_nil] at hread
  rw [whole, hread]

theorem readsAs_pure (a : α) : ReadsAs [] (pure a) [] a := fun _ _ => rfl

theorem readsAs_lift {read : Option α} (h : read = some a) : ReadsAs [] (liftM read) [] a := by
  subst h
  exact readsAs_pure a

theorem ReadsAs.seq {f : α → Reader β} (hr : ReadsAs [] r ts a) (hf : ReadsAs stops (f a) us b) :
    ReadsAs stops (r >>= f) (ts ++ us) b := by
  intro rest hrest
  rw [List.append_assoc, hr.bind_apply f (avoids_no_keyword _)]
  exact hf rest hrest

theorem ReadsAs.stopped {f : α → Reader β} (hr : ReadsAs stops r ts a)
    (hdisj : ∀ k ∈ stops, k ∉ first') (hopens : Opens first' us) (nonempty : us ≠ [])
    (hf : ReadsAs stops' (f a) us b) : ReadsAs stops' (r >>= f) (ts ++ us) b := by
  intro rest hrest
  have hopens := hopens.append_of_ne_nil nonempty rest
  rw [List.append_assoc, hr.bind_apply f (hopens.avoids hdisj)]
  exact hf rest hrest

/-- An optional part of a command: it is empty or begins with one of `first`, and it is read as
`a` before all that does not begin with one of the `stops`. -/
structure IsPart (first stops : List String) (r : Reader α) (ts : Tokens) (a : α) : Prop where
  opens : Opens first ts
  reads : ReadsAs stops r ts a

theorem ReadsAs.part {f : α → Reader β} (hr : ReadsAs stops r ts a)
    (hdisj : ∀ k ∈ stops, k ∉ first') (hf : IsPart first' stops' (f a) us b) :
    ReadsAs (stops ++ stops') (r >>= f) (ts ++ us) b := by
  intro rest hrest
  have hleft := hrest.mono (List.subset_append_left stops stops')
  have hright := hrest.mono (List.subset_append_right stops stops')
  rw [List.append_assoc, hr.bind_apply f (hf.opens.avoids_append hdisj hleft)]
  exact hf.reads rest hright

theorem IsPart.bind {f : α → Reader β} (hr : IsPart first stops r ts a)
    (hdisj : ∀ k ∈ stops, k ∉ first') (hf : IsPart first' stops' (f a) us b) :
    IsPart (first ++ first') (stops ++ stops') (r >>= f) (ts ++ us) b :=
  ⟨hr.opens.append hf.opens, hr.reads.part hdisj hf⟩

theorem IsPart.mono (h : IsPart first stops r ts a) (hfirst : first ⊆ first')
    (hstops : stops ⊆ stops') : IsPart first' stops' r ts a :=
  ⟨h.opens.mono hfirst, h.reads.mono hstops⟩

theorem IsPart.opening (hopens : Opens first' ts) (h : IsPart first stops r ts a) :
    IsPart first' stops r ts a :=
  ⟨hopens, h.reads⟩

theorem ReadsAs.bind_pure (h : ReadsAs stops r ts a) (f : α → β) :
    ReadsAs stops (r >>= fun a => pure (f a)) ts (f a) :=
  fun rest hrest => bind_eq (h rest hrest)

theorem IsPart.bind_pure (h : IsPart first stops r ts a) (f : α → β) :
    IsPart first stops (r >>= fun a => pure (f a)) ts (f a) :=
  ⟨h.opens, h.reads.bind_pure f⟩

theorem readsAs_nextToken (t : Token) : ReadsAs [] nextToken [t] t := fun _ _ => rfl

theorem readsAs_nextText (s : String) : ReadsAs [] nextText [↑s] s := by
  intro rest _
  rw [nextText, bind_eq (readsAs_nextToken ↑s rest ‹_›), Token.text?_ofString]
  rfl

theorem readsAs_nextNat (n : Nat) : ReadsAs [] nextNat [.ofNat n] n := by
  intro rest _
  rw [nextNat, bind_eq (readsAs_nextToken (.ofNat n) rest ‹_›), Token.nat?_ofNat]
  rfl

theorem accept_cons (keyword : String) (ts : Tokens) :
    accept keyword (↑keyword :: ts) = some (true, ts) := by
  rw [accept, List.head?_cons, if_pos rfl, List.tail_cons]

theorem accept_of_avoids (h : Avoids [keyword] ts) : accept keyword ts = some (false, ts) := by
  rw [accept, if_neg]
  intro hhead
  exact h _ hhead (List.mem_singleton.mpr rfl)

theorem isPart_accept (given : Bool) (keyword : String) :
    IsPart [keyword] [keyword] (accept keyword) (flag given keyword) given := by
  cases given with
  | false => exact ⟨opens_nil _, fun rest hrest => accept_of_avoids hrest⟩
  | true => exact ⟨opens_cons List.mem_cons_self _, fun rest _ => accept_cons keyword rest⟩

theorem readsAs_expect (keyword : String) : ReadsAs [] (expect keyword) [↑keyword] () :=
  fun rest _ => bind_eq (accept_cons keyword rest)

theorem clause_of_avoids (body : Reader α) (h : Avoids [keyword] ts) :
    clause keyword body ts = some (none, ts) := by
  rw [clause, bind_eq (accept_of_avoids h)]
  rfl

theorem readsAs_clause {body : Reader α} (h : ReadsAs stops body ts a) (keyword : String) :
    ReadsAs stops (clause keyword body) (↑keyword :: ts) (some a) := by
  intro rest hrest
  rw [List.cons_append, clause, bind_eq (accept_cons keyword _)]
  exact map_eq some (h rest hrest)

theorem isPart_clause {body : Reader α} {tokens : β → Tokens} {value : β → α}
    (h : ∀ b, ReadsAs stops body (tokens b) (value b)) (keyword : String) (given : Option β) :
    IsPart [keyword] (keyword :: stops) (clause keyword body)
      ((given.map fun b => ↑keyword :: tokens b).getD []) (given.map value) := by
  cases given with
  | none =>
      refine ⟨opens_nil _, fun rest hrest => clause_of_avoids body (hrest.mono ?_)⟩
      exact List.cons_subset_cons keyword (List.nil_subset stops)
  | some b =>
      refine ⟨opens_cons List.mem_cons_self _, (readsAs_clause (h b) keyword).mono ?_⟩
      exact List.subset_cons_self keyword stops

theorem isPart_keyed {body : Reader α} {token : β → Token} {value : β → α}
    (h : ∀ b, ReadsAs [] body [token b] (value b)) (keyword : String) (given : Option β) :
    IsPart [keyword] [keyword] (clause keyword body) (keyed keyword (given.map token))
      (given.map value) := by
  have hpart := isPart_clause h keyword given
  cases given <;> exact hpart

theorem isPart_keyedToken (keyword : String) (given : Option Token) :
    IsPart [keyword] [keyword] (clause keyword nextToken) (keyed keyword given) given := by
  have hpart := isPart_clause readsAs_nextToken keyword given
  cases given <;> exact hpart

theorem isPart_keyedText (keyword : String) (given : Option String) :
    IsPart [keyword] [keyword] (clause keyword nextText) (keyed keyword (given.map .ofString))
      given := by
  simpa using isPart_keyed readsAs_nextText keyword given

theorem isPart_keyedNat (keyword : String) (given : Option Nat) :
    IsPart [keyword] [keyword] (clause keyword nextNat) (keyed keyword (given.map .ofNat))
      given := by
  simpa using isPart_keyed readsAs_nextNat keyword given

theorem readsAs_times {item : Reader α} {tokens : β → Tokens} {value : β → α}
    (h : ∀ b, ReadsAs [] item (tokens b) (value b)) (bs : List β) :
    ReadsAs [] (times item bs.length) (bs.flatMap tokens) (bs.map value) := by
  induction bs with
  | nil => exact readsAs_pure []
  | cons b bs ih => exact (h b).seq (ih.bind_pure _)

theorem readsAs_countedTexts (texts : List String) :
    ReadsAs [] countedTexts (counted texts) texts := by
  have htimes := readsAs_times readsAs_nextText texts
  rw [List.map_id'', ← List.map_eq_flatMap] at htimes
  · exact (readsAs_nextNat texts.length).seq htimes
  · exact fun _ => rfl

theorem isPart_textList (keyword : String) (texts : List String) :
    IsPart [keyword] [keyword] (textList keyword) (listed keyword texts) texts := by
  have hclause := isPart_clause readsAs_countedTexts keyword
    (if texts.isEmpty then none else some texts)
  have hpart := hclause.bind_pure (Option.getD · [])
  cases texts <;> exact hpart

theorem readsAs_unlessDone (h : ReadsAs stops r ts a) (nonempty : ts ≠ []) :
    ReadsAs stops (unlessDone r) ts (some a) := by
  intro rest hrest
  have hne : (ts ++ rest).isEmpty = false := by simp [nonempty]
  rw [unlessDone, hne]
  exact map_eq some (h rest hrest)

structure IsItem (first stops : List String) (item : Reader (Option α)) (ts : Tokens) (a : α) :
    Prop where
  nonempty : ts ≠ []
  opens : Opens first ts
  reads : ReadsAs stops item ts (some a)

theorem isItem_clause {body : Reader α} (h : ReadsAs stops body ts a) (keyword : String) :
    IsItem [keyword] stops (clause keyword body) (↑keyword :: ts) a :=
  ⟨List.cons_ne_nil _ _, opens_cons List.mem_cons_self ts, readsAs_clause h keyword⟩

theorem either_of_some {item other : Reader (Option α)} (h : item ts = some (some a, us)) :
    either item other ts = some (some a, us) :=
  bind_eq h

theorem either_of_none {item other : Reader (Option α)} (h : item ts = some (none, ts)) :
    either item other ts = other ts :=
  bind_eq h

theorem IsItem.either_left {item : Reader (Option α)} (h : IsItem first stops item ts a)
    (other : Reader (Option α)) (keywords : List String) :
    IsItem (first ++ keywords) stops (either item other) ts a where
  nonempty := h.nonempty
  opens := h.opens.mono (List.subset_append_left first keywords)
  reads := fun rest hrest => either_of_some (h.reads rest hrest)

theorem IsItem.either_right {item other : Reader (Option α)} (h : IsItem first stops other ts a)
    {keywords : List String} (hnone : ∀ ts, Avoids keywords ts → item ts = some (none, ts))
    (hdisj : ∀ k ∈ keywords, k ∉ first) :
    IsItem (keywords ++ first) stops (either item other) ts a where
  nonempty := h.nonempty
  opens := h.opens.mono (List.subset_append_right keywords first)
  reads := by
    intro rest hrest
    have hopens := h.opens.append_of_ne_nil h.nonempty rest
    rw [either_of_none (hnone _ (hopens.avoids hdisj))]
    exact h.reads rest hrest

section Items

variable {item : Reader (Option α)} {stops : β → List String} {tokens : β → Tokens}
  {value : β → α} {bs : List β}

theorem itemsUpTo_eq (hitem : ∀ b ∈ bs, ReadsAs (stops b) item (tokens b) (some (value b)))
    (nonempty : ∀ b ∈ bs, tokens b ≠ [])
    (hnext : ∀ b ∈ bs, ∀ c ∈ bs, ∀ more, Avoids (stops b) (tokens c ++ more)) {rest : Tokens}
    (hlast : ∀ b ∈ bs.getLast?, Avoids (stops b) rest) (hend : item rest = some (none, rest))
    {fuel : Nat} (hfuel : (bs.flatMap tokens).length ≤ fuel) :
    itemsUpTo item fuel (bs.flatMap tokens ++ rest) = some (bs.map value, rest) := by
  -- An item takes at least one token, so the fuel lasts as long as there are items.
  induction bs generalizing fuel with
  | nil =>
      cases fuel with
      | zero => rfl
      | succ fuel => exact bind_eq hend
  | cons b bs ih =>
      rw [List.forall_mem_cons] at hitem nonempty
      rw [List.flatMap_cons, List.length_append] at hfuel
      have hpos := List.length_pos_iff.mpr nonempty.1
      obtain ⟨fuel, rfl⟩ := Nat.exists_eq_add_of_le' (show 1 ≤ fuel by omega)
      have hfollow : Avoids (stops b) (bs.flatMap tokens ++ rest) := by
        cases bs with
        | nil => exact hlast b rfl
        | cons c bs =>
            rw [List.flatMap_cons, List.append_assoc]
            exact hnext b List.mem_cons_self c (List.mem_cons_of_mem b List.mem_cons_self) _
      have hlast' : ∀ c ∈ bs.getLast?, Avoids (stops c) rest := by
        intro c hc
        cases bs with
        | nil => nomatch hc
        | cons d bs => exact hlast c (by rwa [List.getLast?_cons_cons])
      have htail := ih hitem.2 nonempty.2
        (fun c hc d hd => hnext c (List.mem_cons_of_mem b hc) d (List.mem_cons_of_mem b hd))
        hlast' (show _ ≤ fuel by omega)
      rw [List.flatMap_cons, List.append_assoc, itemsUpTo, hitem.1.bind_apply _ hfollow]
      exact map_eq _ htail

theorem items_eq (hitem : ∀ b ∈ bs, ReadsAs (stops b) item (tokens b) (some (value b)))
    (nonempty : ∀ b ∈ bs, tokens b ≠ [])
    (hnext : ∀ b ∈ bs, ∀ c ∈ bs, ∀ more, Avoids (stops b) (tokens c ++ more)) {rest : Tokens}
    (hlast : ∀ b ∈ bs.getLast?, Avoids (stops b) rest) (hend : item rest = some (none, rest)) :
    items item (bs.flatMap tokens ++ rest) = some (bs.map value, rest) := by
  refine itemsUpTo_eq hitem nonempty hnext hlast hend ?_
  rw [List.length_append]
  exact Nat.le_add_right _ _

theorem isPart_items (hitem : ∀ b, IsItem first (stops b) item (tokens b) (value b))
    (hdisj : ∀ b, ∀ k ∈ stops b, k ∉ first)
    (hend : ∀ ts, Avoids first ts → item ts = some (none, ts)) (bs : List β) :
    IsPart first (first ++ (bs.getLast?.map stops).getD []) (items item) (bs.flatMap tokens)
      (bs.map value) where
  opens := by
    cases bs with
    | nil => exact opens_nil first
    | cons b bs => exact (hitem b).opens.append_of_ne_nil (hitem b).nonempty _
  reads := by
    intro rest hrest
    have hleft := hrest.mono (List.subset_append_left first _)
    have hright := hrest.mono (List.subset_append_right first _)
    refine items_eq (fun b _ => (hitem b).reads) (fun b _ => (hitem b).nonempty) ?_ ?_
      (hend rest hleft)
    · intro b _ c _ more
      exact ((hitem c).opens.append_of_ne_nil (hitem c).nonempty more).avoids (hdisj b)
    · intro b hb
      rw [Option.mem_def.mp hb] at hright
      exact hright

end Items

def readOrder : String → Option SortOrder
  | "ASC" => some .asc
  | "DESC" => some .desc
  | _ => none

def sortedField : Reader SortedField := do
  return ⟨← nextText, ← readOrder (← nextText)⟩

theorem readsAs_sortedField (s : SortedField) : ReadsAs [] sortedField s.tokens s := by
  obtain ⟨field, order⟩ := s
  refine (readsAs_nextText field).seq ((readsAs_nextText order.name).seq ?_)
  cases order <;> exact readsAs_pure _

end Reader

end Tokens

end FullText
