import FullText.Proofs.Reply.Cursor

namespace FullText.Cursor

open Reading

inductive Form
  | element
  | text
  | octets
  | int
  | number
  | list
deriving DecidableEq

inductive Found
  | element (r : Reply)
  | text (text : String)
  | octets (bytes : ByteArray)
  | int (n : Int64)
  | number (x : Binary64)
  | list (items : List Reply)
  | peeked (r : Option Reply)
  | skipped
  | records (count : Nat)

def Form.read : Form → Reply → Except Error Found
  | element, r => .ok (.element r)
  | text, r => .text <$> r.asText
  | octets, r => .octets <$> r.asBytes
  | int, r => .int <$> r.asInt
  | number, r => .number <$> r.asNumber
  | list, r => .list <$> r.asList

inductive Move
  | next (form : Form)
  | peek
  | skip (n : Nat)
  | expectStride (stride : Nat)
deriving DecidableEq

namespace Move

def reading : Move → Reading Found
  | next .element => .element <$> Reading.next
  | next .text => .text <$> nextAs Reply.asText
  | next .octets => .octets <$> nextAs Reply.asBytes
  | next .int => .int <$> nextAs Reply.asInt
  | next .number => .number <$> nextAs Reply.asNumber
  | next .list => .list <$> nextAs Reply.asList
  | peek => fun c => (.ok (.peeked c.peek), c)
  | skip n => (fun _ => .skipped) <$> Reading.skip n
  | expectStride stride => .records <$> Reading.expectStride stride

/-- The elements that a move reads or skips, also if they are not what they are read as. -/
def taken (c : Cursor) : Move → List Reply
  | next _ => c.peek.toList
  | skip n => if n ≤ c.remaining then c.rest.take n else []
  | peek | expectStride _ => []

/-- What a move gives at the place of a cursor in a list, and the cursor after it. -/
def Gives (items : List Reply) (c : Cursor) (x : Except Error Found) (c' : Cursor) : Move → Prop
  | next form =>
    match items[c.position]? with
    | some r => x = form.read r ∧ c'.position = c.position + 1
    | none => x = .error (.mismatch (.tooShort items.length)) ∧ c' = c
  | peek => x = .ok (.peeked items[c.position]?) ∧ c' = c
  | skip n =>
    if n ≤ c.remaining then x = .ok .skipped ∧ c'.position = c.position + n
    else x = .error (.mismatch (.cannotSkip n c.remaining)) ∧ c' = c
  | expectStride stride =>
    (x = if 0 < stride ∧ stride ∣ c.remaining then .ok (.records (c.remaining / stride))
      else .error (.mismatch (.unevenRecords c.remaining stride))) ∧ c' = c

end Move

def after (c : Cursor) (moves : List Move) : Cursor := moves.foldl (fun c m => (m.reading c).2) c

def taken : Cursor → List Move → List Reply
  | _, [] => []
  | c, m :: moves => m.taken c ++ taken (m.reading c).2 moves

variable {α : Type} {items : List Reply} {c : Cursor}

theorem Move.reading_next (form : Form) : (next form).reading = nextAs form.read := by
  cases form with
  | element =>
      funext c
      obtain ⟨p, _ | ⟨r, rest⟩⟩ := c <;> rfl
  | text | octets | int | number | list => exact map_nextAs _ _

def advance (c : Cursor) (n : Nat) : Cursor := ⟨c.position + n, c.rest.drop n⟩

theorem advance_advance (c : Cursor) (m n : Nat) : (c.advance m).advance n = c.advance (m + n) := by
  simp only [advance, List.drop_drop, Nat.add_assoc]

theorem nextAs_eq (read : Reply → Except Error α) (c : Cursor) :
    nextAs read c =
      match c.peek with
      | some r => (read r, c.advance 1)
      | none => (.error (.mismatch (.tooShort c.position)), c) := by
  obtain ⟨p, _ | ⟨r, rest⟩⟩ := c
  · exact nextAs_nil read p
  · exact nextAs_cons read p r rest

theorem skip_eq (n : Nat) (c : Cursor) :
    Reading.skip n c =
      if n ≤ c.remaining then (.ok (), c.advance n)
      else (.error (.mismatch (.cannotSkip n c.remaining)), c) := by
  by_cases h : n ≤ c.remaining
  · rw [if_pos h, Reading.skip, if_neg (Nat.not_lt.mpr h)]
    rfl
  · rw [if_neg h, Reading.skip, if_pos (Nat.not_le.mp h)]

theorem expectStride_split (stride : Nat) (c : Cursor) :
    Reading.expectStride stride c =
      (if 0 < stride ∧ stride ∣ c.remaining then .ok (c.remaining / stride)
        else .error (.mismatch (.unevenRecords c.remaining stride)), c) := by
  cases stride with
  | zero => rfl
  | succ n =>
      have hpos : 0 < n + 1 := Nat.succ_pos n
      rw [expectStride_eq hpos]
      simp only [hpos, true_and, Nat.dvd_iff_mod_eq_zero]

theorem length_taken_skip {n : Nat} (h : n ≤ c.remaining) :
    ((Move.skip n).taken c).length = n := by
  rw [Move.taken, if_pos h, List.length_take]
  exact Nat.min_eq_left h

theorem Move.reading_snd (m : Move) (c : Cursor) :
    (m.reading c).2 = c.advance (m.taken c).length := by
  cases m with
  | next form =>
      rw [reading_next, nextAs_eq, taken]
      cases c.peek <;> rfl
  | peek => rfl
  | skip n =>
      rw [reading, map_apply, skip_eq]
      by_cases h : n ≤ c.remaining
      · rw [length_taken_skip h, if_pos h]
      · rw [taken, if_neg h, if_neg h]
        rfl
  | expectStride stride =>
      rw [reading, map_apply, expectStride_split]
      rfl

theorem Move.taken_isPrefix (m : Move) (c : Cursor) : m.taken c <+: c.rest := by
  cases m with
  | next form =>
      obtain ⟨p, _ | ⟨r, rest⟩⟩ := c
      · exact List.nil_prefix
      · exact List.prefix_append [r] rest
  | skip n =>
      rw [taken]
      split
      · exact List.take_prefix n c.rest
      · exact List.nil_prefix
  | peek | expectStride => exact List.nil_prefix

theorem after_eq (c : Cursor) (moves : List Move) :
    after c moves = c.advance (taken c moves).length := by
  induction moves generalizing c with
  | nil => rfl
  | cons m moves ih =>
      rw [after, List.foldl_cons, ← after, ih, taken, List.length_append, ← advance_advance,
        ← Move.reading_snd]

theorem taken_isPrefix (c : Cursor) (moves : List Move) : taken c moves <+: c.rest := by
  induction moves generalizing c with
  | nil => exact List.nil_prefix
  | cons m moves ih =>
      obtain ⟨rest, hrest⟩ := m.taken_isPrefix c
      have hdrop : (m.reading c).2.rest = rest := by
        rw [m.reading_snd, advance, ← hrest, List.drop_left]
      rw [taken, ← hrest, List.prefix_append_right_inj, ← hdrop]
      exact ih _

/-- The cursor stands in the list, and all that lies behind it is still to come. -/
structure Within (items : List Reply) (c : Cursor) : Prop where
  bounded : c.position ≤ items.length
  rest : c.rest = items.drop c.position

namespace Within

theorem position_add_remaining (h : Within items c) : c.position + c.remaining = items.length := by
  rw [remaining, h.rest, List.length_drop, Nat.add_sub_cancel' h.bounded]

theorem peek_eq (h : Within items c) : c.peek = items[c.position]? := by
  rw [peek, h.rest, List.head?_drop]

theorem position_eq (h : Within items c) (hend : items[c.position]? = none) :
    c.position = items.length :=
  Nat.le_antisymm h.bounded (List.getElem?_eq_none_iff.mp hend)

theorem gives (h : Within items c) (m : Move) :
    m.Gives items c (m.reading c).1 (m.reading c).2 := by
  cases m with
  | next form =>
      rw [Move.Gives, Move.reading_next, nextAs_eq, h.peek_eq]
      cases hr : items[c.position]? with
      | some r => exact ⟨rfl, rfl⟩
      | none => exact ⟨by rw [h.position_eq hr], rfl⟩
  | peek => exact ⟨congrArg (Except.ok ∘ Found.peeked) h.peek_eq, rfl⟩
  | skip n =>
      rw [Move.Gives, Move.reading, map_apply, skip_eq]
      split
      · exact ⟨rfl, rfl⟩
      · exact ⟨rfl, rfl⟩
  | expectStride stride =>
      rw [Move.Gives, Move.reading, map_apply, expectStride_split]
      refine ⟨?_, rfl⟩
      split <;> rfl

end Within

theorem position_after (items : List Reply) (moves : List Move) :
    (after (.start items) moves).position = (taken (.start items) moves).length := by
  rw [after_eq]
  exact Nat.zero_add _

theorem within_after (items : List Reply) (moves : List Move) :
    Within items (after (.start items) moves) where
  bounded := position_after items moves ▸ (taken_isPrefix (.start items) moves).length_le
  rest := by
    rw [position_after, after_eq]
    rfl

/-- Wherever a run has come to, the cursor stands in the list, what the run has read and skipped is
the list up to there, and the next move gives what stands at that place and never goes back. -/
theorem run_within (items : List Reply) (moves : List Move) :
    let c := after (.start items) moves
    c.position ≤ items.length ∧ c.position + c.remaining = items.length ∧
    taken (.start items) moves = items.take c.position ∧
    ∀ m : Move, m.Gives items c (m.reading c).1 (m.reading c).2 ∧
      c.position ≤ (m.reading c).2.position := by
  intro c
  have hwithin : Within items c := within_after items moves
  refine ⟨hwithin.bounded, hwithin.position_add_remaining, ?_, fun m => ⟨hwithin.gives m, ?_⟩⟩
  · rw [position_after]
    exact List.prefix_iff_eq_take.mp (taken_isPrefix (.start items) moves)
  · rw [m.reading_snd]
    exact Nat.le_add_right c.position _

/-- A number that cannot be read is left behind all the same. -/
example : after (.start [.nil, .int 3]) [.next .int, .skip 2] = ⟨1, [.int 3]⟩ := rfl

end FullText.Cursor
