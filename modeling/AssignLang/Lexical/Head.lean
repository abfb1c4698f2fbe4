import AssignLang.Lexical.Spelling

/-! A reading head on the UTF-8 bytes of a text. It keeps two offsets, of the piece that is being read
and of the next character, and the line and the column of the first. Unlike a cursor it can be misused,
and then it refuses: to cut the text inside of a character or beyond its end, to step back where there
is nothing to step back over, and to count further than its counters go. Main statement: with every
character that is read there are fewer bytes left (`left_of_read`), so reading on comes to an end. -/
namespace AssignLang.Lexical
set_option autoImplicit false

inductive Misuse
  /-- The offsets are not in order, or not between two characters of the text. -/
  | slice
  /-- No character was read since the last step back, or the piece began behind it. -/
  | rewind
  /-- The line or the column is greater than a counter can tell. -/
  | overflow
deriving DecidableEq

theorem exists_of_bind_eq_ok {α β : Type} {first : Except Misuse α} {more : α → Except Misuse β} {b : β}
    (h : first >>= more = .ok b) : ∃ a, first = .ok a ∧ more a = .ok b := by
  cases first with
  | error misuse => exact absurd h (by simp [bind, Except.bind])
  | ok a => exact ⟨a, rfl, h⟩

structure Head where
  text : String
  /-- The greatest number that a counter can tell. -/
  limit : Nat
  /-- Where the piece begins that is being read, in bytes. -/
  start : Nat
  /-- Where the next character begins, in bytes. -/
  offset : Nat
  /-- The bytes of the last character read, none once they were given back. At the end of the text
  there are no bytes to read, and to give back. -/
  width : Option Nat
  /-- The line and the column of `start`. -/
  place : Position
deriving DecidableEq

namespace Head

def ofText (limit : Nat) (text : String) : Head :=
  ⟨text, limit, 0, 0, none, .start⟩

/-! ## Single moves -/

/-- The next character, none at the end of the text. -/
def read (h : Head) : Except Misuse (Option Char × Head) :=
  if valid : (⟨h.offset⟩ : String.Pos.Raw).IsValid h.text then
    match (h.text.pos ⟨h.offset⟩ valid).get? with
    | some c => .ok (some c, { h with offset := h.offset + c.utf8Size, width := some c.utf8Size })
    | none => .ok (none, { h with width := some 0 })
  else .error .slice

/-- Steps back over the last character read. -/
def back (h : Head) : Except Misuse Head :=
  match h.width with
  | some width =>
    if h.start + width ≤ h.offset then .ok { h with offset := h.offset - width, width := none }
    else .error .rewind
  | none => .error .rewind

/-- The piece that is being read, up to the next character. -/
def window (h : Head) : Except Misuse String :=
  if valid : (⟨h.start⟩ : String.Pos.Raw).IsValid h.text ∧
      (⟨h.offset⟩ : String.Pos.Raw).IsValid h.text ∧ h.start ≤ h.offset then
    .ok (h.text.extract (h.text.pos ⟨h.start⟩ valid.1) (h.text.pos ⟨h.offset⟩ valid.2.1))
  else .error .slice

/-- The position behind a character, as long as the counters can tell it. -/
def count (limit : Nat) (p : Position) (c : Char) : Except Misuse Position :=
  if (p.next c).line ≤ limit ∧ (p.next c).column ≤ limit then .ok (p.next c) else .error .overflow

/-- Leaves the piece behind: the next one begins at the next character. -/
def cut (h : Head) : Except Misuse Head := do
  let window ← h.window
  let place ← window.toList.foldlM (count h.limit) h.place
  return { h with start := h.offset, place := place }

/-! ## Reading on -/

/-- The bytes that are still to be read. -/
def left (h : Head) : Nat :=
  h.text.utf8ByteSize - h.offset

/-- All that a read can do. -/
theorem read_cases {h next : Head} {c? : Option Char} (read : h.read = .ok (c?, next)) :
    (∃ c, c? = some c ∧ h.offset + c.utf8Size ≤ h.text.utf8ByteSize ∧
      next = { h with offset := h.offset + c.utf8Size, width := some c.utf8Size }) ∨
    (c? = none ∧ next = { h with width := some 0 }) := by
  unfold Head.read at read
  split at read
  next valid =>
    split at read
    next c found =>
      obtain ⟨rfl, rfl⟩ := Prod.mk.inj (Except.ok.inj read)
      rw [String.Pos.get?_eq_dif] at found
      split at found
      next => exact absurd found (by simp)
      next inside =>
        obtain rfl := Option.some.inj found
        have within := String.Pos.le_endPos ((h.text.pos ⟨h.offset⟩ valid).next inside)
        rw [String.Pos.le_iff, String.Pos.Raw.le_iff, String.Pos.byteIdx_offset_next] at within
        exact .inl ⟨_, rfl, within, rfl⟩
    next =>
      obtain ⟨rfl, rfl⟩ := Prod.mk.inj (Except.ok.inj read)
      exact .inr ⟨rfl, rfl⟩
  next => exact absurd read (by simp)

theorem left_of_read {h next : Head} {c : Char} (read : h.read = .ok (some c, next)) :
    next.left < h.left := by
  obtain ⟨d, -, within, rfl⟩ | ⟨ended, -⟩ := read_cases read
  · have nonempty := d.utf8Size_pos
    simp only [left]
    omega
  · exact absurd ended (by simp)

theorem left_of_read_le {h next : Head} {c? : Option Char} (read : h.read = .ok (c?, next)) :
    next.left ≤ h.left := by
  obtain ⟨c, rfl, -, -⟩ | ⟨-, rfl⟩ := read_cases read
  · exact Nat.le_of_lt (left_of_read read)
  · exact Nat.le_refl _

/-- What is read and given back is still to be read. -/
theorem left_of_back {h next after : Head} {c : Char} (read : h.read = .ok (some c, next))
    (stepped : next.back = .ok after) : after.left = h.left := by
  obtain ⟨d, -, -, rfl⟩ | ⟨ended, -⟩ := read_cases read
  · simp only [back] at stepped
    split at stepped
    next =>
      obtain rfl := Except.ok.inj stepped
      simp only [left, Nat.add_sub_cancel]
    next => exact absurd stepped (by simp)
  · exact absurd ended (by simp)

/-- Reads one character if it is as wished, and tells whether it was. -/
def accept (h : Head) (p : Char → Bool) : Except Misuse (Bool × Head) :=
  match h.read with
  | .error e => .error e
  | .ok (c?, next) => if c?.any p then .ok (true, next) else next.back.map (false, ·)

theorem left_of_accept {h next : Head} {p : Char → Bool} (accepted : h.accept p = .ok (true, next)) :
    next.left < h.left := by
  unfold accept at accepted
  split at accepted
  next => exact absurd accepted (by simp)
  next c? after read =>
    split at accepted
    next wished =>
      obtain ⟨-, rfl⟩ := Prod.mk.inj (Except.ok.inj accepted)
      cases c? with
      | none => exact absurd wished (by simp)
      | some c => exact left_of_read read
    next =>
      cases stepped : after.back <;> simp [stepped, Except.map] at accepted

/-- Reads characters as long as they are as wished. -/
def acceptRun (h : Head) (p : Char → Bool) : Except Misuse Head :=
  match _accepted : h.accept p with
  | .error e => .error e
  | .ok (true, next) => next.acceptRun p
  | .ok (false, next) => .ok next
termination_by h.left
decreasing_by exact left_of_accept _accepted

/-- Reads the digits of a number, and more of them if a point comes next. -/
def readNumber (h : Head) : Except Misuse Head := do
  let whole ← h.acceptRun isDigit
  let (point, behind) ← whole.accept (· = '.')
  if point then behind.acceptRun isDigit else return behind

/-- Reads the body of a string and the quote behind it, and tells whether there is one. The character
behind a backslash is read whatever it is. -/
def readBody (h : Head) : Except Misuse (Bool × Head) :=
  match _first : h.read with
  | .error e => .error e
  | .ok (none, next) => .ok (false, next)
  | .ok (some c, next) =>
    if c = '"' then .ok (true, next)
    else if c = '\\' then
      match _second : next.read with
      | .error e => .error e
      | .ok (_, behind) => behind.readBody
    else next.readBody
termination_by h.left
decreasing_by
  · exact Nat.lt_of_le_of_lt (left_of_read_le _second) (left_of_read _first)
  · exact left_of_read _first

end Head

end AssignLang.Lexical
