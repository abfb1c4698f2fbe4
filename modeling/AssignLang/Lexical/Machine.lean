import AssignLang.Lexical.Head
import AssignLang.Lexical.Scanner

/-! The scanner as a machine on the bytes of a text. It reads with a head that takes one character at a
time and can step back over it, where the scanner looks ahead as far as it likes; a run of a mode can
fail where the head is misused. A token that a run has made is pending until the call that asked for
one takes it. -/
namespace AssignLang.Lexical
set_option autoImplicit false

structure Machine where
  filename : String
  head : Head
  /-- Where the token now being read begins, its opening quote included. -/
  anchor : Position
  mode : Mode
  pending : Option Token
  error : Option Error
deriving DecidableEq

namespace Machine

def ofText (limit : Nat) (filename text : String) : Machine :=
  ⟨filename, .ofText limit text, .start, .root, none, none⟩

/-! ## One run of a mode -/

/-- Leaves the window behind. -/
def ignore (m : Machine) (mode : Mode) : Except Misuse Machine := do
  return { m with head := ← m.head.cut, mode := mode }

/-- Gives the last character back to the mode that is to read it. -/
def rewind (m : Machine) (mode : Mode) : Except Misuse Machine := do
  return { m with head := ← m.head.back, mode := mode }

/-- Makes a token of the window. -/
def emit (m : Machine) (kind : TokenKind) (mode : Mode) : Except Misuse Machine := do
  let text ← m.head.window
  return { m with head := ← m.head.cut, mode := mode, pending := some ⟨kind, text, m.anchor⟩ }

def fail (m : Machine) (fault : Fault) : Except Misuse Machine :=
  ({ m with error := some ⟨fault, m.filename, m.anchor⟩ } : Machine).emit .error .done

/-- A symbol that may be written twice over: the second one is read, or else what was read is given
back. -/
def double (m : Machine) (c : Char) (alone doubled : TokenKind) : Except Misuse Machine := do
  let (again, head) ← m.head.accept (· = c)
  ({ m with head := head } : Machine).emit (if again then doubled else alone) .root

def root (m : Machine) : Except Misuse Machine := do
  let (c?, head) ← m.head.read
  let m := { m with head := head, anchor := m.head.place }
  match c? with
  | none => m.emit .eof .done
  | some c =>
    if isBlank c then m.ignore .root
    else if c = '"' then m.ignore .quoted
    else if isLetter c then m.rewind .word
    else if isDigit c then m.rewind .number
    else match symbol? c with
      | some ⟨alone, none⟩ => m.emit alone .root
      | some ⟨alone, some doubled⟩ => m.double c alone doubled
      | none => m.fail (.unexpectedCharacter c)

/-- The closing quote is given back, so that it is not in the token, and then read again. -/
def quoted (m : Machine) : Except Misuse Machine := do
  let (closed, head) ← m.head.readBody
  if closed then
    let head ← head.back
    let m ← ({ m with head := head } : Machine).emit .string .root
    let (_, head) ← m.head.read
    ({ m with head := head } : Machine).ignore .root
  else ({ m with head := head } : Machine).fail .unterminatedString

def word (m : Machine) : Except Misuse Machine := do
  let head ← m.head.acceptRun isLetter
  let text ← head.window
  ({ m with head := head } : Machine).emit (wordKind text.toList) .root

def number (m : Machine) : Except Misuse Machine := do
  let head ← m.head.readNumber
  ({ m with head := head } : Machine).emit .number .root

def run (m : Machine) : Except Misuse Machine :=
  match m.mode with
  | .root => m.root
  | .quoted => m.quoted
  | .word => m.word
  | .number => m.number
  | .done => .ok m

/-! ## One call -/

section Run
variable {m next : Machine}

theorem pending_of_emit {kind : TokenKind} {mode : Mode} (made : m.emit kind mode = .ok next) :
    next.pending.isSome = true := by
  obtain ⟨text, -, made⟩ := exists_of_bind_eq_ok made
  obtain ⟨head, -, made⟩ := exists_of_bind_eq_ok made
  obtain rfl := Except.ok.inj made
  rfl

theorem pending_of_quoted (ran : m.quoted = .ok next) : next.pending.isSome = true := by
  obtain ⟨⟨closed, head⟩, -, ran⟩ := exists_of_bind_eq_ok ran
  dsimp only at ran
  split at ran
  next =>
    obtain ⟨head, -, ran⟩ := exists_of_bind_eq_ok ran
    obtain ⟨given, made, ran⟩ := exists_of_bind_eq_ok ran
    obtain ⟨⟨quote, head⟩, -, ran⟩ := exists_of_bind_eq_ok ran
    obtain ⟨head, -, ran⟩ := exists_of_bind_eq_ok ran
    obtain rfl := Except.ok.inj ran
    have given := pending_of_emit made
    exact given
  next => exact pending_of_emit ran

theorem pending_of_word (ran : m.word = .ok next) : next.pending.isSome = true := by
  obtain ⟨head, -, ran⟩ := exists_of_bind_eq_ok ran
  obtain ⟨text, -, ran⟩ := exists_of_bind_eq_ok ran
  exact pending_of_emit ran

theorem pending_of_number (ran : m.number = .ok next) : next.pending.isSome = true := by
  obtain ⟨head, -, ran⟩ := exists_of_bind_eq_ok ran
  exact pending_of_emit ran

theorem left_of_ignore {mode : Mode} (ran : m.ignore mode = .ok next) :
    next.head.left = m.head.left ∧ next.mode = mode := by
  obtain ⟨head, cut, ran⟩ := exists_of_bind_eq_ok ran
  obtain rfl := Except.ok.inj ran
  obtain ⟨window, -, cut⟩ := exists_of_bind_eq_ok cut
  obtain ⟨place, -, cut⟩ := exists_of_bind_eq_ok cut
  obtain rfl := Except.ok.inj cut
  exact ⟨rfl, rfl⟩

theorem left_of_rewind {head : Head} {c : Char} {mode : Mode} (read : head.read = .ok (some c, m.head))
    (ran : m.rewind mode = .ok next) : next.head.left = head.left ∧ next.mode = mode := by
  obtain ⟨after, stepped, ran⟩ := exists_of_bind_eq_ok ran
  obtain rfl := Except.ok.inj ran
  exact ⟨Head.left_of_back read stepped, rfl⟩

/-- Bounds the runs until a token is pending. -/
def size (m : Machine) : Nat :=
  if m.pending.isSome then 0 else 2 * m.head.left + if m.mode = .root then 2 else 1

theorem size_of_pending (made : next.pending.isSome = true) (clear : m.pending = none) :
    next.size < m.size := by
  rw [size, size, if_pos made, clear, if_neg (by simp)]
  split <;> omega

theorem size_of_root (clear : m.pending = none) (root : m.mode = .root) (ran : m.root = .ok next) :
    next.size < m.size := by
  obtain ⟨⟨c?, head⟩, read, ran⟩ := exists_of_bind_eq_ok ran
  have bound : m.size = 2 * m.head.left + 2 := by simp [size, clear, root]
  have shorter (less : next.head.left < m.head.left) : next.size < m.size := by
    rw [bound, size]
    split
    · omega
    · split <;> omega
  have level (same : next.head.left = m.head.left) (mode : next.mode ≠ .root) :
      next.size < m.size := by
    rw [bound, size, if_neg mode]
    split <;> omega
  dsimp only at ran
  cases c? with
  | none => exact size_of_pending (pending_of_emit ran) clear
  | some c =>
    have fewer := Head.left_of_read read
    dsimp only at ran
    split at ran
    next => exact shorter ((left_of_ignore ran).1 ▸ fewer)
    split at ran
    next => exact shorter ((left_of_ignore ran).1 ▸ fewer)
    split at ran
    next =>
      obtain ⟨same, mode⟩ := left_of_rewind read ran
      exact level same (by simp [mode])
    split at ran
    next =>
      obtain ⟨same, mode⟩ := left_of_rewind read ran
      exact level same (by simp [mode])
    split at ran
    next => exact size_of_pending (pending_of_emit ran) clear
    next =>
      obtain ⟨⟨again, head⟩, -, ran⟩ := exists_of_bind_eq_ok ran
      exact size_of_pending (pending_of_emit ran) clear
    next => exact size_of_pending (pending_of_emit ran) clear

theorem size_of_run (clear : m.pending = none) (running : m.mode ≠ .done) (ran : m.run = .ok next) :
    next.size < m.size := by
  unfold run at ran
  split at ran
  next root => exact size_of_root clear root ran
  next => exact size_of_pending (pending_of_quoted ran) clear
  next => exact size_of_pending (pending_of_word ran) clear
  next => exact size_of_pending (pending_of_number ran) clear
  next done => exact absurd done running

end Run

/-- The next token, or none once the last one has been taken. -/
def next (m : Machine) : Except Misuse (Option Token × Machine) :=
  if _clear : m.pending = none then
    if _running : m.mode = .done then .ok (none, m)
    else match _ran : m.run with
      | .error misuse => .error misuse
      | .ok after => after.next
  else .ok (m.pending, { m with pending := none })
termination_by m.size
decreasing_by exact size_of_run _clear _running _ran

/-- The tokens that so many calls of `next` give, and the machine after them. -/
def calls : Nat → Machine → Except Misuse (List Token × Machine)
  | 0, m => .ok ([], m)
  | n + 1, m => do
    let (token?, m) ← m.next
    let (tokens, m) ← calls n m
    return (token?.toList ++ tokens, m)

end Machine

end AssignLang.Lexical
