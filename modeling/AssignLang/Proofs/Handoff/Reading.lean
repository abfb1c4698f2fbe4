import AssignLang.Proofs.Grammar.Program
import AssignLang.Proofs.Handoff.Delivery

/-! Readings that get their tokens through a handoff. Main statement: such a reading gives the answer
that it gives on the scanner itself, in every run, unless the deadline has passed and is on record
(`Reads.agree`). A strict reading that was cut by the deadline has failed (`Reads.cut`). -/
namespace AssignLang.Handoff
open Lexical (Scanner)
set_option autoImplicit false

namespace State

/-- No token was lost: either there is no fault, or the stream has come to its end. -/
def Whole (s : State) : Prop :=
  s.fault = none ∨ s.fault = some .closed

/-- A join after a whole reading finds the scanner where the consumer knows it. -/
theorem Sync.scanner_of_whole {base : Scanner} {s : State} {error : Option Lexical.Error}
    (h : s.Sync base) (whole : s.Whole) (answered : s.consumer = .joined error) :
    s.scanner = base := by
  have flow := h.flow
  simp only [Flow, answered] at flow
  obtain ⟨stopped, -⟩ := flow
  unfold Stopped at stopped
  rcases whole with clear | closed
  · rw [clear] at stopped
    exact stopped.2.2.1
  · rw [closed] at stopped
    exact stopped.1.2.2.1

theorem Received.exists_sync {base : Scanner} {s : State} (h : s.Received base) :
    ∃ base', s.Sync base' := by
  cases h with
  | token _ _ sync | failed _ _ sync => exact ⟨_, sync⟩

/-- What a receive gives is what the scanner gives, unless the deadline has passed. -/
theorem Received.agree {base : Scanner} {s : State} (h : s.Received base)
    (known : s.Whole ∨ s.fault = some .deadlineExceeded) :
    (s.Whole ∧ s.token? = base.next.1 ∧ s.Sync base.next.2) ∨
      s.fault = some .deadlineExceeded := by
  have idle := h.isIdle
  cases h with
  | token answered given sync clear =>
    refine .inl ⟨.inl clear, ?_, ?_⟩
    · rw [token?, answered, given]
    · rw [given]
      exact sync
  | @failed fault answered recorded sync =>
    rcases known with whole | passed
    · have closed : s.fault = some .closed :=
        whole.resolve_left (by rw [recorded]; simp)
      have ready := sync.ready idle
      rw [Ready, closed] at ready
      have nothing : base.next = (none, base) := Scanner.next_of_done ready.2.2
      refine .inl ⟨whole, ?_, ?_⟩
      · rw [token?, answered, nothing]
      · rw [nothing]
        exact sync
    · exact .inr passed

theorem Keeps.whole {s s' : State} (h : s.Keeps s') (whole : s.Whole) :
    s'.Whole ∨ s'.fault = some .deadlineExceeded := by
  rcases h with same | ⟨-, closed | passed⟩
  · unfold Whole
    rw [same]
    exact .inl whole
  · exact .inl (.inr closed)
  · exact .inr passed

variable {α : Type}

theorem Reads.keeps {reading : Grammar.Reading α} {s s' : State} {answer : α} {base : Scanner}
    (h : Reads reading s answer s') (idle : s.isIdle = true) (sync : s.Sync base) :
    s'.isIdle = true ∧ s.Keeps s' ∧ ∃ base', s'.Sync base' := by
  induction h generalizing base with
  | done => exact ⟨idle, .inl rfl, base, sync⟩
  | ask received _ ih =>
    obtain ⟨received, keeps⟩ := received.receive (isBusy_of_isIdle idle) sync
    obtain ⟨base', sync'⟩ := received.exists_sync
    obtain ⟨idle', keeps', sync''⟩ := ih received.isIdle sync'
    exact ⟨idle', keeps.trans keeps', sync''⟩

/-- **The handoff is as good as the scanner**, up to the deadline. -/
theorem Reads.agree {reading : Grammar.Reading α} {s s' : State} {answer : α} {base : Scanner}
    (h : Reads reading s answer s') (idle : s.isIdle = true) (sync : s.Sync base)
    (whole : s.Whole) :
    (s'.Whole ∧ ∃ base', s'.Sync base' ∧ reading.run Scanner.next base = (answer, base')) ∨
      s'.fault = some .deadlineExceeded := by
  induction h generalizing base with
  | done => exact .inl ⟨whole, base, sync, rfl⟩
  | ask received rest ih =>
    obtain ⟨received, keeps⟩ := received.receive (isBusy_of_isIdle idle) sync
    rcases received.agree (keeps.whole whole) with ⟨whole', token, sync'⟩ | passed
    · rw [token] at ih
      exact ih received.isIdle sync' whole'
    · obtain ⟨base', sync'⟩ := received.exists_sync
      obtain ⟨-, keeps', -⟩ := rest.keeps received.isIdle sync'
      exact .inr (keeps'.of_some passed)

/-- A strict reading does not survive a fault. -/
theorem Reads.cut {attempt : Grammar.Attempt α} {s s' : State} {result : Except Grammar.Error α}
    {base : Scanner} (h : Reads attempt s result s') (idle : s.isIdle = true)
    (sync : s.Sync base) (strict : attempt.Strict) (clear : s.fault = none)
    (ended : s'.fault ≠ none) : ∃ e, result = .error e := by
  induction h generalizing base with
  | done => exact absurd clear ended
  | @ask resume s s₁ s' result received rest ih =>
    obtain ⟨received, -⟩ := received.receive (isBusy_of_isIdle idle) sync
    obtain ⟨⟨e, refused⟩, strict'⟩ := strict
    cases received with
    | @token token answered given sync' clear' =>
      have given? : s₁.token? = some token := by rw [token?, answered]
      rw [given?] at ih
      exact ih (isIdle_iff.mpr ⟨_, answered⟩) sync' (strict' token) clear' ended
    | failed answered =>
      have none? : s₁.token? = none := by rw [token?, answered]
      rw [none?, refused] at rest
      cases rest with
      | done => exact ⟨e, rfl⟩

theorem Reads.late {reading : Grammar.Reading α} {s s' : State} {answer : α} {base : Scanner}
    (h : Reads reading s answer s') (idle : s.isIdle = true) (sync : s.Sync base)
    (clear : s.fault = none) (passed : s.deadline = .passed) :
    (∃ a, reading = .done a) ∨ s'.fault = some .deadlineExceeded := by
  cases h with
  | done => exact .inl ⟨answer, rfl⟩
  | ask received rest =>
    have late := received.receive_late (isBusy_of_isIdle idle) sync clear passed
    obtain ⟨received, -⟩ := received.receive (isBusy_of_isIdle idle) sync
    obtain ⟨base', sync'⟩ := received.exists_sync
    obtain ⟨-, keeps, -⟩ := rest.keeps received.isIdle sync'
    exact .inr (keeps.of_some late)

end State

/-! ## Every schedule makes such a reading -/

namespace Session

theorem next_eq (s : Session) : s.next = ((s.call .receive).state.token?, s.call .receive) := by
  show ((s.call .receive).received.toOption, s.call .receive) = _
  congr 1
  unfold received State.token?
  split <;> simp_all [Except.toOption]

theorem join_eq {s : Session} {error : Option Lexical.Error}
    (answered : (s.call .join).state.consumer = .joined error) : s.join = (error, s.call .join) := by
  rw [join]
  simp only [answered]

theorem reads_of_run {α : Type} {reading : Grammar.Reading α} {s s' : Session} {answer : α}
    {base : Scanner} (h : reading.run next s = (answer, s')) (idle : s.state.isIdle = true)
    (sync : s.state.Sync base) : s.state.Reads reading answer s'.state := by
  induction reading generalizing s base with
  | done answer =>
    rw [Grammar.Reading.run_done, Prod.mk.injEq] at h
    obtain ⟨rfl, rfl⟩ := h
    exact .done _ _
  | ask resume ih =>
    have called := calls_call sync idle .receive
    obtain ⟨received, -⟩ := called.receive (State.isBusy_of_isIdle idle) sync
    obtain ⟨base', sync'⟩ := received.exists_sync
    rw [Grammar.Reading.run_ask, next_eq] at h
    exact .ask called (ih _ h received.isIdle sync')

end Session

end AssignLang.Handoff
