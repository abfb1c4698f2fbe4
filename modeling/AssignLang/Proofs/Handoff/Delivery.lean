import AssignLang.Proofs.Handoff.Interleaving

/-! What the calls give, in whatever order the threads make their moves. Main statements: a receive
gives the token that comes next, or else it puts a fault on record (`Calls.receive`), which is that
of the deadline if the deadline has passed before (`Calls.receive_late`); a cancellation goes on record
where there is no fault (`Calls.cancel`); and a join gives the error of the scanner (`Calls.join`). -/
namespace AssignLang.Handoff
open Lexical (Scanner)
set_option autoImplicit false

namespace State

/-! ## Between two calls -/

theorem isBusy_of_consumerStep {s s' : State} {m : Move} (step : ConsumerStep s m s') :
    s.isBusy = true := by
  unfold isBusy
  cases step with
  | _ stands => simp [stands]

theorem isBusy_of_isIdle {s : State} (idle : s.isIdle = true) : s.isBusy = false := by
  obtain ⟨last, stands⟩ := isIdle_iff.mp idle
  simp [isBusy, stands]

/-- Between two calls the consumer stands still. -/
theorem Moves.quiet {base : Scanner} {s s' : State} (moved : s.Moves s') (quiet : s.isBusy = false)
    (h : s.Sync base) : s'.Sync base ∧ s'.consumer = s.consumer ∧ s'.fault = s.fault := by
  rcases moved.step with ⟨m, step⟩ | ⟨m, step⟩ | ⟨-, rfl⟩
  · exact absurd (isBusy_of_consumerStep step) (by simp [quiet])
  · exact ⟨h.producerStep step, step.frame.1, step.frame.2.1⟩
  · exact ⟨h.expire, rfl, rfl⟩

theorem isBusy_congr {s s' : State} (same : s'.consumer = s.consumer) : s'.isBusy = s.isBusy := by
  rw [isBusy, isBusy, same]

theorem Drifts.quiet {base : Scanner} {s s' : State} (h : s.Drifts s') (quiet : s.isBusy = false)
    (sync : s.Sync base) : s'.Sync base ∧ s'.consumer = s.consumer ∧ s'.fault = s.fault := by
  induction h with
  | refl => exact ⟨sync, rfl, rfl⟩
  | tail _ moved ih =>
    obtain ⟨sync', consumer, fault⟩ := ih
    obtain ⟨sync'', consumer', fault'⟩ := moved.quiet ((isBusy_congr consumer).trans quiet) sync'
    exact ⟨sync'', consumer'.trans consumer, fault'.trans fault⟩

theorem Calls.begin {base : Scanner} {s s' : State} {c : Call} (h : s.Calls c s')
    (quiet : s.isBusy = false) (sync : s.Sync base) :
    ∃ s₁, s.Drifts s₁ ∧ s₁.Sync base ∧ s₁.fault = s.fault ∧ (c.begin s₁).Sync base ∧
      (c.begin s₁).Serves s' := by
  obtain ⟨s₁, s₂, drifts, begun, serves⟩ := h
  obtain ⟨sync₁, -, fault⟩ := drifts.quiet quiet sync
  obtain ⟨idle, rfl⟩ := of_guard begun
  exact ⟨s₁, drifts, sync₁, fault, sync₁.call idle c, serves⟩

/-- Between two calls, with this on record. -/
structure Rests (record : Option Fault) (s : State) : Prop where
  idle : s.isIdle = true
  sync : ∃ base, s.Sync base
  recorded : s.fault = record

theorem Serves.of_quiet {s s' : State} (h : s.Serves s') (quiet : s.isBusy = false) : s' = s := by
  cases h with
  | answered => rfl
  | move busy => exact absurd busy (by simp [quiet])

/-- What holds while the call is in progress gives, by one more move, what holds at its end. -/
theorem Serves.ends {P Q : State → Prop} {s s' : State} (h : s.Serves s') (start : P s)
    (busy : ∀ s, P s → s.isBusy = true)
    (step : ∀ s s', P s → s.Moves s' → P s' ∨ (Q s' ∧ s'.isBusy = false)) : Q s' := by
  induction h with
  | answered quiet => exact absurd (busy _ start) (by simp [quiet])
  | move _ moved rest ih =>
    rcases step _ _ start moved with inside | ⟨outside, quiet⟩
    · exact ih inside
    · rwa [rest.of_quiet quiet]

/-! ## A fault on record -/

theorem Sync.passed_of_exceeded {base : Scanner} {s : State} (h : s.Sync base)
    (idle : s.isIdle = true) (exceeded : s.fault = some .deadlineExceeded) :
    s.deadline = .passed := by
  have ready := h.ready idle
  rw [Ready, exceeded] at ready
  exact ready

/-- A fault on record stays there, and the one that a receive adds has one of two causes. -/
def Keeps (s s' : State) : Prop :=
  s'.fault = s.fault ∨
    (s.fault = none ∧ (s'.fault = some .closed ∨ s'.fault = some .deadlineExceeded))

theorem Keeps.trans {s s' s'' : State} (h : s.Keeps s') (h' : s'.Keeps s'') : s.Keeps s'' := by
  rcases h' with same | ⟨clear, added⟩
  · unfold Keeps
    rw [same]
    exact h
  · rcases h with same | ⟨-, recorded | recorded⟩
    · exact .inr ⟨same.symm.trans clear, added⟩
    · exact absurd (recorded.symm.trans clear) (by simp)
    · exact absurd (recorded.symm.trans clear) (by simp)

theorem Keeps.of_some {s s' : State} {fault : Fault} (h : s.Keeps s')
    (recorded : s.fault = some fault) : s'.fault = some fault := by
  rcases h with same | ⟨clear, -⟩
  · exact same.trans recorded
  · exact absurd (recorded.symm.trans clear) (by simp)

theorem verdict_cases {base : Scanner} {s : State} {fault : Fault}
    (h : s.deadline = .passed ∨ (fault = .closed ∧ s.Over base)) :
    s.verdict fault = .closed ∨ s.verdict fault = .deadlineExceeded := by
  unfold verdict
  by_cases passed : s.deadline = .passed
  · exact .inr (if_pos passed)
  · rw [if_neg passed]
    exact .inl (h.resolve_left passed).1

theorem Moves.keeps {base : Scanner} {s s' : State} (moved : s.Moves s') (h : s.Sync base) :
    s.Keeps s' := by
  rcases moved.step with ⟨m, step⟩ | ⟨m, step⟩ | ⟨-, rfl⟩
  · cases step with
    | record stands =>
      have ends := h.ends.consumer
      have flow := h.flow
      simp only [ConsumerEnds, stands] at ends
      simp only [Flow, stands] at flow
      exact .inr ⟨ends.1, (verdict_cases flow).imp (congrArg some) (congrArg some)⟩
    | @dropTokens sequel => cases sequel <;> exact .inl rfl
    | _ => exact .inl rfl
  · exact .inl step.frame.2.1
  · exact .inl rfl

theorem Serves.keeps {base : Scanner} {s s' : State} (h : s.Serves s') (sync : s.Sync base) :
    s.Keeps s' := by
  induction h generalizing base with
  | answered => exact .inl rfl
  | move _ moved _ ih =>
    obtain ⟨base', sync'⟩ := moved.exists_sync sync
    exact (moved.keeps sync).trans (ih sync')

/-! ## Receiving -/

/-- A receive is in progress. -/
def Receives (s : State) : Prop :=
  match s.consumer with
  | .receiving | .requesting | .awaiting | .failing _ => True
  | .stopping sequel | .droppingRequests sequel | .droppingTokens sequel =>
    ∃ fault, sequel = .fail fault
  | _ => False

/-- How a receive can end. -/
inductive Received (base : Scanner) (s : State) : Prop
  | token {token : Token} (answered : s.consumer = .idle (some (.token token)))
      (given : base.next = (some token, s.scanner)) (sync : s.Sync s.scanner)
      (clear : s.fault = none)
  | failed {fault : Fault} (answered : s.consumer = .idle (some (.failed fault)))
      (recorded : s.fault = some fault) (sync : s.Sync base)

theorem Receives.congr {s s' : State} (same : s'.consumer = s.consumer) (h : s.Receives) :
    s'.Receives := by
  unfold Receives
  rw [same]
  exact h

theorem Receives.consumerStep {base : Scanner} {s s' : State} {m : Move} (h : s.Receives)
    (step : ConsumerStep s m s') (sync : s.Sync base) :
    (s'.Receives ∧ s'.Sync base) ∨ s'.Received base := by
  have ends := sync.ends.consumer
  unfold Receives at h
  by_cases take : m = .take
  · subst take
    obtain ⟨token, answered, given, sync'⟩ := sync.take step
    cases step with
    | take stands =>
      simp only [ConsumerEnds, stands] at ends
      exact .inr (.token answered given sync' ends.1)
  · have sync' := sync.consumerStep step take
    cases step with
    | take => exact absurd rfl take
    | repeatFault _ recorded => exact .inr (.failed rfl recorded sync')
    | missEnds | arriveLate | arriveInTime | request | requestInVain | findClosed | timeOut =>
      exact .inl ⟨trivial, sync'⟩
    | record => exact .inl ⟨⟨_, rfl⟩, sync'⟩
    | raiseFlag stands | dropRequests stands =>
      simp only [stands] at h
      exact .inl ⟨h, sync'⟩
    | dropTokens stands =>
      simp only [stands] at h
      simp only [ConsumerEnds, stands] at ends
      obtain ⟨fault, rfl⟩ := h
      exact .inr (.failed rfl ends.1 sync')
    | collect stands => simp [stands] at h

theorem Receives.move {base : Scanner} {s s' : State} (h : s.Receives) (moved : s.Moves s')
    (sync : s.Sync base) : (s'.Receives ∧ s'.Sync base) ∨ s'.Received base := by
  rcases moved.step with ⟨m, step⟩ | ⟨m, step⟩ | ⟨-, rfl⟩
  · exact h.consumerStep step sync
  · exact .inl ⟨h.congr step.frame.1, sync.producerStep step⟩
  · exact .inl ⟨h, sync.expire⟩

theorem Receives.isBusy {s : State} (h : s.Receives) : s.isBusy = true := by
  unfold Receives at h
  unfold State.isBusy
  split <;> simp_all

theorem Received.isIdle {base : Scanner} {s : State} (h : s.Received base) : s.isIdle = true := by
  cases h with
  | token answered | failed answered => exact isIdle_iff.mpr ⟨_, answered⟩

theorem Serves.received {base : Scanner} {s s' : State} (h : s.Serves s') (receives : s.Receives)
    (sync : s.Sync base) : s'.Received base := by
  refine h.ends (P := fun t => t.Receives ∧ t.Sync base) (Q := fun t => t.Received base)
    ⟨receives, sync⟩ (fun t inside => inside.1.isBusy) ?_
  rintro t t' ⟨receives, sync⟩ moved
  exact (receives.move moved sync).imp id fun received =>
    ⟨received, isBusy_of_isIdle received.isIdle⟩

/-- **A receive** gives the next token, or puts its fault on record. -/
theorem Calls.receive {base : Scanner} {s s' : State} (h : s.Calls .receive s')
    (quiet : s.isBusy = false) (sync : s.Sync base) : s'.Received base ∧ s.Keeps s' := by
  obtain ⟨s₁, -, sync₁, fault, begun, serves⟩ := h.begin quiet sync
  refine ⟨serves.received trivial begun, ?_⟩
  have first : s.Keeps s₁ := .inl fault
  exact first.trans (serves.keeps begun)

/-! ## Receiving after the deadline -/

/-- The deadline has passed, and the receive in progress has found out or will. -/
def Late (s : State) : Prop :=
  s.fault = some .deadlineExceeded ∨
    (s.deadline = .passed ∧ s.fault = none ∧
      (s.consumer = .receiving ∨ ∃ fault, s.consumer = .failing fault))

theorem Late.move {base : Scanner} {s s' : State} (h : s.Late) (moved : s.Moves s')
    (sync : s.Sync base) : s'.Late := by
  rcases h with recorded | ⟨passed, clear, stands⟩
  · exact .inl ((moved.keeps sync).of_some recorded)
  · rcases moved.step with ⟨m, step⟩ | ⟨m, step⟩ | ⟨pending, -⟩
    · cases step with
      | repeatFault _ recorded => exact absurd (recorded.symm.trans clear) (by simp)
      | missEnds | arriveLate => exact .inr ⟨passed, clear, .inr ⟨_, rfl⟩⟩
      | arriveInTime _ _ _ _ inTime => exact absurd passed inTime
      | @record fault => exact .inl (congrArg some (if_pos passed))
      | _ stands' => simp [stands'] at stands
    · obtain ⟨consumer, fault, -, -, -, deadline⟩ := step.frame
      rw [← consumer] at stands
      exact .inr ⟨deadline.trans passed, fault.trans clear, stands⟩
    · exact absurd (pending.symm.trans passed) (by simp)

theorem Serves.late {base : Scanner} {s s' : State} (h : s.Serves s') (late : s.Late)
    (sync : s.Sync base) : s'.fault = some .deadlineExceeded := by
  induction h generalizing base with
  | @answered s quiet =>
    rcases late with recorded | ⟨-, -, stands | ⟨fault, stands⟩⟩
    · exact recorded
    · simp [isBusy, stands] at quiet
    · simp [isBusy, stands] at quiet
  | move _ moved _ ih =>
    obtain ⟨base', sync'⟩ := moved.exists_sync sync
    exact ih (late.move moved sync) sync'

/-- **A receive after the deadline** is told so. -/
theorem Calls.receive_late {base : Scanner} {s s' : State} (h : s.Calls .receive s')
    (quiet : s.isBusy = false) (sync : s.Sync base) (clear : s.fault = none)
    (passed : s.deadline = .passed) : s'.fault = some .deadlineExceeded := by
  obtain ⟨s₁, drifts, -, fault, begun, serves⟩ := h.begin quiet sync
  exact serves.late (.inr ⟨drifts.later.passed passed, fault.trans clear, .inl rfl⟩) begun

/-! ## Cancelling -/

/-- The consumer is on its way to the sequel. -/
def Stops (sequel : Sequel) (s : State) : Prop :=
  s.consumer = .stopping sequel ∨ s.consumer = .droppingRequests sequel ∨
    s.consumer = .droppingTokens sequel

theorem Stops.isBusy {sequel : Sequel} {s : State} (h : s.Stops sequel) : s.isBusy = true := by
  rcases h with stands | stands | stands <;> simp [State.isBusy, stands]

theorem Stops.consumerStep {sequel : Sequel} {s s' : State} {m : Move} (h : s.Stops sequel)
    (step : ConsumerStep s m s') :
    m ≠ .take ∧ s'.fault = s.fault ∧
      (s'.Stops sequel ∨ s' = ({ s with canReceive := false, slot := none } : State).follow sequel) := by
  cases step with
  | @raiseFlag other stands =>
    obtain rfl : other = sequel := by simpa [Stops, stands] using h
    exact ⟨by simp, rfl, .inl (.inr (.inl rfl))⟩
  | @dropRequests other stands =>
    obtain rfl : other = sequel := by simpa [Stops, stands] using h
    exact ⟨by simp, rfl, .inl (.inr (.inr rfl))⟩
  | @dropTokens other stands =>
    obtain rfl : other = sequel := by simpa [Stops, stands] using h
    exact ⟨by simp, by cases other <;> rfl, .inr rfl⟩
  | _ stands => simp [Stops, stands] at h

/-- **A cancellation** goes on record unless a fault is there. -/
theorem Calls.cancel {base : Scanner} {s s' : State} (h : s.Calls .cancel s')
    (quiet : s.isBusy = false) (sync : s.Sync base) :
    s'.isIdle = true ∧ s'.Sync base ∧ s'.fault = s.fault.or (some .cancelled) := by
  obtain ⟨s₁, -, -, fault, begun, serves⟩ := h.begin quiet sync
  have recorded : (Call.cancel.begin s₁).fault = s.fault.or (some .cancelled) := by
    rw [← fault]
    rfl
  refine serves.ends
    (P := fun t => t.Stops .cancel ∧ t.Sync base ∧ t.fault = s.fault.or (some .cancelled))
    (Q := fun t => t.isIdle = true ∧ t.Sync base ∧ t.fault = s.fault.or (some .cancelled))
    ⟨.inl rfl, begun, recorded⟩ (fun t inside => inside.1.isBusy) ?_
  rintro t t' ⟨stops, sync, recorded⟩ moved
  rcases moved.step with ⟨m, step⟩ | ⟨m, step⟩ | ⟨-, rfl⟩
  · obtain ⟨other, fault', course⟩ := stops.consumerStep step
    have sync' := sync.consumerStep step other
    rcases course with stops' | ended
    · exact .inl ⟨stops', sync', fault'.trans recorded⟩
    · have idle : t'.isIdle = true := by rw [ended]; rfl
      exact .inr ⟨⟨idle, sync', fault'.trans recorded⟩, isBusy_of_isIdle idle⟩
  · obtain ⟨consumer, fault', -⟩ := step.frame
    refine .inl ⟨?_, sync.producerStep step, fault'.trans recorded⟩
    unfold Stops
    rw [consumer]
    exact stops
  · exact .inl ⟨stops, sync.expire, recorded⟩

/-! ## Joining -/

/-- A join is in progress. -/
def Joins (s : State) : Prop :=
  match s.consumer with
  | .stopping sequel | .droppingRequests sequel | .droppingTokens sequel => sequel = .join
  | .joining => True
  | _ => False

theorem Joins.isBusy {s : State} (h : s.Joins) : s.isBusy = true := by
  unfold Joins at h
  unfold State.isBusy
  split <;> simp_all

theorem Joins.congr {s s' : State} (same : s'.consumer = s.consumer) (h : s.Joins) :
    s'.Joins := by
  unfold Joins
  rw [same]
  exact h

theorem Joins.consumerStep {s s' : State} {m : Move} (h : s.Joins) (step : ConsumerStep s m s') :
    m ≠ .take ∧ s'.fault = s.fault ∧ (s'.Joins ∨ ∃ error, s'.consumer = .joined error) := by
  unfold Joins at h
  cases step with
  | raiseFlag stands | dropRequests stands =>
    simp only [stands] at h
    exact ⟨by simp, rfl, .inl h⟩
  | dropTokens stands =>
    simp only [stands] at h
    subst h
    exact ⟨by simp, rfl, .inl trivial⟩
  | collect => exact ⟨by simp, rfl, .inr ⟨_, rfl⟩⟩
  | _ stands => simp [stands] at h

theorem Joins.move {base : Scanner} {s s' : State} (h : s.Joins) (moved : s.Moves s')
    (sync : s.Sync base) :
    s'.fault = s.fault ∧ s'.Sync base ∧ (s'.Joins ∨ ∃ error, s'.consumer = .joined error) := by
  rcases moved.step with ⟨m, step⟩ | ⟨m, step⟩ | ⟨-, rfl⟩
  · obtain ⟨other, fault, joins⟩ := h.consumerStep step
    exact ⟨fault, sync.consumerStep step other, joins⟩
  · exact ⟨step.frame.2.1, sync.producerStep step, .inl (h.congr step.frame.1)⟩
  · exact ⟨rfl, sync.expire, .inl h⟩

theorem Serves.joined {base : Scanner} {s s' : State} (h : s.Serves s') (joins : s.Joins)
    (sync : s.Sync base) :
    s'.fault = s.fault ∧ s'.Sync base ∧ ∃ error, s'.consumer = .joined error := by
  refine h.ends (P := fun t => t.Joins ∧ t.fault = s.fault ∧ t.Sync base)
    (Q := fun t => t.fault = s.fault ∧ t.Sync base ∧ ∃ error, t.consumer = .joined error)
    ⟨joins, rfl, sync⟩ (fun t inside => inside.1.isBusy) ?_
  rintro t t' ⟨joins, fault, sync⟩ moved
  obtain ⟨fault', sync', joins' | ⟨error, answered⟩⟩ := joins.move moved sync
  · exact .inl ⟨joins', fault'.trans fault, sync'⟩
  · exact .inr ⟨⟨fault'.trans fault, sync', error, answered⟩, by simp [State.isBusy, answered]⟩

/-- **A join** waits for the producer and gives the error of its scanner. -/
theorem Calls.join {base : Scanner} {s s' : State} (h : s.Calls .join s')
    (quiet : s.isBusy = false) (sync : s.Sync base) :
    s'.fault = s.fault ∧ s'.Sync base ∧ s'.consumer = .joined s'.scanner.error := by
  obtain ⟨s₁, -, -, fault, begun, serves⟩ := h.begin quiet sync
  obtain ⟨fault', sync', error, answered⟩ := serves.joined rfl begun
  have flow := sync'.flow
  simp only [Flow, answered] at flow
  obtain ⟨-, -, rfl⟩ := flow
  exact ⟨fault'.trans fault, sync', answered⟩

end State

end AssignLang.Handoff
