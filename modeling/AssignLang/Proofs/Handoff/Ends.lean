import AssignLang.Proofs.Handoff.Step

/-! Which ends of the channels each thread still holds, by where it stands. Main statements: the ends
are as they should be in the beginning and after every move (`Ends.start`, `Ends.fire?`). The
consumer holds both its ends as long as no fault is on record, and between two calls it has dropped
both if one is. -/
namespace AssignLang.Handoff
set_option autoImplicit false

namespace State

/-- The consumer holds both its ends and has not raised the flag. -/
def Open (s : State) : Prop :=
  s.canRequest = true ∧ s.canReceive = true ∧ s.stopped = false

/-- The consumer has raised the flag and dropped both its ends. -/
def Shut (s : State) : Prop :=
  s.canRequest = false ∧ s.canReceive = false ∧ s.stopped = true

/-- The fault on record is what the sequel is there to tell. -/
def Suits (s : State) : Sequel → Prop
  | .fail fault => s.fault = some fault
  | .cancel => s.fault ≠ none
  | .join => True

/-- Between two calls. -/
def Quiet (s : State) : Prop :=
  (s.fault = none ∧ s.Open) ∨ (s.fault ≠ none ∧ s.Shut)

def ConsumerEnds (s : State) : Prop :=
  match s.consumer with
  | .idle _ | .receiving => s.Quiet
  | .requesting | .awaiting | .failing _ => s.fault = none ∧ s.Open
  | .stopping sequel => s.Suits sequel ∧ (s.Open ∨ s.Shut)
  | .droppingRequests sequel => s.Suits sequel ∧ s.stopped = true ∧ s.canRequest = s.canReceive
  | .droppingTokens sequel => s.Suits sequel ∧ s.stopped = true ∧ s.canRequest = false
  | .joining | .joined _ => s.Shut

def ProducerEnds (s : State) : Prop :=
  match s.producer with
  | .leaving => True
  | .gone => s.canServe = false ∧ s.canGive = false
  | _ => s.canServe = true ∧ s.canGive = true

structure Ends (s : State) : Prop where
  consumer : s.ConsumerEnds
  producer : s.ProducerEnds

theorem Ends.start (deadline : Deadline) (filename text : String) :
    (start deadline filename text).Ends :=
  ⟨.inl ⟨rfl, rfl, rfl, rfl⟩, rfl, rfl⟩

theorem Quiet.of_clear {s : State} (h : s.Quiet) (clear : s.fault = none) : s.Open := by
  rcases h with h | h
  · exact h.2
  · exact absurd clear h.1

/-! ## The consumer moves -/

theorem ConsumerEnds.consumerStep {s s' : State} {m : Move} (h : s.ConsumerEnds)
    (step : ConsumerStep s m s') : s'.ConsumerEnds := by
  cases step with
  | repeatFault stands =>
    simp only [ConsumerEnds, stands] at h
    exact h
  | missEnds stands clear | arriveLate stands clear | arriveInTime stands clear =>
    simp only [ConsumerEnds, stands] at h
    exact ⟨clear, h.of_clear clear⟩
  | request stands | requestInVain stands | findClosed stands | timeOut stands =>
    simp only [ConsumerEnds, stands] at h
    exact h
  | take stands =>
    simp only [ConsumerEnds, stands] at h
    exact .inl h
  | record stands =>
    simp only [ConsumerEnds, stands] at h
    exact ⟨rfl, .inl h.2⟩
  | @raiseFlag sequel stands =>
    simp only [ConsumerEnds, stands] at h
    obtain ⟨suits, ends⟩ := h
    refine ⟨suits, rfl, ?_⟩
    rcases ends with ⟨canRequest, canReceive, -⟩ | ⟨noRequest, noReceive, -⟩
    · exact canRequest.trans canReceive.symm
    · exact noRequest.trans noReceive.symm
  | dropRequests stands =>
    simp only [ConsumerEnds, stands] at h
    exact ⟨h.1, h.2.1, rfl⟩
  | @dropTokens sequel stands =>
    simp only [ConsumerEnds, stands] at h
    obtain ⟨suits, stopped, noRequest⟩ := h
    have shut : ({ s with canReceive := false, slot := none } : State).Shut :=
      ⟨noRequest, rfl, stopped⟩
    cases sequel with
    | fail fault => exact .inr ⟨by rw [State.follow]; exact suits ▸ Option.some_ne_none _, shut⟩
    | cancel => exact .inr ⟨suits, shut⟩
    | join => exact shut
  | collect stands =>
    simp only [ConsumerEnds, stands] at h
    exact h

theorem ProducerEnds.consumerStep {s s' : State} {m : Move} (h : s.ProducerEnds)
    (step : ConsumerStep s m s') : s'.ProducerEnds := by
  obtain ⟨-, producer, canServe, canGive, -⟩ := step.frame
  unfold ProducerEnds at h ⊢
  rw [producer, canServe, canGive]
  exact h

/-! ## The producer moves -/

theorem ConsumerEnds.producerStep {s s' : State} {m : Move} (h : s.ConsumerEnds)
    (step : ProducerStep s m s') : s'.ConsumerEnds := by
  cases step <;> exact h

theorem ProducerEnds.producerStep {s s' : State} {m : Move} (h : s.ProducerEnds)
    (step : ProducerStep s m s') : s'.ProducerEnds := by
  cases step with
  | acceptRequest stands | seeNoFlag stands | scan stands | give stands =>
    simp only [ProducerEnds, stands] at h
    exact h
  | findForsaken | lapse | seeFlag | scanPastEnd | giveInVain => trivial
  | closeRequests stands | closeTokens stands =>
    simp only [ProducerEnds, stands]
  | exit stands closedRequests closedTokens => exact ⟨closedRequests, closedTokens⟩

/-! ## Every move -/

theorem Ends.quiet {s : State} (h : s.Ends) (idle : s.isIdle = true) : s.Quiet := by
  obtain ⟨last, stands⟩ := isIdle_iff.mp idle
  have consumer := h.consumer
  simpa only [ConsumerEnds, stands] using consumer

theorem Ends.call {s : State} (h : s.Ends) (idle : s.isIdle = true) (c : Call) :
    (c.begin s).Ends := by
  have quiet := h.quiet idle
  refine ⟨?_, by cases c <;> exact h.producer⟩
  have either : s.Open ∨ s.Shut := quiet.imp And.right And.right
  cases c with
  | receive => exact quiet
  | cancel =>
    refine ⟨?_, either⟩
    show s.fault.or (some .cancelled) ≠ none
    simp
  | join => exact ⟨trivial, either⟩

theorem Ends.fire? {s s' : State} {m : Move} (h : s.Ends) (fired : s.fire? m = some s') :
    s'.Ends := by
  rcases step_of_fire? fired with ⟨c, rfl, idle, rfl⟩ | step | step | ⟨rfl, -, rfl⟩
  · exact h.call idle c
  · exact ⟨h.consumer.consumerStep step, h.producer.consumerStep step⟩
  · exact ⟨h.consumer.producerStep step, h.producer.producerStep step⟩
  · exact ⟨h.consumer, h.producer⟩

end State

end AssignLang.Handoff
