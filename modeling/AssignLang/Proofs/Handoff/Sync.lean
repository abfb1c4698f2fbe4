import AssignLang.Proofs.Handoff.Flow

/-! The consumer is in step with the scanner. Main statement: every move keeps it so, and the move
that takes a token out of the slot takes the one that `base` gives next (`Sync.fire?`). -/
namespace AssignLang.Handoff
open Lexical (Scanner)
set_option autoImplicit false

namespace State

/-! ## The consumer moves -/

/-- What goes on record is the true cause: a disconnected channel means the end of the stream only
as long as the deadline is still to come. -/
theorem ended_verdict {base : Scanner} {s : State} {fault : Fault}
    (h : s.deadline = .passed ∨ (fault = .closed ∧ s.Over base)) :
    s.Ended base (s.verdict fault) := by
  unfold verdict
  by_cases passed : s.deadline = .passed
  · rw [if_pos passed]
    exact passed
  · rw [if_neg passed]
    obtain ⟨rfl, finished⟩ := h.resolve_left passed
    exact finished

theorem Level.emptySlot {base : Scanner} {s : State} (h : s.Level base) :
    ({ s with canReceive := false, slot := none } : State).Level base :=
  ⟨h.1, rfl, h.2.2.1, h.2.2.2⟩

theorem Stopped.emptySlot {base : Scanner} {s : State} (h : s.Stopped base) :
    ({ s with canReceive := false, slot := none } : State).Stopped base := by
  refine Stopped.imp (s := s) rfl Level.emptySlot (fun _ => Ended.imp id ?_) h
  rintro ⟨level, finished⟩
  exact ⟨level.emptySlot, finished⟩

theorem Flow.consumerStep {base : Scanner} {s s' : State} {m : Move} (h : s.Flow base)
    (ends : s.Ends) (step : ConsumerStep s m s') (other : m ≠ .take) : s'.Flow base := by
  have consumerEnds := ends.consumer
  unfold Flow at h
  unfold ConsumerEnds at consumerEnds
  cases step with
  | repeatFault stands =>
    simp only [stands] at h
    exact h
  | missEnds stands clear missing =>
    simp only [stands] at consumerEnds
    obtain ⟨canRequest, canReceive, -⟩ := consumerEnds.of_clear clear
    exact absurd ⟨canRequest, canReceive⟩ missing
  | arriveLate stands clear canRequest canReceive passed => exact .inl passed
  | arriveInTime stands clear =>
    simp only [stands, Ready, clear] at h
    exact h
  | request stands served =>
    simp only [stands] at h
    obtain ⟨⟨unasked, empty, level, apart⟩, loyal⟩ := h
    exact .inl ⟨.asked (by simp [unasked]) empty level apart, loyal⟩
  | requestInVain stands left =>
    simp only [stands] at h
    exact .inl (h.2 (ends.departed (.inl left)))
  | take => exact absurd rfl other
  | findClosed stands empty left =>
    simp only [stands] at h
    -- A closed channel does not say why the producer left: the deadline may have passed as well.
    rcases h with ⟨-, loyal⟩ | finished
    · exact .inl (loyal (ends.departed (.inr left)))
    · exact .inr ⟨rfl, finished⟩
  | timeOut stands empty passed => exact .inl passed
  | record stands =>
    simp only [stands] at h
    exact ended_verdict h
  | raiseFlag stands | dropRequests stands =>
    simp only [stands] at h
    exact h
  | @dropTokens sequel stands =>
    simp only [stands] at h consumerEnds
    have stopped := h.emptySlot
    cases sequel with
    | fail fault =>
      refine stopped.ready ?_
      show s.fault ≠ none
      rw [consumerEnds.1]
      simp
    | cancel => exact stopped.ready consumerEnds.1
    | join => exact stopped
  | collect stands gone =>
    simp only [stands] at h
    exact ⟨h, gone, rfl⟩

/-- The token in the slot is the one that `base` gives next. -/
theorem Flow.take {base : Scanner} {s s' : State} (h : s.Flow base) (ends : s.Ends)
    (step : ConsumerStep s .take s') :
    ∃ token, s'.consumer = .idle (some (.token token)) ∧ base.next = (some token, s'.scanner) ∧
      s'.Flow s'.scanner := by
  have consumerEnds := ends.consumer
  unfold Flow at h
  unfold ConsumerEnds at consumerEnds
  cases step with
  | @take token stands there =>
    simp only [stands] at h consumerEnds
    rcases h with ⟨ahead, loyal⟩ | ⟨⟨-, empty, -⟩, -⟩
    · cases ahead with
      | handed unasked filled given apart =>
        obtain rfl := Option.some.inj (there.symm.trans filled)
        refine ⟨token, rfl, given, ?_⟩
        show State.Ready _ _
        unfold Ready
        simp only [answer, consumerEnds.1]
        exact ⟨⟨unasked, rfl, rfl, apart⟩, loyal⟩
      | asked _ empty | accepted _ empty | held _ empty =>
        exact absurd (there.symm.trans empty) (by simp)
    · exact absurd (there.symm.trans empty) (by simp)

/-! ## Every move -/

/-- The state fits a consumer that knows the scanner as `base`. -/
structure Sync (base : Scanner) (s : State) : Prop where
  ends : s.Ends
  flow : s.Flow base

theorem Sync.start (deadline : Deadline) (filename text : String) :
    (start deadline filename text).Sync (.ofText filename text) :=
  ⟨.start deadline filename text, ⟨rfl, rfl, rfl, .inl rfl⟩, fun departed => by
    simp [Departed, State.start] at departed⟩

theorem Sync.ready {base : Scanner} {s : State} (h : s.Sync base) (idle : s.isIdle = true) :
    s.Ready base := by
  obtain ⟨last, stands⟩ := isIdle_iff.mp idle
  have flow := h.flow
  simpa only [Flow, stands] using flow

theorem Sync.call {base : Scanner} {s : State} (h : s.Sync base) (idle : s.isIdle = true)
    (c : Call) : (c.begin s).Sync base := by
  refine ⟨h.ends.call idle c, ?_⟩
  have ready := h.ready idle
  cases c with
  | receive => exact ready
  | join => exact ready.stopped
  | cancel =>
    have stopped := ready.stopped
    show Stopped base _
    unfold Stopped at stopped ⊢
    cases recorded : s.fault with
    | none =>
      simp only [Call.begin, recorded, Option.none_or]
      trivial
    | some f =>
      simp only [Call.begin, recorded, Option.some_or] at stopped ⊢
      exact stopped

theorem Ahead.expire {base : Scanner} {s : State} (h : s.Ahead base) :
    ({ s with deadline := .passed } : State).Ahead base := by
  cases h with
  | asked one empty level apart => exact .asked one empty level apart
  | accepted unasked empty level busy => exact .accepted unasked empty level busy
  | held unasked empty given holds => exact .held unasked empty given holds
  | handed unasked filled given apart => exact .handed unasked filled given apart

theorem Flow.expire {base : Scanner} {s s' : State} (h : s.Flow base)
    (expired : s' = { s with deadline := .passed }) : s'.Flow base := by
  have loyal : s'.Loyal := fun _ => by rw [expired]
  have consumer : s'.consumer = s.consumer := by rw [expired]
  have fault : s'.fault = s.fault := by rw [expired]
  have level : s.Level base → s'.Level base := fun before => by rwa [expired]
  have finished : s.Over base → s'.Over base := fun before => by rwa [expired]
  have ended : ∀ f, s.Ended base f → s'.Ended base f :=
    fun _ => Ended.imp (fun _ => by rw [expired]) finished
  unfold Flow at h ⊢
  rw [consumer]
  cases stands : s.consumer with
  | idle | receiving =>
    rw [stands] at h
    exact Ready.imp fault (fun _ before => ⟨level before.1, loyal⟩) ended h
  | requesting =>
    rw [stands] at h
    exact ⟨level h.1, loyal⟩
  | awaiting =>
    rw [stands] at h
    refine h.imp (fun before => ⟨?_, loyal⟩) finished
    rw [expired]
    exact before.1.expire
  | failing => exact .inl (by rw [expired])
  | stopping | droppingRequests | droppingTokens | joining =>
    rw [stands] at h
    exact Stopped.imp fault level ended h
  | joined error =>
    rw [stands] at h
    obtain ⟨stopped, gone, rfl⟩ := h
    refine ⟨Stopped.imp fault level ended stopped, ?_, ?_⟩
    · rw [expired]
      exact gone
    · rw [expired]

theorem Sync.consumerStep {base : Scanner} {s s' : State} {m : Move} (h : s.Sync base)
    (step : ConsumerStep s m s') (other : m ≠ .take) : s'.Sync base :=
  ⟨h.ends.fire? (fire?_of_consumerStep step), h.flow.consumerStep h.ends step other⟩

theorem Sync.take {base : Scanner} {s s' : State} (h : s.Sync base)
    (step : ConsumerStep s .take s') :
    ∃ token, s'.consumer = .idle (some (.token token)) ∧ base.next = (some token, s'.scanner) ∧
      s'.Sync s'.scanner := by
  obtain ⟨token, answered, given, flow⟩ := h.flow.take h.ends step
  exact ⟨token, answered, given, h.ends.fire? (fire?_of_consumerStep step), flow⟩

theorem Sync.producerStep {base : Scanner} {s s' : State} {m : Move} (h : s.Sync base)
    (step : ProducerStep s m s') : s'.Sync base :=
  ⟨h.ends.fire? (fire?_of_producerStep step), h.flow.producerStep h.ends.consumer step⟩

theorem Sync.expire {base : Scanner} {s : State} (h : s.Sync base) :
    ({ s with deadline := .passed } : State).Sync base :=
  ⟨⟨h.ends.consumer, h.ends.producer⟩, h.flow.expire rfl⟩

/-- **A move keeps the consumer in step**, and the one that takes a token takes the next one. -/
theorem Sync.fire? {base : Scanner} {s s' : State} {m : Move} (h : s.Sync base)
    (fired : s.fire? m = some s') :
    s'.Sync base ∨ ∃ token, m = .take ∧ s'.consumer = .idle (some (.token token)) ∧
      base.next = (some token, s'.scanner) ∧ s'.Sync s'.scanner := by
  rcases step_of_fire? fired with ⟨c, rfl, idle, rfl⟩ | step | step | ⟨rfl, -, rfl⟩
  · exact .inl (h.call idle c)
  · by_cases take : m = .take
    · subst take
      obtain ⟨token, received⟩ := h.take step
      exact .inr ⟨token, rfl, received⟩
    · exact .inl (h.consumerStep step take)
  · exact .inl (h.producerStep step)
  · exact .inl h.expire

theorem Sync.exists_of_fire? {base : Scanner} {s s' : State} {m : Move} (h : s.Sync base)
    (fired : s.fire? m = some s') : ∃ base', s'.Sync base' := by
  rcases h.fire? fired with sync | ⟨_, -, -, -, sync⟩
  · exact ⟨base, sync⟩
  · exact ⟨s'.scanner, sync⟩

end State

end AssignLang.Handoff
