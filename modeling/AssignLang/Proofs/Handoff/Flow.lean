import AssignLang.Proofs.Handoff.Ends
import AssignLang.Proofs.Lexical.Terminal

/-! The tokens on their way from the producer to the consumer. Beside a state stands `base`, the
scanner as the consumer knows it, which has given just the tokens that were received. The producer is
at most one token ahead of it. Main statement: the moves of the producer keep to this, and it leaves
at the end of its stream, once the deadline has passed or when it is stopped, and for no other reason
(`Flow.producerStep`). -/
namespace AssignLang.Handoff
open Lexical (Scanner)
set_option autoImplicit false

namespace State

/-! ## Where the next token is -/

def Departed (s : State) : Prop :=
  s.producer = .leaving ∨ s.producer = .gone

/-- The producer leaves of its own accord only once the deadline has passed. -/
def Loyal (s : State) : Prop :=
  s.Departed → s.deadline = .passed

/-- No token is asked for. -/
def Level (base : Scanner) (s : State) : Prop :=
  s.requests = 0 ∧ s.slot = none ∧ s.scanner = base ∧ (s.producer = .waiting ∨ s.Departed)

/-- The producer has left at the end of its stream. -/
def Over (base : Scanner) (s : State) : Prop :=
  s.Level base ∧ s.Departed ∧ base.mode = .done

/-- A token is asked for and not yet received. -/
inductive Ahead (base : Scanner) (s : State) : Prop
  | asked (one : s.requests = 1) (empty : s.slot = none) (level : s.scanner = base)
      (apart : s.producer = .waiting ∨ s.Departed)
  | accepted (unasked : s.requests = 0) (empty : s.slot = none) (level : s.scanner = base)
      (busy : s.producer = .requested ∨ s.producer = .scanning)
  | held {token : Token} (unasked : s.requests = 0) (empty : s.slot = none)
      (given : base.next = (some token, s.scanner)) (holds : s.producer = .giving token)
  | handed {token : Token} (unasked : s.requests = 0) (filled : s.slot = some token)
      (given : base.next = (some token, s.scanner)) (apart : s.producer = .waiting ∨ s.Departed)

/-! ## What the consumer may take for granted -/

/-- What holds once a fault is on record. -/
def Ended (base : Scanner) (s : State) : Fault → Prop
  | .deadlineExceeded => s.deadline = .passed
  | .closed => s.Over base
  | .cancelled => True
  | .notStarted _ => False

/-- What holds while the producer is being stopped, and after. -/
def Stopped (base : Scanner) (s : State) : Prop :=
  match s.fault with
  | none => s.Level base
  | some fault => s.Ended base fault

/-- What holds between two calls. -/
def Ready (base : Scanner) (s : State) : Prop :=
  match s.fault with
  | none => s.Level base ∧ s.Loyal
  | some fault => s.Ended base fault

def Flow (base : Scanner) (s : State) : Prop :=
  match s.consumer with
  | .idle _ | .receiving => s.Ready base
  | .requesting => s.Level base ∧ s.Loyal
  | .awaiting => (s.Ahead base ∧ s.Loyal) ∨ s.Over base
  | .failing fault => s.deadline = .passed ∨ (fault = .closed ∧ s.Over base)
  | .stopping _ | .droppingRequests _ | .droppingTokens _ | .joining => s.Stopped base
  | .joined error => s.Stopped base ∧ s.producer = .gone ∧ error = s.scanner.error

section Imp
variable {base : Scanner} {s s' : State}

theorem Ended.imp {fault : Fault} (deadline : s.deadline = .passed → s'.deadline = .passed)
    (finished : s.Over base → s'.Over base) (h : s.Ended base fault) : s'.Ended base fault := by
  cases fault with
  | deadlineExceeded => exact deadline h
  | closed => exact finished h
  | cancelled => trivial
  | notStarted reason => exact h

theorem Stopped.imp (fault : s'.fault = s.fault) (level : s.Level base → s'.Level base)
    (ended : ∀ f, s.Ended base f → s'.Ended base f) (h : s.Stopped base) : s'.Stopped base := by
  unfold Stopped at h ⊢
  rw [fault]
  cases recorded : s.fault with
  | none =>
    rw [recorded] at h
    exact level h
  | some f =>
    rw [recorded] at h
    exact ended f h

theorem Ready.imp (fault : s'.fault = s.fault)
    (clear : s.fault = none → s.Level base ∧ s.Loyal → s'.Level base ∧ s'.Loyal)
    (ended : ∀ f, s.Ended base f → s'.Ended base f) (h : s.Ready base) : s'.Ready base := by
  unfold Ready at h ⊢
  rw [fault]
  cases recorded : s.fault with
  | none =>
    rw [recorded] at h
    exact clear recorded h
  | some f =>
    rw [recorded] at h
    exact ended f h

theorem Ready.stopped (h : s.Ready base) : s.Stopped base := by
  unfold Ready at h
  unfold Stopped
  cases recorded : s.fault with
  | none =>
    rw [recorded] at h
    exact h.1
  | some f =>
    rw [recorded] at h
    exact h

theorem Stopped.ready (h : s.Stopped base) (ended : s.fault ≠ none) : s.Ready base := by
  obtain ⟨fault, recorded⟩ := Option.ne_none_iff_exists'.mp ended
  unfold Stopped at h
  unfold Ready
  rw [recorded] at h ⊢
  exact h

end Imp

/-! ## The producer moves -/

theorem Departed.producerStep {s s' : State} {m : Move} (h : s.Departed)
    (step : ProducerStep s m s') : s'.Departed := by
  unfold Departed at h
  cases step with
  | closeRequests | closeTokens => exact h
  | exit => exact .inr rfl
  | _ stands => simp [stands] at h

/-- A producer that is not at work on a token takes a request or leaves. -/
theorem producerStep_apart {s s' : State} {m : Move} (step : ProducerStep s m s')
    (apart : s.producer = .waiting ∨ s.Departed) :
    (s.requests ≠ 0 ∧ s' = { s with producer := .requested, requests := s.requests - 1 }) ∨
      (s'.Departed ∧ s'.requests = s.requests ∧ s'.slot = s.slot ∧ s'.scanner = s.scanner ∧
        (s.Departed ∨ s.requests = 0 ∧ (s.canRequest = false ∨ s.deadline = .passed))) := by
  cases step with
  | acceptRequest stands asked => exact .inl ⟨asked, rfl⟩
  | findForsaken stands unasked dropped =>
    exact .inr ⟨.inl rfl, rfl, rfl, rfl, .inr ⟨unasked, .inl dropped⟩⟩
  | lapse stands unasked passed =>
    exact .inr ⟨.inl rfl, rfl, rfl, rfl, .inr ⟨unasked, .inr passed⟩⟩
  | closeRequests stands | closeTokens stands =>
    exact .inr ⟨.inl stands, rfl, rfl, rfl, .inl (.inl stands)⟩
  | exit stands => exact .inr ⟨.inr rfl, rfl, rfl, rfl, .inl (.inl stands)⟩
  | _ stands => simp [Departed, stands] at apart

theorem Ends.departed {s : State} (h : s.Ends) (left : s.canServe = false ∨ s.canGive = false) :
    s.Departed := by
  have producer := h.producer
  unfold ProducerEnds at producer
  unfold Departed
  cases stands : s.producer with
  | leaving | gone => simp
  | _ =>
    rw [stands] at producer
    rcases left with left | left
    · exact absurd (left.symm.trans producer.1) (by simp)
    · exact absurd (left.symm.trans producer.2) (by simp)

theorem Level.producerStep {base : Scanner} {s s' : State} {m : Move} (h : s.Level base)
    (step : ProducerStep s m s') : s'.Level base := by
  obtain ⟨unasked, empty, level, apart⟩ := h
  rcases producerStep_apart step apart with ⟨asked, -⟩ | ⟨departed, requests, slot, scanner, -⟩
  · exact absurd unasked asked
  · exact ⟨requests.trans unasked, slot.trans empty, scanner.trans level, .inr departed⟩

theorem Over.producerStep {base : Scanner} {s s' : State} {m : Move} (h : s.Over base)
    (step : ProducerStep s m s') : s'.Over base :=
  ⟨h.1.producerStep step, h.2.1.producerStep step, h.2.2⟩

theorem Ended.producerStep {base : Scanner} {s s' : State} {m : Move}
    (step : ProducerStep s m s') (fault : Fault) (h : s.Ended base fault) :
    s'.Ended base fault := by
  obtain ⟨-, -, -, -, -, deadline⟩ := step.frame
  exact h.imp deadline.trans fun finished => finished.producerStep step

theorem Loyal.producerStep {s s' : State} {m : Move} (h : s.Loyal) (ends : s.Open)
    (apart : s.producer = .waiting ∨ s.Departed) (step : ProducerStep s m s') : s'.Loyal := by
  obtain ⟨-, -, -, -, -, deadline⟩ := step.frame
  intro departed
  rw [deadline]
  rcases producerStep_apart step apart with ⟨-, rfl⟩ | ⟨-, -, -, -, before | ⟨-, dropped | passed⟩⟩
  · simp [Departed] at departed
  · exact h before
  · rw [ends.1] at dropped
    exact absurd dropped (by simp)
  · exact passed

theorem Ahead.producerStep {base : Scanner} {s s' : State} {m : Move} (h : s.Ahead base)
    (loyal : s.Loyal) (ends : s.Open) (step : ProducerStep s m s') :
    (s'.Ahead base ∧ s'.Loyal) ∨ s'.Over base := by
  -- The token goes from one place to the next, and only a scanner past its end gives up the request.
  cases h with
  | asked one empty level apart =>
    refine .inl ⟨?_, loyal.producerStep ends apart step⟩
    rcases producerStep_apart step apart with ⟨-, rfl⟩ | ⟨departed, requests, slot, scanner, -⟩
    · exact .accepted (by simp [one]) empty level (.inl rfl)
    · exact .asked (requests.trans one) (slot.trans empty) (scanner.trans level) (.inr departed)
  | @handed token unasked filled given apart =>
    refine .inl ⟨?_, loyal.producerStep ends apart step⟩
    rcases producerStep_apart step apart with ⟨asked, -⟩ | ⟨departed, requests, slot, scanner, -⟩
    · exact absurd unasked asked
    · exact .handed (requests.trans unasked) (slot.trans filled) (scanner ▸ given) (.inr departed)
  | accepted unasked empty level busy =>
    cases step with
    | seeFlag stands stopped =>
      rw [ends.2.2] at stopped
      exact absurd stopped (by simp)
    | seeNoFlag stands running =>
      exact .inl ⟨.accepted unasked empty level (.inr rfl), fun departed => by
        simp [Departed] at departed⟩
    | @scan token scanner stands given =>
      rw [level] at given
      exact .inl ⟨.held unasked empty given rfl, fun departed => by simp [Departed] at departed⟩
    | scanPastEnd stands drained =>
      rw [level, Scanner.next_eq_none_iff] at drained
      exact .inr ⟨⟨unasked, empty, level, .inr (.inl rfl)⟩, .inl rfl, drained⟩
    | _ stands => simp [stands] at busy
  | @held token unasked empty given holds =>
    cases step with
    | @give token' stands _ _ =>
      obtain rfl : token = token' := by simpa [holds] using stands
      exact .inl ⟨.handed unasked rfl given (.inl rfl), fun departed => by
        simp [Departed] at departed⟩
    | giveInVain stands dropped =>
      rw [ends.2.1] at dropped
      exact absurd dropped (by simp)
    | _ stands => simp [stands] at holds

theorem Ready.producerStep {base : Scanner} {s s' : State} {m : Move} (h : s.Ready base)
    (quiet : s.Quiet) (step : ProducerStep s m s') : s'.Ready base := by
  refine h.imp step.frame.2.1 ?_ (Ended.producerStep step)
  rintro clear ⟨level, loyal⟩
  exact ⟨level.producerStep step, loyal.producerStep (quiet.of_clear clear) level.2.2.2 step⟩

theorem Stopped.producerStep {base : Scanner} {s s' : State} {m : Move} (h : s.Stopped base)
    (step : ProducerStep s m s') : s'.Stopped base :=
  h.imp step.frame.2.1 (fun level => level.producerStep step) (Ended.producerStep step)

theorem Flow.producerStep {base : Scanner} {s s' : State} {m : Move} (h : s.Flow base)
    (ends : s.ConsumerEnds) (step : ProducerStep s m s') : s'.Flow base := by
  obtain ⟨consumer, -, -, -, -, deadline⟩ := step.frame
  unfold Flow ConsumerEnds at *
  rw [consumer]
  cases stands : s.consumer with
  | idle | receiving =>
    rw [stands] at h ends
    exact Ready.producerStep h ends step
  | requesting =>
    rw [stands] at h ends
    exact ⟨h.1.producerStep step, h.2.producerStep ends.2 h.1.2.2.2 step⟩
  | awaiting =>
    rw [stands] at h ends
    rcases h with ⟨ahead, loyal⟩ | finished
    · exact ahead.producerStep loyal ends.2 step
    · exact .inr (finished.producerStep step)
  | failing fault =>
    rw [stands] at h
    exact h.imp deadline.trans fun ⟨closed, finished⟩ => ⟨closed, finished.producerStep step⟩
  | stopping | droppingRequests | droppingTokens | joining =>
    rw [stands] at h
    exact Stopped.producerStep h step
  | joined error =>
    rw [stands] at h
    obtain ⟨-, gone, -⟩ := h
    cases step with
    | _ stands => simp [stands] at gone

end State

end AssignLang.Handoff
