import AssignLang.Handoff.Move

/-! The moves of a handoff as two step relations, one for each thread, with the guard of each step in
its constructor. Main statement: a move that fires begins a call, is a step of one of the threads, or
lets the deadline pass (`step_of_fire?`). What is said of every move is proved by cases on the
steps. -/
namespace AssignLang.Handoff
set_option autoImplicit false

/-! ## The steps of the consumer -/

inductive ConsumerStep (s : State) : Move → State → Prop
  | repeatFault {fault : Fault} (stands : s.consumer = .receiving) (recorded : s.fault = some fault) :
      ConsumerStep s .repeatFault (s.answer (.failed fault))
  | missEnds (stands : s.consumer = .receiving) (clear : s.fault = none)
      (missing : ¬ (s.canRequest = true ∧ s.canReceive = true)) :
      ConsumerStep s .missEnds { s with consumer := .failing .cancelled }
  | arriveLate (stands : s.consumer = .receiving) (clear : s.fault = none)
      (canRequest : s.canRequest = true) (canReceive : s.canReceive = true)
      (passed : s.deadline = .passed) :
      ConsumerStep s .arriveLate { s with consumer := .failing .deadlineExceeded }
  | arriveInTime (stands : s.consumer = .receiving) (clear : s.fault = none)
      (canRequest : s.canRequest = true) (canReceive : s.canReceive = true)
      (inTime : s.deadline ≠ .passed) :
      ConsumerStep s .arriveInTime { s with consumer := .requesting }
  | request (stands : s.consumer = .requesting) (served : s.canServe = true) :
      ConsumerStep s .request { s with consumer := .awaiting, requests := s.requests + 1 }
  | requestInVain (stands : s.consumer = .requesting) (left : s.canServe = false) :
      ConsumerStep s .requestInVain { s with consumer := .failing .closed }
  | take {token : Token} (stands : s.consumer = .awaiting) (there : s.slot = some token) :
      ConsumerStep s .take ({ s with slot := none }.answer (.token token))
  | findClosed (stands : s.consumer = .awaiting) (empty : s.slot = none) (left : s.canGive = false) :
      ConsumerStep s .findClosed { s with consumer := .failing .closed }
  | timeOut (stands : s.consumer = .awaiting) (empty : s.slot = none) (passed : s.deadline = .passed) :
      ConsumerStep s .timeOut { s with consumer := .failing .deadlineExceeded }
  | record {fault : Fault} (stands : s.consumer = .failing fault) :
      ConsumerStep s .record
        { s with fault := some (s.verdict fault), consumer := .stopping (.fail (s.verdict fault)) }
  | raiseFlag {sequel : Sequel} (stands : s.consumer = .stopping sequel) :
      ConsumerStep s .raiseFlag { s with stopped := true, consumer := .droppingRequests sequel }
  | dropRequests {sequel : Sequel} (stands : s.consumer = .droppingRequests sequel) :
      ConsumerStep s .dropRequests
        { s with canRequest := false, consumer := .droppingTokens sequel }
  | dropTokens {sequel : Sequel} (stands : s.consumer = .droppingTokens sequel) :
      ConsumerStep s .dropTokens ({ s with canReceive := false, slot := none }.follow sequel)
  | collect (stands : s.consumer = .joining) (gone : s.producer = .gone) :
      ConsumerStep s .collect { s with consumer := .joined s.scanner.error }

/-! ## The steps of the producer -/

inductive ProducerStep (s : State) : Move → State → Prop
  | acceptRequest (stands : s.producer = .waiting) (asked : s.requests ≠ 0) :
      ProducerStep s .acceptRequest { s with producer := .requested, requests := s.requests - 1 }
  | findForsaken (stands : s.producer = .waiting) (unasked : s.requests = 0)
      (dropped : s.canRequest = false) :
      ProducerStep s .findForsaken { s with producer := .leaving }
  | lapse (stands : s.producer = .waiting) (unasked : s.requests = 0) (passed : s.deadline = .passed) :
      ProducerStep s .lapse { s with producer := .leaving }
  | seeFlag (stands : s.producer = .requested) (stopped : s.stopped = true) :
      ProducerStep s .seeFlag { s with producer := .leaving }
  | seeNoFlag (stands : s.producer = .requested) (running : s.stopped = false) :
      ProducerStep s .seeNoFlag { s with producer := .scanning }
  | scan {token : Token} {scanner : Lexical.Scanner} (stands : s.producer = .scanning)
      (given : s.scanner.next = (some token, scanner)) :
      ProducerStep s .scan { s with scanner := scanner, producer := .giving token }
  | scanPastEnd (stands : s.producer = .scanning) (drained : s.scanner.next.1 = none) :
      ProducerStep s .scanPastEnd { s with producer := .leaving }
  | give {token : Token} (stands : s.producer = .giving token) (held : s.canReceive = true)
      (empty : s.slot = none) :
      ProducerStep s .give { s with slot := some token, producer := .waiting }
  | giveInVain {token : Token} (stands : s.producer = .giving token) (dropped : s.canReceive = false) :
      ProducerStep s .giveInVain { s with producer := .leaving }
  | closeRequests (stands : s.producer = .leaving) (held : s.canServe = true) :
      ProducerStep s .closeRequests { s with canServe := false }
  | closeTokens (stands : s.producer = .leaving) (held : s.canGive = true) :
      ProducerStep s .closeTokens { s with canGive := false }
  | exit (stands : s.producer = .leaving) (closedRequests : s.canServe = false)
      (closedTokens : s.canGive = false) :
      ProducerStep s .exit { s with producer := .gone }

/-! ## What a step leaves as it is -/

theorem ConsumerStep.frame {s s' : State} {m : Move} (h : ConsumerStep s m s') :
    s'.scanner = s.scanner ∧ s'.producer = s.producer ∧ s'.canServe = s.canServe ∧
      s'.canGive = s.canGive ∧ s'.deadline = s.deadline := by
  cases h with
  | @dropTokens sequel => cases sequel <;> exact ⟨rfl, rfl, rfl, rfl, rfl⟩
  | _ => exact ⟨rfl, rfl, rfl, rfl, rfl⟩

theorem ProducerStep.frame {s s' : State} {m : Move} (h : ProducerStep s m s') :
    s'.consumer = s.consumer ∧ s'.fault = s.fault ∧ s'.canRequest = s.canRequest ∧
      s'.canReceive = s.canReceive ∧ s'.stopped = s.stopped ∧ s'.deadline = s.deadline := by
  cases h <;> exact ⟨rfl, rfl, rfl, rfl, rfl, rfl⟩

namespace Move

def isOfConsumer : Move → Bool
  | repeatFault | missEnds | arriveLate | arriveInTime | request | requestInVain | take | findClosed
  | timeOut | record | raiseFlag | dropRequests | dropTokens | collect => true
  | _ => false

def isOfProducer : Move → Bool
  | acceptRequest | findForsaken | lapse | seeFlag | seeNoFlag | scan | scanPastEnd | give
  | giveInVain | closeRequests | closeTokens | exit => true
  | _ => false

end Move

namespace State

theorem isIdle_iff {s : State} : s.isIdle = true ↔ ∃ last, s.consumer = .idle last := by
  unfold isIdle
  split
  next last stands => exact ⟨fun _ => ⟨last, stands⟩, fun _ => rfl⟩
  next other => exact ⟨fun h => absurd h (by simp), fun ⟨last, stands⟩ => absurd stands (other last)⟩

/-! ## The steps are the moves -/

theorem fire?_of_consumerStep {s s' : State} {m : Move} (h : ConsumerStep s m s') :
    s.fire? m = some s' := by
  cases h <;> simp_all [fire?]

theorem fire?_of_producerStep {s s' : State} {m : Move} (h : ProducerStep s m s') :
    s.fire? m = some s' := by
  cases h with
  | scanPastEnd stands drained =>
    simp only [fire?, stands, if_true]
    split
    next given =>
      rw [given] at drained
      exact absurd drained (by simp)
    next => rfl
  | _ => simp_all [fire?]

theorem of_guard {p : Prop} [Decidable p] {t s' : State}
    (h : (if p then some t else none) = some s') : p ∧ t = s' := by
  rwa [Option.ite_none_right_eq_some, Option.some.injEq] at h

theorem consumerStep_of_fire? {s s' : State} {m : Move} (h : s.fire? m = some s')
    (mine : m.isOfConsumer = true) : ConsumerStep s m s' := by
  cases m with
  | repeatFault =>
    simp only [fire?] at h
    split at h
    next fault stands recorded =>
      obtain rfl := Option.some.inj h
      exact .repeatFault stands recorded
    next => exact absurd h (by simp)
  | missEnds =>
    obtain ⟨⟨stands, clear, missing⟩, rfl⟩ := of_guard h
    exact .missEnds stands clear missing
  | arriveLate =>
    obtain ⟨⟨stands, clear, canRequest, canReceive, passed⟩, rfl⟩ := of_guard h
    exact .arriveLate stands clear canRequest canReceive passed
  | arriveInTime =>
    obtain ⟨⟨stands, clear, canRequest, canReceive, inTime⟩, rfl⟩ := of_guard h
    exact .arriveInTime stands clear canRequest canReceive inTime
  | request =>
    obtain ⟨⟨stands, served⟩, rfl⟩ := of_guard h
    exact .request stands served
  | requestInVain =>
    obtain ⟨⟨stands, left⟩, rfl⟩ := of_guard h
    exact .requestInVain stands (by simpa using left)
  | take =>
    simp only [fire?] at h
    split at h
    next token stands there =>
      obtain rfl := Option.some.inj h
      exact .take stands there
    next => exact absurd h (by simp)
  | findClosed =>
    obtain ⟨⟨stands, empty, left⟩, rfl⟩ := of_guard h
    exact .findClosed stands empty (by simpa using left)
  | timeOut =>
    obtain ⟨⟨stands, empty, passed⟩, rfl⟩ := of_guard h
    exact .timeOut stands empty passed
  | record =>
    simp only [fire?] at h
    split at h
    next fault stands =>
      obtain rfl := Option.some.inj h
      exact .record stands
    next => exact absurd h (by simp)
  | raiseFlag =>
    simp only [fire?] at h
    split at h
    next sequel stands =>
      obtain rfl := Option.some.inj h
      exact .raiseFlag stands
    next => exact absurd h (by simp)
  | dropRequests =>
    simp only [fire?] at h
    split at h
    next sequel stands =>
      obtain rfl := Option.some.inj h
      exact .dropRequests stands
    next => exact absurd h (by simp)
  | dropTokens =>
    simp only [fire?] at h
    split at h
    next sequel stands =>
      obtain rfl := Option.some.inj h
      exact .dropTokens stands
    next => exact absurd h (by simp)
  | collect =>
    obtain ⟨⟨stands, gone⟩, rfl⟩ := of_guard h
    exact .collect stands gone
  | _ => exact absurd mine (by simp [Move.isOfConsumer])

theorem producerStep_of_fire? {s s' : State} {m : Move} (h : s.fire? m = some s')
    (mine : m.isOfProducer = true) : ProducerStep s m s' := by
  cases m with
  | acceptRequest =>
    obtain ⟨⟨stands, asked⟩, rfl⟩ := of_guard h
    exact .acceptRequest stands asked
  | findForsaken =>
    obtain ⟨⟨stands, unasked, dropped⟩, rfl⟩ := of_guard h
    exact .findForsaken stands unasked (by simpa using dropped)
  | lapse =>
    obtain ⟨⟨stands, unasked, passed⟩, rfl⟩ := of_guard h
    exact .lapse stands unasked passed
  | seeFlag =>
    obtain ⟨⟨stands, stopped⟩, rfl⟩ := of_guard h
    exact .seeFlag stands stopped
  | seeNoFlag =>
    obtain ⟨⟨stands, running⟩, rfl⟩ := of_guard h
    exact .seeNoFlag stands (by simpa using running)
  | scan =>
    simp only [fire?] at h
    split at h
    next stands =>
      split at h
      next given =>
        obtain rfl := Option.some.inj h
        exact .scan stands given
      next => exact absurd h (by simp)
    next => exact absurd h (by simp)
  | scanPastEnd =>
    simp only [fire?] at h
    split at h
    next stands =>
      split at h
      next => exact absurd h (by simp)
      next drained =>
        obtain rfl := Option.some.inj h
        exact .scanPastEnd stands (by rw [drained])
    next => exact absurd h (by simp)
  | give =>
    simp only [fire?] at h
    split at h
    next token stands =>
      obtain ⟨⟨held, empty⟩, rfl⟩ := of_guard h
      exact .give stands held empty
    next => exact absurd h (by simp)
  | giveInVain =>
    simp only [fire?] at h
    split at h
    next token stands =>
      simp only [Option.ite_none_left_eq_some, Option.some.injEq] at h
      obtain ⟨dropped, rfl⟩ := h
      exact .giveInVain stands (by simpa using dropped)
    next => exact absurd h (by simp)
  | closeRequests =>
    obtain ⟨⟨stands, held⟩, rfl⟩ := of_guard h
    exact .closeRequests stands held
  | closeTokens =>
    obtain ⟨⟨stands, held⟩, rfl⟩ := of_guard h
    exact .closeTokens stands held
  | exit =>
    obtain ⟨⟨stands, closedRequests, closedTokens⟩, rfl⟩ := of_guard h
    exact .exit stands (by simpa using closedRequests) (by simpa using closedTokens)
  | _ => exact absurd mine (by simp [Move.isOfProducer])

theorem step_of_fire? {s s' : State} {m : Move} (h : s.fire? m = some s') :
    (∃ c, m = .call c ∧ s.isIdle = true ∧ s' = c.begin s) ∨ ConsumerStep s m s' ∨
      ProducerStep s m s' ∨
      (m = .expire ∧ s.deadline = .pending ∧ s' = { s with deadline := .passed }) := by
  by_cases consumer : m.isOfConsumer = true
  · exact .inr (.inl (consumerStep_of_fire? h consumer))
  by_cases producer : m.isOfProducer = true
  · exact .inr (.inr (.inl (producerStep_of_fire? h producer)))
  cases m with
  | call c =>
    obtain ⟨idle, rfl⟩ := of_guard h
    exact .inl ⟨c, rfl, idle, rfl⟩
  | expire =>
    obtain ⟨pending, rfl⟩ := of_guard h
    exact .inr (.inr (.inr ⟨rfl, pending, rfl⟩))
  | _ => simp [Move.isOfConsumer, Move.isOfProducer] at consumer producer

/-- One move alone brings the scanner on. -/
theorem scanner_of_fire? {s s' : State} {m : Move} (fired : s.fire? m = some s')
    (other : m ≠ .scan) : s'.scanner = s.scanner := by
  rcases step_of_fire? fired with ⟨c, rfl, -, rfl⟩ | step | step | ⟨-, -, rfl⟩
  · cases c <;> rfl
  · exact step.frame.1
  · cases step with
    | scan => exact absurd rfl other
    | _ => rfl
  · rfl

end State

end AssignLang.Handoff
