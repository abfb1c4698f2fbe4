import AssignLang.Proofs.Handoff.Run

/-! The cause of a fault on record. A disconnected channel looks the same whether the stream is over,
the deadline has passed on the side of the producer or the consumer has left, so the fault is settled
only when it goes on record, by one more look at the clock. What carries the proof is what `Flow` says
of a producer that has left: it is at the end of its stream or the deadline has passed. Main
statement: every fault on record has its own cause, and is what the receives are told
(`fault_has_cause`). -/
namespace AssignLang.Handoff
open Lexical (Scanner)
set_option autoImplicit false

namespace State

/-! ## What a cause is -/

/-- The token was received in the course of the moves. -/
def Delivers (s₀ : State) (moves : List Move) (token : Token) : Prop :=
  ∃ first s, first ++ [.take] <+: moves ∧ s₀.fireAll? (first ++ [.take]) = some s ∧
    s.token? = some token

/-- The last token of the stream was received in the course of the moves. -/
def Finishes (s₀ : State) (moves : List Move) : Prop :=
  ∃ token, s₀.Delivers moves token ∧ token.isTerminal = true

/-- Why a fault goes on record by the move `m`, made in the state `s` after the moves `before`. -/
def Cause (s₀ : State) (before : List Move) (m : Move) (s : State) : Fault → Prop
  | .closed => m = .record ∧ s.deadline ≠ .passed ∧ s₀.Finishes before
  | .cancelled => m = .call .cancel
  | .deadlineExceeded => m = .record ∧ s.deadline = .passed
  | .notStarted _ => False

/-- In the course of the moves the fault went on record, where there was none, for its own cause. -/
inductive Recorded (s₀ : State) (moves : List Move) (fault : Fault) : Prop
  | intro {before : List Move} {m : Move} {s s' : State} (begins : before ++ [m] <+: moves)
      (reached : s₀.fireAll? before = some s) (clear : s.fault = none)
      (fired : s.fire? m = some s') (recorded : s'.fault = some fault)
      (cause : s₀.Cause before m s fault)

theorem Finishes.mono {s₀ : State} {moves moves' : List Move} (h : s₀.Finishes moves)
    (begins : moves <+: moves') : s₀.Finishes moves' := by
  obtain ⟨token, ⟨first, s, begun, reached, given⟩, terminal⟩ := h
  exact ⟨token, ⟨first, s, begun.trans begins, reached, given⟩, terminal⟩

theorem Recorded.mono {s₀ : State} {moves moves' : List Move} {fault : Fault}
    (h : s₀.Recorded moves fault) (longer : moves <+: moves') : s₀.Recorded moves' fault := by
  obtain ⟨begins, reached, clear, fired, recorded, cause⟩ := h
  exact .intro (begins.trans longer) reached clear fired recorded cause

/-! ## How a fault goes on record -/

/-- Two moves write to the record, and the one of them leaves what is there. -/
theorem fault_of_fire? {s s' : State} {m : Move} (fired : s.fire? m = some s') :
    s'.fault = s.fault ∨ (m = .call .cancel ∧ s'.fault = s.fault.or (some .cancelled)) ∨
      (m = .record ∧ ∃ fault, s.consumer = .failing fault ∧
        s'.fault = some (s.verdict fault)) := by
  rcases step_of_fire? fired with ⟨c, rfl, -, rfl⟩ | step | step | ⟨-, -, rfl⟩
  · cases c with
    | receive | join => exact .inl rfl
    | cancel => exact .inr (.inl ⟨rfl, rfl⟩)
  · cases step with
    | @record fault stands => exact .inr (.inr ⟨rfl, fault, stands, rfl⟩)
    | @dropTokens sequel => cases sequel <;> exact .inl rfl
    | _ => exact .inl rfl
  · exact .inl step.frame.2.1
  · exact .inl rfl

/-- What the moves so far have left behind. -/
structure History (s₀ : State) (moves : List Move) (s : State) : Prop where
  known : ∃ base, s.Sync base ∧ (base.mode = .done → s₀.Finishes moves)
  caused : ∀ fault, s.fault = some fault → s₀.Recorded moves fault

/-- The token that ends the stream is received before the scanner is known to be done. -/
theorem History.known_concat {s₀ s s' : State} {moves : List Move} {m : Move}
    (h : s₀.History moves s) (run : s₀.fireAll? moves = some s) (fired : s.fire? m = some s') :
    ∃ base, s'.Sync base ∧ (base.mode = .done → s₀.Finishes (moves ++ [m])) := by
  obtain ⟨base, sync, finished⟩ := h.known
  rcases sync.fire? fired with sync' | ⟨token, rfl, answered, given, sync'⟩
  · exact ⟨base, sync', fun done => (finished done).mono (List.prefix_append _ _)⟩
  · have received : s'.token? = some token := by rw [token?, answered]
    refine ⟨s'.scanner, sync', fun done => ⟨token, ?_, (Scanner.done_iff_of_next given).mp done⟩⟩
    exact ⟨moves, s', List.prefix_rfl, fireAll?_concat run fired, received⟩

/-- The move that puts a fault on record is the witness for its cause. -/
theorem History.caused_concat {s₀ s s' : State} {moves : List Move} {m : Move}
    (h : s₀.History moves s) (run : s₀.fireAll? moves = some s) (fired : s.fire? m = some s') :
    ∀ fault, s'.fault = some fault → s₀.Recorded (moves ++ [m]) fault := by
  intro fault there
  have kept : s.fault = some fault → s₀.Recorded (moves ++ [m]) fault := fun before =>
    (h.caused fault before).mono (List.prefix_append _ _)
  rcases fault_of_fire? fired with same | ⟨rfl, added⟩ | ⟨rfl, found, stands, added⟩
  · exact kept (same.symm.trans there)
  · cases clear : s.fault with
    | some other =>
      rw [clear, Option.some_or] at added
      exact kept (clear.trans (added.symm.trans there))
    | none =>
      rw [clear, Option.none_or] at added
      obtain rfl := Option.some.inj (added.symm.trans there)
      exact .intro List.prefix_rfl run clear fired there rfl
  · obtain ⟨base, sync, finished⟩ := h.known
    have ends := sync.ends.consumer
    have flow := sync.flow
    simp only [ConsumerEnds, stands] at ends
    simp only [Flow, stands] at flow
    obtain rfl := Option.some.inj (added.symm.trans there)
    refine .intro List.prefix_rfl run ends.1 fired there ?_
    unfold verdict
    by_cases passed : s.deadline = .passed
    · rw [if_pos passed]
      exact ⟨rfl, passed⟩
    · -- In time, so it is the end of the stream that closed the channel.
      obtain ⟨rfl, ended⟩ := flow.resolve_left passed
      rw [if_neg passed]
      exact ⟨rfl, passed, finished ended.2.2⟩

theorem history_of_run {deadline : Deadline} {filename text : String} {moves : List Move}
    {s : State} (run : (start deadline filename text).fireAll? moves = some s) :
    (start deadline filename text).History moves s := by
  refine fireAll?_induction run ?_ fun before s m s' reached history fired =>
    ⟨history.known_concat reached fired, history.caused_concat reached fired⟩
  have running : (Scanner.ofText filename text).mode ≠ .done := by simp [Scanner.ofText]
  exact ⟨⟨_, .start deadline filename text, fun done => absurd done running⟩,
    fun fault there => absurd there (by simp [State.start])⟩

/-! ## What a receive is told -/

/-- The answer to a receive that has failed is the fault on record. -/
def Tells (s : State) : Prop :=
  ∀ fault, s.consumer = .idle (some (.failed fault)) → s.fault = some fault

theorem Tells.fire? {s s' : State} {m : Move} (h : s.Tells) (ends : s.Ends)
    (fired : s.fire? m = some s') : s'.Tells := by
  intro fault answered
  rcases step_of_fire? fired with ⟨c, rfl, -, rfl⟩ | step | step | ⟨-, -, rfl⟩
  · cases c <;> exact absurd answered (by simp [Call.begin])
  · have suits := ends.consumer
    unfold ConsumerEnds at suits
    cases step with
    | repeatFault _ recorded =>
      obtain rfl : _ = fault := by simpa [State.answer] using answered
      exact recorded
    | @dropTokens sequel stands =>
      simp only [stands] at suits
      cases sequel with
      | fail other =>
        obtain rfl : other = fault := by simpa [State.follow, State.answer] using answered
        exact suits.1
      | cancel | join => exact absurd answered (by simp [State.follow, State.answer])
    | take => exact absurd answered (by simp [State.answer])
    | _ => exact absurd answered (by simp)
  · obtain ⟨consumer, recorded, -⟩ := step.frame
    exact recorded.trans (h fault (consumer.symm.trans answered))
  · exact h fault answered

theorem tells_of_run {deadline : Deadline} {filename text : String} {moves : List Move} {s : State}
    (run : (start deadline filename text).fireAll? moves = some s) : s.Tells := by
  refine fireAll?_induction (P := fun _ s => s.Tells) run ?_ fun before s m s' reached tells fired =>
    tells.fire? (ends_of_run reached) fired
  exact fun _ answered => absurd answered (by simp [State.start])

/-! ## After the deadline -/

theorem passed_of_fire? {s s' : State} {m : Move} (passed : s.deadline = .passed)
    (fired : s.fire? m = some s') : s'.deadline = .passed := by
  rcases step_of_fire? fired with ⟨c, rfl, -, rfl⟩ | step | step | ⟨-, -, rfl⟩
  · cases c <;> exact passed
  · exact step.frame.2.2.2.2.trans passed
  · exact step.frame.2.2.2.2.2.trans passed
  · rfl

theorem Sync.over_of_closed {base : Scanner} {s : State} (h : s.Sync base)
    (closed : s.fault = some .closed) : s.Over base := by
  have ends := h.ends.consumer
  have flow := h.flow
  cases stands : s.consumer with
  | idle | receiving =>
    simp only [Flow, stands, Ready, closed] at flow
    exact flow
  | requesting | awaiting | failing =>
    simp only [ConsumerEnds, stands] at ends
    exact absurd (closed.symm.trans ends.1) (by simp)
  | stopping | droppingRequests | droppingTokens | joining =>
    simp only [Flow, stands, Stopped, closed] at flow
    exact flow
  | joined =>
    simp only [Flow, stands, Stopped, closed] at flow
    exact flow.1

/-- The deadline has passed and the stream did not come to its end before. -/
def CutShort (s : State) : Prop :=
  s.deadline = .passed ∧ s.fault ≠ some .closed

theorem CutShort.fire? {s s' : State} {m : Move} (h : s.CutShort) (fired : s.fire? m = some s') :
    s'.CutShort := by
  obtain ⟨passed, other⟩ := h
  refine ⟨passed_of_fire? passed fired, ?_⟩
  rcases fault_of_fire? fired with same | ⟨-, added⟩ | ⟨-, found, -, added⟩
  · rwa [same]
  · rw [added]
    cases recorded : s.fault with
    | none => simp
    | some fault => rwa [Option.some_or, ← recorded]
  · rw [added, verdict, if_pos passed]
    simp

theorem cutShort_of_lapse {base : Scanner} {s s' : State} (h : s.Sync base)
    (fired : s.fire? .lapse = some s') : s'.CutShort := by
  have step := producerStep_of_fire? fired rfl
  cases step with
  | lapse stands _ passed =>
    refine ⟨passed, fun closed => ?_⟩
    obtain ⟨-, departed, -⟩ := h.over_of_closed closed
    simp [Departed, stands] at departed

theorem cutShort_of_run {deadline : Deadline} {filename text : String} {moves : List Move}
    {s : State} (run : (start deadline filename text).fireAll? moves = some s)
    (lapsed : .lapse ∈ moves) : s.CutShort := by
  obtain ⟨before, after, rfl⟩ := List.append_of_mem lapsed
  obtain ⟨s₁, s₂, reached, fired, rest⟩ := exists_of_fireAll?_split run
  obtain ⟨base, sync⟩ := sync_of_run reached
  have cut := cutShort_of_lapse sync fired
  exact fireAll?_invariant rest cut fun _ _ _ => CutShort.fire?

/-- The deadline has passed and no receive is on the way to a token. -/
def TooLate (s : State) : Prop :=
  s.deadline = .passed ∧ s.consumer ≠ .requesting ∧ s.consumer ≠ .awaiting ∧ s.token? = none

theorem TooLate.fire? {s s' : State} {m : Move} (h : s.TooLate) (fired : s.fire? m = some s') :
    s'.TooLate := by
  obtain ⟨passed, requesting, awaiting, token⟩ := h
  refine ⟨passed_of_fire? passed fired, ?_⟩
  rcases step_of_fire? fired with ⟨c, rfl, -, rfl⟩ | step | step | ⟨-, -, rfl⟩
  · cases c <;> simp [Call.begin, token?]
  · cases step with
    | arriveInTime _ _ _ _ inTime => exact absurd passed inTime
    | request stands => exact absurd stands requesting
    | take stands => exact absurd stands awaiting
    | @dropTokens sequel => cases sequel <;> simp [State.follow, State.answer, token?]
    | repeatFault => simp [State.answer, token?]
    | _ => simp [token?]
  · have consumer := step.frame.1
    unfold token? at token ⊢
    rw [consumer]
    exact ⟨requesting, awaiting, token⟩
  · exact ⟨requesting, awaiting, token⟩

theorem token?_of_late_receive {s s₁ : State} {after : List Move}
    (passed : s₁.deadline = .passed)
    (run : s₁.fireAll? (.call .receive :: after) = some s) : s.token? = none := by
  obtain ⟨s₂, fired, rest⟩ := exists_of_fireAll?_cons run
  obtain ⟨-, rfl⟩ := of_guard fired
  have late : (Call.receive.begin s₁).TooLate := ⟨passed, by simp [Call.begin, token?]⟩
  exact (fireAll?_invariant rest late fun _ _ _ => TooLate.fire?).2.2.2

/-! ## Every fault has its own cause -/

/-- What a consumer can rely on when tokens stop coming. -/
structure Reports (s₀ : State) (moves : List Move) (s : State) : Prop where
  /-- A fault on record went there for its own cause. -/
  caused : ∀ fault, s.fault = some fault → s₀.Recorded moves fault
  /-- No receive is told of another one. -/
  told : ∀ fault, s.consumer = .idle (some (.failed fault)) → s.fault = some fault
  /-- A producer that leaves for the deadline never looks like the end of the stream. -/
  lapsed : .lapse ∈ moves → s.fault ≠ some .closed
  /-- No token comes of a receive that begins after the deadline, nor of any later one. -/
  late : ∀ before after s₁, moves = before ++ .call .receive :: after →
    s₀.fireAll? before = some s₁ → s₁.deadline = .passed → s.token? = none

/-- **Every fault has its own cause**, in every run and so whatever the consumer asks for. -/
theorem fault_has_cause (deadline : Deadline) (filename text : String) :
    (∀ moves s, (start deadline filename text).fireAll? moves = some s →
      (start deadline filename text).Reports moves s) ∧
    ∀ requests log replies s, (start deadline filename text).Performs requests log replies s →
      ∃ moves, (start deadline filename text).fireAll? moves = some s ∧
        (start deadline filename text).Reports moves s := by
  have reports : ∀ moves s, (start deadline filename text).fireAll? moves = some s →
      (start deadline filename text).Reports moves s := by
    intro moves s run
    have history := history_of_run run
    refine ⟨history.caused, tells_of_run run, fun lapsed => (cutShort_of_run run lapsed).2, ?_⟩
    rintro before after s₁ rfl reached passed
    obtain ⟨s₂, reached', rest⟩ := exists_of_fireAll?_append run
    obtain rfl := Option.some.inj (reached.symm.trans reached')
    exact token?_of_late_receive passed rest
  refine ⟨reports, fun requests log replies s performs => ?_⟩
  obtain ⟨moves, run⟩ := performs.leads
  exact ⟨moves, run, reports moves s run⟩

/-- The producer leaves for the deadline just after the consumer has looked at the clock; and a
stream comes to its end. -/
theorem fault_has_cause_race :
    (∃ race s₁ s, (start .pending "f" "a").fireAll? race = some s₁ ∧ .lapse ∈ race ∧
      s₁.deadline = .passed ∧
      (start .pending "f" "a").fireAll? (race ++ [.call .receive, .repeatFault]) = some s ∧
      s.consumer = .idle (some (.failed .deadlineExceeded)) ∧
      (start .pending "f" "a").Recorded (race ++ [.call .receive, .repeatFault])
        .deadlineExceeded ∧ s.fault ≠ some .closed ∧ s.token? = none) ∧
    ∃ moves s, (start .unset "f" "").fireAll? moves = some s ∧ s.fault = some .closed ∧
      (start .unset "f" "").Recorded moves .closed := by
  constructor
  · let race : List Move := [.call .receive, .arriveInTime, .expire, .lapse, .closeRequests,
      .requestInVain, .record, .raiseFlag, .dropRequests, .dropTokens]
    have reached : ((start .pending "f" "a").fireAll? race).map (·.deadline) = some .passed := by
      decide +kernel
    have told : ((start .pending "f" "a").fireAll? (race ++ [.call .receive, .repeatFault])).map
        (·.consumer) = some (.idle (some (.failed .deadlineExceeded))) := by
      decide +kernel
    obtain ⟨s₁, run₁, passed⟩ := Option.map_eq_some_iff.mp reached
    obtain ⟨s, run, answered⟩ := Option.map_eq_some_iff.mp told
    have lapsed : .lapse ∈ race ++ [.call .receive, .repeatFault] := by decide
    have reports := (fault_has_cause .pending "f" "a").1 _ s run
    exact ⟨race, s₁, s, run₁, by decide, passed, run, answered,
      reports.caused _ (reports.told _ answered), reports.lapsed lapsed,
      reports.late race _ s₁ rfl run₁ passed⟩
  · let moves : List Move := [.call .receive, .arriveInTime, .request, .acceptRequest, .seeNoFlag,
      .scan, .give, .take, .call .receive, .arriveInTime, .request, .acceptRequest, .seeNoFlag,
      .scanPastEnd, .closeTokens, .findClosed, .record]
    have reached : ((start .unset "f" "").fireAll? moves).map (·.fault) = some (some .closed) := by
      decide +kernel
    obtain ⟨s, run, closed⟩ := Option.map_eq_some_iff.mp reached
    exact ⟨moves, s, run, closed, ((fault_has_cause .unset "f" "").1 _ s run).caused _ closed⟩

end State

end AssignLang.Handoff
