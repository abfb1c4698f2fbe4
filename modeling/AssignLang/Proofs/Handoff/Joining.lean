import AssignLang.Proofs.Handoff.FirstFault
import AssignLang.Proofs.Handoff.Receipts
import AssignLang.Proofs.Lexical.Ending

/-! What a join gives. The error is read off the scanner of the producer, wherever that was stopped,
so it is there just if the producer was given the error token (`scanned_of_run`). Whether the
consumer has seen that token is another question: the scanner can be a token ahead, but only where a
receive has timed out waiting for it (`Abreast`). Main statement: `join_tells_error`. -/
namespace AssignLang.Handoff
open Lexical (Scanner)
set_option autoImplicit false

namespace State

/-! ## The error token -/

/-- The producer was given the error token in the course of the moves. -/
def MeetsError (s₀ : State) (moves : List Move) : Prop :=
  s₀.Passes moves .scan fun s => ∃ token, s.producer = .giving token ∧ token.kind = .error

/-- The error token was received in the course of the moves. -/
def ReceivesError (s₀ : State) (moves : List Move) : Prop :=
  ∃ token, s₀.Delivers moves token ∧ token.kind = .error

theorem ReceivesError.mono {s₀ : State} {moves moves' : List Move} (h : s₀.ReceivesError moves)
    (longer : moves <+: moves') : s₀.ReceivesError moves' := by
  obtain ⟨token, delivers, kind⟩ := h
  exact ⟨token, (delivers_iff.mp delivers).mono longer, kind⟩

/-! ## What the producer has met -/

/-- The scanner keeps an error just if the producer was given the error token. -/
structure Scanned (filename text : String) (s₀ : State) (moves : List Move) (s : State) : Prop where
  approaches : s.scanner.Approaches filename text
  met : s.scanner.error ≠ none ↔ s₀.MeetsError moves

theorem Scanned.concat {filename text : String} {s₀ s s' : State} {moves : List Move} {m : Move}
    (h : s₀.Scanned filename text moves s) (run : s₀.fireAll? moves = some s)
    (fired : s.fire? m = some s') : s₀.Scanned filename text (moves ++ [m]) s' := by
  have reached := fireAll?_concat run fired
  by_cases scan : m = .scan
  · subst scan
    have step := producerStep_of_fire? fired rfl
    cases step with
    | @scan token scanner stands given =>
      have next : scanner = s.scanner.next.2 := by rw [given]
      refine ⟨next ▸ h.approaches.next, ?_⟩
      -- No token comes behind the error token, so it was not met before.
      have fresh : ¬ s₀.MeetsError moves := by
        intro met
        have done := h.approaches.underway.done_of_error (h.met.mpr met)
        exact Scanner.running_of_next given done
      have now : s₀.MeetsError (moves ++ [.scan]) ↔ token.kind = .error := by
        unfold MeetsError at fresh ⊢
        rw [passes_concat_self reached, or_iff_right fresh]
        simp
      exact (h.approaches.underway.error_iff given).trans now.symm
  · have still : s'.scanner = s.scanner := scanner_of_fire? fired scan
    exact ⟨still ▸ h.approaches, still ▸ h.met.trans (passes_concat_of_ne scan).symm⟩

theorem scanned_of_run {deadline : Deadline} {filename text : String} {moves : List Move}
    {s : State} (run : (start deadline filename text).fireAll? moves = some s) :
    (start deadline filename text).Scanned filename text moves s := by
  refine fireAll?_induction run ?_ fun before s m s' reached scanned fired =>
    scanned.concat reached fired
  exact ⟨Scanner.approaches_ofText filename text,
    iff_of_false (fun kept => kept rfl) not_passes_nil⟩

/-! ## What the consumer has seen of it -/

/-- The scanner is where the consumer knows it, and no more is scanned unless a request comes. -/
def Stays (base : Scanner) (s : State) : Prop :=
  s.scanner = base ∧ ((s.producer = .waiting ∧ s.requests = 0) ∨ s.Departed)

/-- Every token that was scanned was received, unless one is awaited. -/
def Abreast (base : Scanner) (s : State) : Prop :=
  s.consumer ≠ .awaiting → s.Stays base

section Abreast
variable {base : Scanner} {s s' : State} {m : Move}

theorem Level.stays (h : s.Level base) : s.Stays base := by
  obtain ⟨unasked, -, level, apart⟩ := h
  exact ⟨level, apart.imp (⟨·, unasked⟩) id⟩

/-- A producer that has closed the channel and left no token in it has none of its own. -/
theorem Sync.stays_of_closed (h : s.Sync base) (stands : s.consumer = .awaiting)
    (empty : s.slot = none) (left : s.canGive = false) : s.Stays base := by
  have departed := h.ends.departed (.inr left)
  have flow := h.flow
  simp only [Flow, stands] at flow
  rcases flow with ⟨ahead, -⟩ | ⟨level, -⟩
  · cases ahead with
    | asked _ _ level => exact ⟨level, .inr departed⟩
    | accepted _ _ level => exact ⟨level, .inr departed⟩
    | held _ _ _ holds => simp [Departed, holds] at departed
    | handed _ filled => exact absurd (filled.symm.trans empty) (by simp)
  · exact level.stays

theorem Abreast.consumerStep (h : s.Abreast base) (sync : s.Sync base) (step : ConsumerStep s m s')
    (noToken : m ≠ .take) (inTime : m ≠ .timeOut) : s'.Abreast base := by
  intro other
  cases step with
  | request => exact absurd rfl other
  | take => exact absurd rfl noToken
  | timeOut => exact absurd rfl inTime
  | findClosed stands empty left => exact sync.stays_of_closed stands empty left
  | @dropTokens sequel stands => cases sequel <;> exact h (by simp [stands])
  | _ stands => exact h (by simp [stands])

theorem Stays.producerStep (h : s.Stays base) (step : ProducerStep s m s') : s'.Stays base := by
  obtain ⟨level, ⟨waiting, unasked⟩ | departed⟩ := h
  · rcases producerStep_apart step (.inl waiting) with ⟨asked, -⟩ | ⟨departed, -, -, scanner, -⟩
    · exact absurd unasked asked
    · exact ⟨scanner.trans level, .inr departed⟩
  · refine ⟨(scanner_of_fire? (fire?_of_producerStep step) ?_).trans level,
      .inr (departed.producerStep step)⟩
    rintro rfl
    cases step with
    | scan stands => simp [Departed, stands] at departed

/-- A consumer that has not run out of time has seen all that was scanned. -/
theorem Abreast.fire? (h : s.Abreast base) (sync : s.Sync base) (fired : s.fire? m = some s')
    (noToken : m ≠ .take) (inTime : m ≠ .timeOut) : s'.Abreast base := by
  rcases step_of_fire? fired with ⟨c, rfl, idle, rfl⟩ | step | step | ⟨-, -, rfl⟩
  · obtain ⟨last, stands⟩ := isIdle_iff.mp idle
    intro _
    cases c <;> exact h (by simp [stands])
  · exact h.consumerStep sync step noToken inTime
  · intro other
    rw [step.frame.1] at other
    exact (h other).producerStep step
  · exact h

theorem abreast_of_take (sync : s.Sync base) (fired : s.fire? .take = some s') {base' : Scanner}
    (sync' : s'.Sync base') : s'.Abreast base' := by
  intro _
  have step := consumerStep_of_fire? fired rfl
  have clear := sync.ends.consumer
  cases step with
  | take stands =>
    simp only [ConsumerEnds, stands] at clear
    have ready := sync'.ready rfl
    unfold Ready at ready
    simp only [answer, clear.1] at ready
    exact ready.1.stays

/-- What the consumer has received so far leads to a scanner that keeps an error only behind the
error token. -/
def Informed (filename : String) (s₀ : State) (moves : List Move) (s : State) : Prop :=
  ∃ base, s.Sync base ∧ base.Underway filename ∧ (base.error ≠ none → s₀.ReceivesError moves) ∧
    (.timeOut ∉ moves → s.Abreast base)

theorem Informed.concat {filename : String} {s₀ : State} {moves : List Move}
    (h : s₀.Informed filename moves s) (run : s₀.fireAll? moves = some s)
    (fired : s.fire? m = some s') : s₀.Informed filename (moves ++ [m]) s' := by
  obtain ⟨base, sync, underway, received, abreast⟩ := h
  by_cases take : m = .take
  · subst take
    obtain ⟨token, answered, given, sync'⟩ := sync.take (consumerStep_of_fire? fired rfl)
    have gave : s'.token? = some token := by rw [token?, answered]
    have next : s'.scanner = base.next.2 := by rw [given]
    refine ⟨s'.scanner, sync', next ▸ underway.next, ?_, fun _ => abreast_of_take sync fired sync'⟩
    intro kept
    refine ⟨token, ?_, (underway.error_iff given).mp kept⟩
    exact ⟨moves, s', List.prefix_rfl, fireAll?_concat run fired, gave⟩
  · have sync' : s'.Sync base := by
      rcases sync.fire? fired with same | ⟨_, rfl, -⟩
      · exact same
      · exact absurd rfl take
    refine ⟨base, sync', underway, ?_, ?_⟩
    · intro kept
      exact (received kept).mono (List.prefix_append _ _)
    · intro inTime
      rw [List.mem_append, not_or, List.mem_singleton] at inTime
      exact (abreast inTime.1).fire? sync fired take (Ne.symm inTime.2)

theorem informed_of_run {deadline : Deadline} {filename text : String} {moves : List Move}
    (run : (start deadline filename text).fireAll? moves = some s) :
    (start deadline filename text).Informed filename moves s := by
  refine fireAll?_induction run ?_ fun before s m s' reached informed fired =>
    informed.concat reached fired
  exact ⟨_, .start deadline filename text, Scanner.underway_ofText filename text,
    fun kept => absurd rfl kept, fun _ _ => ⟨rfl, .inl ⟨rfl, rfl⟩⟩⟩

end Abreast

/-- The error token, once received, was met. -/
theorem meetsError_of_receivesError {deadline : Deadline} {filename text : String}
    {moves : List Move} (h : (start deadline filename text).ReceivesError moves) :
    (start deadline filename text).MeetsError moves := by
  obtain ⟨token, ⟨first, s', begins, reached, gave⟩, kind⟩ := h
  obtain ⟨s, before, last⟩ := exists_of_fireAll?_append reached
  rw [fireAll?_singleton] at last
  obtain ⟨base, sync, underway, -⟩ := informed_of_run before
  obtain ⟨token', answered, given, -⟩ := sync.take (consumerStep_of_fire? last rfl)
  rw [token?, answered] at gave
  obtain rfl := Option.some.inj gave
  have kept : s'.scanner.error ≠ none := (underway.error_iff given).mpr kind
  exact ((scanned_of_run reached).met.mp kept).mono begins

/-! ## A receive that has timed out -/

theorem Late.fire? {base : Scanner} {s s' : State} {m : Move} (h : s.Late) (sync : s.Sync base)
    (fired : s.fire? m = some s') : s'.Late := by
  rcases h with recorded | running
  · exact .inl (sync.ends.fault_stays recorded fired)
  · refine Late.move (.inr running) ⟨m, ?_, fired⟩ sync
    rintro c rfl
    obtain ⟨last, stands⟩ := isIdle_iff.mp (of_guard fired).1
    simp [stands] at running

theorem late_of_timeOut {deadline : Deadline} {filename text : String} {moves : List Move}
    {s : State} (run : (start deadline filename text).fireAll? moves = some s)
    (timedOut : .timeOut ∈ moves) : s.Late := by
  obtain ⟨before, after, rfl⟩ := List.append_of_mem timedOut
  obtain ⟨s₁, s₂, reached, fired, rest⟩ := exists_of_fireAll?_split run
  have late : s₂.Late := by
    have clear := (ends_of_run reached).consumer
    have step := consumerStep_of_fire? fired rfl
    cases step with
    | timeOut stands _ passed =>
      simp only [ConsumerEnds, stands] at clear
      exact .inr ⟨passed, clear.1, .inr ⟨_, rfl⟩⟩
  have both : s.Late ∧ ∃ base, s.Sync base := by
    refine fireAll?_invariant (P := fun s => s.Late ∧ ∃ base, s.Sync base) rest
      ⟨late, sync_of_run (fireAll?_concat reached fired)⟩ ?_
    rintro t m t' ⟨late, base, sync⟩ fired
    exact ⟨late.fire? sync fired, sync.exists_of_fire? fired⟩
  exact both.1

/-! ## What a join gives -/

/-- What the error of a join tells of the moves before it. -/
structure Collects (filename text : String) (s₀ : State) (moves : List Move) (s : State)
    (error : Option Lexical.Error) : Prop where
  /-- There is one just if the producer was given the error token, -/
  met : error ≠ none ↔ s₀.MeetsError moves
  /-- and it is the error of the whole text. -/
  whole : ∀ e, error = some e → Lexical.tokens filename text = .error e
  /-- It is there once the error token was received, whatever comes after. -/
  received : s₀.ReceivesError moves → error ≠ none
  /-- Where no receive has timed out, text that no token was received of does not count. -/
  unread : .timeOut ∉ moves → ¬ s₀.ReceivesError moves → error = none
  /-- Where one has, that is on record. -/
  cut : .timeOut ∈ moves → s.fault = some .deadlineExceeded

theorem collects_of_run {deadline : Deadline} {filename text : String} {moves : List Move}
    {s : State} {error : Option Lexical.Error}
    (run : (start deadline filename text).fireAll? moves = some s)
    (answered : s.consumer = .joined error) :
    (start deadline filename text).Collects filename text moves s error := by
  have scanned := scanned_of_run run
  obtain ⟨base, sync, -, received, abreast⟩ := informed_of_run run
  have flow := sync.flow
  simp only [Flow, answered] at flow
  obtain ⟨-, -, rfl⟩ := flow
  refine ⟨scanned.met, fun e => scanned.approaches.tokens_eq, ?_, ?_, ?_⟩
  · intro received
    exact scanned.met.mpr (meetsError_of_receivesError received)
  · intro inTime fresh
    by_contra kept
    have level := (abreast inTime (by simp [answered])).1
    exact fresh (received (level ▸ kept))
  · intro timedOut
    rcases late_of_timeOut run timedOut with recorded | ⟨-, -, stands⟩
    · exact recorded
    · simp [answered] at stands

/-- Moves lead here that deliver just the tokens of the log, and the join at their end gives this
error. -/
def Accounts (filename text : String) (s₀ : State) (log : List (Option Token)) (s : State)
    (error : Option Lexical.Error) : Prop :=
  ∃ moves, s₀.fireAll? moves = some s ∧ (∀ token, s₀.Delivers moves token ↔ some token ∈ log) ∧
    s.consumer = .joined error ∧ s₀.Collects filename text moves s error

theorem Performs.accounts {deadline : Deadline} {filename text : String} {requests : List Request}
    {log : List (Option Token)} {replies : List Reply} {s s' : State}
    (performs : (start deadline filename text).Performs requests log replies s)
    (called : s.Calls .join s') :
    ∃ error, (start deadline filename text).Accounts filename text log s' error := by
  have fresh : Logged (Lexical.stream filename text) [] (start deadline filename text) :=
    .start deadline filename text
  obtain ⟨logged, idle⟩ := fresh.performs performs rfl
  obtain ⟨base, sync⟩ := logged.exists_sync
  have quiet := isBusy_of_isIdle idle
  obtain ⟨-, -, answered⟩ := called.join quiet sync
  have nothing : s'.token? = none := by rw [token?, answered]
  have brings := (performs.brings fresh rfl).trans (called.brings quiet sync)
  rw [nothing] at brings
  have same : (start deadline filename text).Brings log s' := brings.congr (by simp)
  obtain ⟨moves, run, given⟩ := same
  exact ⟨_, moves, run, given, answered, collects_of_run run answered⟩

/-- **A join tells what the producer has met**, in every run and so whatever the consumer asks
for. -/
theorem join_tells_error (deadline : Deadline) (filename text : String) :
    (∀ moves s error, (start deadline filename text).fireAll? moves = some s →
      s.consumer = .joined error →
      (start deadline filename text).Collects filename text moves s error) ∧
    (∀ requests log replies s s',
      (start deadline filename text).Performs requests log replies s → s.Calls .join s' →
      ∃ error, (start deadline filename text).Accounts filename text log s' error) ∧
    ∀ schedule requests s,
      s = (replay Session.reply requests (.start schedule deadline filename text)).2 →
      ∃ log, (start deadline filename text).Performs requests log
          (replay Session.reply requests (.start schedule deadline filename text)).1 s.state ∧
        (start deadline filename text).Accounts filename text log s.join.2.state s.join.1 := by
  refine ⟨fun moves s error => collects_of_run,
    fun requests log replies s s' => Performs.accounts, ?_⟩
  rintro schedule requests s reached
  obtain ⟨log, performs⟩ := Session.performs_replay_start schedule deadline filename text requests
  obtain ⟨before, logged, idle⟩ := Session.logged_of_replay reached
  obtain ⟨base, sync⟩ := logged.exists_sync
  rw [← reached] at performs
  obtain ⟨error, moves, run, given, answered, collects⟩ :=
    performs.accounts (Session.calls_call sync idle .join)
  refine ⟨log, performs, moves, ?_⟩
  rw [Session.join_eq answered]
  exact ⟨run, given, answered, collects⟩

/-- The receive that the error token was scanned for times out, and the join still tells of it; and
a text counts only as far as it was read. -/
theorem join_tells_error_unread :
    (∃ moves s e, (start .pending "f" "#").fireAll? moves = some s ∧
      s.consumer = .joined (some e) ∧ .take ∉ moves ∧ (start .pending "f" "#").MeetsError moves ∧
      Lexical.tokens "f" "#" = .error e ∧ s.fault = some .deadlineExceeded) ∧
    Lexical.error? "f" "a #" ≠ none ∧
    (replay Session.reply [.receive] (.start .first .unset "f" "a #")).2.join.1 = none := by
  refine ⟨?_, by decide +kernel, ?_⟩
  · let moves : List Move := [.call .receive, .arriveInTime, .request, .acceptRequest, .seeNoFlag,
      .scan, .expire, .timeOut, .record, .raiseFlag, .dropRequests, .dropTokens, .call .join,
      .raiseFlag, .dropRequests, .dropTokens, .giveInVain, .closeRequests, .closeTokens, .exit,
      .collect]
    have reached : ((start .pending "f" "#").fireAll? moves).map (·.consumer) =
        some (.joined (some ⟨.unexpectedCharacter '#', "f", ⟨1, 1⟩⟩)) := by
      decide +kernel
    obtain ⟨s, run, answered⟩ := Option.map_eq_some_iff.mp reached
    have collects := (join_tells_error .pending "f" "#").1 moves s _ run answered
    exact ⟨moves, s, _, run, answered, by decide, collects.met.mp (by simp),
      collects.whole _ rfl, collects.cut (by decide)⟩
  · obtain ⟨log, performs, moves, -, given, -, collects⟩ :=
      (join_tells_error .unset "f" "a #").2.2 .first [.receive] _ rfl
    have received : (replay Session.reply [.receive]
        (.start .first .unset "f" "a #")).2.state.token? = some ⟨.identifier, "a", ⟨1, 1⟩⟩ := by
      decide +kernel
    have inTime : (replay Session.reply [.receive]
        (.start .first .unset "f" "a #")).2.join.2.state.fault ≠ some .deadlineExceeded := by
      decide +kernel
    refine collects.unread (fun timedOut => inTime (collects.cut timedOut)) ?_
    rintro ⟨token, delivers, kind⟩
    have logged := (given token).mp delivers
    cases performs with
    | request answers rest =>
      cases rest
      cases answers with
      | receive =>
        rw [received] at logged
        obtain rfl : token = ⟨.identifier, "a", ⟨1, 1⟩⟩ := by simpa using logged
        exact absurd kind (by decide)

end State

end AssignLang.Handoff
