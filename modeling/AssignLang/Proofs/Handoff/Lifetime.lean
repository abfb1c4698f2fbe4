import AssignLang.Proofs.Handoff.Completion

/-! How long the producer lives. Between two calls it waits for a request as long as no fault is on
record and the deadline has not passed, whatever token was the last; and once either has come about
it goes by itself, the one by the ends that the consumer has dropped, the other by the clock. What
carries the proof is that between two calls no request is left over (`Level`) and that the producer
leaves of its own accord for the deadline alone (`Loyal`). Main statement: `producer_lifetime`. -/
namespace AssignLang.Handoff
open Lexical (Scanner)
set_option autoImplicit false

namespace State

/-! ## Between two calls -/

section Between
variable {base : Scanner} {s : State}

theorem Sync.level (h : s.Sync base) (idle : s.isIdle = true) (clear : s.fault = none) :
    s.Level base ∧ s.Loyal := by
  have ready := h.ready idle
  rwa [Ready, clear] at ready

theorem Sync.waiting (h : s.Sync base) (idle : s.isIdle = true) (clear : s.fault = none)
    (inTime : s.deadline ≠ .passed) : s.producer = .waiting := by
  obtain ⟨⟨-, -, -, apart⟩, loyal⟩ := h.level idle clear
  exact apart.resolve_right fun departed => inTime (loyal departed)

theorem Sync.cause_of_gone (h : s.Sync base) (idle : s.isIdle = true) (gone : s.producer = .gone) :
    s.fault ≠ none ∨ s.deadline = .passed := by
  by_contra neither
  rw [not_or, not_not] at neither
  have waiting := h.waiting idle neither.1 neither.2
  exact absurd (waiting.symm.trans gone) (by simp)

theorem Sync.gone_of_cause (h : s.Sync base) (idle : s.isIdle = true) (halted : s.Halted)
    (cause : s.fault ≠ none ∨ s.deadline = .passed) : s.producer = .gone := by
  by_cases clear : s.fault = none
  · have passed := cause.resolve_left (not_not.mpr clear)
    obtain ⟨⟨unasked, -, -, apart⟩, -⟩ := h.level idle clear
    by_contra here
    rcases apart with waiting | departed
    · exact halted.not_step (.lapse waiting unasked passed)
    · have leaving := departed.resolve_right here
      obtain ⟨m, s', step⟩ := exists_producerStep here (by simp [leaving]) (by simp [leaving])
      exact halted.not_step step
  · rcases h.ends.quiet idle with ⟨absent, -⟩ | ⟨-, noRequest, noReceive, -⟩
    · exact absurd absent clear
    · exact gone_of_halted ⟨noRequest, noReceive⟩ halted

end Between

/-! ## Without another call -/

theorem drifts_of_fireAll? {s s' : State} {later : List Move} (noCall : ∀ c, .call c ∉ later)
    (run : s.fireAll? later = some s') : s.Drifts s' := by
  induction later generalizing s with
  | nil =>
    obtain rfl := Option.some.inj run
    exact .refl
  | cons m rest ih =>
    obtain ⟨s₁, fired, more⟩ := exists_of_fireAll?_cons run
    have moved : s.Moves s₁ := by
      refine ⟨m, ?_, fired⟩
      intro c same
      exact noCall c (same ▸ List.mem_cons_self)
    have drifts : s₁.Drifts s' := ih (fun c later => noCall c (List.mem_cons_of_mem m later)) more
    exact .head moved drifts

theorem noCall_of_threads {later : List Move} (threads : ∀ m ∈ later, m.isOfThread = true) :
    ∀ c, .call c ∉ later := by
  intro c mem
  exact absurd (threads _ mem) (by simp [Move.isOfThread])

theorem deadline_of_threads {s s' : State} {later : List Move}
    (threads : ∀ m ∈ later, m.isOfThread = true) (run : s.fireAll? later = some s') :
    s'.deadline = s.deadline := by
  induction later generalizing s with
  | nil =>
    obtain rfl := Option.some.inj run
    rfl
  | cons m rest ih =>
    obtain ⟨s₁, fired, more⟩ := exists_of_fireAll?_cons run
    obtain ⟨mine, others⟩ := List.forall_mem_cons.mp threads
    rw [ih others more]
    rcases step_of_fire? fired with ⟨c, rfl, -⟩ | step | step | ⟨rfl, -⟩
    · exact absurd mine (by simp [Move.isOfThread])
    · exact step.frame.2.2.2.2
    · exact step.frame.2.2.2.2.2
    · exact absurd mine (by simp [Move.isOfThread])

/-- Between two calls the cause stays until the next one. -/
theorem Rests.drifts {record : Option Fault} {s s' : State} (h : s.Rests record)
    (drifts : s.Drifts s') : s'.Rests record := by
  obtain ⟨base, sync⟩ := h.sync
  obtain ⟨sync', consumer, fault⟩ := drifts.quiet (isBusy_of_isIdle h.idle) sync
  obtain ⟨last, stands⟩ := isIdle_iff.mp h.idle
  exact ⟨isIdle_iff.mpr ⟨last, consumer.trans stands⟩, ⟨base, sync'⟩, fault.trans h.recorded⟩

/-! ## As long as only tokens are received -/

section Full
variable {s s' : State} {log : List (Option Token)}

theorem Rests.receive_token {record : Option Fault} (h : s.Rests record)
    (called : s.Calls .receive s') (given : s'.token? ≠ none) : s'.Rests none := by
  obtain ⟨base, sync⟩ := h.sync
  obtain ⟨received, -⟩ := called.receive (isBusy_of_isIdle h.idle) sync
  refine ⟨received.isIdle, received.exists_sync, ?_⟩
  cases received with
  | token _ _ _ clear => exact clear
  | failed answered => exact absurd (token?_of_failed answered) given

theorem Rests.draws_full {α : Type} {reading : Grammar.Reading α} {answer : α}
    (draws : Draws reading s log answer s') (h : s.Rests none) (full : none ∉ log) :
    s'.Rests none := by
  induction draws with
  | done => exact h
  | ask received _ ih =>
    rw [List.mem_cons, not_or] at full
    exact ih (h.receive_token received (Ne.symm full.1)) full.2

theorem Rests.answers_full {request : Request} {reply : Reply} (h : s.Rests none)
    (answers : Answers s request log reply s') (other : request ≠ .cancel) (full : none ∉ log) :
    s'.Rests none := by
  cases answers with
  | receive called | next called =>
    exact h.receive_token called fun lost => full (by simp [lost])
  | parse draws => exact h.draws_full draws full
  | cancel => exact absurd rfl other

theorem Rests.performs_full {requests : List Request} {replies : List Reply}
    (performs : Performs s requests log replies s') (h : s.Rests none)
    (other : Request.cancel ∉ requests) (full : none ∉ log) : s'.Rests none := by
  induction performs with
  | done => exact h
  | request answers _ ih =>
    rw [List.mem_cons, not_or] at other
    rw [List.mem_append, not_or] at full
    exact ih (h.answers_full answers (Ne.symm other.1) full.1) other.2 full.2

end Full

/-! ## The life of the producer -/

/-- When the producer lives and when it does not. -/
structure Lifetime (s : State) : Prop where
  /-- Where it can make no step between two calls, it is gone just if it has a cause to. -/
  gone_iff : s.isIdle = true → s.Halted →
    (s.producer = .gone ↔ s.fault ≠ none ∨ s.deadline = .passed)
  waits : s.isIdle = true → s.fault = none → s.deadline ≠ .passed → s.producer = .waiting
  /-- Without another call it comes to its exit, in no more moves than the state weighs. -/
  leaves : s.isIdle = true → s.fault ≠ none ∨ s.deadline = .passed →
    (∃ later s', (∀ m ∈ later, m.isOfThread = true) ∧ s.fireAll? later = some s' ∧
      s'.producer = .gone) ∧
    ∀ later s', (∀ c, .call c ∉ later) → s.fireAll? later = some s' →
      later.length ≤ s.weight ∧ (s'.Halted → s'.producer = .gone)
  joined : ∀ error, s.consumer = .joined error → s.producer = .gone

theorem lifetime_of_sync {base : Scanner} {s : State} (h : s.Sync base) : s.Lifetime := by
  refine ⟨?_, h.waiting, ?_, ?_⟩
  · intro idle halted
    exact ⟨h.cause_of_gone idle, h.gone_of_cause idle halted⟩
  · intro idle cause
    have rests : s.Rests s.fault := ⟨idle, ⟨base, h⟩, rfl⟩
    have exits : ∀ later s', (∀ c, .call c ∉ later) → s.fireAll? later = some s' → s'.Halted →
        s'.producer = .gone := by
      intro later s' noCall run halted
      have drifts := drifts_of_fireAll? noCall run
      have rests' := rests.drifts drifts
      obtain ⟨base', sync'⟩ := rests'.sync
      refine sync'.gone_of_cause rests'.idle halted ?_
      rw [rests'.recorded]
      exact cause.imp id drifts.later.passed
    constructor
    · obtain ⟨later, s', threads, run, settled⟩ := exists_settled s
      have noCall := noCall_of_threads threads
      exact ⟨later, s', threads, run, exits later s' noCall run (halted_of_settled settled)⟩
    · intro later s' noCall run
      have bound := length_add_weight_le run noCall
      exact ⟨by omega, exits later s' noCall run⟩
  · intro error answered
    have flow := h.flow
    simp only [Flow, answered] at flow
    exact flow.2.1

/-- **The producer lives as long as it may be asked**, and no longer. -/
theorem producer_lifetime (deadline : Deadline) (filename text : String) :
    (∀ moves s, (start deadline filename text).fireAll? moves = some s → s.Lifetime) ∧
    (∀ requests log replies s,
      (start deadline filename text).Performs requests log replies s →
      Request.cancel ∉ requests → none ∉ log → s.deadline ≠ .passed → s.producer = .waiting) ∧
    ∀ schedule requests s,
      s = (replay Session.reply requests (.start schedule deadline filename text)).2 →
      (s.isFinished = true ↔ s.state.fault ≠ none ∨ s.state.deadline = .passed) := by
  have sync : (start deadline filename text).Sync (.ofText filename text) :=
    .start deadline filename text
  refine ⟨?_, ?_, ?_⟩
  · intro moves s run
    obtain ⟨base, sync⟩ := sync_of_run run
    exact lifetime_of_sync sync
  · intro requests log replies s performs other full inTime
    have fresh : (start deadline filename text).Rests none := ⟨rfl, ⟨_, sync⟩, rfl⟩
    have rests := fresh.performs_full performs other full
    obtain ⟨base, sync⟩ := rests.sync
    exact sync.waiting rests.idle rests.recorded inTime
  · intro schedule requests s reached
    obtain ⟨before, logged, idle⟩ := Session.logged_of_replay reached
    obtain ⟨settled, later, threads, run⟩ := s.state.fireAll?_settle
    have rests : s.state.Rests s.state.fault := ⟨idle, logged.exists_sync, rfl⟩
    have rests' := rests.drifts (drifts_of_fireAll? (noCall_of_threads threads) run)
    obtain ⟨base, sync'⟩ := rests'.sync
    have halted := halted_of_settled settled
    rw [Session.isFinished, isFinished, decide_eq_true_iff, ← deadline_of_threads threads run,
      ← rests'.recorded]
    exact (lifetime_of_sync sync').gone_iff rests'.idle halted

/-- Behind the last token the producer still waits, and it goes with the next receive; and where no
receive comes it goes with the deadline. -/
theorem producer_lifetime_last :
    (∃ log replies s, (start .unset "f" "").Performs [.next] log replies s ∧
      s.token? = some ⟨.eof, "", ⟨1, 1⟩⟩ ∧ s.producer = .waiting) ∧
    (replay Session.reply [.receive, .receive] (.start .first .unset "f" "")).2.isFinished = true ∧
    ∃ s later s', (start .pending "f" "a").fireAll? [.expire] = some s ∧ s.fault = none ∧
      (∀ m ∈ later, m.isOfThread = true) ∧ s.fireAll? later = some s' ∧ s'.producer = .gone := by
  refine ⟨?_, ?_, ?_⟩
  · have called := Session.calls_call (s := .start .first .unset "f" "") (.start .unset "f" "") rfl
      .receive
    have given : ((Session.start .first .unset "f" "").call .receive).state.token? =
        some ⟨.eof, "", ⟨1, 1⟩⟩ := by
      decide +kernel
    have inTime : ((Session.start .first .unset "f" "").call .receive).state.deadline ≠ .passed := by
      decide +kernel
    have performs := Performs.request (.next called) (.done _)
    exact ⟨_, _, _, performs, given, (producer_lifetime .unset "f" "").2.1 _ _ _ _ performs
      (by simp) (by simp [given]) inTime⟩
  · have closed : (replay Session.reply [.receive, .receive]
        (.start .first .unset "f" "")).2.state.fault = some .closed := by
      decide +kernel
    exact ((producer_lifetime .unset "f" "").2.2 .first [.receive, .receive] _ rfl).mpr
      (.inl (by simp [closed]))
  · have run : (start .pending "f" "a").fireAll? [.expire] =
        some { start .pending "f" "a" with deadline := .passed } := rfl
    obtain ⟨⟨later, s', threads, more, gone⟩, -⟩ :=
      ((producer_lifetime .pending "f" "a").1 _ _ run).leaves rfl (.inr rfl)
    exact ⟨_, later, s', run, rfl, threads, more, gone⟩

end State

end AssignLang.Handoff
