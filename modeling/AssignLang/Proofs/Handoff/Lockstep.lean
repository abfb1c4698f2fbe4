import AssignLang.Proofs.Handoff.Run
import Mathlib.Logic.Function.Iterate

/-! Requests sent, tokens scanned and tokens received, counted move by move. A request is in the
queue or with the producer until it leads to a token, and a token is with the producer or in the slot
until it is received, or either is lost; and the consumer asks for the next token only when it has
the last one. These three facts bound the counts (`Tally`), and every move keeps to them. Main
statement: the counts stay within one of each other, so the slot is free whenever the producer has a
token for it, and no request comes after a failed receive (`requests_in_lockstep`). -/
namespace AssignLang.Handoff
open Lexical (Scanner)
set_option autoImplicit false

/-- A receive fails by this move, or the consumer calls the handoff off. -/
def Move.breaksOff : Move → Bool
  | repeatFault | missEnds | arriveLate | requestInVain | findClosed | timeOut | record
  | call .cancel | call .join => true
  | _ => false

namespace State

/-! ## The counts -/

/-- Requests that the producer has taken and not yet scanned a token for. -/
def serving (s : State) : Nat :=
  match s.producer with
  | .requested | .scanning => 1
  | _ => 0

/-- Tokens that the producer has scanned and not yet handed over. -/
def holding (s : State) : Nat :=
  match s.producer with
  | .giving _ => 1
  | _ => 0

/-- The consumer waits for one token at most, and for none where it may ask for the next one. -/
def Owed (sent received : Nat) (s : State) : Prop :=
  match s.consumer with
  | .requesting => sent = received
  | .awaiting => sent = received + 1
  | .idle _ | .receiving => sent ≤ received + 1 ∧ (s.fault = none → sent = received)
  | _ => sent ≤ received + 1

/-- Where the requests and the tokens are that were counted. -/
structure Tally (sent scanned received : Nat) (s : State) : Prop where
  requests : scanned + s.requests + s.serving ≤ sent
  tokens : received + s.slot.toList.length + s.holding ≤ scanned
  owed : s.Owed sent received

section Tally
variable {sent scanned received : Nat} {s s' : State} {m : Move}

theorem Owed.le (h : s.Owed sent received) : sent ≤ received + 1 := by
  unfold Owed at h
  split at h
  · omega
  · omega
  · exact h.1
  · exact h.1
  · exact h

theorem Tally.request (h : s.Tally sent scanned received) (step : ConsumerStep s .request s') :
    s'.Tally (sent + 1) scanned received := by
  obtain ⟨requests, tokens, owed⟩ := h
  cases step with
  | request stands =>
    simp only [Owed, stands] at owed
    refine ⟨?_, tokens, congrArg (· + 1) owed⟩
    show scanned + (s.requests + 1) + s.serving ≤ sent + 1
    omega

theorem Tally.take (h : s.Tally sent scanned received) (step : ConsumerStep s .take s') :
    s'.Tally sent scanned (received + 1) := by
  obtain ⟨requests, tokens, owed⟩ := h
  cases step with
  | take stands there =>
    simp only [Owed, stands] at owed
    refine ⟨requests, ?_, Nat.le_succ_of_le (Nat.le_of_eq owed), fun _ => owed⟩
    rw [there] at tokens
    show received + 1 + 0 + s.holding ≤ scanned
    simpa using tokens

theorem Tally.consumerStep (h : s.Tally sent scanned received) (ends : s.ConsumerEnds)
    (step : ConsumerStep s m s') (noRequest : m ≠ .request) (noToken : m ≠ .take) :
    s'.Tally sent scanned received := by
  have bound := h.owed.le
  obtain ⟨requests, tokens, owed⟩ := h
  unfold Owed at owed
  unfold ConsumerEnds at ends
  cases step with
  | request => exact absurd rfl noRequest
  | take => exact absurd rfl noToken
  | repeatFault stands =>
    simp only [stands] at owed
    exact ⟨requests, tokens, owed⟩
  | arriveInTime stands clear =>
    simp only [stands] at owed
    exact ⟨requests, tokens, owed.2 clear⟩
  | @dropTokens sequel stands =>
    simp only [stands] at ends
    have fewer : received + (none : Option Token).toList.length + s.holding ≤ scanned := by
      rw [Option.toList_none, List.length_nil]
      omega
    cases sequel with
    | fail fault =>
      refine ⟨requests, fewer, bound, fun clear => ?_⟩
      have recorded : s.fault = some fault := ends.1
      exact absurd (recorded.symm.trans clear) (by simp)
    | cancel => exact ⟨requests, fewer, bound, fun clear => absurd clear ends.1⟩
    | join => exact ⟨requests, fewer, bound⟩
  | _ => exact ⟨requests, tokens, bound⟩

theorem Tally.scan (h : s.Tally sent scanned received) (step : ProducerStep s .scan s') :
    s'.Tally sent (scanned + 1) received := by
  obtain ⟨requests, tokens, owed⟩ := h
  cases step with
  | scan stands =>
    simp only [serving, stands] at requests
    simp only [holding, stands] at tokens
    refine ⟨?_, ?_, owed⟩
    · show scanned + 1 + s.requests + 0 ≤ sent
      omega
    · exact Nat.succ_le_succ tokens

theorem Tally.producerStep (h : s.Tally sent scanned received) (step : ProducerStep s m s')
    (noScan : m ≠ .scan) : s'.Tally sent scanned received := by
  obtain ⟨requests, tokens, owed⟩ := h
  -- What the producer gives up is lost, and what it hands on is counted where it comes to be.
  unfold serving at requests
  unfold holding at tokens
  cases step with
  | scan => exact absurd rfl noScan
  | acceptRequest stands asked =>
    simp only [stands] at requests tokens
    refine ⟨?_, tokens, owed⟩
    show scanned + (s.requests - 1) + 1 ≤ sent
    omega
  | give stands held empty =>
    simp only [stands, empty] at requests tokens
    exact ⟨requests, tokens, owed⟩
  | seeFlag stands | scanPastEnd stands =>
    simp only [stands] at requests tokens
    exact ⟨Nat.le_of_succ_le requests, tokens, owed⟩
  | giveInVain stands =>
    simp only [stands] at requests tokens
    exact ⟨requests, Nat.le_of_succ_le tokens, owed⟩
  | findForsaken stands | lapse stands | seeNoFlag stands | closeRequests stands
  | closeTokens stands | exit stands =>
    simp only [stands] at requests tokens
    refine ⟨?_, ?_, owed⟩
    · simpa only [serving, stands] using requests
    · simpa only [holding, stands] using tokens

theorem Tally.call (h : s.Tally sent scanned received) (idle : s.isIdle = true) (c : Call) :
    (c.begin s).Tally sent scanned received := by
  have bound := h.owed.le
  obtain ⟨requests, tokens, owed⟩ := h
  obtain ⟨last, stands⟩ := isIdle_iff.mp idle
  simp only [Owed, stands] at owed
  cases c with
  | receive => exact ⟨requests, tokens, owed⟩
  | cancel | join => exact ⟨requests, tokens, bound⟩

end Tally

/-- The counts of the moves made so far. -/
def Tallied (moves : List Move) (s : State) : Prop :=
  s.Tally (moves.count .request) (moves.count .scan) (moves.count .take)

theorem count_concat_of_ne {moves : List Move} {m x : Move} (other : m ≠ x) :
    (moves ++ [m]).count x = moves.count x := by
  rw [List.count_append, List.count_singleton, if_neg (by simpa using other), Nat.add_zero]

theorem count_concat_self (moves : List Move) (m : Move) :
    (moves ++ [m]).count m = moves.count m + 1 := by
  rw [List.count_append, List.count_singleton_self]

theorem Tallied.concat_of_ne {moves : List Move} {s : State} {m : Move} (h : s.Tallied moves)
    (noRequest : m ≠ .request) (noScan : m ≠ .scan) (noToken : m ≠ .take) :
    s.Tallied (moves ++ [m]) := by
  unfold Tallied
  rw [count_concat_of_ne noRequest, count_concat_of_ne noScan, count_concat_of_ne noToken]
  exact h

/-- **Every move keeps the counts together.** -/
theorem Tallied.fire? {moves : List Move} {s s' : State} {m : Move} (h : s.Tallied moves)
    (ends : s.Ends) (fired : s.fire? m = some s') : s'.Tallied (moves ++ [m]) := by
  rcases step_of_fire? fired with ⟨c, rfl, idle, rfl⟩ | step | step | ⟨rfl, -, rfl⟩
  · have same : (c.begin s).Tallied moves := Tally.call h idle c
    exact same.concat_of_ne (by simp) (by simp) (by simp)
  · by_cases request : m = .request
    · subst request
      unfold Tallied
      rw [count_concat_self, count_concat_of_ne (by simp), count_concat_of_ne (by simp)]
      exact Tally.request h step
    by_cases take : m = .take
    · subst take
      unfold Tallied
      rw [count_concat_self, count_concat_of_ne (by simp), count_concat_of_ne (by simp)]
      exact Tally.take h step
    · have same : s'.Tallied moves := Tally.consumerStep h ends.consumer step request take
      refine same.concat_of_ne request ?_ take
      rintro rfl
      cases step
  · by_cases scan : m = .scan
    · subst scan
      unfold Tallied
      rw [count_concat_self, count_concat_of_ne (by simp), count_concat_of_ne (by simp)]
      exact Tally.scan h step
    · have same : s'.Tallied moves := Tally.producerStep h step scan
      refine same.concat_of_ne ?_ scan ?_
      · rintro rfl
        cases step
      · rintro rfl
        cases step
  · have same : ({ s with deadline := .passed } : State).Tallied moves :=
      ⟨h.requests, h.tokens, h.owed⟩
    exact same.concat_of_ne (by simp) (by simp) (by simp)

theorem tallied_of_run {deadline : Deadline} {filename text : String} {moves : List Move}
    {s : State} (run : (start deadline filename text).fireAll? moves = some s) :
    s.Tallied moves := by
  refine fireAll?_induction run ?_ fun before s m s' reached tallied fired =>
    tallied.fire? (ends_of_run reached) fired
  exact ⟨Nat.le_refl _, Nat.le_refl _, Nat.zero_le _, fun _ => rfl⟩

/-- A token that is scanned is scanned once: the scanner has gone on by one token for each. -/
theorem scanner_of_run {deadline : Deadline} {filename text : String} {moves : List Move}
    {s : State} (run : (start deadline filename text).fireAll? moves = some s) :
    s.scanner = (fun t => t.next.2)^[moves.count .scan] (Scanner.ofText filename text) := by
  refine fireAll?_induction (P := fun moves s => s.scanner =
    (fun t => t.next.2)^[moves.count .scan] (Scanner.ofText filename text)) run rfl ?_
  intro before s m s' _ known fired
  by_cases scan : m = .scan
  · subst scan
    have step := producerStep_of_fire? fired rfl
    cases step with
    | scan stands given =>
      rw [count_concat_self, Function.iterate_succ_apply', ← known, given]
  · rw [count_concat_of_ne scan, ← known]
    exact scanner_of_fire? fired scan

/-! ## The slot is free for every token -/

theorem Tally.slot_free {sent scanned received : Nat} {s : State} {token : Token}
    (h : s.Tally sent scanned received) (holds : s.producer = .giving token) : s.slot = none := by
  have requests := h.requests
  have tokens := h.tokens
  have bound := h.owed.le
  simp only [serving, holds] at requests
  simp only [holding, holds] at tokens
  have empty : s.slot.toList.length = 0 := by omega
  cases filled : s.slot with
  | none => rfl
  | some other =>
    rw [filled] at empty
    exact absurd empty (by simp)

/-- The producer is never held up where it hands a token over. -/
theorem exists_give {s : State} {token : Token} (holds : s.producer = .giving token)
    (free : s.slot = none) : ∃ m s', (m = .give ∨ m = .giveInVain) ∧ s.fire? m = some s' := by
  cases held : s.canReceive with
  | true => exact ⟨.give, _, .inl rfl, fire?_of_producerStep (.give holds held free)⟩
  | false => exact ⟨.giveInVain, _, .inr rfl, fire?_of_producerStep (.giveInVain holds held)⟩

/-! ## After the last request -/

/-- The consumer does not ask for tokens any more. -/
def Retired (s : State) : Prop :=
  match s.consumer with
  | .idle _ | .receiving => s.fault ≠ none
  | .requesting | .awaiting => False
  | _ => True

theorem Retired.fire? {s s' : State} {m : Move} (h : s.Retired) (ends : s.Ends)
    (fired : s.fire? m = some s') : s'.Retired := by
  unfold Retired at h
  rcases step_of_fire? fired with ⟨c, rfl, idle, rfl⟩ | step | step | ⟨-, -, rfl⟩
  · obtain ⟨last, stands⟩ := isIdle_iff.mp idle
    simp only [stands] at h
    cases c with
    | receive => exact h
    | cancel | join => trivial
  · have suits := ends.consumer
    unfold ConsumerEnds at suits
    cases step with
    | repeatFault stands =>
      simp only [stands] at h
      exact h
    | arriveInTime stands clear =>
      simp only [stands] at h
      exact absurd clear h
    | request stands | take stands =>
      simp only [stands] at h
    | @dropTokens sequel stands =>
      simp only [stands] at suits
      cases sequel with
      | fail fault =>
        have recorded : s.fault = some fault := suits.1
        show s.fault ≠ none
        simp [recorded]
      | cancel => exact suits.1
      | join => trivial
    | _ => trivial
  · obtain ⟨consumer, fault, -⟩ := step.frame
    unfold Retired
    rw [consumer, fault]
    exact h
  · exact h

theorem retired_of_breaksOff {s s' : State} {m : Move} (fired : s.fire? m = some s')
    (breaks : m.breaksOff = true) : s'.Retired := by
  rcases step_of_fire? fired with ⟨c, rfl, -, rfl⟩ | step | step | ⟨rfl, -, -⟩
  · cases c with
    | receive => exact absurd breaks (by simp [Move.breaksOff])
    | cancel | join => trivial
  · cases step with
    | repeatFault _ recorded =>
      show s.fault ≠ none
      simp [recorded]
    | missEnds | arriveLate | requestInVain | findClosed | timeOut | record => trivial
    | _ => exact absurd breaks (by simp [Move.breaksOff])
  · cases step <;> exact absurd breaks (by simp [Move.breaksOff])
  · exact absurd breaks (by simp [Move.breaksOff])

theorem not_mem_request_of_retired {s s' : State} {later : List Move}
    (run : s.fireAll? later = some s') (ends : s.Ends) (retired : s.Retired) :
    .request ∉ later := by
  intro asked
  obtain ⟨before, after, rfl⟩ := List.append_of_mem asked
  obtain ⟨s₁, s₂, reached, fired, -⟩ := exists_of_fireAll?_split run
  have still : s₁.Ends ∧ s₁.Retired :=
    fireAll?_invariant (P := fun s => s.Ends ∧ s.Retired) reached ⟨ends, retired⟩
      fun _ _ _ both fired => ⟨both.1.fire? fired, both.2.fire? both.1 fired⟩
  have step := consumerStep_of_fire? fired rfl
  cases step with
  | request stands =>
    have asks := still.2
    simp only [Retired, stands] at asks

/-! ## Lockstep -/

/-- What the moves so far and the state after them have in common. -/
structure Lockstep (filename text : String) (moves : List Move) (s : State) : Prop where
  /-- Every token received was scanned before. -/
  received_le : moves.count .take ≤ moves.count .scan
  /-- Every token scanned was asked for before. -/
  scanned_le : moves.count .scan ≤ moves.count .request
  /-- The consumer asks for one token at a time. -/
  requested_le : moves.count .request ≤ moves.count .take + 1
  /-- The scanner is where the tokens scanned have brought it, one ahead at the most. -/
  scanner : s.scanner = (fun t => t.next.2)^[moves.count .scan] (Scanner.ofText filename text) ∧
    moves.count .scan ≤ moves.count .take + 1
  /-- The slot is free for a token that the producer holds, so it need not wait. -/
  free : ∀ token, s.producer = .giving token →
    s.slot = none ∧ ∃ m s', (m = .give ∨ m = .giveInVain) ∧ s.fire? m = some s'
  /-- No request comes after a failed receive or the end of the handoff. -/
  silent : ∀ before m after, moves = before ++ m :: after → m.breaksOff = true →
    .request ∉ after

theorem lockstep_of_run {deadline : Deadline} {filename text : String} {moves : List Move}
    {s : State} (run : (start deadline filename text).fireAll? moves = some s) :
    s.Lockstep filename text moves := by
  have tally := tallied_of_run run
  have bound : moves.count .request ≤ moves.count .take + 1 := tally.owed.le
  have requests := tally.requests
  have tokens := tally.tokens
  refine ⟨by omega, by omega, bound, ⟨scanner_of_run run, by omega⟩, ?_, ?_⟩
  · intro token holds
    have empty := tally.slot_free holds
    exact ⟨empty, exists_give holds empty⟩
  · rintro before m after rfl breaks
    obtain ⟨s₁, s₂, reached, fired, rest⟩ := exists_of_fireAll?_split run
    have ends := (ends_of_run reached).fire? fired
    exact not_mem_request_of_retired rest ends (retired_of_breaksOff fired breaks)

/-- **The two threads move in lockstep**, in every run and so whatever the consumer asks for. -/
theorem requests_in_lockstep (deadline : Deadline) (filename text : String) :
    (∀ moves s, (start deadline filename text).fireAll? moves = some s →
      s.Lockstep filename text moves) ∧
    ∀ requests log replies s, (start deadline filename text).Performs requests log replies s →
      ∃ moves, (start deadline filename text).fireAll? moves = some s ∧
        s.Lockstep filename text moves := by
  refine ⟨fun moves s run => lockstep_of_run run, fun requests log replies s performs => ?_⟩
  obtain ⟨moves, run⟩ := performs.leads
  exact ⟨moves, run, lockstep_of_run run⟩

/-- The deadline cuts the receive that a token has been scanned for. -/
theorem requests_in_lockstep_cut :
    ∃ before after s, (start .pending "f" "a").fireAll? (before ++ .timeOut :: after) = some s ∧
      s.producer = .giving ⟨.identifier, "a", ⟨1, 1⟩⟩ ∧ s.slot = none ∧ .request ∉ after ∧
      s.Lockstep "f" "a" (before ++ .timeOut :: after) := by
  let before : List Move := [.call .receive, .arriveInTime, .request, .acceptRequest, .seeNoFlag,
    .scan, .expire]
  let after : List Move := [.record, .raiseFlag, .dropRequests]
  have reached : ((start .pending "f" "a").fireAll? (before ++ .timeOut :: after)).map
      (·.producer) = some (.giving ⟨.identifier, "a", ⟨1, 1⟩⟩) := by
    decide +kernel
  obtain ⟨s, run, holds⟩ := Option.map_eq_some_iff.mp reached
  have lockstep := (requests_in_lockstep .pending "f" "a").1 _ s run
  exact ⟨before, after, s, run, holds, (lockstep.free _ holds).1,
    lockstep.silent before .timeOut after rfl rfl, lockstep⟩

end State

end AssignLang.Handoff
