import AssignLang.Proofs.Handoff.Run

/-! Calls run to their end, and so does the producer once it is stopped. A run in which no call
begins is no longer than the weight of the state in which it starts (`length_add_weight_le`), so it
comes to a state in which neither thread can make a step. In such a state no call is in progress, by
what `Sync.exists_step` says of the calls, and a producer whose channels the consumer has left is
gone. Main statement: `call_completes`. -/
namespace AssignLang.Handoff.State
set_option autoImplicit false

/-- Neither thread can make a step. -/
def Settled (s : State) : Prop :=
  s.threadSuccessors = []

theorem fire?_of_settled {s : State} (settled : s.Settled) {m : Move}
    (ofThread : m.isOfThread = true) : s.fire? m = none :=
  List.filterMap_eq_nil_iff.mp settled m ((Move.mem_ofThreads m).mpr ofThread)

/-! ## Every run comes to its end -/

theorem length_add_weight_le {s s' : State} {moves : List Move}
    (run : s.fireAll? moves = some s') (noCall : ∀ c, .call c ∉ moves) :
    moves.length + s'.weight ≤ s.weight := by
  induction moves generalizing s with
  | nil =>
    obtain rfl := Option.some.inj run
    exact Nat.le_of_eq (Nat.zero_add _)
  | cons m rest ih =>
    obtain ⟨s₁, fired, more⟩ := exists_of_fireAll?_cons run
    have lighter : s₁.weight < s.weight := by
      refine weight_fire?_lt fired fun c same => noCall c ?_
      rw [same]
      exact List.mem_cons_self
    have shorter := ih more fun c later => noCall c (List.mem_cons_of_mem _ later)
    rw [List.length_cons]
    omega

/-- The threads come to rest by themselves, without the deadline. -/
theorem fireAll?_settle (s : State) :
    s.settle.Settled ∧
      ∃ later, (∀ m ∈ later, m.isOfThread = true) ∧ s.fireAll? later = some s.settle := by
  fun_induction settle s with
  | case1 s moving ih =>
    obtain ⟨settled, later, threads, run⟩ := ih
    have member : s.threadSuccessors.headD s ∈ s.threadSuccessors := by
      rw [List.headD_eq_head?_getD, List.head?_eq_some_head (List.ne_nil_of_length_pos moving)]
      exact List.head_mem _
    obtain ⟨m, ofThread, fired⟩ := List.mem_filterMap.mp member
    refine ⟨settled, m :: later, List.forall_mem_cons.mpr
      ⟨(Move.mem_ofThreads m).mp ofThread, threads⟩, ?_⟩
    rw [fireAll?, fired]
    exact run
  | case2 s still =>
    have settled : s.threadSuccessors = [] := List.eq_nil_of_length_eq_zero (by omega)
    exact ⟨settled, [], by simp, rfl⟩

theorem exists_settled (s : State) :
    ∃ later s', (∀ m ∈ later, m.isOfThread = true) ∧ s.fireAll? later = some s' ∧ s'.Settled := by
  obtain ⟨settled, later, threads, run⟩ := s.fireAll?_settle
  exact ⟨later, s.settle, threads, run, settled⟩

/-! ## What is left to do where nothing can be done -/

theorem isBusy_of_settled {base : Lexical.Scanner} {s : State} (h : s.Sync base)
    (settled : s.Settled) : s.isBusy = false := by
  cases busy : s.isBusy with
  | false => rfl
  | true =>
    obtain ⟨m, s', ofThread, fired⟩ := h.exists_step busy
    exact absurd (fired.symm.trans (fire?_of_settled settled ofThread)) (by simp)

/-- The consumer has dropped its ends of both channels. -/
def Abandoned (s : State) : Prop :=
  s.canRequest = false ∧ s.canReceive = false

theorem Abandoned.fire? {s s' : State} {m : Move} (h : s.Abandoned)
    (fired : s.fire? m = some s') : s'.Abandoned := by
  obtain ⟨noRequest, noReceive⟩ := h
  rcases step_of_fire? fired with ⟨c, rfl, -, rfl⟩ | step | step | ⟨-, -, rfl⟩
  · cases c <;> exact ⟨noRequest, noReceive⟩
  · cases step with
    | dropRequests => exact ⟨rfl, noReceive⟩
    | @dropTokens sequel => cases sequel <;> exact ⟨noRequest, rfl⟩
    | _ => exact ⟨noRequest, noReceive⟩
  · obtain ⟨-, -, canRequest, canReceive, -⟩ := step.frame
    exact ⟨canRequest.trans noRequest, canReceive.trans noReceive⟩
  · exact ⟨noRequest, noReceive⟩

/-- The producer cannot make a step. -/
def Halted (s : State) : Prop :=
  ∀ m, m.isOfProducer = true → s.fire? m = none

theorem halted_of_settled {s : State} (settled : s.Settled) : s.Halted := by
  intro m ofProducer
  apply fire?_of_settled settled
  cases m <;> first | rfl | exact absurd ofProducer (by simp [Move.isOfProducer])

theorem Halted.not_step {s s' : State} {m : Move} (h : s.Halted) (step : ProducerStep s m s') :
    False := by
  have refused := h m (by cases step <;> rfl)
  exact absurd ((fire?_of_producerStep step).symm.trans refused) (by simp)

/-- An abandoned producer is never held up, so it stops only at its exit. -/
theorem gone_of_halted {s : State} (h : s.Abandoned) (halted : s.Halted) : s.producer = .gone := by
  by_contra here
  obtain ⟨m, s', step⟩ := exists_producerStep here (fun _ => .inr h.1) fun _ _ => .inr h.2
  exact halted.not_step step

/-! ## Calls and producers come to their end -/

/-- What holds of every state that the handoff can come to. -/
structure Completes (s : State) : Prop where
  /-- While a call is in progress the threads do not wait for each other. -/
  step : s.isBusy = true → ∃ m s', m.isOfThread = true ∧ s.fire? m = some s'
  lighter : ∀ m s', m.isOfThread = true → s.fire? m = some s' → s'.weight < s.weight
  /-- So the threads cannot go on for ever, -/
  bounded : ∀ later s', (∀ c, .call c ∉ later) → s.fireAll? later = some s' →
    later.length + s'.weight ≤ s.weight
  /-- they come to rest without any help of the deadline, -/
  settles : ∃ later s', (∀ m ∈ later, m.isOfThread = true) ∧ s.fireAll? later = some s' ∧ s'.Settled
  /-- and wherever they do the call has returned. -/
  returns : ∀ later s', s.fireAll? later = some s' → s'.Settled → s'.isBusy = false
  /-- Once the ends of the consumer are dropped the producer reaches its exit. -/
  exits : s.Abandoned → ∀ later s', s.fireAll? later = some s' → s'.Settled → s'.producer = .gone

/-- **Every call comes to its end**, in every run, and no producer is left behind. -/
theorem call_completes (deadline : Deadline) (filename text : String) :
    (∀ moves s, (start deadline filename text).fireAll? moves = some s → s.Completes) ∧
    ∀ moves s, (start deadline filename text).fireAll? moves = some s → s.consumer = .joining →
      s.Abandoned := by
  constructor
  · intro moves s run
    obtain ⟨base, sync⟩ := sync_of_run run
    refine ⟨sync.exists_step, ?_, ?_, exists_settled s, ?_, ?_⟩
    · intro m s' ofThread fired
      refine weight_fire?_lt fired fun c same => ?_
      rw [same] at ofThread
      exact absurd ofThread (by simp [Move.isOfThread])
    · intro later s' noCall more
      exact length_add_weight_le more noCall
    · intro later s' more settled
      obtain ⟨base', sync'⟩ := sync_of_run (fireAll?_trans run more)
      exact isBusy_of_settled sync' settled
    · intro abandoned later s' more settled
      have still := fireAll?_invariant more abandoned fun _ _ _ => Abandoned.fire?
      exact gone_of_halted still (halted_of_settled settled)
  · intro moves s run joining
    have ends := (ends_of_run run).consumer
    simp only [ConsumerEnds, joining] at ends
    exact ⟨ends.1, ends.2.1⟩

/-- A receive times out and leaves its request behind; the producer takes it up when the handoff is
used up already, and is gone all the same. -/
theorem call_completes_stale :
    ∃ moves later s s', (start .pending "f" "a").fireAll? moves = some s ∧
      s.producer = .waiting ∧ s.requests = 1 ∧ s.isBusy = true ∧ s.Abandoned ∧
      (∃ m s₁, m.isOfThread = true ∧ s.fire? m = some s₁ ∧ s₁.weight < s.weight) ∧
      s.fireAll? later = some s' ∧ s'.Settled ∧ later.length + s'.weight ≤ s.weight ∧
      s'.isBusy = false ∧ s'.producer = .gone := by
  let moves : List Move := [.call .receive, .arriveInTime, .request, .expire, .timeOut, .record,
    .raiseFlag, .dropRequests, .dropTokens, .call .join, .raiseFlag, .dropRequests, .dropTokens]
  let later : List Move := [.acceptRequest, .seeFlag, .closeTokens, .closeRequests, .exit, .collect]
  have there : ((start .pending "f" "a").fireAll? moves).map
      (fun s => (s.consumer, s.producer, s.requests)) = some (.joining, .waiting, 1) := by
    decide +kernel
  have atRest : ((start .pending "f" "a").fireAll? (moves ++ later)).map (·.threadSuccessors) =
      some [] := by
    decide +kernel
  obtain ⟨s, run, stands⟩ := Option.map_eq_some_iff.mp there
  obtain ⟨joining, waiting, left⟩ : s.consumer = .joining ∧ s.producer = .waiting ∧
      s.requests = 1 := by simpa using stands
  obtain ⟨s', whole, settled⟩ := Option.map_eq_some_iff.mp atRest
  obtain ⟨s₁, reached, more⟩ := exists_of_fireAll?_append whole
  obtain rfl := Option.some.inj (run.symm.trans reached)
  have busy : s.isBusy = true := by rw [isBusy, joining]
  have noCall : ∀ c, .call c ∉ later := by simp [later]
  have completes := (call_completes .pending "f" "a").1 moves s run
  have abandoned := (call_completes .pending "f" "a").2 moves s run joining
  obtain ⟨m, s₁, ofThread, fired⟩ := completes.step busy
  exact ⟨moves, later, s, s', run, waiting, left, busy, abandoned,
    ⟨m, s₁, ofThread, fired, completes.lighter m s₁ ofThread fired⟩, more, settled,
    completes.bounded later s' noCall more, completes.returns later s' more settled,
    completes.exits abandoned later s' more settled⟩

end AssignLang.Handoff.State
