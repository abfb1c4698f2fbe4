import AssignLang.Handoff.Progress
import AssignLang.Proofs.Handoff.Sync

/-! No thread waits in vain. Main statement: while a call is in progress, one of the threads can make
a step, so the call needs no deadline to come to its end (`Sync.exists_step`). -/
namespace AssignLang.Handoff
set_option autoImplicit false

namespace State

/-- The consumer or the producer can make a step. -/
def CanStep (s : State) : Prop :=
  (∃ m s', ConsumerStep s m s') ∨ ∃ m s', ProducerStep s m s'

/-- A producer is held up only where it waits for a request or for the slot. -/
theorem exists_producerStep {s : State} (here : s.producer ≠ .gone)
    (called : s.producer = .waiting → s.requests ≠ 0 ∨ s.canRequest = false)
    (free : ∀ token, s.producer = .giving token → s.slot = none ∨ s.canReceive = false) :
    ∃ m s', ProducerStep s m s' := by
  cases stands : s.producer with
  | gone => exact absurd stands here
  | waiting =>
    by_cases asked : s.requests = 0
    · exact ⟨_, _, .findForsaken stands asked ((called stands).resolve_left (· asked))⟩
    · exact ⟨_, _, .acceptRequest stands asked⟩
  | requested =>
    cases stopped : s.stopped with
    | true => exact ⟨_, _, .seeFlag stands stopped⟩
    | false => exact ⟨_, _, .seeNoFlag stands stopped⟩
  | scanning =>
    cases given : s.scanner.next with
    | mk token? scanner =>
      cases token? with
      | none => exact ⟨_, _, .scanPastEnd stands (by rw [given])⟩
      | some token => exact ⟨_, _, .scan stands given⟩
  | giving token =>
    cases held : s.canReceive with
    | true =>
      exact ⟨_, _, .give stands held ((free token stands).resolve_right (by simp [held]))⟩
    | false => exact ⟨_, _, .giveInVain stands held⟩
  | leaving =>
    cases serves : s.canServe with
    | true => exact ⟨_, _, .closeRequests stands serves⟩
    | false =>
      cases gives : s.canGive with
      | true => exact ⟨_, _, .closeTokens stands gives⟩
      | false => exact ⟨_, _, .exit stands serves gives⟩

/-- The consumer finds out when the producer has left and the slot is empty. -/
theorem Ends.canStep_of_departed {s : State} (ends : s.Ends) (stands : s.consumer = .awaiting)
    (empty : s.slot = none) (departed : s.Departed) : s.CanStep := by
  by_cases gone : s.producer = .gone
  · have closed := ends.producer
    simp only [ProducerEnds, gone] at closed
    exact .inl ⟨_, _, .findClosed stands empty closed.2⟩
  · have leaving := departed.resolve_right gone
    exact .inr (exists_producerStep gone (by simp [leaving]) (by simp [leaving]))

theorem Ahead.canStep {base : Lexical.Scanner} {s : State} (h : s.Ahead base) (ends : s.Ends)
    (stands : s.consumer = .awaiting) : s.CanStep := by
  cases h with
  | asked one empty _ apart =>
    rcases apart with waiting | departed
    · exact .inr ⟨_, _, .acceptRequest waiting (by simp [one])⟩
    · exact ends.canStep_of_departed stands empty departed
  | accepted unasked empty _ busy =>
    refine .inr (exists_producerStep ?_ ?_ fun _ _ => .inl empty)
    · rcases busy with busy | busy <;> simp [busy]
    · rcases busy with busy | busy <;> simp [busy]
  | held unasked empty _ holds =>
    exact .inr (exists_producerStep (by simp [holds]) (by simp [holds]) fun _ _ => .inl empty)
  | handed _ filled => exact .inl ⟨_, _, .take stands filled⟩

theorem Sync.canStep {base : Lexical.Scanner} {s : State} (h : s.Sync base)
    (busy : s.isBusy = true) : s.CanStep := by
  have ends := h.ends.consumer
  have flow := h.flow
  cases stands : s.consumer with
  | idle | joined => simp [isBusy, stands] at busy
  | receiving =>
    simp only [ConsumerEnds, stands] at ends
    cases recorded : s.fault with
    | some fault => exact .inl ⟨_, _, .repeatFault stands recorded⟩
    | none =>
      obtain ⟨canRequest, canReceive, -⟩ := ends.of_clear recorded
      by_cases passed : s.deadline = .passed
      · exact .inl ⟨_, _, .arriveLate stands recorded canRequest canReceive passed⟩
      · exact .inl ⟨_, _, .arriveInTime stands recorded canRequest canReceive passed⟩
  | requesting =>
    cases served : s.canServe with
    | true => exact .inl ⟨_, _, .request stands served⟩
    | false => exact .inl ⟨_, _, .requestInVain stands served⟩
  | awaiting =>
    simp only [Flow, stands] at flow
    rcases flow with ⟨ahead, -⟩ | ⟨⟨-, empty, -⟩, departed, -⟩
    · exact ahead.canStep h.ends stands
    · exact h.ends.canStep_of_departed stands empty departed
  | failing => exact .inl ⟨_, _, .record stands⟩
  | stopping => exact .inl ⟨_, _, .raiseFlag stands⟩
  | droppingRequests => exact .inl ⟨_, _, .dropRequests stands⟩
  | droppingTokens => exact .inl ⟨_, _, .dropTokens stands⟩
  | joining =>
    simp only [ConsumerEnds, stands] at ends
    obtain ⟨noRequest, noReceive, -⟩ := ends
    by_cases gone : s.producer = .gone
    · exact .inl ⟨_, _, .collect stands gone⟩
    · exact .inr (exists_producerStep gone (fun _ => .inr noRequest) fun _ _ => .inr noReceive)

/-- **A call in progress is never stuck.** -/
theorem Sync.exists_step {base : Lexical.Scanner} {s : State} (h : s.Sync base)
    (busy : s.isBusy = true) : ∃ m s', m.isOfThread = true ∧ s.fire? m = some s' := by
  rcases h.canStep busy with ⟨m, s', step⟩ | ⟨m, s', step⟩
  · exact ⟨m, s', by cases step <;> rfl, fire?_of_consumerStep step⟩
  · exact ⟨m, s', by cases step <;> rfl, fire?_of_producerStep step⟩

theorem Sync.successors_pos {base : Lexical.Scanner} {s : State} (h : s.Sync base)
    (busy : s.isBusy = true) : 0 < s.successors.length := by
  obtain ⟨m, s', ofThread, fired⟩ := h.exists_step busy
  have member : s' ∈ s.threadSuccessors :=
    List.mem_filterMap.mpr ⟨m, (Move.mem_ofThreads m).mpr ofThread, fired⟩
  exact List.length_pos_of_mem (List.mem_append_left _ member)

end State

end AssignLang.Handoff
