import AssignLang.Handoff.Move

/-! Progress of a handoff. Main statement: every move but the beginning of a call makes a state
lighter (`weight_fire?_lt`), so between two calls only finitely many moves are made, in any order. -/
namespace AssignLang.Handoff
set_option autoImplicit false

/-- How far a call is from its answer. -/
def Consumer.weight : Consumer → Nat
  | idle _ | joined _ => 0
  | joining => 1
  | droppingTokens _ => 2
  | droppingRequests _ => 3
  | stopping _ => 4
  | failing _ => 5
  | awaiting => 6
  | requesting => 11
  | receiving => 12

/-- How far the producer is from its exit, if no request comes. -/
def Producer.weight : Producer → Nat
  | gone => 0
  | leaving => 1
  | waiting => 2
  | giving _ => 3
  | scanning => 4
  | requested => 5

def Deadline.weight : Deadline → Nat
  | pending => 1
  | unset | passed => 0

namespace State

/-- A request weighs as much as the round of the producer that it starts. -/
def weight (s : State) : Nat :=
  s.consumer.weight + s.producer.weight + 4 * s.requests + (if s.canServe then 1 else 0)
    + (if s.canGive then 1 else 0) + s.deadline.weight

theorem weight_fire?_lt {s s' : State} {m : Move} (h : s.fire? m = some s')
    (notCall : ∀ call, m ≠ .call call) : s'.weight < s.weight := by
  cases m with
  | call call => exact absurd rfl (notCall call)
  | dropTokens =>
    simp only [fire?] at h
    split at h
    next sequel _ =>
      cases sequel <;>
        grind [weight, answer, follow, Consumer.weight, Producer.weight, Deadline.weight]
    next => exact absurd h (by simp)
  | _ =>
    simp only [fire?] at h
    grind [weight, answer, Consumer.weight, Producer.weight, Deadline.weight]

/-! ## The states that one move leads to -/

/-- The states after one step of a thread. -/
def threadSuccessors (s : State) : List State :=
  Move.ofThreads.filterMap s.fire?

/-- The states after one step of a thread or the passing of the deadline, which comes last. -/
def successors (s : State) : List State :=
  s.threadSuccessors ++ (s.fire? .expire).toList

theorem exists_fire?_of_mem_successors {s s' : State} (h : s' ∈ s.successors) :
    ∃ m, s.fire? m = some s' := by
  rcases List.mem_append.mp h with thread | expiry
  · obtain ⟨m, _, fired⟩ := List.mem_filterMap.mp thread
    exact ⟨m, fired⟩
  · exact ⟨.expire, Option.mem_toList.mp expiry⟩

theorem weight_threadSuccessors_lt {s s' : State} (h : s' ∈ s.threadSuccessors) :
    s'.weight < s.weight := by
  obtain ⟨m, member, fired⟩ := List.mem_filterMap.mp h
  refine weight_fire?_lt fired fun call same => ?_
  subst same
  exact absurd ((Move.mem_ofThreads _).mp member) (by simp [Move.isOfThread])

theorem weight_successors_lt {s s' : State} (h : s' ∈ s.successors) : s'.weight < s.weight := by
  rcases List.mem_append.mp h with thread | expiry
  · exact weight_threadSuccessors_lt thread
  · exact weight_fire?_lt (Option.mem_toList.mp expiry) (by simp)

/-- Lets the threads run until neither can make a step. -/
def settle (s : State) : State :=
  if _moving : 0 < s.threadSuccessors.length then (s.threadSuccessors.headD s).settle else s
termination_by s.weight
decreasing_by
  refine weight_threadSuccessors_lt ?_
  rw [List.headD_eq_head?_getD, List.head?_eq_some_head (List.ne_nil_of_length_pos _moving)]
  exact List.head_mem _

end State

end AssignLang.Handoff
