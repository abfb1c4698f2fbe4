import AssignLang.Handoff.Session
import AssignLang.Proofs.Handoff.Liveness
import Mathlib.Logic.Relation

/-! Runs of a handoff in which any move that can be made may be the next one. Main statements: a
move keeps the consumer in step with some scanner (`Moves.exists_sync`), and every schedule makes
such a run of each call (`Session.calls_call`), so what holds of all runs holds under every
schedule. -/
namespace AssignLang.Handoff
set_option autoImplicit false

namespace State

/-! ## Runs -/

/-- A step of one of the threads, or the passing of the deadline. -/
def Moves (s s' : State) : Prop :=
  ∃ m, (∀ c, m ≠ .call c) ∧ s.fire? m = some s'

def Drifts : State → State → Prop :=
  Relation.ReflTransGen Moves

/-- The call in progress runs its course. -/
inductive Serves : State → State → Prop
  | answered {s : State} (quiet : s.isBusy = false) : Serves s s
  | move {s s' s'' : State} (busy : s.isBusy = true) (moved : s.Moves s') (rest : Serves s' s'') :
      Serves s s''

/-- The call is made at some moment and runs its course. -/
def Calls (c : Call) (s s' : State) : Prop :=
  ∃ s₁ s₂, s.Drifts s₁ ∧ s₁.fire? (.call c) = some s₂ ∧ s₂.Serves s'

/-- The token that the last call gave. -/
def token? (s : State) : Option Token :=
  match s.consumer with
  | .idle (some (.token token)) => some token
  | _ => none

/-- The reading asks by one receive after the other. -/
inductive Reads {α : Type} : Grammar.Reading α → State → α → State → Prop
  | done (answer : α) (s : State) : Reads (.done answer) s answer s
  | ask {resume : Option Token → Grammar.Reading α} {s s' s'' : State} {answer : α}
      (received : s.Calls .receive s') (rest : Reads (resume s'.token?) s' answer s'') :
      Reads (.ask resume) s answer s''

/-! ## What every move keeps -/

theorem Moves.exists_sync {base : Lexical.Scanner} {s s' : State} (moved : s.Moves s')
    (h : s.Sync base) : ∃ base', s'.Sync base' := by
  obtain ⟨m, -, fired⟩ := moved
  exact h.exists_of_fire? fired

theorem Moves.step {s s' : State} (moved : s.Moves s') :
    (∃ m, ConsumerStep s m s') ∨ (∃ m, ProducerStep s m s') ∨
      (s.deadline = .pending ∧ s' = { s with deadline := .passed }) := by
  obtain ⟨m, notCall, fired⟩ := moved
  rcases step_of_fire? fired with ⟨c, rfl, -⟩ | step | step | ⟨-, expiry⟩
  · exact absurd rfl (notCall c)
  · exact .inl ⟨m, step⟩
  · exact .inr (.inl ⟨m, step⟩)
  · exact .inr (.inr expiry)

/-! ## The deadline -/

/-- Time goes by: the deadline may have passed meanwhile, if it was still to come. -/
def Later (s s' : State) : Prop :=
  s'.deadline = s.deadline ∨ (s.deadline = .pending ∧ s'.deadline = .passed)

theorem Later.trans {s s' s'' : State} (h : s.Later s') (h' : s'.Later s'') : s.Later s'' := by
  rcases h' with same | ⟨pending, passed⟩
  · unfold Later
    rw [same]
    exact h
  · rcases h with same | ⟨pending', passed'⟩
    · exact .inr ⟨same.symm.trans pending, passed⟩
    · exact .inr ⟨pending', passed⟩

theorem Later.passed {s s' : State} (h : s.Later s') (passed : s.deadline = .passed) :
    s'.deadline = .passed := by
  rcases h with same | ⟨-, passed'⟩
  · exact same.trans passed
  · exact passed'

theorem Later.unset {s s' : State} (h : s.Later s') (unset : s.deadline = .unset) :
    s'.deadline = .unset := by
  rcases h with same | ⟨pending, -⟩
  · exact same.trans unset
  · exact absurd (pending.symm.trans unset) (by simp)

theorem Moves.later {s s' : State} (moved : s.Moves s') : s.Later s' := by
  rcases moved.step with ⟨m, step⟩ | ⟨m, step⟩ | ⟨pending, rfl⟩
  · exact .inl step.frame.2.2.2.2
  · exact .inl step.frame.2.2.2.2.2
  · exact .inr ⟨pending, rfl⟩

theorem Drifts.later {s s' : State} (h : s.Drifts s') : s.Later s' := by
  induction h with
  | refl => exact .inl rfl
  | tail _ moved ih => exact ih.trans moved.later

theorem Serves.later {s s' : State} (h : s.Serves s') : s.Later s' := by
  induction h with
  | answered => exact .inl rfl
  | move _ moved _ ih => exact moved.later.trans ih

theorem Calls.later {c : Call} {s s' : State} (h : s.Calls c s') : s.Later s' := by
  obtain ⟨s₁, s₂, drifts, begun, serves⟩ := h
  obtain ⟨-, rfl⟩ := of_guard begun
  have same : s₁.Later (c.begin s₁) := .inl (by cases c <;> rfl)
  exact (drifts.later.trans same).trans serves.later

theorem Reads.later {α : Type} {reading : Grammar.Reading α} {s s' : State} {answer : α}
    (h : Reads reading s answer s') : s.Later s' := by
  induction h with
  | done => exact .inl rfl
  | ask received _ ih => exact received.later.trans ih

end State

/-! ## Every schedule makes a run -/

namespace Session

theorem pick_moves {s : Session} (possible : 0 < s.state.successors.length) :
    s.state.Moves s.pick := by
  rcases List.mem_append.mp (pick_mem possible) with thread | expiry
  · obtain ⟨m, member, fired⟩ := List.mem_filterMap.mp thread
    refine ⟨m, ?_, fired⟩
    rintro c rfl
    exact absurd ((Move.mem_ofThreads _).mp member) (by simp [Move.isOfThread])
  · exact ⟨.expire, by simp, Option.mem_toList.mp expiry⟩

theorem serves_complete {s : Session} {base : Lexical.Scanner} (h : s.state.Sync base) :
    s.state.Serves s.complete.state := by
  fun_induction complete s generalizing base with
  | case1 s busy possible ih =>
    obtain ⟨base', sync⟩ := (pick_moves possible).exists_sync h
    exact .move busy (pick_moves possible) (ih sync)
  | case2 s busy stuck => exact absurd (h.successors_pos busy) stuck
  | case3 s quiet => exact .answered (by simpa using quiet)

theorem calls_call {s : Session} {base : Lexical.Scanner} (h : s.state.Sync base)
    (idle : s.state.isIdle = true) (c : Call) : s.state.Calls c (s.call c).state := by
  have begun : s.state.fire? (.call c) = some (c.begin s.state) := by
    rw [State.fire?, if_pos idle]
  refine ⟨s.state, c.begin s.state, .refl, begun, ?_⟩
  rw [call, begun]
  exact serves_complete (s := { s with state := c.begin s.state }) (h.call idle c)

end Session

end AssignLang.Handoff
