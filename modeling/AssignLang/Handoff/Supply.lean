import AssignLang.Handoff.Progress

/-! The supply of a handoff: a bound on the tokens that the consumer can still receive. Main
statements: no move adds to it (`supply_fire?_le`), and a move that answers a call by a token takes
from it (`supply_fire?_lt`), so a consumer that receives until it gets no token comes to an end. -/
namespace AssignLang.Handoff.State
set_option autoImplicit false

/-- Bounds the tokens that the consumer can still receive: those that are left in the text, the one
that the producer holds and the one in the slot. -/
def supply (s : State) : Nat :=
  3 * s.scanner.size + (match s.producer with | .giving _ => 2 | _ => 0) + s.slot.toList.length

theorem supply_fire?_le {s s' : State} {m : Move} (h : s.fire? m = some s') :
    s'.supply ≤ s.supply := by
  cases m with
  | call call => cases call <;> grind [fire?, Call.begin, supply]
  | scan =>
    simp only [fire?] at h
    have smaller := s.scanner.size_next_lt
    have finished : s.scanner.mode = .done → s.scanner.next.1 = none := fun done => by
      rw [Lexical.Scanner.next, dif_pos done]
    grind [supply]
  | dropTokens =>
    simp only [fire?] at h
    split at h
    next sequel _ => cases sequel <;> grind [supply, follow, answer]
    next => exact absurd h (by simp)
  | _ =>
    simp only [fire?] at h
    grind [supply, answer]

/-- A token is an answer only when it was taken out of the slot. -/
theorem supply_fire?_lt {s s' : State} {m : Move} {token : Token} (h : s.fire? m = some s')
    (busy : s.isBusy = true) (answered : s'.consumer = .idle (some (.token token))) :
    s'.supply < s.supply := by
  cases m with
  | take =>
    simp only [fire?] at h
    grind [supply, answer]
  | dropTokens =>
    simp only [fire?] at h
    split at h
    next sequel _ => cases sequel <;> grind [follow, answer]
    next => exact absurd h (by simp)
  | call call => cases call <;> grind [fire?, Call.begin]
  | _ =>
    simp only [fire?] at h
    grind [isBusy, answer]

theorem supply_successors_le {s s' : State} (h : s' ∈ s.successors) : s'.supply ≤ s.supply :=
  let ⟨_, fired⟩ := exists_fire?_of_mem_successors h
  supply_fire?_le fired

theorem supply_successors_lt {s s' : State} {token : Token} (h : s' ∈ s.successors)
    (busy : s.isBusy = true) (answered : s'.consumer = .idle (some (.token token))) :
    s'.supply < s.supply :=
  let ⟨_, fired⟩ := exists_fire?_of_mem_successors h
  supply_fire?_lt fired busy answered

end AssignLang.Handoff.State
