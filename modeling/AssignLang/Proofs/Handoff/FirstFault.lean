import AssignLang.Proofs.Handoff.Cause

/-! The first fault on record stays, and it is what the consumer is told from then on. The record, the
flag and the two ends of the consumer are written one after the other in the course of a call, but
between two calls a fault is on record just if the flag is up and both ends are dropped, so a receive
never begins without its ends. Main statement: `first_fault_stays`. -/
namespace AssignLang.Handoff
open Lexical (Scanner)
set_option autoImplicit false

/-- The reply to a request while the fault is on record. -/
def refusal (fault : Fault) : Request → Reply
  | .receive => .received (.error fault)
  | .next => .given none
  | .parse filename => .parsed (.error ⟨.endOfStream, filename, .start⟩)
  | .cancel => .cancelled

namespace State

/-! ## The record, the flag and the ends -/

theorem Ends.fault_iff_shut {s : State} (h : s.Ends) (idle : s.isIdle = true) :
    s.fault ≠ none ↔ s.Shut := by
  have quiet := h.quiet idle
  constructor
  · intro recorded
    rcases quiet with ⟨clear, -⟩ | ⟨-, shut⟩
    · exact absurd clear recorded
    · exact shut
  · intro shut clear
    obtain ⟨canRequest, -⟩ := quiet.of_clear clear
    exact absurd (canRequest.symm.trans shut.1) (by simp)

theorem Ends.fire?_missEnds {s : State} (h : s.Ends) : s.fire? .missEnds = none := by
  rw [Option.eq_none_iff_forall_ne_some]
  intro s' fired
  have quiet := h.consumer
  cases consumerStep_of_fire? fired rfl with
  | missEnds stands clear missing =>
    simp only [ConsumerEnds, stands] at quiet
    obtain ⟨canRequest, canReceive, -⟩ := quiet.of_clear clear
    exact missing ⟨canRequest, canReceive⟩

/-- A receive writes to the record only where there is no fault, and a cancellation leaves the one
that is there. -/
theorem Ends.fault_stays {s s' : State} {m : Move} {fault : Fault} (h : s.Ends)
    (recorded : s.fault = some fault) (fired : s.fire? m = some s') : s'.fault = some fault := by
  rcases fault_of_fire? fired with same | ⟨-, added⟩ | ⟨-, other, stands, -⟩
  · exact same.trans recorded
  · rw [added, recorded]
    rfl
  · have clear := h.consumer
    simp only [ConsumerEnds, stands] at clear
    exact absurd (recorded.symm.trans clear.1) (by simp)

theorem Ends.fault_stays_along {s s' : State} {moves : List Move} {fault : Fault} (h : s.Ends)
    (recorded : s.fault = some fault) (run : s.fireAll? moves = some s') :
    s'.fault = some fault := by
  have both : s'.Ends ∧ s'.fault = some fault := by
    apply fireAll?_invariant (P := fun t => t.Ends ∧ t.fault = some fault) run ⟨h, recorded⟩
    intro t m t' inside fired
    exact ⟨inside.1.fire? fired, inside.1.fault_stays inside.2 fired⟩
  exact both.2

/-! ## What the consumer is told -/

section Rests
variable {fault : Fault} {s s' : State}

theorem Rests.receive (h : s.Rests (some fault)) (called : s.Calls .receive s') :
    s'.Rests (some fault) ∧ s'.consumer = .idle (some (.failed fault)) := by
  obtain ⟨base, sync⟩ := h.sync
  obtain ⟨received, keeps⟩ := called.receive (isBusy_of_isIdle h.idle) sync
  have recorded := keeps.of_some h.recorded
  refine ⟨⟨received.isIdle, received.exists_sync, recorded⟩, ?_⟩
  cases received with
  | token _ _ _ clear => exact absurd (recorded.symm.trans clear) (by simp)
  | failed answered same =>
    obtain rfl := Option.some.inj (same.symm.trans recorded)
    exact answered

theorem Rests.cancel (h : s.Rests (some fault)) (called : s.Calls .cancel s') :
    s'.Rests (some fault) := by
  obtain ⟨base, sync⟩ := h.sync
  obtain ⟨idle, sync', recorded⟩ := called.cancel (isBusy_of_isIdle h.idle) sync
  refine ⟨idle, ⟨base, sync'⟩, ?_⟩
  rw [recorded, h.recorded]
  rfl

/-- A reading that begins with a question is told that no token is there, and asks no more. -/
theorem Rests.draws {α : Type} {filename : String} {last : Position}
    {resume : Token → Grammar.Attempt α} {log : List (Option Token)}
    {answer : Except Grammar.Error α} (h : s.Rests (some fault))
    (draws : Draws (Grammar.Attempt.read filename last resume) s log answer s') :
    s'.Rests (some fault) ∧ answer = .error ⟨.endOfStream, filename, last⟩ := by
  rw [Grammar.Attempt.read] at draws
  cases draws with
  | ask received rest =>
    obtain ⟨rests, answered⟩ := h.receive received
    rw [token?_of_failed answered] at rest
    cases rest
    exact ⟨rests, rfl⟩

theorem Rests.answers {request : Request} {log : List (Option Token)} {reply : Reply}
    (h : s.Rests (some fault)) (answers : Answers s request log reply s') :
    s'.Rests (some fault) ∧ reply = refusal fault request := by
  cases answers with
  | receive called gave =>
    obtain ⟨rests, answered⟩ := h.receive called
    rw [result?, answered] at gave
    obtain rfl := Option.some.inj gave
    exact ⟨rests, rfl⟩
  | next called =>
    obtain ⟨rests, answered⟩ := h.receive called
    rw [token?_of_failed answered]
    exact ⟨rests, rfl⟩
  | parse draws =>
    obtain ⟨rests, rfl⟩ := h.draws draws
    exact ⟨rests, rfl⟩
  | cancel called => exact ⟨h.cancel called, rfl⟩

theorem Rests.performs {requests : List Request} {log : List (Option Token)}
    {replies : List Reply} (h : s.Rests (some fault)) (performs : Performs s requests log replies s') :
    s'.Rests (some fault) ∧ replies = requests.map (refusal fault) := by
  induction performs with
  | done => exact ⟨h, rfl⟩
  | request answers _ ih =>
    obtain ⟨rests, rfl⟩ := h.answers answers
    obtain ⟨rests', rfl⟩ := ih rests
    exact ⟨rests', rfl⟩

end Rests

/-- What a fault on record means for all that comes after. -/
structure Decided (s : State) : Prop where
  shut : s.isIdle = true → (s.fault ≠ none ↔ s.Shut)
  stays : ∀ fault, s.fault = some fault → ∀ later s', s.fireAll? later = some s' →
    s'.fault = some fault
  refused : ∀ fault, s.fault = some fault → s.isIdle = true → ∀ requests log replies s',
    s.Performs requests log replies s' →
      s'.fault = some fault ∧ replies = requests.map (refusal fault)
  /-- A receive never finds its ends gone. -/
  armed : s.fire? .missEnds = none

/-- **The first fault stays**, and every call after it is told so. -/
theorem first_fault_stays (deadline : Deadline) (filename text : String) :
    (∀ moves s, (start deadline filename text).fireAll? moves = some s → s.Decided) ∧
    ∀ schedule requests s,
      s = (replay Session.reply requests (.start schedule deadline filename text)).2 →
      ∀ fault, s.state.fault = some fault → ∀ later,
        (replay Session.reply later s).1 = later.map (refusal fault) ∧
        (replay Session.reply later s).2.state.fault = some fault := by
  constructor
  · intro moves s run
    have ends := ends_of_run run
    refine ⟨ends.fault_iff_shut, ?_, ?_, ends.fire?_missEnds⟩
    · intro fault recorded later s' more
      exact ends.fault_stays_along recorded more
    · intro fault recorded idle requests log replies s' performs
      have rests : s.Rests (some fault) := ⟨idle, sync_of_run run, recorded⟩
      obtain ⟨rests', same⟩ := rests.performs performs
      exact ⟨rests'.recorded, same⟩
  · intro schedule requests s reached fault recorded later
    obtain ⟨before, logged, idle⟩ := Session.logged_of_replay reached
    obtain ⟨log, after⟩ := Session.performs_replay logged idle later
    have rests : s.state.Rests (some fault) := ⟨idle, logged.exists_sync, recorded⟩
    obtain ⟨rests', told⟩ := rests.performs after
    exact ⟨told, rests'.recorded⟩

/-- The deadline passes after a cancellation, and is not what the consumer is told. -/
theorem first_fault_stays_cancelled :
    (∃ moves s, (start .pending "f" "a").fireAll? moves = some s ∧ s.fault = some .cancelled ∧
      s.Shut ∧ s.fire? .missEnds = none ∧
      ∃ s', s.fireAll? [.expire, .call .receive, .repeatFault] = some s' ∧
        s'.deadline = .passed ∧ s'.fault = some .cancelled) ∧
    (replay Session.reply [.receive, .next, .parse "g", .cancel, .receive]
        (replay Session.reply [.cancel] (.start .first .pending "f" "a")).2).1 =
      [.received (.error .cancelled), .given none, .parsed (.error ⟨.endOfStream, "g", .start⟩),
        .cancelled, .received (.error .cancelled)] := by
  constructor
  · let moves : List Move := [.call .cancel, .raiseFlag, .dropRequests, .dropTokens]
    have reached : ((start .pending "f" "a").fireAll? moves).map (fun s => (s.fault, s.isIdle)) =
        some (some .cancelled, true) := by
      decide +kernel
    have passed : ((start .pending "f" "a").fireAll?
        (moves ++ [.expire, .call .receive, .repeatFault])).map (·.deadline) = some .passed := by
      decide +kernel
    obtain ⟨s, run, stands⟩ := Option.map_eq_some_iff.mp reached
    obtain ⟨recorded, idle⟩ : s.fault = some .cancelled ∧ s.isIdle = true := by simpa using stands
    obtain ⟨s', whole, late⟩ := Option.map_eq_some_iff.mp passed
    obtain ⟨s₁, again, more⟩ := exists_of_fireAll?_append whole
    obtain rfl := Option.some.inj (run.symm.trans again)
    have decided := (first_fault_stays .pending "f" "a").1 moves s run
    have shut := (decided.shut idle).mp (by simp [recorded])
    exact ⟨moves, s, run, recorded, shut, decided.armed, s', more, late,
      decided.stays .cancelled recorded _ s' more⟩
  · have recorded : (replay Session.reply [.cancel]
        (.start .first .pending "f" "a")).2.state.fault = some .cancelled := by
      decide +kernel
    exact ((first_fault_stays .pending "f" "a").2 .first [.cancel] _ rfl .cancelled recorded
      [.receive, .next, .parse "g", .cancel, .receive]).1

end State

end AssignLang.Handoff
