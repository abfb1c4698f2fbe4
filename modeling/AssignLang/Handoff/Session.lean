import AssignLang.Handoff.Supply
import AssignLang.Grammar.Statement

/-! Sessions: a handoff together with a schedule that settles which of the possible moves is made.
Each call of the consumer runs both threads until it has its answer. What holds for every schedule
holds for every interleaving of the threads and every moment at which the deadline passes. -/
namespace AssignLang.Handoff
set_option autoImplicit false

/-- Picks, for each move in turn, one of the moves that can be made by its place in their list,
counted round. -/
abbrev Schedule := Nat → Nat

/-- The first move that can be made: a step of the consumer before one of the producer, and either
before the passing of the deadline. -/
def Schedule.first : Schedule := fun _ => 0

structure Session where
  schedule : Schedule
  /-- The number of moves made so far. -/
  clock : Nat
  state : State

namespace Session

def start (schedule : Schedule) (deadline : Deadline) (filename text : String) : Session :=
  ⟨schedule, 0, .start deadline filename text⟩

/-! ## Running -/

/-- The state after the move that the schedule picks. -/
def pick (s : Session) : State :=
  s.state.successors.getD (s.schedule s.clock % s.state.successors.length) s.state

theorem pick_mem {s : Session} (possible : 0 < s.state.successors.length) :
    s.pick ∈ s.state.successors := by
  rw [pick, List.getD_eq_getElem?_getD, List.getElem?_eq_getElem (Nat.mod_lt _ possible)]
  exact List.getElem_mem _

/-- Runs the threads until no call is in progress. -/
def complete (s : Session) : Session :=
  if s.state.isBusy then
    if _possible : 0 < s.state.successors.length then
      complete { s with clock := s.clock + 1, state := s.pick }
    else s
  else s
termination_by s.state.weight
decreasing_by exact State.weight_successors_lt (pick_mem _possible)

def call (s : Session) (c : Call) : Session :=
  match s.state.fire? (.call c) with
  | some state => { s with state := state }.complete
  | none => s

/-! ## The calls of the consumer -/

/-- What the receive that has just run its course gave. Such a call has a token or a fault for an
answer. -/
def received (s : Session) : Except Fault Token :=
  match s.state.consumer with
  | .idle (some (.token token)) => .ok token
  | .idle (some (.failed fault)) => .error fault
  | _ => .error (s.state.fault.getD .closed)

/-- The next token, or the fault that stands in its place. -/
def receive (s : Session) : Except Fault Token × Session :=
  let s := s.call .receive
  (s.received, s)

/-- The next token, or none in place of a fault. -/
def next (s : Session) : Option Token × Session :=
  let (result, s) := s.receive
  (result.toOption, s)

theorem supply_complete_lt {s : Session} {token : Token} (busy : s.state.isBusy = true)
    (answered : s.complete.state.consumer = .idle (some (.token token))) :
    s.complete.state.supply < s.state.supply := by
  fun_induction complete s with
  | case1 s _ possible ih =>
    have member := pick_mem possible
    by_cases still : s.pick.isBusy = true
    · exact Nat.lt_of_lt_of_le (ih still answered) (State.supply_successors_le member)
    · rw [complete, if_neg still] at answered ⊢
      exact State.supply_successors_lt member busy answered
  | case2 s _ _ =>
    rw [State.isBusy, answered] at busy
    exact absurd busy Bool.false_ne_true
  | case3 s idle => exact absurd busy idle

theorem supply_call_receive_lt {s : Session} {token : Token}
    (answered : (s.call .receive).state.consumer = .idle (some (.token token))) :
    (s.call .receive).state.supply < s.state.supply := by
  rw [call] at answered ⊢
  split at answered
  next state fired =>
    have busy : state.isBusy = true := by
      rw [State.fire?] at fired
      split at fired
      · obtain rfl := Option.some.inj fired
        rfl
      · exact absurd fired (by simp)
    exact Nat.lt_of_lt_of_le (supply_complete_lt busy answered) (State.supply_fire?_le fired)
  next refused =>
    rw [State.fire?, State.isIdle, answered] at refused
    exact absurd refused (by simp)

theorem supply_next_lt {s : Session} (given : s.next.1.isSome = true) :
    s.next.2.state.supply < s.state.supply := by
  change (s.call .receive).received.toOption.isSome = true at given
  rw [received] at given
  split at given
  next answered => exact supply_call_receive_lt answered
  all_goals simp [Except.toOption] at given

/-- Every token that is left, in order, up to the first fault. -/
def drain (s : Session) : List Token × Session :=
  let r := s.next
  if _given : r.1.isSome then
    let rest := drain r.2
    (r.1.toList ++ rest.1, rest.2)
  else ([], r.2)
termination_by s.state.supply
decreasing_by exact supply_next_lt _given

def cancel (s : Session) : Session :=
  s.call .cancel

/-- Stops the producer, waits for its thread, and gives the error that its scanner met, if it met
one. The session is used up. -/
def join (s : Session) : Option Lexical.Error × Session :=
  let s := s.call .join
  match s.state.consumer with
  | .joined error => (error, s)
  | _ => (none, s)

/-- Reads one program from the tokens that are left. -/
def parse (s : Session) (filename : String) : Except Grammar.Error Program × Session :=
  (Grammar.program filename).run next s

/-! ## Between two calls -/

/-- Lets the deadline pass, if there is one that has not. -/
def expire (s : Session) : Session :=
  match s.state.fire? .expire with
  | some state => { s with state := state }
  | none => s

/-- The thread of the producer is over, once everything has come to rest. -/
def isFinished (s : Session) : Bool :=
  s.state.settle.isFinished

end Session

end AssignLang.Handoff
