import AssignLang.Handoff.State

/-! The moves of a handoff. Each is one step of one thread that the other can see, the beginning of a
call, or the passing of the deadline. A run is a list of moves in any order in which each may be made
when its turn comes, so the runs are the interleavings of the threads. -/
namespace AssignLang.Handoff
set_option autoImplicit false

inductive Call
  | receive
  | cancel
  /-- Stops the producer and waits for its thread; no call comes after it. -/
  | join
deriving DecidableEq

inductive Move
  | call (call : Call)
  /-- Receive: a fault is on record and is the answer. -/
  | repeatFault
  /-- Receive: the ends of the channels are gone. -/
  | missEnds
  /-- Receive: the deadline has passed already. -/
  | arriveLate
  /-- Receive: it is in time. -/
  | arriveInTime
  | request
  /-- No one is left to take the request. -/
  | requestInVain
  | take
  /-- The slot is empty and no one is left to fill it. -/
  | findClosed
  /-- The deadline has passed and the slot is empty. -/
  | timeOut
  /-- Puts the fault on record, as an exceeded deadline if that has passed by now. -/
  | record
  | raiseFlag
  | dropRequests
  | dropTokens
  /-- The thread of the producer is over, and its error is the answer. -/
  | collect
  | acceptRequest
  /-- No request is left and no one to send one. -/
  | findForsaken
  /-- The deadline has passed and no request is left. -/
  | lapse
  | seeFlag
  | seeNoFlag
  | scan
  /-- The stream is over. -/
  | scanPastEnd
  | give
  /-- No one is left to take the token. -/
  | giveInVain
  | closeRequests
  | closeTokens
  | exit
  /-- The deadline passes. -/
  | expire
deriving DecidableEq

namespace Call

/-- The state in which a call begins: a cancellation goes on record unless a fault is there. -/
def begin (s : State) : Call → State
  | receive => { s with consumer := .receiving }
  | cancel =>
    { s with fault := s.fault.or (some .cancelled), consumer := .stopping .cancel }
  | join => { s with consumer := .stopping .join }

end Call

namespace State

def isIdle (s : State) : Bool :=
  match s.consumer with
  | .idle _ => true
  | _ => false

/-- The state after a receive was answered. -/
def answer (s : State) (a : Answer) : State :=
  { s with consumer := .idle (some a) }

/-- The fault of a receive that goes on record at this moment. -/
def verdict (s : State) (fault : Fault) : Fault :=
  if s.deadline = .passed then .deadlineExceeded else fault

def follow (s : State) : Sequel → State
  | .fail fault => s.answer (.failed fault)
  | .cancel => s.answer .cancelled
  | .join => { s with consumer := .joining }

/-- The state after a move, none where the move cannot be made. -/
def fire? (s : State) : Move → Option State
  | .call call => if s.isIdle then some (call.begin s) else none
  | .repeatFault =>
    match s.consumer, s.fault with
    | .receiving, some fault => some (s.answer (.failed fault))
    | _, _ => none
  | .missEnds =>
    if s.consumer = .receiving ∧ s.fault = none ∧ ¬ (s.canRequest ∧ s.canReceive) then
      some { s with consumer := .failing .cancelled }
    else none
  | .arriveLate =>
    if s.consumer = .receiving ∧ s.fault = none ∧ s.canRequest ∧ s.canReceive
        ∧ s.deadline = .passed then
      some { s with consumer := .failing .deadlineExceeded }
    else none
  | .arriveInTime =>
    if s.consumer = .receiving ∧ s.fault = none ∧ s.canRequest ∧ s.canReceive
        ∧ s.deadline ≠ .passed then
      some { s with consumer := .requesting }
    else none
  | .request =>
    if s.consumer = .requesting ∧ s.canServe then
      some { s with consumer := .awaiting, requests := s.requests + 1 }
    else none
  | .requestInVain =>
    if s.consumer = .requesting ∧ ¬ s.canServe then
      some { s with consumer := .failing .closed }
    else none
  | .take =>
    match s.consumer, s.slot with
    | .awaiting, some token => some ({ s with slot := none }.answer (.token token))
    | _, _ => none
  | .findClosed =>
    if s.consumer = .awaiting ∧ s.slot = none ∧ ¬ s.canGive then
      some { s with consumer := .failing .closed }
    else none
  | .timeOut =>
    if s.consumer = .awaiting ∧ s.slot = none ∧ s.deadline = .passed then
      some { s with consumer := .failing .deadlineExceeded }
    else none
  | .record =>
    match s.consumer with
    | .failing fault =>
      some { s with
        fault := some (s.verdict fault), consumer := .stopping (.fail (s.verdict fault)) }
    | _ => none
  | .raiseFlag =>
    match s.consumer with
    | .stopping sequel => some { s with stopped := true, consumer := .droppingRequests sequel }
    | _ => none
  | .dropRequests =>
    match s.consumer with
    | .droppingRequests sequel =>
      some { s with canRequest := false, consumer := .droppingTokens sequel }
    | _ => none
  | .dropTokens =>
    match s.consumer with
    | .droppingTokens sequel => some ({ s with canReceive := false, slot := none }.follow sequel)
    | _ => none
  | .collect =>
    if s.consumer = .joining ∧ s.producer = .gone then
      some { s with consumer := .joined s.scanner.error }
    else none
  | .acceptRequest =>
    if s.producer = .waiting ∧ s.requests ≠ 0 then
      some { s with producer := .requested, requests := s.requests - 1 }
    else none
  | .findForsaken =>
    if s.producer = .waiting ∧ s.requests = 0 ∧ ¬ s.canRequest then
      some { s with producer := .leaving }
    else none
  | .lapse =>
    if s.producer = .waiting ∧ s.requests = 0 ∧ s.deadline = .passed then
      some { s with producer := .leaving }
    else none
  | .seeFlag =>
    if s.producer = .requested ∧ s.stopped then some { s with producer := .leaving } else none
  | .seeNoFlag =>
    if s.producer = .requested ∧ ¬ s.stopped then some { s with producer := .scanning } else none
  | .scan =>
    if s.producer = .scanning then
      match s.scanner.next with
      | (some token, scanner) => some { s with scanner := scanner, producer := .giving token }
      | (none, _) => none
    else none
  | .scanPastEnd =>
    if s.producer = .scanning then
      match s.scanner.next with
      | (some _, _) => none
      | (none, _) => some { s with producer := .leaving }
    else none
  | .give =>
    match s.producer with
    | .giving token =>
      if s.canReceive ∧ s.slot = none then
        some { s with slot := some token, producer := .waiting }
      else none
    | _ => none
  | .giveInVain =>
    match s.producer with
    | .giving _ => if s.canReceive then none else some { s with producer := .leaving }
    | _ => none
  | .closeRequests =>
    if s.producer = .leaving ∧ s.canServe then some { s with canServe := false } else none
  | .closeTokens =>
    if s.producer = .leaving ∧ s.canGive then some { s with canGive := false } else none
  | .exit =>
    if s.producer = .leaving ∧ ¬ s.canServe ∧ ¬ s.canGive then
      some { s with producer := .gone }
    else none
  | .expire => if s.deadline = .pending then some { s with deadline := .passed } else none

/-- The state after a list of moves, none where one of them cannot be made. -/
def fireAll? (s : State) : List Move → Option State
  | [] => some s
  | move :: rest => (s.fire? move).bind (·.fireAll? rest)

end State

namespace Move

/-- The steps of the two threads. -/
def ofThreads : List Move :=
  [repeatFault, missEnds, arriveLate, arriveInTime, request, requestInVain, take, findClosed, timeOut,
    record, raiseFlag, dropRequests, dropTokens, collect, acceptRequest, findForsaken, lapse, seeFlag,
    seeNoFlag, scan, scanPastEnd, give, giveInVain, closeRequests, closeTokens, exit]

/-- A step of one of the two threads: neither the beginning of a call nor the deadline. -/
def isOfThread : Move → Bool
  | call _ | expire => false
  | _ => true

theorem mem_ofThreads (m : Move) : m ∈ ofThreads ↔ m.isOfThread = true := by
  cases m <;> simp [ofThreads, isOfThread]

end Move

end AssignLang.Handoff
