import AssignLang.Handoff.Fault
import AssignLang.Lexical.Scanner

/-! The handoff: a producer scans a text on a thread of its own and a consumer receives the tokens,
each asked for by one request. Two channels join the threads. Requests queue up in the first; the
second has one slot, for one token. Each side drops its end of a channel when it leaves. The consumer
stops the producer by a flag, and a deadline stops both. -/
namespace AssignLang.Handoff
set_option autoImplicit false

inductive Deadline
  /-- There is none. -/
  | unset
  /-- It is still to come. -/
  | pending
  | passed
deriving DecidableEq

/-- The deadline of a handoff whose time is limited to so many milliseconds, none of which have gone
by yet. -/
def Deadline.ofTimeout (milliseconds : Nat) : Deadline :=
  if milliseconds = 0 then passed else pending

/-! ## The two threads -/

/-- Where the producer stands. -/
inductive Producer
  /-- Waits for a request. -/
  | waiting
  /-- Has taken a request and not yet looked at the flag. -/
  | requested
  /-- Will scan the next token. -/
  | scanning
  /-- Holds a token to put into the slot. -/
  | giving (token : Token)
  /-- Is on its way out and drops its ends. -/
  | leaving
  /-- Its thread is over. -/
  | gone
deriving DecidableEq

/-- What a call gave back. -/
inductive Answer
  | token (token : Token)
  | failed (fault : Fault)
  | cancelled
deriving DecidableEq

/-- Why the consumer stops the producer, and so what it does then. -/
inductive Sequel
  /-- Answers that the receive has failed. -/
  | fail (fault : Fault)
  /-- Answers that it is called off. -/
  | cancel
  /-- Waits for the thread of the producer to end. -/
  | join
deriving DecidableEq

/-- Where the consumer stands. -/
inductive Consumer
  /-- No call is in progress; the answer is that of the last one. -/
  | idle (last : Option Answer)
  /-- A receive has begun. -/
  | receiving
  /-- Will send a request. -/
  | requesting
  /-- Waits for the token that it asked for. -/
  | awaiting
  /-- The receive has failed and the fault is not yet on record. -/
  | failing (fault : Fault)
  /-- Will raise the flag. -/
  | stopping (sequel : Sequel)
  /-- Will drop its end of the requests. -/
  | droppingRequests (sequel : Sequel)
  /-- Will drop its end of the tokens. -/
  | droppingTokens (sequel : Sequel)
  /-- Waits for the thread of the producer to end. -/
  | joining
  /-- The handoff is used up. -/
  | joined (error : Option Lexical.Error)
deriving DecidableEq

structure State where
  scanner : Lexical.Scanner
  producer : Producer
  consumer : Consumer
  /-- Requests sent and not yet taken. -/
  requests : Nat
  slot : Option Token
  /-- The consumer still holds its end of the requests. -/
  canRequest : Bool
  /-- The consumer still holds its end of the tokens. -/
  canReceive : Bool
  /-- The producer still holds its end of the requests. -/
  canServe : Bool
  /-- The producer still holds its end of the tokens. -/
  canGive : Bool
  /-- The flag by which the consumer stops the producer. -/
  stopped : Bool
  deadline : Deadline
  /-- The fault on record: why no more tokens come. -/
  fault : Option Fault
deriving DecidableEq

namespace State

def start (deadline : Deadline) (filename text : String) : State where
  scanner := .ofText filename text
  producer := .waiting
  consumer := .idle none
  requests := 0
  slot := none
  canRequest := true
  canReceive := true
  canServe := true
  canGive := true
  stopped := false
  deadline := deadline
  fault := none

/-- A call is in progress. -/
def isBusy (s : State) : Bool :=
  match s.consumer with
  | .idle _ | .joined _ => false
  | _ => true

/-- The thread of the producer is over. -/
def isFinished (s : State) : Bool :=
  s.producer = .gone

end State

end AssignLang.Handoff
