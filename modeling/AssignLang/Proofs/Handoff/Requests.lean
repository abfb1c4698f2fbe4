import AssignLang.FrontEnd.Direct
import AssignLang.Lexical.Stream
import AssignLang.Proofs.Handoff.Reading

/-! A consumer that asks for one thing after the other: a token by a receive, a token or nothing, a
program, or that the handoff be called off. A run is a list of such requests with their replies and
with a log of what each receive gave, those of a parse among them. Main statement: in every run the
tokens of the log are the first ones of the stream, with no gap, and nothing after them; and the
replies are those of a scanner in place, as long as nothing cuts the stream (`handoff_eq_scanner`). -/
namespace AssignLang.Handoff
open Lexical (Scanner)
set_option autoImplicit false

/-! ## What a consumer may ask -/

inductive Request
  | receive
  | next
  | parse (filename : String)
  | cancel

inductive Reply
  | received (result : Except Fault Token)
  | given (token : Option Token)
  | parsed (result : Except Grammar.Error Program)
  | cancelled

/-- The replies to one request after the other. -/
def replay {σ : Type} (reply : σ → Request → Reply × σ) : List Request → σ → List Reply × σ
  | [], source => ([], source)
  | request :: rest, source =>
    let r := reply source request
    let more := replay reply rest r.2
    (r.1 :: more.1, more.2)

/-- The token of a scanner in place, which has no fault but the end of its stream. -/
def orClosed : Option Token → Except Fault Token
  | some token => .ok token
  | none => .error .closed

/-- What a scanner in place replies. It does not know of cancellations. -/
def scannerReply (s : Scanner) : Request → Reply × Scanner
  | .receive => let (token, s) := s.next; (.received (orClosed token), s)
  | .next => let (token, s) := s.next; (.given token, s)
  | .parse filename => let (result, s) := s.parse filename; (.parsed result, s)
  | .cancel => (.cancelled, s)

def Session.reply (s : Session) : Request → Reply × Session
  | .receive => let (result, s) := s.receive; (.received result, s)
  | .next => let (token, s) := s.next; (.given token, s)
  | .parse filename => let (result, s) := s.parse filename; (.parsed result, s)
  | .cancel => (.cancelled, s.cancel)

namespace State

/-! ## Runs of requests -/

/-- What the receive that was just answered gave. -/
def result? (s : State) : Option (Except Fault Token) :=
  match s.consumer with
  | .idle (some (.token token)) => some (.ok token)
  | .idle (some (.failed fault)) => some (.error fault)
  | _ => none

/-- The reading asks by one receive after the other; the log holds what each of them gave. -/
inductive Draws {α : Type} :
    Grammar.Reading α → State → List (Option Token) → α → State → Prop
  | done (answer : α) (s : State) : Draws (.done answer) s [] answer s
  | ask {resume : Option Token → Grammar.Reading α} {s s' s'' : State} {answer : α}
      {log : List (Option Token)} (received : s.Calls .receive s')
      (rest : Draws (resume s'.token?) s' log answer s'') :
      Draws (.ask resume) s (s'.token? :: log) answer s''

/-- The request is made at some moment and gets its reply. -/
inductive Answers : State → Request → List (Option Token) → Reply → State → Prop
  | receive {s s' : State} {result : Except Fault Token} (called : s.Calls .receive s')
      (gave : s'.result? = some result) : Answers s .receive [s'.token?] (.received result) s'
  | next {s s' : State} (called : s.Calls .receive s') :
      Answers s .next [s'.token?] (.given s'.token?) s'
  | parse {filename : String} {s s' : State} {log : List (Option Token)}
      {result : Except Grammar.Error Program}
      (draws : Draws (Grammar.program filename) s log result s') :
      Answers s (.parse filename) log (.parsed result) s'
  | cancel {s s' : State} (called : s.Calls .cancel s') : Answers s .cancel [] .cancelled s'

/-- One request after the other is made and gets its reply. -/
inductive Performs : State → List Request → List (Option Token) → List Reply → State → Prop
  | done (s : State) : Performs s [] [] [] s
  | request {s s' s'' : State} {request : Request} {requests : List Request}
      {log logs : List (Option Token)} {reply : Reply} {replies : List Reply}
      (answers : Answers s request log reply s') (rest : Performs s' requests logs replies s'') :
      Performs s (request :: requests) (log ++ logs) (reply :: replies) s''

theorem Draws.reads {α : Type} {reading : Grammar.Reading α} {s s' : State}
    {log : List (Option Token)} {answer : α} (h : Draws reading s log answer s') :
    Reads reading s answer s' := by
  induction h with
  | done answer s => exact .done answer s
  | ask received _ ih => exact .ask received ih

theorem Reads.exists_draws {α : Type} {reading : Grammar.Reading α} {s s' : State} {answer : α}
    (h : Reads reading s answer s') : ∃ log, Draws reading s log answer s' := by
  induction h with
  | done answer s => exact ⟨[], .done answer s⟩
  | ask received _ ih =>
    obtain ⟨log, draws⟩ := ih
    exact ⟨_, .ask received draws⟩

theorem Answers.later {s s' : State} {request : Request} {log : List (Option Token)} {reply : Reply}
    (h : Answers s request log reply s') : s.Later s' := by
  cases h with
  | receive called | next called | cancel called => exact called.later
  | parse draws => exact draws.reads.later

theorem Performs.later {s s' : State} {requests : List Request} {log : List (Option Token)}
    {replies : List Reply} (h : Performs s requests log replies s') : s.Later s' := by
  induction h with
  | done => exact .inl rfl
  | request answers _ ih => exact answers.later.trans ih

/-- A run is cut at any request into two, and the later one goes on from where the earlier one ends. -/
theorem Performs.split {s s' : State} {requests : List Request} {log : List (Option Token)}
    {replies : List Reply} (h : Performs s requests log replies s') (n : Nat) :
    ∃ log₁ log₂ s₁, Performs s (requests.take n) log₁ (replies.take n) s₁ ∧
      Performs s₁ (requests.drop n) log₂ (replies.drop n) s' ∧ log = log₁ ++ log₂ := by
  induction h generalizing n with
  | done s =>
    rw [List.take_nil, List.take_nil, List.drop_nil, List.drop_nil]
    exact ⟨[], [], s, .done s, .done s, rfl⟩
  | @request s _ _ _ _ log logs _ _ answers rest ih =>
    cases n with
    | zero => exact ⟨[], log ++ logs, s, .done s, .request answers rest, rfl⟩
    | succ n =>
      obtain ⟨log₁, log₂, s₁, begun, goesOn, rfl⟩ := ih n
      exact ⟨log ++ log₁, log₂, s₁, .request answers begun, goesOn, (List.append_assoc ..).symm⟩

/-! ## The tokens received -/

/-- What the receives have given so far of a stream: tokens in order, and nothing once a fault is on
record. -/
inductive Logged (tokens : List Token) (log : List (Option Token)) (s : State) : Prop
  | whole {base : Scanner} {given : List Token} (sync : s.Sync base) (clear : s.fault = none)
      (received : log = given.map some) (split : tokens = given ++ base.drain.1)
  | cut {base : Scanner} {given : List Token} {lost : Nat} (sync : s.Sync base)
      (ended : s.fault ≠ none) (received : log = given.map some ++ List.replicate lost none)
      (begins : given <+: tokens)

section Log
variable {tokens : List Token} {log log' : List (Option Token)} {s s' : State}

theorem Logged.start (deadline : Deadline) (filename text : String) :
    Logged (Lexical.stream filename text) [] (.start deadline filename text) :=
  .whole (.start deadline filename text) rfl List.map_nil.symm (List.nil_append _).symm

theorem Logged.exists_sync (h : Logged tokens log s) : ∃ base, s.Sync base := by
  cases h with
  | whole sync | cut sync => exact ⟨_, sync⟩

theorem Logged.shape (h : Logged tokens log s) :
    ∃ given lost, log = given.map some ++ List.replicate lost none ∧ given <+: tokens := by
  cases h with
  | @whole base given _ _ received split =>
    exact ⟨given, 0, by simp [received], base.drain.1, split.symm⟩
  | @cut base given lost _ _ received begins => exact ⟨given, lost, received, begins⟩

theorem token?_of_failed {fault : Fault} (answered : s.consumer = .idle (some (.failed fault))) :
    s.token? = none := by
  rw [token?, answered]

theorem Logged.receive (h : Logged tokens log s) (idle : s.isIdle = true)
    (called : s.Calls .receive s') : Logged tokens (log ++ [s'.token?]) s' ∧ s'.isIdle = true := by
  have quiet := isBusy_of_isIdle idle
  cases h with
  | @whole base given sync clear received split =>
    obtain ⟨result, -⟩ := called.receive quiet sync
    refine ⟨?_, result.isIdle⟩
    cases result with
    | @token token answered next sync' clear' =>
      rw [Scanner.drain_of_next next] at split
      have gave : s'.token? = some token := by rw [token?, answered]
      refine .whole sync' clear' ?_ (split.trans (List.append_cons ..))
      rw [received, gave, List.map_append, List.map_singleton]
    | failed answered recorded sync' =>
      have received' : log ++ [s'.token?] = given.map some ++ List.replicate 1 none := by
        rw [received, token?_of_failed answered]
        rfl
      exact .cut sync' (by simp [recorded]) received' ⟨_, split.symm⟩
  | @cut base given lost sync ended received begins =>
    obtain ⟨result, keeps⟩ := called.receive quiet sync
    refine ⟨?_, result.isIdle⟩
    cases result with
    | token _ _ _ clear =>
      obtain ⟨fault, recorded⟩ := Option.ne_none_iff_exists'.mp ended
      exact absurd ((keeps.of_some recorded).symm.trans clear) (by simp)
    | failed answered recorded sync' =>
      have received' : log ++ [s'.token?] = given.map some ++ List.replicate (lost + 1) none := by
        rw [received, token?_of_failed answered, List.append_assoc, List.replicate_succ']
      exact .cut sync' (by simp [recorded]) received' begins

theorem Logged.cancel (h : Logged tokens log s) (idle : s.isIdle = true)
    (called : s.Calls .cancel s') : Logged tokens log s' ∧ s'.isIdle = true := by
  obtain ⟨base, sync⟩ := h.exists_sync
  obtain ⟨given, lost, received, begins⟩ := h.shape
  obtain ⟨idle', sync', recorded⟩ := called.cancel (isBusy_of_isIdle idle) sync
  exact ⟨.cut sync' (by simp [recorded]) received begins, idle'⟩

theorem Logged.draws {α : Type} {reading : Grammar.Reading α} {answer : α}
    (draws : Draws reading s log' answer s') (h : Logged tokens log s) (idle : s.isIdle = true) :
    Logged tokens (log ++ log') s' ∧ s'.isIdle = true := by
  induction draws generalizing log with
  | done => exact ⟨by rwa [List.append_nil], idle⟩
  | ask received _ ih =>
    obtain ⟨h', idle'⟩ := h.receive idle received
    have rest := ih h' idle'
    rwa [List.append_assoc] at rest

theorem Logged.answers {request : Request} {reply : Reply} (h : Logged tokens log s)
    (idle : s.isIdle = true) (answers : Answers s request log' reply s') :
    Logged tokens (log ++ log') s' ∧ s'.isIdle = true := by
  cases answers with
  | receive called | next called => exact h.receive idle called
  | parse draws => exact h.draws draws idle
  | cancel called =>
    rw [List.append_nil]
    exact h.cancel idle called

theorem Logged.performs {requests : List Request} {replies : List Reply}
    (performs : Performs s requests log' replies s') (h : Logged tokens log s)
    (idle : s.isIdle = true) : Logged tokens (log ++ log') s' ∧ s'.isIdle = true := by
  induction performs generalizing log with
  | done => exact ⟨by rwa [List.append_nil], idle⟩
  | request answers _ ih =>
    obtain ⟨h', idle'⟩ := h.answers idle answers
    rw [← List.append_assoc]
    exact ih h' idle'

end Log

/-! ## As long as nothing cuts the stream -/

theorem Received.result?_eq {base : Scanner} {s : State} (h : s.Received base) (whole : s.Whole) :
    s.result? = some (orClosed s.token?) := by
  cases h with
  | token answered => rw [result?, State.token?, answered, orClosed]
  | failed answered recorded =>
    have closed := whole.resolve_left (by simp [recorded])
    obtain rfl := Option.some.inj (recorded.symm.trans closed)
    rw [result?, State.token?, answered, orClosed]

theorem Answers.agree {base : Scanner} {s s' : State} {request : Request}
    {log : List (Option Token)} {reply : Reply} (h : Answers s request log reply s')
    (other : request ≠ .cancel) (inTime : s'.deadline ≠ .passed) (idle : s.isIdle = true)
    (sync : s.Sync base) (whole : s.Whole) :
    ∃ base', scannerReply base request = (reply, base') ∧ s'.Sync base' ∧ s'.Whole ∧
      s'.isIdle = true := by
  have receive : s.Calls .receive s' → s'.Received base ∧ s'.Whole ∧
      s'.token? = base.next.1 ∧ s'.Sync base.next.2 := by
    intro called
    obtain ⟨received, keeps⟩ := called.receive (isBusy_of_isIdle idle) sync
    obtain ⟨_, sync'⟩ := received.exists_sync
    rcases received.agree (keeps.whole whole) with agree | exceeded
    · exact ⟨received, agree⟩
    · exact absurd (sync'.passed_of_exceeded received.isIdle exceeded) inTime
  cases h with
  | @receive _ _ result called gave =>
    obtain ⟨received, whole', token, sync'⟩ := receive called
    refine ⟨base.next.2, ?_, sync', whole', received.isIdle⟩
    rw [received.result?_eq whole', token] at gave
    rw [scannerReply, ← Option.some.inj gave]
  | next called =>
    obtain ⟨received, whole', token, sync'⟩ := receive called
    refine ⟨base.next.2, ?_, sync', whole', received.isIdle⟩
    rw [token]
    rfl
  | parse draws =>
    obtain ⟨idle', -, _, sync'⟩ := draws.reads.keeps idle sync
    rcases draws.reads.agree idle sync whole with ⟨whole', base', level, read⟩ | exceeded
    · refine ⟨base', ?_, level, whole', idle'⟩
      rw [scannerReply, Scanner.parse, read]
    · exact absurd (sync'.passed_of_exceeded idle' exceeded) inTime
  | cancel => exact absurd rfl other

theorem Performs.agree {base : Scanner} {s s' : State} {requests : List Request}
    {log : List (Option Token)} {replies : List Reply} (h : Performs s requests log replies s')
    (other : Request.cancel ∉ requests) (inTime : s'.deadline ≠ .passed) (idle : s.isIdle = true)
    (sync : s.Sync base) (whole : s.Whole) :
    replies = (replay scannerReply requests base).1 := by
  induction h generalizing base with
  | done => rfl
  | request answers rest ih =>
    rw [List.mem_cons, not_or] at other
    obtain ⟨base', replied, sync', whole', idle'⟩ := answers.agree (Ne.symm other.1)
      (fun passed => inTime (rest.later.passed passed)) idle sync whole
    rw [replay, replied, ih other.2 inTime idle' sync' whole']

end State

/-! ## Every schedule makes such a run -/

namespace Session

theorem result?_received {s : Session} {base : Scanner} (h : s.state.Received base) :
    s.state.result? = some s.received := by
  unfold State.result? received
  cases h with
  | token answered | failed answered => rw [answered]

theorem answers_reply {s : Session} {base : Scanner} (sync : s.state.Sync base)
    (idle : s.state.isIdle = true) (request : Request) :
    ∃ log, s.state.Answers request log (s.reply request).1 (s.reply request).2.state := by
  cases request with
  | receive =>
    have called := calls_call sync idle .receive
    obtain ⟨received, -⟩ := called.receive (State.isBusy_of_isIdle idle) sync
    exact ⟨_, .receive called (result?_received received)⟩
  | next =>
    have called := calls_call sync idle .receive
    rw [reply, next_eq]
    exact ⟨_, .next called⟩
  | parse filename =>
    obtain ⟨log, draws⟩ := (reads_of_run (Prod.eta _).symm idle sync).exists_draws
    exact ⟨log, .parse draws⟩
  | cancel => exact ⟨[], .cancel (calls_call sync idle .cancel)⟩

theorem performs_replay {s : Session} {tokens : List Token} {before : List (Option Token)}
    (h : s.state.Logged tokens before) (idle : s.state.isIdle = true) (requests : List Request) :
    ∃ log, s.state.Performs requests log (replay reply requests s).1
      (replay reply requests s).2.state := by
  induction requests generalizing s before with
  | nil => exact ⟨[], .done _⟩
  | cons request rest ih =>
    obtain ⟨base, sync⟩ := h.exists_sync
    obtain ⟨log, answers⟩ := answers_reply sync idle request
    obtain ⟨h', idle'⟩ := h.answers idle answers
    obtain ⟨logs, performs⟩ := ih h' idle'
    exact ⟨log ++ logs, .request answers performs⟩

theorem performs_replay_start (schedule : Schedule) (deadline : Deadline) (filename text : String)
    (requests : List Request) :
    ∃ log, (State.start deadline filename text).Performs requests log
      (replay reply requests (.start schedule deadline filename text)).1
      (replay reply requests (.start schedule deadline filename text)).2.state :=
  performs_replay (s := .start schedule deadline filename text) (.start deadline filename text) rfl
    requests

theorem logged_of_replay {schedule : Schedule} {deadline : Deadline} {filename text : String}
    {requests : List Request} {s : Session}
    (reached : s = (replay reply requests (.start schedule deadline filename text)).2) :
    ∃ log, s.state.Logged (Lexical.stream filename text) log ∧ s.state.isIdle = true := by
  obtain ⟨log, performs⟩ := performs_replay_start schedule deadline filename text requests
  rw [← reached] at performs
  exact ⟨log, (State.Logged.start deadline filename text).performs performs rfl⟩

end Session

/-! ## The handoff against the scanner in place -/

/-- **The handoff is the scanner**, cut at most once. What is said of the first `n` replies holds
up to the first cancellation, and as long as the deadline has not passed where this run stands after
them. -/
theorem handoff_eq_scanner (deadline : Deadline) (filename text : String) :
    (∀ requests log replies s,
      (State.start deadline filename text).Performs requests log replies s →
      (∃ given lost, log = given.map some ++ List.replicate lost none ∧
        given <+: Lexical.stream filename text) ∧
      ∀ n, ∃ log₁ log₂ s₁,
        (State.start deadline filename text).Performs (requests.take n) log₁ (replies.take n) s₁ ∧
        s₁.Performs (requests.drop n) log₂ (replies.drop n) s ∧ log = log₁ ++ log₂ ∧
        (Request.cancel ∉ requests.take n → s₁.deadline ≠ .passed →
          replies.take n =
            (replay scannerReply (requests.take n) (.ofText filename text)).1)) ∧
    ∀ schedule requests, ∃ log, (State.start deadline filename text).Performs requests log
      (replay Session.reply requests (.start schedule deadline filename text)).1
      (replay Session.reply requests (.start schedule deadline filename text)).2.state := by
  have sync : (State.start deadline filename text).Sync (.ofText filename text) :=
    .start deadline filename text
  have fresh : (State.start deadline filename text).Logged (Lexical.stream filename text) [] :=
    .start deadline filename text
  refine ⟨?_, fun schedule requests =>
    Session.performs_replay_start schedule deadline filename text requests⟩
  intro requests log replies s performs
  refine ⟨(fresh.performs performs rfl).1.shape, fun n => ?_⟩
  obtain ⟨log₁, log₂, s₁, begun, goesOn, whole⟩ := performs.split n
  exact ⟨log₁, log₂, s₁, begun, goesOn, whole, fun other inTime =>
    begun.agree other inTime rfl sync (.inl rfl)⟩

theorem handoff_eq_scanner_unset :
    ∃ log s, (State.start .unset "f" "=").Performs [.receive, .next, .receive] log
      [.received (.ok ⟨.assign, "=", ⟨1, 1⟩⟩), .given (some ⟨.eof, "", ⟨1, 2⟩⟩),
        .received (.error .closed)] s := by
  obtain ⟨runs, schedules⟩ := handoff_eq_scanner .unset "f" "="
  obtain ⟨log, performs⟩ := schedules .first [.receive, .next, .receive]
  obtain ⟨log₁, -, s₁, begun, -, -, agree⟩ := (runs _ _ _ _ performs).2 3
  have unset := begun.later.unset rfl
  have inPlace : (replay scannerReply [.receive, .next, .receive] (.ofText "f" "=")).1 =
      [.received (.ok ⟨.assign, "=", ⟨1, 1⟩⟩), .given (some ⟨.eof, "", ⟨1, 2⟩⟩),
        .received (.error .closed)] := by
    have first : (Scanner.ofText "f" "=").next =
        (some ⟨.assign, "=", ⟨1, 1⟩⟩, .between "f" .start ⟨1, 2⟩ []) := by decide +kernel
    have second := Scanner.next_nil "f" .start ⟨1, 2⟩
    have third := Scanner.next_of_done (s := .ended "f" ⟨1, 2⟩ ⟨1, 2⟩ [] none) rfl
    simp only [replay, scannerReply, first, second, third, orClosed]
  have replies := agree (by simp) (by simp [unset])
  rw [replies] at begun
  exact ⟨log₁, s₁, inPlace ▸ begun⟩

end AssignLang.Handoff
