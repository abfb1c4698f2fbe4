import AssignLang.FrontEnd.Direct
import AssignLang.FrontEnd.Threaded
import AssignLang.Proofs.Handoff.Reading

/-! The front end on two threads against the front end on one. Main statements: as long as the
deadline does not pass, every run tells what the scanner in place leads to
(`threaded_eq_parse`); and a deadline, whenever it passes, can only put its own fault in the place of
that (`threaded_deadline`). -/
namespace AssignLang
open Handoff (State Deadline Schedule Session)
open Lexical (Scanner)
set_option autoImplicit false

/-! ## What is told -/

theorem parse_eq_conclude {filename text : String} {result : Except Grammar.Error Program}
    {s : Scanner}
    (h : (Grammar.program filename).run Scanner.next (.ofText filename text) = (result, s)) :
    parse filename text = conclude result none s.error := by
  rw [parse, Scanner.parse, h]
  cases result with
  | ok program => rfl
  | error refused =>
    show Except.error _ = _
    cases s.error <;> rfl

theorem conclude_of_whole {s : State} (whole : s.Whole) (result : Except Grammar.Error Program)
    (error : Option Lexical.Error) : conclude result s.fault error = conclude result none error := by
  rcases whole with clear | closed
  · rw [clear]
  · rw [closed]
    cases error <;> rfl

theorem conclude_ne_handoff (result : Except Grammar.Error Program)
    (error : Option Lexical.Error) (fault : Handoff.Fault) :
    conclude result none error ≠ .error (.handoff fault) := by
  cases result with
  | ok program => simp
  | error refused => cases error <;> simp

theorem exists_parse_eq_conclude (filename text : String) :
    ∃ result error, parse filename text = conclude result none error :=
  ⟨_, _, parse_eq_conclude (Prod.eta _).symm⟩

theorem parse_ne_handoff (filename text : String) (fault : Handoff.Fault) :
    parse filename text ≠ .error (.handoff fault) := by
  obtain ⟨result, error, told⟩ := exists_parse_eq_conclude filename text
  rw [told]
  exact conclude_ne_handoff result error fault

/-- The scanner has a token for every question up to the terminal one, so the tokens never stop
short. -/
theorem fault_parse_ne_endOfStream {filename text : String} {e : Grammar.Error}
    (h : parse filename text = .error (.grammar e)) : e.fault ≠ .endOfStream := by
  cases read : (Grammar.program filename).run Scanner.next (.ofText filename text) with
  | mk result s =>
    rw [parse_eq_conclude read] at h
    cases result with
    | ok program => simp at h
    | error refused =>
      cases told : s.error with
      | some error => simp [told] at h
      | none =>
        rw [told, conclude_grammar, Except.error.injEq, Error.grammar.injEq] at h
        subst h
        refine Grammar.fault_run_program Scanner.next (fun s => s.mode ≠ .done) ?_ ?_ read
        · intro s running
          obtain ⟨token, s', given, foretold⟩ := Scanner.exists_next running
          refine ⟨token, s', given, fun proper done => ?_⟩
          rw [foretold.mp done] at proper
          exact absurd proper (by simp)
        · simp [Scanner.ofText]

/-! ## Every run -/

/-- A run of the front end on a handoff: it reads one program, then it stops the producer and waits
for its thread. -/
inductive Interleaves (filename : String) (s : State) :
    State → State → Except Error Program → Prop
  | told {parsed ended : State} {result : Except Grammar.Error Program}
      {error : Option Lexical.Error} (reads : s.Reads (Grammar.program filename) result parsed)
      (joins : parsed.Calls .join ended) (collected : ended.consumer = .joined error) :
      Interleaves filename s parsed ended (conclude result parsed.fault error)

/-- The state in which a program is read: no call was made yet. -/
theorem fresh_of_drifts {deadline : Deadline} {filename text : String} {s : State}
    (drifts : (State.start deadline filename text).Drifts s) :
    s.Sync (.ofText filename text) ∧ s.isIdle = true ∧ s.fault = none := by
  obtain ⟨sync, consumer, fault⟩ := drifts.quiet rfl (.start deadline filename text)
  exact ⟨sync, State.isIdle_iff.mpr ⟨_, consumer⟩, fault⟩

/-- A run is whole and tells the same as the scanner in place, or it is cut by the deadline. -/
theorem Interleaves.outcome {deadline : Deadline} {filename text : String} {s parsed ended : State}
    {answer : Except Error Program} (run : Interleaves filename s parsed ended answer)
    (drifts : (State.start deadline filename text).Drifts s) :
    (parsed.Whole ∧ answer = parse filename text) ∨
      (parsed.fault = some .deadlineExceeded ∧ parsed.deadline = .passed ∧
        answer = .error (.handoff .deadlineExceeded)) := by
  obtain ⟨sync, idle, clear⟩ := fresh_of_drifts drifts
  cases run with
  | @told result error reads joins collected =>
    obtain ⟨idle', -, base', sync'⟩ := reads.keeps idle sync
    rcases reads.agree idle sync (.inl clear) with ⟨whole, base, level, read⟩ | cut
    · refine .inl ⟨whole, ?_⟩
      obtain ⟨fault, joined, answered⟩ := joins.join (State.isBusy_of_isIdle idle') level
      have whole' : ended.Whole := by
        unfold State.Whole
        rw [fault]
        exact whole
      rw [joined.scanner_of_whole whole' answered, collected] at answered
      obtain rfl := Handoff.Consumer.joined.inj answered
      rw [conclude_of_whole whole, parse_eq_conclude read]
    · have passed := sync'.passed_of_exceeded idle' cut
      obtain ⟨e, rfl⟩ := reads.cut idle sync (Grammar.strict_program filename) clear (by simp [cut])
      exact .inr ⟨cut, passed, by rw [cut, conclude_cut]⟩

theorem Interleaves.deadline_ne_passed {filename text : String} {deadline : Deadline}
    {s parsed ended : State} {answer : Except Error Program}
    (run : Interleaves filename s parsed ended answer)
    (drifts : (State.start deadline filename text).Drifts s)
    (never : deadline = .unset ∨ ended.deadline ≠ .passed) : parsed.deadline ≠ .passed := by
  intro passed
  cases run with
  | told reads joins _ =>
    rcases never with rfl | inTime
    · have unset : parsed.deadline = .unset := (drifts.later.trans reads.later).unset rfl
      exact absurd (passed.symm.trans unset) (by simp)
    · exact inTime (joins.later.passed passed)

theorem runThreaded_eq {schedule : Schedule} {deadline : Deadline} {filename text : String}
    {result : Except Grammar.Error Program} {session : Session} {error : Option Lexical.Error}
    (read : (Grammar.program filename).run Session.next (.start schedule deadline filename text) =
      (result, session))
    (answered : (session.call .join).state.consumer = .joined error) :
    runThreaded schedule deadline filename text =
      (conclude result session.state.fault error, session.call .join) := by
  rw [runThreaded, Session.parse, read]
  simp only [Session.join_eq answered]

/-- Every schedule makes a run. -/
theorem interleaves_runThreaded (schedule : Schedule) (deadline : Deadline)
    (filename text : String) :
    ∃ parsed, Interleaves filename (.start deadline filename text) parsed
      (runThreaded schedule deadline filename text).2.state
      (parseThreaded schedule deadline filename text) := by
  have sync : (Session.start schedule deadline filename text).state.Sync (.ofText filename text) :=
    .start deadline filename text
  cases read : (Grammar.program filename).run Session.next
      (.start schedule deadline filename text) with
  | mk result session =>
    have reads := Session.reads_of_run read rfl sync
    obtain ⟨idle, -, base, sync'⟩ := reads.keeps rfl sync
    have joins := Session.calls_call sync' idle .join
    obtain ⟨-, -, answered⟩ := joins.join (State.isBusy_of_isIdle idle) sync'
    rw [parseThreaded, runThreaded_eq read answered]
    exact ⟨session.state, .told reads joins answered⟩

/-! ## As long as the deadline does not pass -/

/-- **The two front ends agree** in every run in which the deadline does not pass. -/
theorem threaded_eq_parse (deadline : Deadline) (filename text : String) :
    (∀ s parsed ended answer, (State.start deadline filename text).Drifts s →
      Interleaves filename s parsed ended answer →
      deadline = .unset ∨ ended.deadline ≠ .passed → answer = parse filename text) ∧
    (∀ schedule,
      deadline = .unset ∨ (runThreaded schedule deadline filename text).2.state.deadline ≠ .passed →
      parseThreaded schedule deadline filename text = parse filename text) ∧
    ∀ fault, parse filename text ≠ .error (.handoff fault) := by
  have agree : ∀ s parsed ended answer, (State.start deadline filename text).Drifts s →
      Interleaves filename s parsed ended answer →
      deadline = .unset ∨ ended.deadline ≠ .passed → answer = parse filename text := by
    intro s parsed ended answer drifts run never
    rcases run.outcome drifts with ⟨-, told⟩ | ⟨-, passed, -⟩
    · exact told
    · exact absurd passed (run.deadline_ne_passed drifts never)
  refine ⟨agree, ?_, parse_ne_handoff filename text⟩
  intro schedule never
  obtain ⟨parsed, run⟩ := interleaves_runThreaded schedule deadline filename text
  exact agree _ _ _ _ .refl run never

theorem threaded_eq_parse_unset :
    ∃ parsed ended, Interleaves "f" (.start .unset "f" "a = 1") parsed ended (parse "f" "a = 1") := by
  obtain ⟨parsed, run⟩ := interleaves_runThreaded .first .unset "f" "a = 1"
  obtain ⟨agree, -⟩ := threaded_eq_parse .unset "f" "a = 1"
  have told := agree _ _ _ _ .refl run (.inl rfl)
  rw [told] at run
  exact ⟨parsed, _, run⟩

/-! ## Whenever the deadline passes -/

theorem Interleaves.late {deadline : Deadline} {filename text : String} {s parsed ended : State}
    {answer : Except Error Program} (run : Interleaves filename s parsed ended answer)
    (drifts : (State.start deadline filename text).Drifts s) (passed : s.deadline = .passed) :
    parsed.fault = some .deadlineExceeded := by
  obtain ⟨sync, idle, clear⟩ := fresh_of_drifts drifts
  cases run with
  | told reads =>
    rcases reads.late idle sync clear passed with ⟨_, asked⟩ | cut
    · exact absurd asked (by simp [Grammar.program, Grammar.Attempt.expect, Grammar.Attempt.read])
    · exact cut

/-- What a deadline may do to a run that began in `s` and had read its program in `parsed`. -/
structure Replaces (filename text : String) (s parsed : State) (answer : Except Error Program) :
    Prop where
  either : answer = parse filename text ∨ answer = .error (.handoff .deadlineExceeded)
  /-- It is told exactly where it cut the tokens short, and there nothing else is told. -/
  cut : parsed.fault = some .deadlineExceeded ↔ answer = .error (.handoff .deadlineExceeded)
  /-- Before the last receive was answered. -/
  passed : answer = .error (.handoff .deadlineExceeded) → parsed.deadline = .passed
  early : s.deadline = .passed → answer = .error (.handoff .deadlineExceeded)
  tokens : ∀ e, answer = .error (.grammar e) → e.fault ≠ .endOfStream
  handoff : ∀ fault, answer = .error (.handoff fault) → fault = .deadlineExceeded

theorem Interleaves.replaces {deadline : Deadline} {filename text : String}
    {s parsed ended : State} {answer : Except Error Program}
    (run : Interleaves filename s parsed ended answer)
    (drifts : (State.start deadline filename text).Drifts s) :
    Replaces filename text s parsed answer := by
  have late := run.late drifts
  rcases run.outcome drifts with ⟨whole, rfl⟩ | ⟨cut, passed, rfl⟩
  · have uncut : parsed.fault ≠ some .deadlineExceeded := by
      rcases whole with clear | closed
      · simp [clear]
      · simp [closed]
    have other := parse_ne_handoff filename text
    exact
      { either := .inl rfl
        cut := ⟨fun cut => absurd cut uncut, fun told => absurd told (other _)⟩
        passed := fun told => absurd told (other _)
        early := fun passed => absurd (late passed) uncut
        tokens := fun _ told => fault_parse_ne_endOfStream told
        handoff := fun fault told => absurd told (other fault) }
  · exact
      { either := .inr rfl
        cut := ⟨fun _ => rfl, fun _ => cut⟩
        passed := fun _ => passed
        early := fun _ => rfl
        tokens := fun _ told => absurd told (by simp)
        handoff := fun fault told => by simpa using told.symm }

/-- **A deadline replaces the answer or leaves it**, whenever it passes. -/
theorem threaded_deadline (deadline : Deadline) (filename text : String) :
    (∀ s parsed ended answer, (State.start deadline filename text).Drifts s →
      Interleaves filename s parsed ended answer → Replaces filename text s parsed answer) ∧
    ∀ schedule,
      (parseThreaded schedule deadline filename text = parse filename text ∨
        parseThreaded schedule deadline filename text = .error (.handoff .deadlineExceeded)) ∧
      (deadline = .ofTimeout 0 →
        parseThreaded schedule deadline filename text = .error (.handoff .deadlineExceeded)) := by
  refine ⟨fun s parsed ended answer drifts run => run.replaces drifts, fun schedule => ?_⟩
  obtain ⟨parsed, run⟩ := interleaves_runThreaded schedule deadline filename text
  have replaces := run.replaces (.refl : (State.start deadline filename text).Drifts _)
  exact ⟨replaces.either, fun zero => replaces.early zero⟩

theorem threaded_deadline_zero :
    ∃ parsed ended, Interleaves "f" (.start (.ofTimeout 0) "f" "a = 1") parsed ended
      (.error (.handoff .deadlineExceeded)) ∧ parsed.deadline = .passed := by
  obtain ⟨parsed, run⟩ := interleaves_runThreaded .first (.ofTimeout 0) "f" "a = 1"
  obtain ⟨every, schedules⟩ := threaded_deadline (.ofTimeout 0) "f" "a = 1"
  have told := (schedules .first).2 rfl
  rw [told] at run
  exact ⟨parsed, _, run, (every _ _ _ _ .refl run).passed rfl⟩

end AssignLang
