import AssignLang.Command.Report

/-! The files of one run, each on its own. The report of a list of files is made of the reports of
its parts (`reportAll_append`), and a report has failed just if it complains (`Task.tells_report`).
Main statement: `run_file_by_file`, with the arguments that ask for nothing that can be done and the
exit code of each kind of run. -/
namespace AssignLang.Command
set_option autoImplicit false

/-! ## The arguments -/

/-- The argument that asks for the task. -/
def Task.name : Task → String
  | tokens => "tokens"
  | parse => "parse"

theorem Task.ofName?_name (task : Task) : ofName? task.name = some task := by
  cases task <;> rfl

theorem Task.eq_name_of_ofName? {name : String} {task : Task} (h : ofName? name = some task) :
    name = task.name := by
  unfold ofName? at h
  split at h
  · obtain rfl := Option.some.inj h
    rfl
  · obtain rfl := Option.some.inj h
    rfl
  · exact absurd h (by simp)

theorem Task.name_ne_help (task : Task) : ¬ (task.name = "--help" ∨ task.name = "-h") := by
  cases task <;> decide

/-- No argument, one that asks for help, no task or no file. -/
def Misused : List String → Prop
  | [] => True
  | name :: paths => name = "--help" ∨ name = "-h" ∨ (∀ task : Task, name ≠ task.name) ∨ paths = []

theorem ofArguments_of_task (task : Task) {paths : List String} (nonempty : paths ≠ []) :
    Invocation.ofArguments (task.name :: paths) = .run task paths := by
  simp only [Invocation.ofArguments, if_neg task.name_ne_help, task.ofName?_name,
    List.isEmpty_iff, if_neg nonempty]

theorem misused_of_task_iff (task : Task) (paths : List String) :
    Misused (task.name :: paths) ↔ paths = [] := by
  constructor
  · rintro (help | help | other | empty)
    · exact absurd (.inl help) task.name_ne_help
    · exact absurd (.inr help) task.name_ne_help
    · exact absurd rfl (other task)
    · exact empty
  · intro empty
    exact .inr (.inr (.inr empty))

theorem exists_task_of_not_misused {arguments : List String} (h : ¬ Misused arguments) :
    ∃ (task : Task) (paths : List String), arguments = task.name :: paths ∧ paths ≠ [] := by
  cases arguments with
  | nil => exact absurd trivial h
  | cons name paths =>
    cases named : Task.ofName? name with
    | none =>
      refine absurd (.inr (.inr (.inl ?_))) h
      rintro task rfl
      exact absurd (task.ofName?_name.symm.trans named) (by simp)
    | some task =>
      obtain rfl := Task.eq_name_of_ofName? named
      exact ⟨task, paths, rfl, fun empty => h ((misused_of_task_iff task paths).mpr empty)⟩

theorem ofArguments_of_misused {arguments : List String} (h : Misused arguments) :
    Invocation.ofArguments arguments = .usage ∨
      (∃ name, Invocation.ofArguments arguments = .unknownTask name) ∨
      Invocation.ofArguments arguments = .noFiles := by
  cases arguments with
  | nil => exact .inl rfl
  | cons name paths =>
    by_cases help : name = "--help" ∨ name = "-h"
    · exact .inl (if_pos help)
    rw [Invocation.ofArguments, if_neg help]
    cases named : Task.ofName? name with
    | none => exact .inr (.inl ⟨name, rfl⟩)
    | some task =>
      obtain rfl := Task.eq_name_of_ofName? named
      obtain rfl := (misused_of_task_iff task paths).mp h
      exact .inr (.inr rfl)

/-- Where the arguments are misused the outcome is settled before any file is read. -/
theorem exists_misuse_of_misused {arguments : List String} (h : Misused arguments) :
    (Invocation.ofArguments arguments).paths = [] ∧
      ∃ complaints, ∀ read, run read arguments = .misuse complaints := by
  unfold run
  rcases ofArguments_of_misused h with usage | ⟨name, unknown⟩ | none
  · rw [usage]
    exact ⟨rfl, _, fun _ => rfl⟩
  · rw [unknown]
    exact ⟨rfl, _, fun _ => rfl⟩
  · rw [none]
    exact ⟨rfl, _, fun _ => rfl⟩

/-! ## The reports of several files -/

namespace Report

theorem empty_append (a : Report) : empty.append a = a := by
  simp [empty, append]

theorem append_empty (a : Report) : a.append empty = a := by
  simp [empty, append]

theorem append_assoc (a b c : Report) : (a.append b).append c = a.append (b.append c) := by
  simp only [append, String.append_assoc, Bool.or_assoc]

end Report

section Files
variable (task : Task) (read : String → Except ReadFailure String)

theorem reportAll_append (first second : List String) :
    task.reportAll read (first ++ second) =
      (task.reportAll read first).append (task.reportAll read second) := by
  induction first with
  | nil => exact (Report.empty_append _).symm
  | cons path rest ih =>
    show (task.report path (read path)).append (task.reportAll read (rest ++ second)) = _
    rw [ih, ← Report.append_assoc]
    rfl

theorem run_of_task {paths : List String} (nonempty : paths ≠ []) :
    run read (task.name :: paths) = .ofReport (task.reportAll read paths) := by
  rw [run, ofArguments_of_task task nonempty]
  rfl

theorem run_of_file (path : String) :
    run read [task.name, path] = .ofReport (task.report path (read path)) := by
  rw [run_of_task task read (by simp)]
  exact congrArg Outcome.ofReport (Report.append_empty _)

end Files

namespace Outcome

theorem exitCode_ofReport (r : Report) : (ofReport r).exitCode = 1 ↔ r.failed = true := by
  cases failed : r.failed <;> simp [ofReport, failed]

theorem exitCode_ofReport_ne_two (r : Report) : (ofReport r).exitCode ≠ 2 := by
  cases failed : r.failed <;> simp [ofReport, failed]

theorem ofReport_append (a b : Report) :
    ofReport (a.append b) =
      ⟨if (ofReport a).exitCode = 1 ∨ (ofReport b).exitCode = 1 then 1 else 0,
        (ofReport a).output ++ (ofReport b).output,
        (ofReport a).complaints ++ (ofReport b).complaints⟩ := by
  simp only [exitCode_ofReport, ← Bool.or_eq_true]
  rfl

end Outcome

theorem exitCode_eq_two_iff (read : String → Except ReadFailure String) (arguments : List String) :
    (run read arguments).exitCode = 2 ↔ Misused arguments := by
  by_cases misused : Misused arguments
  · obtain ⟨-, complaints, settled⟩ := exists_misuse_of_misused misused
    rw [settled]
    exact iff_of_true rfl misused
  · obtain ⟨task, paths, rfl, nonempty⟩ := exists_task_of_not_misused misused
    rw [run_of_task task read nonempty]
    exact iff_of_false (Outcome.exitCode_ofReport_ne_two _) misused

/-! ## The report of one file -/

/-- The file has no report of its own: it cannot be read, or the text has no such report. -/
def Task.Fails (task : Task) (path : String) : Except ReadFailure String → Prop
  | .error _ => True
  | .ok text =>
    match task with
    | .tokens => ∃ e, Lexical.tokens path text = .error e
    | .parse => ∃ e, AssignLang.parse path text = .error e

/-- The report says whether this is so, by its verdict and by its complaints. -/
def Report.Tells (r : Report) (p : Prop) : Prop :=
  (r.failed = true ↔ p) ∧ (r.complaints ≠ "" ↔ p)

theorem Report.tells_complaint {p : Prop} (h : p) (path message : String) :
    (complaint path message).Tells p :=
  ⟨iff_of_true rfl h, iff_of_true (by simp [complaint]) h⟩

theorem Report.tells_output {p : Prop} (h : ¬ p) (output : String) :
    (⟨output, "", false⟩ : Report).Tells p :=
  ⟨iff_of_false (by simp) h, iff_of_false (by simp) h⟩

theorem Report.tells_output_append {p : Prop} {r : Report} (h : r.Tells p) (output : String) :
    ((⟨output, "", false⟩ : Report).append r).Tells p := by
  simpa only [Tells, append, String.empty_append, Bool.false_or] using h

theorem tells_listTokens (path text : String) :
    (listTokens path text).Tells (∃ e, Lexical.tokens path text = .error e) := by
  simp only [Lexical.tokens_eq_error_iff, listTokens]
  cases ended : Lexical.error? path text with
  | some e => exact Report.tells_output_append (Report.tells_complaint ⟨e, rfl⟩ path _) _
  | none => exact Report.tells_output (by simp) _

theorem tells_printProgram (path text : String) :
    (printProgram path text).Tells (∃ e, AssignLang.parse path text = .error e) := by
  unfold printProgram
  cases parsed : AssignLang.parse path text with
  | ok program => exact Report.tells_output (by simp) _
  | error e => exact Report.tells_complaint ⟨e, rfl⟩ path _

/-- A report fails and complains exactly where the file has failed. -/
theorem Task.tells_report (task : Task) (path : String) (contents : Except ReadFailure String) :
    (task.report path contents).Tells (task.Fails path contents) := by
  cases contents with
  | error failure => exact Report.tells_complaint trivial path _
  | ok text =>
    cases task with
    | tokens => exact tells_listTokens path text
    | parse => exact tells_printProgram path text

/-! ## File by file -/

/-- **Every file has its own report**, and the exit code tells whether one has failed. -/
theorem run_file_by_file (read : String → Except ReadFailure String) :
    (∀ arguments, ((run read arguments).exitCode = 2 ↔ Misused arguments) ∧
      (Misused arguments → (run read arguments).output = "" ∧
        (Invocation.ofArguments arguments).paths = [] ∧
        ∀ read', run read' arguments = run read arguments)) ∧
    (∀ (task : Task) (first second : List String), first ≠ [] → second ≠ [] →
      run read (task.name :: (first ++ second)) =
        ⟨if (run read (task.name :: first)).exitCode = 1 ∨
            (run read (task.name :: second)).exitCode = 1 then 1 else 0,
          (run read (task.name :: first)).output ++ (run read (task.name :: second)).output,
          (run read (task.name :: first)).complaints ++
            (run read (task.name :: second)).complaints⟩) ∧
    ∀ (task : Task) (path : String),
      ((run read [task.name, path]).exitCode = 1 ↔ (run read [task.name, path]).complaints ≠ "") ∧
      ((run read [task.name, path]).complaints ≠ "" ↔ task.Fails path (read path)) := by
  refine ⟨fun arguments => ⟨exitCode_eq_two_iff read arguments, ?_⟩, ?_, ?_⟩
  · intro misused
    obtain ⟨unread, complaints, settled⟩ := exists_misuse_of_misused misused
    rw [settled read]
    exact ⟨rfl, unread, settled⟩
  · intro task first second some more
    rw [run_of_task task read (List.append_ne_nil_of_left_ne_nil some second), reportAll_append,
      run_of_task task read some, run_of_task task read more]
    exact Outcome.ofReport_append _ _
  · intro task path
    rw [run_of_file, Outcome.exitCode_ofReport]
    obtain ⟨failed, complains⟩ := task.tells_report path (read path)
    exact ⟨failed.trans complains.symm, complains⟩

/-- One file that can be read, and no other. -/
def oneFile (path : String) : Except ReadFailure String :=
  if path = "a" then .ok "a = 1" else .error .notFound

/-- A file that cannot be read does not keep the next one from its report, nor does that make good for
it. -/
theorem run_file_by_file_lost :
    run oneFile ["parse", "b", "a"] =
      ⟨1, (run oneFile ["parse", "a"]).output, "b: No such file or directory (os error 2)\n"⟩ ∧
    ¬ Task.parse.Fails "a" (oneFile "a") ∧ Misused ["parse"] ∧
    (run oneFile ["parse"]).output = "" := by
  obtain ⟨misuse, files, alone⟩ := run_file_by_file oneFile
  have lost : run oneFile ["parse", "b"] =
      ⟨1, "", "b: No such file or directory (os error 2)\n"⟩ := by
    decide +kernel
  have found : (run oneFile ["parse", "a"]).complaints = "" := by decide +kernel
  have misused : Misused ["parse"] := (misused_of_task_iff .parse []).mpr rfl
  refine ⟨?_, ?_, misused, ((misuse _).2 misused).1⟩
  · have both : run oneFile ["parse", "b", "a"] = _ := files .parse ["b"] ["a"] (by simp) (by simp)
    simp only [both, Task.name, lost, found, true_or, if_true, String.empty_append,
      String.append_empty]
  · intro fails
    exact (alone .parse "a").2.mpr fails found

end AssignLang.Command
