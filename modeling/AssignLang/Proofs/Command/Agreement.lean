import AssignLang.Proofs.Command.Reports
import AssignLang.Proofs.FrontEnd.EagerAgreement
import AssignLang.Proofs.Grammar.TokenList
import AssignLang.Proofs.Lexical.Ending
import Mathlib.Data.List.Basic

/-! The two tasks on one file. One lists all tokens and then tells the error of the text, the other
reads no more than three of them and tells the error of the stage that has failed. Main statement:
they never contradict each other (`tasks_agree`). -/
namespace AssignLang.Command
open Lexical (stream tokens error?)
set_option autoImplicit false

/-! ## What each task prints -/

theorem run_of_readable {read : String → Except ReadFailure String} {path text : String}
    (readable : read path = .ok text) (task : Task) :
    run read [task.name, path] = .ofReport (task.report path (.ok text)) := by
  rw [run_of_file, readable]

theorem listTokens_of_sound {path text : String} (sound : error? path text = none) :
    listTokens path text = ⟨listing path text, "", false⟩ := by
  rw [listTokens]
  simp only [sound]

theorem listTokens_of_error {path text : String} {x : Lexical.Error}
    (failed : tokens path text = .error x) :
    listTokens path text =
      ⟨listing path text, path ++ ": " ++ x.message ++ "\n", true⟩ := by
  rw [Lexical.tokens_eq_error_iff] at failed
  simp only [listTokens, failed, Report.append, Report.complaint, String.append_empty,
    String.empty_append, Bool.false_or]

theorem output_listTokens (path text : String) :
    (listTokens path text).output = listing path text := by
  cases ended : error? path text with
  | none => rw [listTokens_of_sound ended]
  | some x => rw [listTokens_of_error ((Lexical.tokens_eq_error_iff path text x).mpr ended)]

theorem printProgram_of_ok {path text : String} {program : Program}
    (told : AssignLang.parse path text = .ok program) :
    printProgram path text = ⟨program.block ++ "\n", "", false⟩ := by
  rw [printProgram, told]

theorem printProgram_of_error {path text : String} {e : Error}
    (told : AssignLang.parse path text = .error e) :
    printProgram path text = .complaint path e.message := by
  rw [printProgram, told]

/-! ## One against the other -/

/-- **The two tasks agree on every file** that can be read. -/
theorem tasks_agree (read : String → Except ReadFailure String) (path text : String)
    (readable : read path = .ok text) :
    (run read ["tokens", path]).output =
      path ++ ":\n" ++ String.join ((stream path text).map tokenLine) ∧
    (∀ x, AssignLang.parse path text = .error (.lexical x) →
      (run read ["parse", path]).complaints = path ++ ": " ++ x.message ++ "\n" ∧
      (run read ["tokens", path]).complaints = (run read ["parse", path]).complaints) ∧
    ((run read ["tokens", path]).complaints = "" →
      (∃ program, AssignLang.parse path text = .ok program ∧
        run read ["parse", path] = ⟨0, program.block ++ "\n", ""⟩) ∨
      ∃ fault, ∃ token ∈ (stream path text).take 3,
        AssignLang.parse path text = .error (.grammar ⟨fault, path, token.position⟩) ∧
        run read ["parse", path] = ⟨1, "", path ++ ": " ++ (fault.description ++ " at " ++ path ++
          ":" ++ token.position.text) ++ "\n"⟩) ∧
    ∀ program, AssignLang.parse path text = .ok program →
      (run read ["tokens", path]).complaints ≠ "" →
      (∀ token ∈ (stream path text).take 3, token.kind ≠ .error) ∧
      ∃ token ∈ (stream path text).drop 3, token.kind = .error := by
  have listed : run read ["tokens", path] = .ofReport (listTokens path text) :=
    run_of_readable readable .tokens
  have printed : run read ["parse", path] = .ofReport (printProgram path text) :=
    run_of_readable readable .parse
  rw [listed, printed]
  refine ⟨output_listTokens path text, ?_, ?_, ?_⟩
  · intro x told
    rw [printProgram_of_error told, listTokens_of_error (parse_eq_lexical_iff.mp told).1]
    exact ⟨rfl, rfl⟩
  · intro silent
    rcases parse_outcome path text with ⟨program, -, told⟩ | ⟨e, eager, told, more, -⟩ |
      ⟨-, -, x, -, -, -, failed, -⟩
    · rw [printProgram_of_ok told]
      exact .inl ⟨program, told, rfl⟩
    · obtain ⟨name, stands⟩ := Grammar.blames_parse eager
      obtain ⟨token, mem, position⟩ := stands.resolve_left more
      obtain ⟨fault, filename, place⟩ := e
      obtain rfl : filename = path := name
      obtain rfl : place = token.position := position
      rw [printProgram_of_error told]
      exact .inr ⟨fault, token, mem, told, rfl⟩
    · exact absurd silent ((tells_listTokens path text).2.mpr ⟨x, failed⟩)
  · intro program told complains
    obtain ⟨target, sign, number, rest, split, identifier, assign, isNumber⟩ :=
      Grammar.begins_of_parse_ok (parse_eq_ok_iff_grammar.mp told)
    have early : ∀ token ∈ (stream path text).take 3, token.kind ≠ .error := by
      rw [split]
      simp [identifier, assign, isNumber]
    obtain ⟨x, failed⟩ := (tells_listTokens path text).2.mp complains
    rw [Lexical.tokens_eq_error_iff] at failed
    obtain ⟨token, mem, kind⟩ := (Lexical.error?_ne_none_iff path text).mp (by simp [failed])
    refine ⟨early, token, ?_, kind⟩
    rw [← List.take_append_drop 3 (stream path text), List.mem_append] at mem
    exact mem.resolve_left fun first => early token first kind

/-- The program is printed, and what comes behind it is no text of this language: the error token is
the fourth. -/
theorem tasks_agree_behind :
    (∀ token ∈ (stream "f" "a = 1 #").take 3, token.kind ≠ .error) ∧
    (∃ token ∈ (stream "f" "a = 1 #").drop 3, token.kind = .error) ∧
    (run (fun _ => .ok "a = #") ["tokens", "f"]).complaints =
      "f: unexpected character: '#' at f:1:5\n" := by
  have program : AssignLang.parse "f" "a = 1 #" = .ok ⟨[.assignment "a" (.integer 1)]⟩ := by
    decide +kernel
  have complains : (run (fun _ => .ok "a = 1 #") ["tokens", "f"]).complaints ≠ "" := by
    decide +kernel
  have failed : AssignLang.parse "f" "a = #" =
      .error (.lexical ⟨.unexpectedCharacter '#', "f", ⟨1, 5⟩⟩) := by
    decide +kernel
  obtain ⟨early, late⟩ := (tasks_agree (fun _ => .ok "a = 1 #") "f" _ rfl).2.2.2 _ program complains
  obtain ⟨line, same⟩ := (tasks_agree (fun _ => .ok "a = #") "f" _ rfl).2.1 _ failed
  exact ⟨early, late, (same.trans line).trans (by decide +kernel)⟩

end AssignLang.Command
