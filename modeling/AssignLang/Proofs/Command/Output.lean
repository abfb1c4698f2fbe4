import AssignLang.Proofs.Command.Agreement
import AssignLang.Proofs.Text.Quoted
import AssignLang.Proofs.Tree.Renderings
import Mathlib.Data.List.Forall2

/-! What the two tasks print, read back. A line of a listing tells its token and has no line break
in it but the one at its end, so a listing tells its stream (`listings_tell`). What is printed of a
program tells the program (`programs_tell`). -/
namespace AssignLang.Command
open Lexical (stream)
set_option autoImplicit false

/-! ## A line of a listing -/

/-- The line of a token without the break at its end. -/
def tokenText (t : Token) : String :=
  "- " ++ t.kind.name ++ " " ++ Text.Quoted.string t.text ++ " @" ++ t.position.text

theorem tokenLine_eq (t : Token) : tokenLine t = tokenText t ++ "\n" := rfl

theorem toList_tokenText (t : Token) :
    (tokenText t).toList =
      '-' :: ' ' :: (t.kind.name.toList ++ ' ' ::
        ((Text.Quoted.string t.text).toList ++ ' ' :: '@' :: t.position.text.toList)) := by
  simp [tokenText]

theorem blank_not_mem_name (k : TokenKind) : ' ' ∉ k.name.toList := by
  cases k <;> decide

theorem newline_not_mem_tokenText (t : Token) : '\n' ∉ (tokenText t).toList := by
  have name : '\n' ∉ t.kind.name.toList := by cases t.kind <;> decide
  have digits (n : Nat) : '\n' ∉ Nat.toDigits 10 n := Text.not_mem_toDigits rfl n
  simp [toList_tokenText, name, Text.Quoted.newline_not_mem_string, Position.toList_text, digits]

theorem tokenLine_append_inj {a b : Token} {s t : List Char}
    (same : (tokenLine a).toList ++ s = (tokenLine b).toList ++ t) : a = b ∧ s = t := by
  simp only [tokenLine_eq, String.toList_append, toList_tokenText, List.cons_append,
    List.append_assoc, List.cons.injEq, true_and] at same
  obtain ⟨kinds, behind⟩ :=
    Text.append_cons_inj (blank_not_mem_name _) (blank_not_mem_name _) same
  obtain ⟨texts, behind⟩ := Text.Quoted.string_append_inj behind
  simp only [List.cons.injEq, true_and] at behind
  obtain ⟨positions, behind⟩ := Position.text_append_inj (by simp) (by simp) behind
  have kind : a.kind = b.kind := TokenKind.name_injective (String.toList_inj.mp kinds)
  have token : a = b := by rw [Token.mk.injEq]; exact ⟨kind, texts, positions⟩
  exact ⟨token, List.append_cancel_left behind⟩

/-! ## A whole listing -/

theorem tokenLines_inj {as bs : List Token}
    (same : as.flatMap (fun t => (tokenLine t).toList) =
      bs.flatMap (fun t => (tokenLine t).toList)) : as = bs := by
  have nonempty (t : Token) (s : List Char) : (tokenLine t).toList ++ s ≠ [] := by
    simp [tokenLine_eq]
  induction as generalizing bs with
  | nil =>
    cases bs with
    | nil => rfl
    | cons b bs => exact absurd same.symm (nonempty b _)
  | cons a as ih =>
    cases bs with
    | nil => exact absurd same (nonempty a _)
    | cons b bs =>
      rw [List.flatMap_cons, List.flatMap_cons] at same
      obtain ⟨rfl, rest⟩ := tokenLine_append_inj same
      rw [ih rest]

theorem listing_inj {path text text' : String} :
    listing path text = listing path text' ↔ stream path text = stream path text' := by
  constructor
  · intro same
    have lists := congrArg String.toList same
    simp only [listing, String.toList_append, String.toList_join, List.flatMap_map,
      List.append_cancel_left_eq] at lists
    exact tokenLines_inj lists
  · intro same
    rw [listing, listing, same]

theorem output_tokens {read : String → Except ReadFailure String} {path text : String}
    (readable : read path = .ok text) :
    (run read ["tokens", path]).output = listing path text :=
  (congrArg Outcome.output (run_of_readable readable .tokens)).trans (output_listTokens path text)

/-- **A listing can be read back**: two texts have the same one exactly if they have the same
stream, and behind its head each token has one line, whatever characters are in its text. -/
theorem listings_tell (read read' : String → Except ReadFailure String) (path text text' : String)
    (readable : read path = .ok text) (readable' : read' path = .ok text') :
    ((run read ["tokens", path]).output = (run read' ["tokens", path]).output ↔
      stream path text = stream path text') ∧
    ∃ lines : List String,
      (run read ["tokens", path]).output =
        path ++ ":\n" ++ String.join (lines.map (· ++ "\n")) ∧
      List.Forall₂ (fun token line => tokenLine token = line ++ "\n" ∧ '\n' ∉ line.toList)
        (stream path text) lines := by
  rw [output_tokens readable, output_tokens readable']
  refine ⟨listing_inj, (stream path text).map tokenText, ?_, ?_⟩
  · rw [listing, List.map_map]
    rfl
  · rw [List.forall₂_map_right_iff, List.forall₂_same]
    intro token _
    exact ⟨rfl, newline_not_mem_tokenText token⟩

/-- A string over two lines, with an escaped quote or without, takes one line of the listing, and
the end of the file takes the other. -/
theorem listings_tell_lines :
    (run (fun _ => .ok "\"a\nb\\\"\"") ["tokens", "f"]).output ≠
      (run (fun _ => .ok "\"a\nb\"") ["tokens", "f"]).output ∧
    ∃ lines : List String, lines.length = 2 ∧
      (run (fun _ => .ok "\"a\nb\\\"\"") ["tokens", "f"]).output =
        "f:\n" ++ String.join (lines.map (· ++ "\n")) := by
  obtain ⟨told, lines, written, each⟩ :=
    listings_tell (fun _ => .ok "\"a\nb\\\"\"") (fun _ => .ok "\"a\nb\"") "f" _ _ rfl rfl
  have apart : stream "f" "\"a\nb\\\"\"" ≠ stream "f" "\"a\nb\"" := by decide +kernel
  have two : (stream "f" "\"a\nb\\\"\"").length = 2 := by decide +kernel
  exact ⟨fun same => apart (told.mp same), lines, each.length_eq.symm.trans two, written⟩

/-! ## Programs -/

theorem output_parse {read : String → Except ReadFailure String} {path text : String}
    {program : Program} (readable : read path = .ok text)
    (accepted : AssignLang.parse path text = .ok program) :
    (run read ["parse", path]).output = program.block ++ "\n" := by
  have printed := congrArg Outcome.ofReport (printProgram_of_ok accepted)
  exact congrArg Outcome.output ((run_of_readable readable .parse).trans printed)

/-- **What is written of a tree tells the tree**, on one line and on many, and so the output of two
files that are accepted is the same exactly if their programs are. -/
theorem programs_tell :
    (∀ a b : Node, (Node.same a b = true ↔ a.inline = b.inline) ∧
      (Node.same a b = true ↔ a.block = b.block)) ∧
    ∀ (read read' : String → Except ReadFailure String) (path path' text text' : String)
      (program program' : Program), read path = .ok text → read' path' = .ok text' →
      AssignLang.parse path text = .ok program → AssignLang.parse path' text' = .ok program' →
      ((run read ["parse", path]).output = (run read' ["parse", path']).output ↔
        program = program') := by
  refine ⟨fun a b => ⟨?_, ?_⟩, ?_⟩
  · rw [Node.same_iff, Node.inline_inj]
  · rw [Node.same_iff, Node.block_inj]
  · intro read read' path path' text text' program program' readable readable' accepted accepted'
    rw [output_parse readable accepted, output_parse readable' accepted', String.append_left_inj,
      Program.block_inj]

/-- Two files with one program, and two names that are told apart though one of them looks like the
end of its record. -/
theorem programs_tell_one :
    (run (fun _ => .ok "a = 1") ["parse", "f"]).output =
      (run (fun _ => .ok "a=01 + b") ["parse", "g"]).output ∧
    (Node.identifier "a").block ≠ (Node.identifier "a\",\n\x7d").block := by
  have first : AssignLang.parse "f" "a = 1" = .ok ⟨[.assignment "a" (.integer 1)]⟩ := by
    decide +kernel
  have second : AssignLang.parse "g" "a=01 + b" = .ok ⟨[.assignment "a" (.integer 1)]⟩ := by
    decide +kernel
  have files := programs_tell.2 (fun _ => .ok "a = 1") (fun _ => .ok "a=01 + b") "f" "g" _ _ _ _
    rfl rfl first second
  refine ⟨files.mpr rfl, fun same => ?_⟩
  have equal := (Node.same_iff _ _).mp ((programs_tell.1 _ _).2.mpr same)
  exact absurd (Node.identifier.inj equal) (by decide)

end AssignLang.Command
