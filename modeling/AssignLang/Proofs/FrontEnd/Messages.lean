import AssignLang.Proofs.FrontEnd.EagerAgreement
import AssignLang.Proofs.Grammar.Outcome
import AssignLang.Proofs.Lexical.Culprit
import AssignLang.Proofs.Text.Quoted

/-! What the message of an error tells. The words for a fault begin in one of a few ways, none of
which begins with another (`openings_apart`), and what follows is a quoted character, the text of a
token or nothing. Kinds of tokens that share their words are kinds of brackets, and a bracket is told
by its text (`Munches.spelled`). The position stands at the end of a message and is read from there.
Main statement: parses of two texts under one name give the same message only for the same error
(`messages_tell`). -/

/-! ## Brackets -/

namespace AssignLang.Lexical
set_option autoImplicit false

/-- The kinds that share their words with another kind. -/
def brackets : List TokenKind :=
  [.leftParen, .leftSquare, .leftCurly, .rightParen, .rightSquare, .rightCurly]

/-- A bracket is its own text. -/
def Spelled (kind : TokenKind) (text : String) : Prop :=
  kind ∈ brackets → (text.toList, kind) ∈ symbols

theorem IsLexeme.of_bracket {w value : List Char} {kind : TokenKind} (h : IsLexeme w kind value)
    (bracket : kind ∈ brackets) : (value, kind) ∈ symbols := by
  cases h with
  | symbol member => exact member
  | _ => exact absurd bracket (by decide)

theorem Munches.spelled {filename : String} {place : Position} {text : List Char}
    {tokens : List Token} {error : Option Error} (h : Munches filename place text tokens error) :
    ∀ token ∈ tokens, Spelled token.kind token.text := by
  induction h with
  | eof | unterminated | unexpected =>
    intro token mem bracket
    rw [List.mem_singleton.mp mem] at bracket
    simp [brackets] at bracket
  | lexeme ahead longest more ih =>
    intro token mem
    rcases List.mem_cons.mp mem with rfl | later
    · intro bracket
      rw [String.toList_ofList]
      exact longest.isLexeme.of_bracket bracket
    · exact ih token later

end AssignLang.Lexical

/-! ## Kinds and positions -/

namespace AssignLang
open Lexical (Spelled brackets symbols symbols_unique)
set_option autoImplicit false

theorem TokenKind.eq_or_brackets_of_description {j k : TokenKind}
    (same : j.description = k.description) : j = k ∨ (j ∈ brackets ∧ k ∈ brackets) := by
  have all : ∀ j ∈ all, ∀ k ∈ all, j.description = k.description →
      j = k ∨ (j ∈ brackets ∧ k ∈ brackets) := by decide +kernel
  exact all j j.mem_all k k.mem_all same

theorem Lexical.Spelled.kind_inj {j k : TokenKind} {text : String} (left : Spelled j text)
    (right : Spelled k text) (same : j.description = k.description) : j = k := by
  rcases TokenKind.eq_or_brackets_of_description same with equal | ⟨bracket, bracket'⟩
  · exact equal
  · exact symbols_unique _ (left bracket) _ (right bracket') rfl

/-- A message is told from its end, given the name of the file. -/
theorem Diagnostic.message_inj {Fault : Type} {describe : Fault → String} {f g : Fault}
    {filename : String} {p q : Position}
    (same : message describe ⟨f, filename, p⟩ = message describe ⟨g, filename, q⟩) :
    describe f = describe g ∧ p = q := by
  have split (f : Fault) (p : Position) : (message describe ⟨f, filename, p⟩).toList =
      ((describe f).toList ++ (" at ".toList ++ filename.toList)) ++ ':' :: p.text.toList := by
    simp [message]
  have lists := congrArg String.toList same
  rw [split, split] at lists
  obtain ⟨before, position⟩ := Position.append_text_inj lists
  exact ⟨String.toList_inj.mp (List.append_cancel_right before), position⟩

/-! ## Words for a fault -/

/-- A fault of one of the two stages that read a text. -/
abbrev Fault := Lexical.Fault ⊕ Grammar.Fault

namespace Fault

def description : Fault → String :=
  Sum.elim Lexical.Fault.description Grammar.Fault.description

/-- The words that a kind of fault has in common. -/
def opening : Fault → String
  | .inl .unterminatedString => "unterminated string"
  | .inl (.unexpectedCharacter _) => "unexpected character: "
  | .inr (.unexpected found _) => "unexpected " ++ found.description
  | .inr .endOfStream => "unexpected end of token stream"
  | .inr (.invalidInteger _) => "invalid integer literal '"

def closing : Fault → String
  | .inl .unterminatedString => ""
  | .inl (.unexpectedCharacter found) => Text.Quoted.char found
  | .inr (.unexpected _ text) => if text.isEmpty then "" else " '" ++ text ++ "'"
  | .inr .endOfStream => ""
  | .inr (.invalidInteger text) => text ++ "'"

theorem description_eq (f : Fault) : f.description = f.opening ++ f.closing := by
  rcases f with (_ | found) | (⟨found, text⟩ | _ | text)
  · rfl
  · rfl
  · rfl
  · rfl
  · exact String.append_assoc ..

/-- The openings that name no kind of a token. -/
def fixedOpenings : List String :=
  ["unterminated string", "unexpected character: ", "unexpected end of token stream",
    "invalid integer literal '"]

def openings : List String :=
  fixedOpenings ++ TokenKind.all.map ("unexpected " ++ ·.description)

theorem opening_mem (f : Fault) : f.opening ∈ openings := by
  rcases f with (_ | found) | (⟨found, text⟩ | _ | text)
  case inr.unexpected =>
    exact List.mem_append_right _ (List.mem_map.mpr ⟨found, found.mem_all, rfl⟩)
  all_goals exact List.mem_append_left _ (by simp [opening, fixedOpenings])

theorem openings_apart : ∀ u ∈ openings, ∀ v ∈ openings, u ≠ v → ¬ u.toList <+: v.toList := by
  decide +kernel

theorem parts_eq_of_description {f g : Fault} (same : f.description = g.description) :
    f.opening = g.opening ∧ f.closing = g.closing := by
  have lists := congrArg String.toList same
  rw [description_eq, description_eq, String.toList_append, String.toList_append] at lists
  by_cases equal : f.opening = g.opening
  · rw [equal] at lists
    exact ⟨equal, String.toList_inj.mp (List.append_cancel_left lists)⟩
  · refine absurd lists (Text.append_ne_of_apart ⟨?_, ?_⟩)
    · exact openings_apart _ f.opening_mem _ g.opening_mem equal
    · exact openings_apart _ g.opening_mem _ f.opening_mem (Ne.symm equal)

/-- The text of a token stands between quotes unless it is empty. -/
theorem text_inj {a b : String} (same : (if a.isEmpty then "" else " '" ++ a ++ "'") =
    if b.isEmpty then "" else " '" ++ b ++ "'") : a = b := by
  split at same <;> split at same
  next none none' =>
    rw [String.isEmpty_iff.mp none, String.isEmpty_iff.mp none']
  next => exact absurd (congrArg String.toList same) (by simp)
  next => exact absurd (congrArg String.toList same) (by simp)
  next => exact (String.append_right_inj _).mp ((String.append_left_inj _).mp same)

theorem unexpected_apart (found : TokenKind) :
    ∀ u ∈ fixedOpenings, "unexpected " ++ found.description ≠ u := by
  have all : ∀ k ∈ TokenKind.all, ∀ u ∈ fixedOpenings, "unexpected " ++ k.description ≠ u := by
    decide +kernel
  exact all found found.mem_all

/-- The two stages open their messages in different ways. -/
theorem stages_apart (x : Grammar.Fault) (y : Lexical.Fault) :
    opening (.inr x) ≠ opening (.inl y) := by
  have among : opening (.inl y) ∈ fixedOpenings := by
    cases y <;> simp [opening, fixedOpenings]
  cases x with
  | unexpected found text => exact unexpected_apart found _ among
  | endOfStream | invalidInteger text => cases y <;> simp [opening]

/-- The faults of a reading name tokens as they are spelled. -/
def Worded : Fault → Prop
  | .inr (.unexpected found text) => Spelled found text
  | _ => True

theorem lexical_inj {x y : Lexical.Fault} (opens : opening (.inl x) = opening (.inl y))
    (closes : closing (.inl x) = closing (.inl y)) : x = y := by
  cases x <;> cases y
  case unterminatedString.unterminatedString => rfl
  case unexpectedCharacter.unexpectedCharacter c d => rw [Text.Quoted.char_inj closes]
  all_goals simp [opening] at opens

theorem grammar_inj {x y : Grammar.Fault} (left : Worded (.inr x)) (right : Worded (.inr y))
    (opens : opening (.inr x) = opening (.inr y)) (closes : closing (.inr x) = closing (.inr y)) :
    x = y := by
  cases x <;> cases y
  case unexpected.unexpected j text k text' =>
    obtain rfl := text_inj closes
    -- The words leave open which bracket it is; the text, the same on both sides, settles it.
    rw [Spelled.kind_inj left right ((String.append_right_inj _).mp opens)]
  case invalidInteger.invalidInteger text text' => rw [(String.append_left_inj _).mp closes]
  case endOfStream.endOfStream => rfl
  case unexpected.endOfStream | unexpected.invalidInteger =>
    exact absurd opens (unexpected_apart _ _ (by simp [opening, fixedOpenings]))
  case endOfStream.unexpected | invalidInteger.unexpected =>
    exact absurd opens.symm (unexpected_apart _ _ (by simp [opening, fixedOpenings]))
  all_goals simp [opening] at opens

theorem Worded.inj {f g : Fault} (left : f.Worded) (right : g.Worded)
    (same : f.description = g.description) : f = g := by
  obtain ⟨opens, closes⟩ := parts_eq_of_description same
  cases f with
  | inl x =>
    cases g with
    | inl y => rw [lexical_inj opens closes]
    | inr y => exact absurd opens.symm (stages_apart y x)
  | inr x =>
    cases g with
    | inl y => exact absurd opens (stages_apart x y)
    | inr y => rw [grammar_inj left right opens closes]

end Fault

/-! ## Messages -/

def Error.ofDiagnostic : Diagnostic Fault → Error
  | ⟨.inl fault, filename, position⟩ => .lexical ⟨fault, filename, position⟩
  | ⟨.inr fault, filename, position⟩ => .grammar ⟨fault, filename, position⟩

theorem Error.message_ofDiagnostic (d : Diagnostic Fault) :
    (ofDiagnostic d).message = d.message Fault.description := by
  obtain ⟨_ | _, _, _⟩ := d <;> rfl

/-- Every error of a parse is a diagnostic under the name of the file. -/
theorem exists_diagnostic {filename text : String} {e : Error}
    (told : parse filename text = .error e) :
    ∃ fault position, Fault.Worded fault ∧ e = .ofDiagnostic ⟨fault, filename, position⟩ := by
  rcases parse_outcome filename text with ⟨program, -, accepted⟩ | ⟨e', eager, refused, -⟩ |
    ⟨-, -, x, -, -, -, failed, refused⟩
  · simp [accepted] at told
  · obtain rfl : Error.grammar e' = e := Except.error.inj (refused.symm.trans told)
    have spelled := (Lexical.munches_stream filename text).spelled
    have ends := Grammar.outcome_parse filename (Lexical.stream filename text)
    rw [eager] at ends
    generalize (Grammar.parse filename (Lexical.stream filename text)).2 = left at ends
    generalize Lexical.stream filename text = given at spelled ends
    cases ends with
    | missing => exact ⟨.inr .endOfStream, _, trivial, rfl⟩
    | @unexpected _ token =>
      exact ⟨.inr (.unexpected token.kind token.text), _, spelled token (by simp), rfl⟩
    | @invalid _ _ number =>
      exact ⟨.inr (.invalidInteger number.text), _, trivial, rfl⟩
  · obtain rfl : Error.lexical x = e := Except.error.inj (refused.symm.trans told)
    obtain ⟨fault, name, position⟩ := x
    rw [Lexical.tokens_eq_error_iff] at failed
    obtain ⟨token, -, accounts⟩ :=
      (Lexical.munches_stream filename text).accounts [] rfl failed
    obtain rfl : name = filename := accounts.filename
    exact ⟨.inl fault, position, trivial, rfl⟩

/-- **A message tells its error**: under one name, two texts that are refused get the same message
exactly if they get the same error. -/
theorem messages_tell (filename text text' : String) (e e' : Error)
    (refused : parse filename text = .error e) (refused' : parse filename text' = .error e') :
    e.message = e'.message ↔ e = e' := by
  refine ⟨fun same => ?_, congrArg Error.message⟩
  obtain ⟨fault, position, worded, rfl⟩ := exists_diagnostic refused
  obtain ⟨fault', position', worded', rfl⟩ := exists_diagnostic refused'
  rw [Error.message_ofDiagnostic, Error.message_ofDiagnostic] at same
  obtain ⟨words, rfl⟩ := Diagnostic.message_inj same
  rw [worded.inj worded' words]

/-- Two brackets share their words, and the messages are told apart by the brackets themselves. -/
theorem messages_tell_brackets : ∃ e e', parse "f" "(" = .error e ∧ parse "f" "[" = .error e' ∧
    e.message ≠ e'.message := by
  have round : parse "f" "(" = .error (.grammar ⟨.unexpected .leftParen "(", "f", ⟨1, 1⟩⟩) := by
    decide +kernel
  have square : parse "f" "[" = .error (.grammar ⟨.unexpected .leftSquare "[", "f", ⟨1, 1⟩⟩) := by
    decide +kernel
  refine ⟨_, _, round, square, fun same => ?_⟩
  exact absurd ((messages_tell "f" "(" "[" _ _ round square).mp same) (by decide)

end AssignLang
