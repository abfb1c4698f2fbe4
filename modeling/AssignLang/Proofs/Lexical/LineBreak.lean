import AssignLang.Proofs.Lexical.Tiling
import Mathlib.Data.List.TakeWhile

/-! Two texts with a line break between them. A blank ends every lexeme that is complete before it
(`IsLongest.append_blank`), so the first text is scanned as if nothing came behind it, and all that
the scanner knows of it behind the break is how many lines it takes. Main statement: the tokens of
the two texts follow one another, those of the second further down by the lines of the first, and so
does the error of the second (`stream_append_newline`). -/
namespace AssignLang
set_option autoImplicit false

/-- The same token, so many lines further down. -/
def Token.down (t : Token) (lines : Nat) : Token :=
  { t with position := t.position.down lines }

/-- The same diagnostic, so many lines further down. -/
def Diagnostic.down {Fault : Type} (d : Diagnostic Fault) (lines : Nat) : Diagnostic Fault :=
  { d with position := d.position.down lines }

namespace Lexical

section Munches
variable {filename : String} {place : Position} {text : List Char} {tokens : List Token}
  {error : Option Error}

/-! ## A text further down -/

theorem Munches.down (h : Munches filename place text tokens error) (lines : Nat) :
    Munches filename (place.down lines) text (tokens.map (·.down lines))
      (error.map (·.down lines)) := by
  induction h with
  | @eof place text ahead =>
    have lower : Munches filename (place.down lines) text _ _ := .eof ahead
    rw [Position.down_after] at lower
    exact lower
  | @lexeme place text w rest value kind tokens error ahead longest more ih =>
    rw [← Position.down_after, ← Position.down_after] at ih
    have lower : Munches filename (place.down lines) text _ _ := .lexeme ahead longest ih
    rw [Position.down_after] at lower
    exact lower
  | @unterminated place text rest ahead none =>
    have lower : Munches filename (place.down lines) text _ _ := .unterminated ahead none
    rw [Position.down_after] at lower
    exact lower
  | @unexpected place text rest c ahead notQuote none =>
    have lower : Munches filename (place.down lines) text _ _ := .unexpected ahead notQuote none
    rw [Position.down_after] at lower
    exact lower

/-! ## A blank between two texts -/

/-- Blanks before a text only move it on. -/
theorem Munches.of_blanks {gap : List Char} (blanks : ∀ c ∈ gap, isBlank c = true)
    (h : Munches filename (place.after gap) text tokens error) :
    Munches filename place (gap ++ text) tokens error := by
  have taken : (gap ++ text).takeWhile isBlank = gap ++ text.takeWhile isBlank :=
    List.takeWhile_append_of_pos blanks
  have dropped : (gap ++ text).dropWhile isBlank = text.dropWhile isBlank :=
    List.dropWhile_append_of_pos blanks
  cases h with
  | eof ahead =>
    rw [← Position.after_append, ← taken]
    exact .eof (dropped.trans ahead)
  | lexeme ahead longest more =>
    rw [← Position.after_append, ← taken]
    refine .lexeme (dropped.trans ahead) longest ?_
    rw [taken, Position.after_append]
    exact more
  | unterminated ahead none =>
    rw [← Position.after_append, ← taken]
    exact .unterminated (dropped.trans ahead) none
  | unexpected ahead notQuote none =>
    rw [← Position.after_append, ← taken]
    exact .unexpected (dropped.trans ahead) notQuote none

end Munches

theorem prefix_of_not_mem {α : Type} {u text more : List α} {b : α} (begins : u <+: text ++ b :: more)
    (outside : b ∉ u) : u <+: text := by
  have upTo : text ++ [b] <+: text ++ b :: more := ⟨more, by simp⟩
  rcases List.prefix_or_prefix_of_prefix begins upTo with shorter | longer
  · rcases List.prefix_concat_iff.mp shorter with rfl | within
    · exact absurd (by simp) outside
    · exact within
  · exact absurd (longer.subset (by simp)) outside

/-- A lexeme that is the longest stays the longest: what is longer would have the blank in it, and
only a string can, but a string ends where it first may. -/
theorem IsLongest.append_blank {text w value : List Char} {kind : TokenKind} {b : Char}
    (h : IsLongest text w kind value) (blank : isBlank b = true) (more : List Char) :
    IsLongest (text ++ b :: more) w kind value := by
  obtain ⟨rest, rfl⟩ := h.begins
  obtain ⟨c, tail, rfl⟩ := List.exists_cons_of_ne_nil h.isLexeme.ne_nil
  by_cases quote : c = '"'
  · subst quote
    obtain ⟨isBody, rfl, rfl⟩ := h.isLexeme.of_quote
    have string := isLongest_string isBody (rest ++ b :: more)
    have same : '"' :: (value ++ ['"']) ++ rest ++ b :: more =
        '"' :: (value ++ '"' :: (rest ++ b :: more)) := by simp
    rwa [same]
  · have begins : c :: tail <+: c :: (tail ++ rest ++ b :: more) := ⟨rest ++ b :: more, by simp⟩
    refine isLongest_of_cons begins h.isLexeme fun v kind' value' begins' lexeme => ?_
    obtain ⟨-, visible⟩ := lexeme.value_eq (by simpa using quote)
    have outside : b ∉ c :: v := fun mem => absurd (visible b mem) (by simp [blank])
    have within : c :: v <+: c :: tail ++ rest := prefix_of_not_mem begins' outside
    exact h.longest _ _ _ within lexeme

theorem Munches.tokens_ne_nil {filename : String} {place : Position} {text : List Char}
    {tokens : List Token} {error : Option Error} (h : Munches filename place text tokens error) :
    tokens ≠ [] := by
  cases h <;> simp

/-- Up to its last token a text is scanned as if nothing came behind it, if what comes begins with a
blank. -/
theorem Munches.exists_last {filename : String} {place : Position} {text : List Char}
    {tokens : List Token} {error : Option Error} {b : Char}
    (h : Munches filename place text tokens error) (blank : isBlank b = true) :
    ∃ shown last front back, tokens = shown ++ [last] ∧ text = front ++ back ∧
      (∀ token ∈ shown, token.isTerminal = false) ∧ last.isTerminal = true ∧
      Munches filename (place.after front) back [last] error ∧
      ∀ more tokens' error',
        Munches filename (place.after front) (back ++ b :: more) tokens' error' →
        Munches filename place (text ++ b :: more) (shown ++ tokens') error' := by
  induction h with
  | @eof _ text ahead =>
    exact ⟨[], _, [], text, rfl, rfl, by simp, rfl, .eof ahead, fun _ _ _ => id⟩
  | @unterminated _ text _ ahead none =>
    exact ⟨[], _, [], text, rfl, rfl, by simp, rfl, .unterminated ahead none, fun _ _ _ => id⟩
  | @unexpected _ text _ _ ahead notQuote none =>
    exact ⟨[], _, [], text, rfl, rfl, by simp, rfl, .unexpected ahead notQuote none,
      fun _ _ _ => id⟩
  | @lexeme place text w rest value kind tokens error ahead longest behind ih =>
    have whole : text.takeWhile isBlank ++ (w ++ rest) = text := by
      rw [← ahead, List.takeWhile_append_dropWhile]
    have blanks : ∀ c ∈ text.takeWhile isBlank, isBlank c = true := mem_takeWhile
    generalize text.takeWhile isBlank = gap at whole blanks behind ih ⊢
    subst whole
    obtain ⟨shown, last, front, back, rfl, rfl, proper, terminal, ends, both⟩ := ih
    refine ⟨_ :: shown, last, gap ++ (w ++ front), back, rfl, by simp, ?_, terminal, ?_, ?_⟩
    · refine List.forall_mem_cons.mpr ⟨?_, proper⟩
      simp [Token.isTerminal, longest.isLexeme.proper]
    · rwa [Position.after_append, Position.after_append]
    · intro more tokens' error' more'
      rw [Position.after_append, Position.after_append] at more'
      have still := longest.append_blank blank more
      rw [List.append_assoc] at still
      have split : gap ++ (w ++ (front ++ back)) ++ b :: more =
          gap ++ (w ++ (front ++ back ++ b :: more)) := by simp
      rw [split]
      exact .lexeme_append blanks still (both more tokens' error' more')

/-- **A sound text and another behind a blank** are scanned one after the other. -/
theorem Munches.append_blank {filename : String} {place : Position} {text more : List Char}
    {tokens tokens' : List Token} {error error' : Option Error} {b : Char}
    (h : Munches filename place text tokens error) (sound : error = none)
    (blank : isBlank b = true)
    (h' : Munches filename (place.after (text ++ [b])) more tokens' error') :
    ∃ shown last, tokens = shown ++ [last] ∧ last.kind = .eof ∧
      Munches filename place (text ++ b :: more) (shown ++ tokens') error' := by
  obtain ⟨shown, last, front, back, rfl, rfl, -, -, ends, both⟩ := h.exists_last blank
  cases ends with
  | lexeme _ _ behind => exact absurd rfl behind.tokens_ne_nil
  | unterminated | unexpected => exact absurd sound (by simp)
  | eof ahead =>
    have blanks : ∀ c ∈ back ++ [b], isBlank c = true := by
      refine List.forall_mem_append.mpr ⟨?_, List.forall_mem_singleton.mpr blank⟩
      exact List.dropWhile_eq_nil_iff.mp ahead
    rw [List.append_assoc, Position.after_append] at h'
    have behind := h'.of_blanks blanks
    rw [List.append_assoc] at behind
    exact ⟨shown, _, rfl, rfl, both more _ _ behind⟩

/-! ## A line break between two texts -/

theorem toList_append_newline (first second : String) :
    (first ++ "\n" ++ second).toList = first.toList ++ '\n' :: second.toList := by
  rw [String.toList_append, String.toList_append, List.append_assoc]
  rfl

/-- **Behind a line break all is scanned anew**, further down by the lines before. -/
theorem stream_append_newline (filename first second : String) (given : List Token)
    (sound : tokens filename first = .ok given) :
    ∃ shown last, given = shown ++ [last] ∧ last.kind = .eof ∧
      stream filename (first ++ "\n" ++ second) =
        shown ++ (stream filename second).map (·.down (first.toList.count '\n' + 1)) ∧
      error? filename (first ++ "\n" ++ second) =
        (error? filename second).map (·.down (first.toList.count '\n' + 1)) := by
  obtain ⟨clear, rfl⟩ := (tokens_eq_ok_iff filename first given).mp sound
  have lower := (munches_stream filename second).down (first.toList.count '\n' + 1)
  rw [← Position.start_after_newline] at lower
  obtain ⟨shown, last, ends, eof, both⟩ :=
    (munches_stream filename first).append_blank clear rfl lower
  rw [← toList_append_newline] at both
  exact ⟨shown, last, ends, eof, both.drain_eq .start⟩

/-- A string goes on over a line break in the first text, and the second is not sound. -/
theorem stream_append_newline_unexpected :
    ∃ given, tokens "f" "a =\n\"b\nc\" " = .ok given ∧
      stream "f" ("a =\n\"b\nc\" " ++ "\n" ++ "d\n #") =
        given.dropLast ++ [⟨.identifier, "d", ⟨4, 1⟩⟩, ⟨.error, "#", ⟨5, 2⟩⟩] ∧
      error? "f" ("a =\n\"b\nc\" " ++ "\n" ++ "d\n #") =
        some ⟨.unexpectedCharacter '#', "f", ⟨5, 2⟩⟩ := by
  have clear : error? "f" "a =\n\"b\nc\" " = none := by decide +kernel
  have alone : stream "f" "d\n #" = [⟨.identifier, "d", ⟨1, 1⟩⟩, ⟨.error, "#", ⟨2, 2⟩⟩] := by
    decide +kernel
  have failed : error? "f" "d\n #" = some ⟨.unexpectedCharacter '#', "f", ⟨2, 2⟩⟩ := by
    decide +kernel
  have sound := (tokens_eq_ok_iff "f" "a =\n\"b\nc\" " _).mpr ⟨clear, rfl⟩
  obtain ⟨shown, last, ends, -, tokens, error⟩ :=
    stream_append_newline "f" "a =\n\"b\nc\" " "d\n #" _ sound
  rw [alone] at tokens
  rw [failed] at error
  refine ⟨_, sound, ?_, error⟩
  rw [ends, List.dropLast_concat]
  exact tokens

end Lexical

end AssignLang
