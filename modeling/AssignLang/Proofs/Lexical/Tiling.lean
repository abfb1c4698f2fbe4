import AssignLang.Proofs.Lexical.Terminal
import AssignLang.Proofs.Position
import Mathlib.Data.List.Chain

/-! Tokens and the places that they take in the text. Maximal munch leaves nothing out but blanks, so
the spellings of the tokens tile the text: each stands at an offset of its own, there are only blanks
between one and the next, and the last one comes to the end unless it is a character that begins no
lexeme. The position of a token is the line and the column of its offset. Main statement:
`stream_tiles`. -/
namespace AssignLang.Lexical
set_option autoImplicit false

/-! ## What a token takes of the text -/

/-- The characters that a token takes, by the error that ends its stream. A string takes its quotes,
and where it has no end the token of the error takes the quote that opens it. -/
def spelling (error : Option Error) (token : Token) : List Char :=
  match token.kind with
  | .string => '"' :: (token.text.toList ++ ['"'])
  | .error =>
    if error.any (·.fault = .unterminatedString) then '"' :: token.text.toList
    else token.text.toList
  | _ => token.text.toList

theorem IsLexeme.spelling_eq {w value : List Char} {kind : TokenKind} (h : IsLexeme w kind value)
    (error : Option Error) (position : Position) :
    spelling error ⟨kind, String.ofList value, position⟩ = w := by
  unfold spelling
  cases h with
  | symbol member =>
    have proper := (by decide : ∀ p ∈ symbols, p.2 ≠ .string ∧ p.2 ≠ .error) _ member
    split
    next kind => exact absurd kind proper.1
    next kind => exact absurd kind proper.2
    next => exact String.toList_ofList
  | _ => simp

/-- The piece stands in the text at the offset. -/
def StandsAt (text piece : List Char) (offset : Nat) : Prop :=
  ∃ before after, text = before ++ (piece ++ after) ∧ before.length = offset

/-- There is nothing but blanks from one offset up to another. -/
def IsGap (text : List Char) (first last : Nat) : Prop :=
  first ≤ last ∧ ∀ c ∈ (text.take last).drop first, isBlank c = true

/-- Tokens with their offsets, from some offset on. -/
structure Tiles (text : List Char) (error : Option Error) (first : Nat)
    (placed : List (Nat × Token)) : Prop where
  stands : ∀ p ∈ placed, StandsAt text (spelling error p.2) p.1
  position : ∀ p ∈ placed, p.2.position = .ofOffset text p.1
  before : ∀ p ∈ placed.head?, IsGap text first p.1
  between : placed.IsChain fun p q =>
    p.1 < q.1 ∧ IsGap text (p.1 + (spelling error p.2).length) q.1
  eof : ∀ p ∈ placed, p.2.kind = .eof → p.1 = text.length
  unterminated : ∀ p ∈ placed, p.2.kind = .error →
    error.any (·.fault = .unterminatedString) → p.1 + (spelling error p.2).length = text.length

/-- Where the next token stands: behind what is done and the blanks that follow it. -/
theorem tile_ahead (done : List Char) {text ahead : List Char}
    (split : text.dropWhile isBlank = ahead) :
    done ++ text = (done ++ text.takeWhile isBlank) ++ ahead ∧
      IsGap (done ++ text) done.length (done.length + (text.takeWhile isBlank).length) ∧
      (Position.start.after done).after (text.takeWhile isBlank) =
        .ofOffset (done ++ text) (done.length + (text.takeWhile isBlank).length) := by
  have whole : done ++ text = (done ++ text.takeWhile isBlank) ++ ahead := by
    rw [← split, List.append_assoc, List.takeWhile_append_dropWhile]
  have taken : (done ++ text).take (done.length + (text.takeWhile isBlank).length) =
      done ++ text.takeWhile isBlank := by
    rw [whole, ← List.length_append, List.take_left]
  refine ⟨whole, ⟨Nat.le_add_right _ _, ?_⟩, ?_⟩
  · rw [taken, List.drop_left]
    exact mem_takeWhile
  · rw [Position.ofOffset_eq, taken, Position.after_append]

section Tiles
variable {text : List Char} {error : Option Error} {first offset : Nat} {token : Token}

theorem Tiles.single (stands : StandsAt text (spelling error token) offset)
    (position : token.position = .ofOffset text offset) (gap : IsGap text first offset)
    (eof : token.kind = .eof → offset = text.length)
    (unterminated : token.kind = .error → error.any (·.fault = .unterminatedString) →
      offset + (spelling error token).length = text.length) :
    Tiles text error first [(offset, token)] where
  stands := by simpa using stands
  position := by simpa using position
  before := by simpa using gap
  between := List.isChain_singleton _
  eof := by simpa using eof
  unterminated := by simpa using unterminated

theorem Tiles.cons {placed : List (Nat × Token)}
    (stands : StandsAt text (spelling error token) offset)
    (position : token.position = .ofOffset text offset) (gap : IsGap text first offset)
    (proper : token.kind ≠ .eof ∧ token.kind ≠ .error)
    (nonempty : spelling error token ≠ [])
    (rest : Tiles text error (offset + (spelling error token).length) placed) :
    Tiles text error first ((offset, token) :: placed) where
  stands := List.forall_mem_cons.mpr ⟨stands, rest.stands⟩
  position := List.forall_mem_cons.mpr ⟨position, rest.position⟩
  before := by simpa using gap
  between := by
    refine List.isChain_cons.mpr ⟨fun q next => ?_, rest.between⟩
    have behind := rest.before q next
    have longer := List.length_pos_iff.mpr nonempty
    exact ⟨Nat.lt_of_lt_of_le (Nat.lt_add_of_pos_right longer) behind.1, behind⟩
  eof := List.forall_mem_cons.mpr ⟨fun kind => absurd kind proper.1, rest.eof⟩
  unterminated := List.forall_mem_cons.mpr ⟨fun kind => absurd kind proper.2, rest.unterminated⟩

end Tiles

theorem Munches.exists_tiles {filename : String} {place : Position} {text : List Char}
    {tokens : List Token} {error : Option Error} (h : Munches filename place text tokens error)
    (done : List Char) (reached : place = Position.start.after done) :
    ∃ placed, placed.map Prod.snd = tokens ∧ Tiles (done ++ text) error done.length placed := by
  induction h generalizing done with
  | @eof place text ahead =>
    subst reached
    obtain ⟨whole, gap, position⟩ := tile_ahead done ahead
    have length := congrArg List.length whole
    rw [List.append_nil, List.length_append] at length
    refine ⟨[(_, _)], rfl, .single ⟨_, [], whole, List.length_append⟩ position gap ?_ ?_⟩
    · intro
      rw [List.length_append, length, List.length_append]
    · simp
  | @lexeme place text w rest value kind tokens error ahead longest more ih =>
    subst reached
    obtain ⟨whole, gap, position⟩ := tile_ahead done ahead
    have spelled := longest.isLexeme.spelling_eq error
      ((Position.start.after done).after (text.takeWhile isBlank))
    obtain ⟨placed, same, tiles⟩ := ih (done ++ text.takeWhile isBlank ++ w) (by
      rw [Position.after_append, Position.after_append])
    rw [List.append_assoc, ← whole, List.length_append, List.length_append, ← spelled] at tiles
    refine ⟨(_, _) :: placed, by rw [List.map_cons, same],
      .cons ⟨_, rest, ?_, List.length_append⟩ position gap longest.isLexeme.proper ?_ tiles⟩
    · rw [spelled]
      exact whole
    · rw [spelled]
      exact longest.isLexeme.ne_nil
  | @unterminated place text rest ahead none =>
    subst reached
    obtain ⟨whole, gap, position⟩ := tile_ahead done ahead
    have spelled : spelling (some ⟨.unterminatedString, filename,
        (Position.start.after done).after (text.takeWhile isBlank)⟩) ⟨.error, String.ofList rest,
        (Position.start.after done).after (text.takeWhile isBlank)⟩ = '"' :: rest := by
      simp [spelling]
    refine ⟨[(_, _)], rfl, .single ⟨_, [], ?_, List.length_append⟩ position gap (by simp) ?_⟩
    · rw [spelled, List.append_nil]
      exact whole
    · intro _ _
      rw [spelled, whole, List.length_append, List.length_append]
  | @unexpected place text rest c ahead notQuote none =>
    subst reached
    obtain ⟨whole, gap, position⟩ := tile_ahead done ahead
    have spelled : spelling (some ⟨.unexpectedCharacter c, filename,
        (Position.start.after done).after (text.takeWhile isBlank)⟩) ⟨.error, String.ofList [c],
        (Position.start.after done).after (text.takeWhile isBlank)⟩ = [c] := by
      simp [spelling]
    refine ⟨[(_, _)], rfl, .single ⟨_, rest, ?_, List.length_append⟩ position gap (by simp) ?_⟩
    · rw [spelled]
      exact whole
    · simp

/-! ## What follows for the stream -/

/-- A piece that stands in the text ends within it. -/
theorem StandsAt.length_le {text piece : List Char} {offset : Nat}
    (h : StandsAt text piece offset) : offset + piece.length ≤ text.length := by
  obtain ⟨before, after, rfl, rfl⟩ := h
  simp only [List.length_append]
  omega

theorem Tiles.increasing {text : List Char} {error : Option Error} {first : Nat}
    {placed : List (Nat × Token)} (h : Tiles text error first placed) :
    placed.Pairwise fun p q => p.1 < q.1 := by
  have chain : placed.IsChain fun p q => p.1 < q.1 := h.between.imp fun _ _ next => next.1
  have ordered : (placed.map Prod.fst).IsChain (· < ·) := (List.isChain_map Prod.fst).mpr chain
  exact List.pairwise_map.mp (List.isChain_iff_pairwise.mp ordered)

theorem Tiles.positions {text : List Char} {error : Option Error} {first : Nat}
    {placed : List (Nat × Token)} (h : Tiles text error first placed) :
    (placed.map Prod.snd).Pairwise fun t u => t.position.Before u.position := by
  rw [List.pairwise_map]
  refine h.increasing.imp_of_mem fun {p q} memP memQ less => ?_
  rw [h.position p memP, h.position q memQ]
  have within := (h.stands q memQ).length_le
  exact Position.before_ofOffset less (by omega)

theorem symbols_not_blank : ∀ p ∈ symbols, p.1.any isBlank = false := by decide

/-- What is not a string is visible from end to end. -/
theorem IsLexeme.value_eq {w value : List Char} {kind : TokenKind} (h : IsLexeme w kind value)
    (noQuote : w.head? ≠ some '"') : value = w ∧ ∀ c ∈ w, isBlank c = false := by
  cases h with
  | keyword keyword =>
    exact ⟨rfl, fun c mem => isBlank_eq_false_of_isLetter (letters_of_keyword keyword c mem)⟩
  | identifier _ letters =>
    exact ⟨rfl, fun c mem => isBlank_eq_false_of_isLetter (letters c mem)⟩
  | integer _ digits => exact ⟨rfl, fun c mem => isBlank_eq_false_of_isDigit (digits c mem)⟩
  | decimal _ digits more =>
    refine ⟨rfl, fun c mem => ?_⟩
    rcases List.mem_append.mp mem with mem | mem
    · exact isBlank_eq_false_of_isDigit (digits c mem)
    · rcases List.mem_cons.mp mem with rfl | mem
      · rfl
      · exact isBlank_eq_false_of_isDigit (more c mem)
  | string => exact absurd rfl noQuote
  | symbol member =>
    have visible := List.any_eq_false.mp (symbols_not_blank _ member)
    exact ⟨rfl, fun c mem => by simpa using visible c mem⟩

theorem filter_takeWhile_isBlank (text : List Char) :
    (text.takeWhile isBlank).filter (!isBlank ·) = [] := by
  rw [List.filter_eq_nil_iff]
  intro c mem
  simp [mem_takeWhile c mem]

theorem Munches.flatten_texts {filename : String} {place : Position} {text : List Char}
    {tokens : List Token} {error : Option Error} (h : Munches filename place text tokens error)
    (sound : error = none) (noQuote : '"' ∉ text) :
    (tokens.map (·.text.toList)).flatten = text.filter (!isBlank ·) := by
  induction h with
  | @eof place text ahead =>
    rw [← List.takeWhile_append_dropWhile (p := isBlank) (l := text), ahead, List.append_nil,
      filter_takeWhile_isBlank]
    rfl
  | @lexeme place text w rest value kind tokens error ahead longest more ih =>
    have whole : text = text.takeWhile isBlank ++ (w ++ rest) := by
      rw [← ahead, List.takeWhile_append_dropWhile]
    rw [whole] at noQuote
    simp only [List.mem_append, not_or] at noQuote
    obtain ⟨-, outside, behind⟩ := noQuote
    obtain ⟨rfl, visible⟩ := longest.isLexeme.value_eq fun first =>
      outside (List.mem_of_mem_head? first)
    have kept : value.filter (!isBlank ·) = value := by
      rw [List.filter_eq_self]
      intro c mem
      simp [visible c mem]
    rw [whole, List.filter_append, filter_takeWhile_isBlank, List.filter_append, kept,
      ← ih sound behind]
    simp
  | unterminated | unexpected => exact absurd sound (by simp)

/-- **Tokens tile the text**, and each of them is where it says. -/
theorem stream_tiles (filename text : String) :
    (∃ placed, placed.map Prod.snd = stream filename text ∧
      (placed.Pairwise fun p q => p.1 < q.1) ∧
      Tiles text.toList (error? filename text) 0 placed) ∧
    ((stream filename text).Pairwise fun t u => t.position.Before u.position) ∧
    ('"' ∉ text.toList → error? filename text = none →
      ((stream filename text).map (·.text.toList)).flatten =
        text.toList.filter (!isBlank ·)) := by
  have munches := munches_stream filename text
  obtain ⟨placed, same, tiles⟩ := munches.exists_tiles [] rfl
  refine ⟨⟨placed, same, tiles.increasing, tiles⟩, same ▸ tiles.positions, ?_⟩
  intro noQuote sound
  exact munches.flatten_texts sound noQuote

theorem stream_tiles_plain :
    '"' ∉ "a = 1".toList ∧ error? "f" "a = 1" = none ∧
      ((stream "f" "a = 1").map (·.text.toList)).flatten = ['a', '=', '1'] := by
  have noQuote : '"' ∉ "a = 1".toList := by decide
  have sound : error? "f" "a = 1" = none := by decide +kernel
  exact ⟨noQuote, sound, (stream_tiles "f" "a = 1").2.2 noQuote sound⟩

end AssignLang.Lexical
