import AssignLang.Proofs.Lexical.Tiling

/-! How far the scanner looks ahead. A longest lexeme stays the longest whatever comes behind it, as
long as the first character behind it stays the same (`IsLongest.of_head`): a longer one would be a
lexeme as well when it is cut off after that character, strings apart, and a string ends where it
first may. So a token that ends at least one character before two texts part is a token of both
(`stream_stable`). -/
namespace AssignLang.Lexical
set_option autoImplicit false

/-! ## Prefixes of lexemes -/

theorem IsNumber.of_prefix {u v : List Char} (h : IsNumber v) (begins : u <+: v)
    (nonempty : u ≠ []) : IsNumber u := by
  obtain ⟨whole, tail, rfl, someDigit, digits, more⟩ := h
  have either := List.prefix_or_prefix_of_prefix begins (List.prefix_append whole tail)
  rcases either with short | ⟨point, rfl⟩
  · have all : ∀ c ∈ u, isDigit c = true := fun c mem => digits c (short.subset mem)
    exact ⟨u, [], (List.append_nil u).symm, nonempty, all, .inl rfl⟩
  · have inner : point <+: tail := (List.prefix_append_right_inj whole).mp begins
    refine ⟨whole, point, rfl, someDigit, digits, ?_⟩
    rcases more with rfl | ⟨fraction, rfl, moreDigits⟩
    · exact .inl (List.prefix_nil.mp inner)
    · rcases List.prefix_cons_iff.mp inner with rfl | ⟨first, rfl, within⟩
      · exact .inl rfl
      · exact .inr ⟨first, rfl, fun c mem => moreDigits c (within.subset mem)⟩

/-- Of a string this is not so: it is nothing before its last quote. -/
theorem IsLexeme.of_prefix {u v value : List Char} {kind : TokenKind} (h : IsLexeme v kind value)
    (noQuote : v.head? ≠ some '"') (begins : u <+: v) (nonempty : u ≠ []) :
    ∃ kind' value', IsLexeme u kind' value' := by
  obtain ⟨c, w, rfl⟩ := List.exists_cons_of_ne_nil nonempty
  obtain ⟨more, rfl⟩ := begins
  rw [List.cons_append] at h
  rcases h.cases_head with ⟨-, letters, -⟩ | ⟨-, number, -⟩ | ⟨rfl, -⟩ | ⟨member, -⟩
  · have all : ∀ x ∈ c :: w, isLetter x = true := fun x mem =>
      letters x (List.mem_append_left more mem)
    exact ⟨_, _, isLexeme_word nonempty all⟩
  · have short : IsNumber (c :: w) := number.of_prefix (List.prefix_append (c :: w) more) nonempty
    exact ⟨_, _, isLexeme_of_isNumber short⟩
  · exact absurd rfl noQuote
  · obtain ⟨s, found, shape⟩ := (mem_symbols_iff c _ kind).mp member
    cases w with
    | nil =>
      have alone := (mem_symbols_iff c [] s.alone).mpr ⟨s, found, .inl ⟨rfl, rfl⟩⟩
      exact ⟨_, _, .symbol alone⟩
    | cons d w =>
      have all : more = [] := by
        rcases shape with ⟨short, -⟩ | ⟨twice, -⟩
        · exact absurd short (by simp)
        · rw [List.cons_append, List.cons.injEq, List.append_eq_nil_iff] at twice
          exact twice.2.2
      rw [all, List.append_nil] at h
      exact ⟨_, _, h⟩

/-! ## One character ahead -/

theorem IsLongest.of_head {w rest rest' value : List Char} {kind : TokenKind}
    (h : IsLongest (w ++ rest) w kind value) (same : rest.head? = rest'.head?) :
    IsLongest (w ++ rest') w kind value := by
  obtain ⟨c, tail, rfl⟩ := List.exists_cons_of_ne_nil h.isLexeme.ne_nil
  by_cases quote : c = '"'
  · subst quote
    obtain ⟨isBody, rfl, rfl⟩ := h.isLexeme.of_quote
    have string := isLongest_string isBody rest'
    rwa [List.cons_append, List.append_assoc]
  · refine ⟨List.prefix_append _ _, h.isLexeme, ?_⟩
    intro v kind' value' begins lexeme
    by_contra longer
    have within : c :: tail <+: v :=
      List.prefix_of_prefix_length_le (List.prefix_append _ _) begins (by omega)
    obtain ⟨more, rfl⟩ := within
    cases more with
    | nil => exact longer (by rw [List.append_nil])
    | cons d more =>
      -- The lexeme goes on with `d`, which is the first character behind `w` in either text.
      obtain ⟨after, split⟩ := (List.prefix_append_right_inj _).mp begins
      have next : rest.head? = some d := by
        rw [same, ← split]
        rfl
      obtain ⟨behind, rfl⟩ := List.head?_eq_some_iff.mp next
      have first : c :: tail ++ [d] <+: c :: tail ++ d :: more := ⟨more, by simp⟩
      obtain ⟨kind'', value'', shorter⟩ := lexeme.of_prefix (by simpa using quote) first (by simp)
      exact h.not_isLexeme_concat kind'' value'' shorter

theorem HasNoLexeme.of_head {c : Char} {rest : List Char} (h : HasNoLexeme (c :: rest))
    (notQuote : c ≠ '"') (rest' : List Char) : HasNoLexeme (c :: rest') := by
  intro w kind value begins lexeme
  rcases List.prefix_cons_iff.mp begins with rfl | ⟨w, rfl, -⟩
  · exact lexeme.ne_nil rfl
  · have first : [c] <+: c :: w := ⟨w, rfl⟩
    obtain ⟨kind', value', alone⟩ := lexeme.of_prefix (by simpa using notQuote) first (by simp)
    exact h [c] kind' value' ⟨rest, rfl⟩ alone

/-- Texts that part behind `u` have the same first character behind it, if they part later. -/
theorem exists_of_take_eq {α : Type} {u rest text : List α} {n : Nat}
    (agree : (u ++ rest).take n = text.take n) (short : u.length < n) :
    ∃ rest', text = u ++ rest' ∧ rest.head? = rest'.head? := by
  have begins : text.take u.length = u := by
    have first := congrArg (List.take u.length) agree
    rw [List.take_take, List.take_take, Nat.min_eq_left (Nat.le_of_lt short), List.take_left] at first
    exact first.symm
  have behind : rest.take (n - u.length) = (text.drop u.length).take (n - u.length) := by
    have last := congrArg (List.drop u.length) agree
    rwa [List.drop_take, List.drop_take, List.drop_left] at last
  have more : n - u.length ≠ 0 := by omega
  refine ⟨text.drop u.length, ?_, ?_⟩
  · have parts := (List.take_append_drop u.length text).symm
    rwa [begins] at parts
  · have next := congrArg List.head? behind
    rwa [List.head?_take, List.head?_take, if_neg more, if_neg more] at next

/-! ## Where the tokens stand -/

theorem Tiles.first_le {text : List Char} {error : Option Error} {first : Nat}
    {placed : List (Nat × Token)} (h : Tiles text error first placed) :
    ∀ p ∈ placed, first ≤ p.1 := by
  intro p mem
  have increasing := h.increasing
  cases placed with
  | nil => exact absurd mem (by simp)
  | cons q rest =>
    have start : first ≤ q.1 := (h.before q rfl).1
    rcases List.mem_cons.mp mem with rfl | later
    · exact start
    · have less := (List.pairwise_cons.mp increasing).1 p later
      omega

section Munches
variable {filename filename' : String} {place : Position} {text : List Char}
  {tokens tokens' : List Token} {error error' : Option Error} {done : List Char} {offset : Nat}

/-- The first token stands behind the blanks. -/
theorem offset_of_tile {ahead : List Char} (split : text.dropWhile isBlank = ahead)
    (position : (Position.start.after done).after (text.takeWhile isBlank) =
      .ofOffset (done ++ text) offset) (within : offset ≤ (done ++ text).length) :
    offset = (done ++ text.takeWhile isBlank).length := by
  obtain ⟨whole, -, first⟩ := tile_ahead done split
  rw [List.length_append]
  refine Position.eq_of_ofOffset_eq (position.symm.trans first) within ?_
  rw [whole, List.length_append, List.length_append]
  omega

/-- No token stands in what is done. -/
theorem Munches.length_le_offset (h : Munches filename place text tokens error)
    (reached : place = Position.start.after done) {token : Token} (mem : token ∈ tokens)
    (position : token.position = .ofOffset (done ++ text) offset)
    (within : offset ≤ (done ++ text).length) : done.length ≤ offset := by
  obtain ⟨placed, rfl, tiles⟩ := h.exists_tiles done reached
  obtain ⟨p, there, rfl⟩ := List.mem_map.mp mem
  have bound := (tiles.stands p there).length_le
  have same : offset = p.1 := by
    refine Position.eq_of_ofOffset_eq (position.symm.trans (tiles.position p there)) within ?_
    omega
  rw [same]
  exact tiles.first_le p there

theorem Munches.unexpected_append {gap rest : List Char} {c : Char}
    (blanks : ∀ x ∈ gap, isBlank x = true) (visible : isBlank c = false) (notQuote : c ≠ '"')
    (none : HasNoLexeme (c :: rest)) :
    Munches filename place (gap ++ c :: rest) [⟨.error, String.ofList [c], place.after gap⟩]
      (some ⟨.unexpectedCharacter c, filename, place.after gap⟩) := by
  have stop : ∀ x ∈ (c :: rest).head?, isBlank x = false := by
    intro x first
    obtain rfl := Option.some.inj first
    exact visible
  obtain ⟨taken, dropped⟩ := takeWhile_append_of_stop blanks stop
  have last : Munches filename place (gap ++ c :: rest) _ _ := .unexpected dropped notQuote none
  rwa [taken] at last

/-! ## Two texts that part -/

/-- Texts that part behind a lexeme, and not just behind it, have the lexeme in common. -/
theorem exists_behind_of_agree {text' w rest : List Char} {n : Nat}
    (ahead : text.dropWhile isBlank = w ++ rest)
    (agree : (done ++ text).take n = (done ++ text').take n)
    (bound : (done ++ text.takeWhile isBlank ++ w).length < n) :
    ∃ rest', text' = text.takeWhile isBlank ++ (w ++ rest') ∧ rest.head? = rest'.head? := by
  have whole : done ++ text = done ++ text.takeWhile isBlank ++ w ++ rest := by
    rw [(tile_ahead done ahead).1, List.append_assoc _ w]
  rw [whole] at agree
  obtain ⟨rest', split, same⟩ := exists_of_take_eq agree bound
  rw [List.append_assoc, List.append_assoc] at split
  exact ⟨rest', List.append_cancel_left split, same⟩

/-- The induction is on the munching of the first text, and keeps what both have in common of it in
`done`. -/
theorem Munches.getElem?_eq (h : Munches filename place text tokens error)
    (reached : place = Position.start.after done) {text' : List Char}
    (h' : Munches filename' place text' tokens' error') {n : Nat}
    (agree : (done ++ text).take n = (done ++ text').take n) {i : Nat} {token : Token}
    (there : tokens[i]? = some token) (eof : token.kind ≠ .eof)
    (closed : token.kind = .error → error.any (·.fault = .unterminatedString) = false)
    (position : token.position = .ofOffset (done ++ text) offset)
    (within : offset ≤ (done ++ text).length)
    (complete : offset + (spelling error token).length < n) : tokens'[i]? = some token := by
  induction h generalizing done text' tokens' i with
  | eof ahead =>
    obtain rfl := List.mem_singleton.mp (List.mem_of_getElem? there)
    exact absurd rfl eof
  | @lexeme place text w rest value kind tokens error ahead longest more ih =>
    subst reached
    have whole : done ++ text = done ++ text.takeWhile isBlank ++ w ++ rest := by
      rw [(tile_ahead done ahead).1, List.append_assoc _ w]
    have behind : ((Position.start.after done).after (text.takeWhile isBlank)).after w =
        Position.start.after (done ++ text.takeWhile isBlank ++ w) := by
      rw [Position.after_append, Position.after_append]
    have bound : (done ++ text.takeWhile isBlank ++ w).length < n := by
      cases i with
      | zero =>
        obtain rfl := Option.some.inj there
        have first := offset_of_tile ahead position within
        rw [longest.isLexeme.spelling_eq] at complete
        rwa [List.length_append, ← first]
      | succ i =>
        rw [whole] at position within
        have later :=
          more.length_le_offset behind (List.mem_of_getElem? there) position within
        omega
    obtain ⟨rest', rfl, same⟩ := exists_behind_of_agree ahead agree bound
    have agree' : (done ++ text.takeWhile isBlank ++ w ++ rest).take n =
        (done ++ text.takeWhile isBlank ++ w ++ rest').take n := by
      rw [← whole, agree, List.append_assoc, List.append_assoc]
    rw [whole] at position within
    obtain ⟨tokens'', rfl, more'⟩ := h'.lexeme_tail mem_takeWhile (longest.of_head same)
    cases i with
    | zero => exact there
    | succ i => exact ih behind more' agree' there closed position within complete
  | unterminated =>
    obtain rfl := List.mem_singleton.mp (List.mem_of_getElem? there)
    exact absurd (closed rfl) (by simp)
  | @unexpected place text rest c ahead notQuote none =>
    subst reached
    obtain rfl := List.mem_singleton.mp (List.mem_of_getElem? there)
    have bound : (done ++ text.takeWhile isBlank ++ [c]).length < n := by
      have first := offset_of_tile ahead position within
      simp only [spelling, Option.any_some, decide_eq_true_eq, reduceCtorEq, if_false,
        String.toList_ofList] at complete
      rwa [List.length_append, ← first]
    obtain ⟨rest', rfl, -⟩ := exists_behind_of_agree ahead agree bound
    have visible := Scanner.head_dropWhile_isBlank ahead
    have alone : HasNoLexeme (c :: rest') := none.of_head notQuote rest'
    obtain ⟨rfl, -⟩ := h'.unique (.unexpected_append mem_takeWhile visible notQuote alone)
    exact there

end Munches

/-- **A token that is complete stays as it is** when the text is changed further on, but for the
character just behind the token. The end of a text and a string without an end are never complete. -/
theorem stream_stable (filename filename' first second : String) (n : Nat)
    (agree : first.toList.take n = second.toList.take n) :
    ∃ placed, placed.map Prod.snd = stream filename first ∧
      Tiles first.toList (error? filename first) 0 placed ∧
      ∀ (i offset : Nat) (token : Token), placed[i]? = some (offset, token) → token.kind ≠ .eof →
        (token.kind = .error →
          (error? filename first).any (·.fault = .unterminatedString) = false) →
        offset + (spelling (error? filename first) token).length < n →
        (stream filename' second)[i]? = some token := by
  have munches := munches_stream filename first
  obtain ⟨placed, same, tiles⟩ := munches.exists_tiles [] rfl
  refine ⟨placed, same, tiles, ?_⟩
  intro i offset token there eof closed complete
  have mem := List.mem_of_getElem? there
  have within := (tiles.stands _ mem).length_le
  have given : (stream filename first)[i]? = some token := by
    rw [← same, List.getElem?_map, there]
    rfl
  have reached : Position.start = Position.start.after [] := rfl
  exact munches.getElem?_eq reached (munches_stream filename' second) agree given eof closed
    (tiles.position _ mem) (Nat.le_of_add_right_le within) complete

/-- The second text has no end to its last string, and all the same the first one is complete. -/
theorem stream_stable_string :
    "x \"a\" b".toList.take 6 = "x \"a\" \"b".toList.take 6 ∧
      (stream "f" "x \"a\" b")[1]? = some ⟨.string, "a", ⟨1, 3⟩⟩ ∧
      (stream "g" "x \"a\" \"b")[1]? = some ⟨.string, "a", ⟨1, 3⟩⟩ := by
  have agree : "x \"a\" b".toList.take 6 = "x \"a\" \"b".toList.take 6 := by decide
  have given : (stream "f" "x \"a\" b")[1]? = some ⟨.string, "a", ⟨1, 3⟩⟩ := by decide +kernel
  obtain ⟨placed, same, tiles, stable⟩ := stream_stable "f" "g" "x \"a\" b" "x \"a\" \"b" 6 agree
  have there := given
  rw [← same, List.getElem?_map] at there
  obtain ⟨⟨offset, token⟩, there, rfl⟩ := Option.map_eq_some_iff.mp there
  have mem := List.mem_of_getElem? there
  have within := (tiles.stands _ mem).length_le
  have second : Position.ofOffset "x \"a\" b".toList offset =
      Position.ofOffset "x \"a\" b".toList 2 := (tiles.position _ mem).symm
  obtain rfl := Position.eq_of_ofOffset_eq second (Nat.le_of_add_right_le within) (by decide)
  exact ⟨agree, given, stable 1 2 _ there (by simp) (by simp) (by decide +kernel)⟩

end AssignLang.Lexical
