import AssignLang.Lexical.Head
import AssignLang.Proofs.Lexical.Longest
import AssignLang.Proofs.Position

/-! What a reading head does that stands where it should. Such a head is told by three runs of
characters that make up the text: those it has left behind, those of the piece that is being read, and
those ahead (`between`). On it no move is refused, and each equation below says which characters move
where. Main statements: a step back undoes the read before it, also at the end of the text
(`back_concat`, `back_nil`), and cutting is never more than the counters can tell, if they can tell the
bytes of the text (`cut_between`). -/
namespace AssignLang.Lexical
set_option autoImplicit false

/-- The bytes of a run of characters. -/
def bytes (text : List Char) : Nat :=
  (String.ofList text).utf8ByteSize

@[simp] theorem bytes_append (l m : List Char) : bytes (l ++ m) = bytes l + bytes m := by
  rw [bytes, String.ofList_append, String.utf8ByteSize_append, bytes, bytes]

@[simp] theorem bytes_singleton (c : Char) : bytes [c] = c.utf8Size := by
  rw [bytes, ← String.singleton_eq_ofList, String.utf8ByteSize_singleton]

theorem length_le_bytes (text : List Char) : text.length ≤ bytes text := by
  induction text with
  | nil => exact Nat.zero_le _
  | cons c rest ih =>
    have pos := c.utf8Size_pos
    rw [← List.singleton_append, bytes_append, bytes_singleton, List.length_append,
      List.length_singleton]
    omega

/-! ## Positions between two runs of characters -/

section Split
variable {text : String} {l m n : List Char} {i j : Nat}

theorem isValid_of_eq_append (whole : text = .ofList (l ++ m)) (offset : i = bytes l) :
    (⟨i⟩ : String.Pos.Raw).IsValid text := by
  rw [String.Pos.Raw.isValid_iff_exists_append]
  exact ⟨.ofList l, .ofList m, whole.trans String.ofList_append, congrArg String.Pos.Raw.mk offset⟩

theorem splits_of_eq_append (whole : text = .ofList (l ++ m)) (offset : i = bytes l)
    (valid : (⟨i⟩ : String.Pos.Raw).IsValid text) :
    (text.pos ⟨i⟩ valid).Splits (.ofList l) (.ofList m) where
  eq_append := whole.trans String.ofList_append
  offset_eq_rawEndPos := congrArg String.Pos.Raw.mk offset

theorem get?_of_eq_append (whole : text = .ofList (l ++ m)) (offset : i = bytes l)
    (valid : (⟨i⟩ : String.Pos.Raw).IsValid text) : (text.pos ⟨i⟩ valid).get? = m.head? := by
  have splits := splits_of_eq_append whole offset valid
  rw [String.Pos.get?_eq_dif]
  cases m with
  | nil => rw [dif_pos (splits.eq_endPos_iff.mpr rfl), List.head?_nil]
  | cons c rest =>
    have cons : String.ofList (c :: rest) = String.singleton c ++ String.ofList rest := by
      rw [String.singleton_eq_ofList, ← String.ofList_append, List.singleton_append]
    rw [cons] at splits
    rw [dif_neg splits.ne_endPos_of_singleton, splits.next.get_eq_of_singleton, List.head?_cons]

theorem extract_of_eq_append (whole : text = .ofList (l ++ (m ++ n))) (first : i = bytes l)
    (last : j = bytes (l ++ m)) (valid : (⟨i⟩ : String.Pos.Raw).IsValid text)
    (valid' : (⟨j⟩ : String.Pos.Raw).IsValid text) :
    text.extract (text.pos ⟨i⟩ valid) (text.pos ⟨j⟩ valid') = .ofList m := by
  have before := splits_of_eq_append whole first valid
  have behind := splits_of_eq_append (whole.trans (by rw [List.append_assoc])) last valid'
  rw [String.ofList_append] at before behind
  obtain ⟨ordered, copied⟩ := String.copy_slice_eq_iff_splits.mpr ⟨_, _, before, behind⟩
  rw [String.extract_eq_copy_slice _ _ ordered, copied]

end Split

namespace Head

/-- The head that has left `done` behind and reads `window`, with `ahead` still to come. -/
def between (limit : Nat) (done window ahead : List Char) (width : Option Nat) : Head where
  text := .ofList (done ++ (window ++ ahead))
  limit := limit
  start := bytes done
  offset := bytes (done ++ window)
  width := width
  place := Position.start.after done

theorem ofText_eq_between (limit : Nat) (text : String) :
    ofText limit text = between limit [] [] text.toList none := by
  rw [between, List.nil_append, List.nil_append, String.ofList_toList]
  rfl

section Between
variable {limit : Nat} {done window ahead : List Char} {width : Option Nat} {c : Char}

/-! ## Single moves -/

theorem read_of_eq_append {h : Head} {before : List Char} (whole : h.text = .ofList (before ++ ahead))
    (offset : h.offset = bytes before) :
    h.read = .ok (ahead.head?, { h with
      offset := h.offset + ahead.head?.elim 0 Char.utf8Size
      width := some (ahead.head?.elim 0 Char.utf8Size) }) := by
  rw [read, dif_pos (isValid_of_eq_append whole offset)]
  simp only [get?_of_eq_append whole offset]
  cases ahead <;> rfl

theorem read_cons : (between limit done window (c :: ahead) width).read =
    .ok (some c, between limit done (window ++ [c]) ahead (some c.utf8Size)) := by
  have whole : (between limit done window (c :: ahead) width).text =
      .ofList ((done ++ window) ++ c :: ahead) := by rw [List.append_assoc, between]
  rw [read_of_eq_append whole rfl]
  simp [between, Nat.add_assoc]

theorem read_nil : (between limit done window [] width).read =
    .ok (none, between limit done window [] (some 0)) := by
  have whole : (between limit done window [] width).text = .ofList ((done ++ window) ++ []) := by
    rw [List.append_assoc, between]
  rw [read_of_eq_append whole rfl]
  rfl

theorem back_concat : (between limit done (window ++ [c]) ahead (some c.utf8Size)).back =
    .ok (between limit done window (c :: ahead) none) := by
  simp only [back, between, bytes_append, bytes_singleton]
  rw [if_pos (by omega)]
  simp [← Nat.add_assoc]

theorem back_nil : (between limit done window [] (some 0)).back =
    .ok (between limit done window [] none) := by
  simp [back, between]

theorem window_of_eq_append {h : Head} (whole : h.text = .ofList (done ++ (window ++ ahead)))
    (start : h.start = bytes done) (offset : h.offset = bytes (done ++ window)) :
    h.window = .ok (.ofList window) := by
  have first := isValid_of_eq_append whole start
  have last := isValid_of_eq_append (whole.trans (by rw [List.append_assoc])) offset
  have ordered : h.start ≤ h.offset := by simp [start, offset]
  rw [Head.window, dif_pos ⟨first, last, ordered⟩, extract_of_eq_append whole start offset]

theorem window_between : (between limit done window ahead width).window = .ok (.ofList window) :=
  window_of_eq_append rfl rfl rfl

theorem foldlM_count (fits : bytes (done ++ window) < limit) :
    window.foldlM (count limit) (Position.start.after done) =
      .ok (Position.start.after (done ++ window)) := by
  induction window generalizing done with
  | nil => rw [List.append_nil]; rfl
  | cons c rest ih =>
    have counted : count limit (Position.start.after done) c =
        .ok (Position.start.after (done ++ [c])) := by
      have bound := Position.start_after_le (done ++ [c])
      have length := length_le_bytes (done ++ c :: rest)
      rw [Position.after_concat] at bound ⊢
      simp only [List.length_append, List.length_cons, List.length_nil] at bound length
      exact if_pos ⟨by omega, by omega⟩
    rw [List.append_cons] at fits ⊢
    rw [List.foldlM_cons, counted]
    exact ih fits

theorem cut_between (fits : bytes (done ++ window) < limit) :
    (between limit done window ahead width).cut =
      .ok (between limit (done ++ window) [] ahead width) := by
  have counted := foldlM_count fits
  rw [cut, window_between]
  change (String.ofList window).toList.foldlM (count limit) (Position.start.after done) >>= _ = _
  rw [String.toList_ofList, counted]
  simp [between, bind, Except.bind, pure, Except.pure]

/-! ## Reading on -/

section Reading
variable {p : Char → Bool}

theorem accept_pos (wished : p c = true) : (between limit done window (c :: ahead) width).accept p =
    .ok (true, between limit done (window ++ [c]) ahead (some c.utf8Size)) := by
  simp only [accept, read_cons, Option.any_some, wished, if_true]

/-- What is not as wished is given back, the end of the text too. -/
theorem accept_neg (other : ahead.head?.any p = false) :
    (between limit done window ahead width).accept p =
      .ok (false, between limit done window ahead none) := by
  cases ahead with
  | nil =>
    simp only [accept, read_nil, Option.any_none, Bool.false_eq_true, if_false, back_nil]
    rfl
  | cons c rest =>
    rw [List.head?_cons, Option.any_some] at other
    simp only [accept, read_cons, Option.any_some, other, Bool.false_eq_true, if_false, back_concat]
    rfl

theorem acceptRun_of_accept {h next : Head} {again : Bool} (accepted : h.accept p = .ok (again, next)) :
    h.acceptRun p = if again then next.acceptRun p else .ok next := by
  rw [acceptRun]
  split <;> simp_all

theorem acceptRun_between : (between limit done window ahead width).acceptRun p =
    .ok (between limit done (window ++ ahead.takeWhile p) (ahead.dropWhile p) none) := by
  induction ahead generalizing window width with
  | nil =>
    rw [acceptRun_of_accept (accept_neg (by simp)), if_neg Bool.false_ne_true, List.takeWhile_nil,
      List.append_nil, List.dropWhile_nil]
  | cons c rest ih =>
    cases wished : p c with
    | true =>
      rw [acceptRun_of_accept (accept_pos wished), if_pos rfl, ih, List.takeWhile_cons_of_pos wished,
        List.dropWhile_cons_of_pos wished, List.append_assoc, List.singleton_append]
    | false =>
      have other : ¬ p c = true := by simp [wished]
      rw [acceptRun_of_accept (accept_neg (by simpa using wished)), if_neg Bool.false_ne_true,
        List.takeWhile_cons_of_neg other, List.dropWhile_cons_of_neg other, List.append_nil]

end Reading

theorem readNumber_point {rest : List Char} (point : ahead.dropWhile isDigit = '.' :: rest) :
    (between limit done window ahead width).readNumber =
      .ok (between limit done (window ++ ahead.takeWhile isDigit ++ '.' :: rest.takeWhile isDigit)
        (rest.dropWhile isDigit) none) := by
  rw [readNumber, acceptRun_between, point]
  change (accept _ _ >>= _) = _
  rw [accept_pos (by simp)]
  change acceptRun _ _ = _
  rw [acceptRun_between, List.append_assoc, List.append_assoc, List.singleton_append, List.append_assoc]

theorem readNumber_whole (whole : (ahead.dropWhile isDigit).head? ≠ some '.') :
    (between limit done window ahead width).readNumber =
      .ok (between limit done (window ++ ahead.takeWhile isDigit) (ahead.dropWhile isDigit) none) := by
  rw [readNumber, acceptRun_between]
  change (accept _ _ >>= _) = _
  rw [accept_neg]
  · rfl
  · cases next : (ahead.dropWhile isDigit).head? with
    | none => rfl
    | some c => simpa [next] using whole

/-! ## Strings -/

theorem readBody_of_read {h next : Head} (read : h.read = .ok (some c, next)) :
    h.readBody = if c = '"' then .ok (true, next)
      else if c = '\\' then next.read >>= fun escaped => escaped.2.readBody else next.readBody := by
  rw [readBody]
  split
  next => simp_all
  next => simp_all
  next d after found =>
    obtain ⟨rfl, rfl⟩ : d = c ∧ after = next := by simp_all
    split
    · rfl
    split
    · split <;> simp_all [bind, Except.bind]
    · rfl

theorem readBody_nil : (between limit done window [] width).readBody =
    .ok (false, between limit done window [] (some 0)) := by
  rw [readBody]
  split <;> simp_all [read_nil]

theorem readBody_append {body : List Char} (h : IsBody body) :
    (between limit done window (body ++ '"' :: ahead) width).readBody =
      .ok (true, between limit done (window ++ body ++ ['"']) ahead (some ('"').utf8Size)) := by
  induction h generalizing window width with
  | nil => rw [List.nil_append, readBody_of_read read_cons, if_pos rfl, List.append_nil]
  | plain notQuote notBackslash _ ih =>
    rw [List.cons_append, readBody_of_read read_cons, if_neg notQuote, if_neg notBackslash, ih]
    simp
  | escape c _ ih =>
    rw [List.cons_append, List.cons_append, readBody_of_read read_cons, if_neg (by decide),
      if_pos rfl, read_cons]
    refine ih.trans ?_
    simp

theorem readBody_open (h : bodyLength? ahead = none) :
    (between limit done window ahead width).readBody =
      .ok (false, between limit done (window ++ ahead) [] (some 0)) := by
  fun_induction bodyLength? ahead generalizing window width with
  | case1 => rw [readBody_nil, List.append_nil]
  | case2 => exact absurd h (by simp)
  | case3 c rest ih =>
    rw [readBody_of_read read_cons, if_neg (by decide), if_pos rfl, read_cons]
    refine (ih (Option.map_eq_none_iff.mp h)).trans ?_
    simp
  | case4 c rest notQuote notPair ih =>
    rw [readBody_of_read read_cons, if_neg notQuote]
    split
    next backslash =>
      -- Behind the last backslash the end of the text is read twice.
      cases rest with
      | nil =>
        rw [read_nil]
        exact readBody_nil
      | cons d tail => exact absurd rfl (notPair d tail backslash)
    next =>
      refine (ih (Option.map_eq_none_iff.mp h)).trans ?_
      simp

end Between
end Head
end AssignLang.Lexical
