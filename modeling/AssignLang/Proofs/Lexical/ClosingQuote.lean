import AssignLang.Proofs.Lexical.Poised
import AssignLang.Proofs.Position
import Mathlib.Order.Nat

/-! Where a string ends. The scanner goes through a string from its opening quote on and takes the
character behind a backslash with it; looked at from a quote further on, what counts is whether the
backslashes right before it are even in number. Both find the same quote (`bodyLength?_eq_some_iff`).
Main statement: wherever a string begins it ends at the first quote that closes it, or else with the
text (`string_ends`). -/
namespace AssignLang.Lexical
set_option autoImplicit false

/-! ## Backslashes before a quote -/

/-- The backslashes at the end of a text, up to the last other character. -/
def trailingBackslashes (text : List Char) : Nat :=
  (text.reverse.takeWhile (· = '\\')).length

/-- There is a quote at this offset, with an even number of backslashes right before it. The text
begins behind the opening quote, so no backslash before that one is counted. -/
def Closes (text : List Char) (offset : Nat) : Prop :=
  text[offset]? = some '"' ∧ trailingBackslashes (text.take offset) % 2 = 0

theorem trailingBackslashes_cons (c : Char) (text : List Char) :
    trailingBackslashes (c :: text) =
      if c = '\\' ∧ trailingBackslashes text = text.length then text.length + 1
      else trailingBackslashes text := by
  unfold trailingBackslashes
  rw [List.reverse_cons, List.takeWhile_append, List.length_reverse]
  by_cases all : (text.reverse.takeWhile (· = '\\')).length = text.length
  · by_cases backslash : c = '\\'
    · simp [all, backslash]
    · simp [all, backslash]
  · simp [all]

theorem trailingBackslashes_le (text : List Char) : trailingBackslashes text ≤ text.length := by
  rw [← List.length_reverse]
  exact (List.takeWhile_sublist _).length_le

theorem trailingBackslashes_plain {c : Char} (plain : c ≠ '\\') (text : List Char) :
    trailingBackslashes (c :: text) = trailingBackslashes text := by
  rw [trailingBackslashes_cons, if_neg (by simp [plain])]

/-- A backslash and the character behind it leave even what is even. -/
theorem trailingBackslashes_pair (c : Char) (text : List Char) :
    trailingBackslashes ('\\' :: c :: text) % 2 = trailingBackslashes text % 2 := by
  have short := trailingBackslashes_le text
  rw [trailingBackslashes_cons, trailingBackslashes_cons c, List.length_cons]
  by_cases whole : c = '\\' ∧ trailingBackslashes text = text.length
  · rw [if_pos whole, if_pos ⟨rfl, rfl⟩]
    omega
  · rw [if_neg whole, if_neg (by omega)]

/-! ## The first quote that closes -/

theorem not_closes_nil (n : Nat) : ¬ Closes [] n := by
  simp [Closes]

theorem closes_quote (rest : List Char) : Closes ('"' :: rest) 0 :=
  ⟨rfl, rfl⟩

theorem not_closes_zero {c : Char} (notQuote : c ≠ '"') (rest : List Char) :
    ¬ Closes (c :: rest) 0 := by
  simp [Closes, notQuote]

theorem closes_plain_iff {c : Char} (plain : c ≠ '\\') (rest : List Char) (n : Nat) :
    Closes (c :: rest) (n + 1) ↔ Closes rest n := by
  rw [Closes, Closes, List.getElem?_cons_succ, List.take_succ_cons, trailingBackslashes_plain plain]

theorem not_closes_escaped (c : Char) (rest : List Char) : ¬ Closes ('\\' :: c :: rest) 1 := by
  rintro ⟨-, even⟩
  exact absurd (show 1 % 2 = 0 from even) (by decide)

theorem closes_pair_iff (c : Char) (rest : List Char) (n : Nat) :
    Closes ('\\' :: c :: rest) (n + 2) ↔ Closes rest n := by
  rw [Closes, Closes, List.getElem?_cons_succ, List.getElem?_cons_succ, List.take_succ_cons,
    List.take_succ_cons, trailingBackslashes_pair]

/-- Where nothing closes up to some point, the first quote that closes is found behind it. -/
theorem isLeast_closes_iff {text rest : List Char} {k n : Nat} (none : ∀ m < k, ¬ Closes text m)
    (behind : ∀ m, Closes text (m + k) ↔ Closes rest m) :
    IsLeast {m | Closes text m} n ↔ ∃ m, IsLeast {m | Closes rest m} m ∧ m + k = n := by
  constructor
  · rintro ⟨closes, least⟩
    have late : k ≤ n := Nat.le_of_not_lt fun early => none n early closes
    obtain ⟨m, rfl⟩ := Nat.exists_eq_add_of_le' late
    refine ⟨m, ⟨(behind m).mp closes, fun j closes' => ?_⟩, rfl⟩
    exact Nat.le_of_add_le_add_right (least ((behind j).mpr closes'))
  · rintro ⟨m, ⟨closes, least⟩, rfl⟩
    refine ⟨(behind m).mpr closes, fun j closes' => ?_⟩
    have late : k ≤ j := Nat.le_of_not_lt fun early => none j early closes'
    obtain ⟨i, rfl⟩ := Nat.exists_eq_add_of_le' late
    exact Nat.add_le_add_right (least ((behind i).mp closes')) k

/-- The scan from the left goes as far as the first quote that closes. -/
theorem bodyLength?_eq_some_iff {text : List Char} {n : Nat} :
    bodyLength? text = some n ↔ IsLeast {m | Closes text m} n := by
  fun_induction bodyLength? text generalizing n with
  | case1 => exact iff_of_false (by simp) fun h => not_closes_nil n h.1
  | case2 rest =>
    constructor
    · intro h
      obtain rfl := Option.some.inj h
      exact ⟨closes_quote rest, fun m _ => Nat.zero_le m⟩
    · intro h
      rw [Nat.le_zero.mp (h.2 (closes_quote rest))]
  | case3 c rest ih =>
    have early : ∀ m < 2, ¬ Closes ('\\' :: c :: rest) m := by
      intro m below
      rcases Nat.le_one_iff_eq_zero_or_eq_one.mp (Nat.le_of_lt_succ below) with rfl | rfl
      · exact not_closes_zero (by decide) _
      · exact not_closes_escaped c rest
    simp only [Option.map_eq_some_iff, ih, isLeast_closes_iff early (closes_pair_iff c rest)]
  | case4 c rest notQuote notPair ih =>
    have early : ∀ m < 1, ¬ Closes (c :: rest) m := by
      intro m below
      rw [Nat.lt_one_iff.mp below]
      exact not_closes_zero notQuote rest
    have behind (m : Nat) : Closes (c :: rest) (m + 1) ↔ Closes rest m := by
      by_cases plain : c = '\\'
      -- A backslash that takes nothing with it is the last character of the text.
      · cases rest with
        | nil => exact iff_of_false (by simp [Closes]) (not_closes_nil m)
        | cons d rest => exact absurd rfl (notPair d rest plain)
      · exact closes_plain_iff plain rest m
    simp only [Option.map_eq_some_iff, ih, isLeast_closes_iff early behind]

theorem bodyLength?_eq_none_iff {text : List Char} :
    bodyLength? text = none ↔ ∀ n, ¬ Closes text n := by
  classical
  constructor
  · intro open_ n closes
    have least := Nat.isLeast_find (p := Closes text) ⟨n, closes⟩
    rw [bodyLength?_eq_some_iff.mpr least] at open_
    exact absurd open_ (by simp)
  · intro none
    rw [Option.eq_none_iff_forall_ne_some]
    intro n found
    exact none n (bodyLength?_eq_some_iff.mp found).1

/-! ## Where strings begin -/

namespace Scanner

/-- The scanners that the runs of `step` come to on a text, the first one included. -/
inductive Reached (filename text : String) : Scanner → Prop
  | first : Reached filename text (ofText filename text)
  | step {s : Scanner} (reached : Reached filename text s) : Reached filename text s.step.2

/-- No run of `step` renames the file, and one that keeps an error is the last. -/
theorem clear_step {s : Scanner} (clear : s.mode ≠ .done → s.error = none) :
    s.step.2.filename = s.filename ∧ (s.step.2.mode ≠ .done → s.step.2.error = none) := by
  unfold step
  split
  next mode =>
    have none := clear (by simp [mode])
    unfold root
    dsimp only
    split
    · exact ⟨rfl, nofun⟩
    next c rest ahead =>
      split
      · exact ⟨rfl, fun _ => none⟩
      split
      · exact ⟨rfl, fun _ => none⟩
      split
      · exact ⟨rfl, fun _ => none⟩
      split
      · exact ⟨rfl, fun _ => none⟩
      split
      · exact ⟨rfl, fun _ => none⟩
      · exact ⟨rfl, nofun⟩
  next mode =>
    have none := clear (by simp [mode])
    unfold quoted
    split
    · exact ⟨rfl, fun _ => none⟩
    · exact ⟨rfl, nofun⟩
  next mode => exact ⟨rfl, fun _ => clear (by simp [mode])⟩
  next mode => exact ⟨rfl, fun _ => clear (by simp [mode])⟩
  next => exact ⟨rfl, clear⟩

/-- A scanner that is in the root is between two tokens, or before the first. -/
theorem Reached.exists_between {filename text : String} {s : Scanner}
    (h : Reached filename text s) (root : s.mode = .root) :
    ∃ done, text.toList = done ++ s.cursor.ahead ∧
      s = between filename s.anchor (Position.start.after done) s.cursor.ahead := by
  have kept : (∃ done, s.Poised text.toList done) ∧ s.filename = filename ∧
      (s.mode ≠ .done → s.error = none) := by
    clear root
    induction h with
    | first => exact ⟨⟨[], poised_ofText filename text⟩, rfl, fun _ => rfl⟩
    | @step s _ ih =>
      obtain ⟨⟨done, poised⟩, name, clear⟩ := ih
      obtain ⟨same, clear'⟩ := clear_step clear
      obtain ⟨taken, poised'⟩ := poised.step
      exact ⟨⟨done ++ taken, poised'⟩, same.trans name, clear'⟩
  obtain ⟨⟨done, poised⟩, name, clear⟩ := kept
  have none := clear (by simp [root])
  have whole := poised.whole
  have place := poised.place
  have window := poised.window
  obtain ⟨filename', ⟨window', ahead, place'⟩, anchor, mode, error⟩ := s
  subst name root none place window
  exact ⟨done, whole.symm, rfl⟩

end Scanner

/-- **A string ends at the first quote behind an even number of backslashes**, wherever it begins. -/
theorem string_ends (filename text : String) {s : Scanner} (reached : s.Reached filename text)
    (root : s.mode = .root) {behind : List Char} (opens : s.cursor.ahead = '"' :: behind) :
    ∃ before, text.toList = before ++ '"' :: behind ∧
      (∀ n, IsLeast {m | Closes behind m} n →
        s.next = (some ⟨.string, String.ofList (behind.take n), .ofOffset text.toList before.length⟩,
          .between filename (.ofOffset text.toList before.length)
            (.ofOffset text.toList (before.length + n + 2)) (behind.drop (n + 1)))) ∧
      ((∀ n, ¬ Closes behind n) →
        s.next = (some ⟨.error, String.ofList behind, .ofOffset text.toList before.length⟩,
          .ended filename (.ofOffset text.toList before.length)
            (.ofOffset text.toList text.toList.length) []
            (some ⟨.unterminatedString, filename, .ofOffset text.toList before.length⟩)) ∧
        s.next.2.next = (none, s.next.2)) := by
  obtain ⟨before, whole, stands⟩ := reached.exists_between root
  rw [opens] at whole stands
  have place : Position.start.after before = .ofOffset text.toList before.length := by
    rw [Position.ofOffset_eq, whole, List.take_left]
  refine ⟨before, whole, fun n first => ?_, fun none => ?_⟩
  · obtain ⟨body, after, rfl, isBody, rfl⟩ :=
      exists_body_of_bodyLength? (bodyLength?_eq_some_iff.mpr first)
    have ended : Position.start.after (before ++ '"' :: (body ++ ['"'])) =
        .ofOffset text.toList (before.length + body.length + 2) := by
      have split : text.toList = (before ++ '"' :: (body ++ ['"'])) ++ after := by simp [whole]
      have length : (before ++ '"' :: (body ++ ['"'])).length = before.length + body.length + 2 := by
        simp [Nat.add_assoc]
      rw [Position.ofOffset_eq, split, List.take_left' length]
    rw [stands, Scanner.next_string isBody, ← Position.after_append, ended, place]
    simp
  · have given := Scanner.next_open (bodyLength?_eq_none_iff.mpr none) filename s.anchor
      (Position.start.after before)
    rw [← stands, ← Position.after_append, ← whole, place] at given
    rw [given, Position.ofOffset_eq, Position.ofOffset_eq, List.take_length]
    exact ⟨rfl, Scanner.next_of_done rfl⟩

/-- Two backslashes before a quote leave it to close, and a single one does not. -/
theorem string_ends_pair :
    ∃ s t : Scanner, s.Reached "f" "\"é\\\\\"\"c\\\"" ∧ t.Reached "f" "\"é\\\\\"\"c\\\"" ∧
      s.cursor.ahead = '"' :: "é\\\\\"\"c\\\"".toList ∧ t.cursor.ahead = '"' :: "c\\\"".toList ∧
      s.next.1 = some ⟨.string, "é\\\\", ⟨1, 1⟩⟩ ∧
      t.next.1 = some ⟨.error, "c\\\"", ⟨1, 6⟩⟩ ∧ t.next.2.next = (none, t.next.2) := by
  obtain ⟨s, reached, root, opens⟩ : ∃ s, Scanner.Reached "f" "\"é\\\\\"\"c\\\"" s ∧
      s.mode = .root ∧ s.cursor.ahead = '"' :: "é\\\\\"\"c\\\"".toList :=
    ⟨_, .first, rfl, rfl⟩
  obtain ⟨t, reached', root', opens'⟩ : ∃ t, Scanner.Reached "f" "\"é\\\\\"\"c\\\"" t ∧
      t.mode = .root ∧ t.cursor.ahead = '"' :: "c\\\"".toList :=
    ⟨_, .step (.step .first), by decide +kernel, by decide +kernel⟩
  have first : IsLeast {m | Closes "é\\\\\"\"c\\\"".toList m} 3 :=
    bodyLength?_eq_some_iff.mp (by decide +kernel)
  have none : ∀ n, ¬ Closes "c\\\"".toList n := bodyLength?_eq_none_iff.mp (by decide +kernel)
  obtain ⟨before, whole, closed, -⟩ := string_ends "f" _ reached root opens
  obtain ⟨before', whole', -, ends⟩ := string_ends "f" _ reached' root' opens'
  have length : before.length = 0 := by simpa using congrArg List.length whole
  have length' : before'.length = 5 := by simpa using congrArg List.length whole'
  obtain ⟨given, nothing⟩ := ends none
  refine ⟨s, t, reached, reached', opens, opens', ?_, ?_, nothing⟩
  · rw [closed 3 first, length]
    decide +kernel
  · rw [given, length']
    decide +kernel

end AssignLang.Lexical
