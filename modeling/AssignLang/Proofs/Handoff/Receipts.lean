import AssignLang.Proofs.Handoff.Cause

/-! What came to pass in the course of a run, and which tokens were received in it. A move and what
holds after it are looked up in the run move by move (`passes_concat_self`, `passes_append`). Main
statement: whatever a consumer asks for, the tokens of its log are the tokens that the run delivers
(`Performs.brings`). -/
namespace AssignLang.Handoff.State
open Lexical (Scanner)
set_option autoImplicit false

/-! ## What comes to pass in a run -/

/-- In the course of the moves this one was made, and this held after it. -/
def Passes (s₀ : State) (moves : List Move) (m : Move) (Q : State → Prop) : Prop :=
  ∃ first s, first ++ [m] <+: moves ∧ s₀.fireAll? (first ++ [m]) = some s ∧ Q s

theorem delivers_iff {s₀ : State} {moves : List Move} {token : Token} :
    s₀.Delivers moves token ↔ s₀.Passes moves .take (·.token? = some token) :=
  Iff.rfl

section Passes
variable {s₀ s : State} {moves first last : List Move} {m x : Move} {Q : State → Prop}

theorem not_passes_nil : ¬ s₀.Passes [] m Q := by
  rintro ⟨first, s, begins, -⟩
  exact absurd (List.prefix_nil.mp begins) (by simp)

theorem Passes.mono (h : s₀.Passes moves m Q) {moves' : List Move} (longer : moves <+: moves') :
    s₀.Passes moves' m Q := by
  obtain ⟨first, s, begins, reached, holds⟩ := h
  exact ⟨first, s, begins.trans longer, reached, holds⟩

theorem passes_concat_of_ne (other : x ≠ m) :
    s₀.Passes (moves ++ [x]) m Q ↔ s₀.Passes moves m Q := by
  constructor
  · rintro ⟨first, s, begins, reached, holds⟩
    rcases List.prefix_concat_iff.mp begins with whole | begins
    · obtain ⟨-, same⟩ := List.append_inj' whole rfl
      exact absurd (List.singleton_inj.mp same).symm other
    · exact ⟨first, s, begins, reached, holds⟩
  · intro h
    exact h.mono (List.prefix_append _ _)

theorem passes_concat_self (run : s₀.fireAll? (moves ++ [m]) = some s) :
    s₀.Passes (moves ++ [m]) m Q ↔ s₀.Passes moves m Q ∨ Q s := by
  constructor
  · rintro ⟨first, s', begins, reached, holds⟩
    rcases List.prefix_concat_iff.mp begins with whole | begins
    · rw [whole] at reached
      obtain rfl := Option.some.inj (reached.symm.trans run)
      exact .inr holds
    · exact .inl ⟨first, s', begins, reached, holds⟩
  · rintro (h | holds)
    · exact h.mono (List.prefix_append _ _)
    · exact ⟨moves, s, List.prefix_rfl, run, holds⟩

/-- What comes to pass in a run of two parts comes to pass in one of them. -/
theorem passes_append {s' : State} (run : s₀.fireAll? first = some s)
    (more : s.fireAll? last = some s') :
    s₀.Passes (first ++ last) m Q ↔ s₀.Passes first m Q ∨ s.Passes last m Q := by
  refine fireAll?_induction (P := fun later _ =>
    s₀.Passes (first ++ later) m Q ↔ s₀.Passes first m Q ∨ s.Passes later m Q) more ?_ ?_
  · rw [List.append_nil, or_iff_left not_passes_nil]
  · intro later t x t' reached known fired
    have there : s.fireAll? (later ++ [x]) = some t' := fireAll?_concat reached fired
    have whole : s₀.fireAll? ((first ++ later) ++ [x]) = some t' :=
      fireAll?_concat (fireAll?_trans run reached) fired
    rw [← List.append_assoc]
    by_cases same : x = m
    · subst same
      rw [passes_concat_self whole, passes_concat_self there, known, or_assoc]
    · rw [passes_concat_of_ne same, passes_concat_of_ne same, known]

end Passes

/-! ## The tokens that a run delivers -/

/-- Some run leads from the one state to the other, and the tokens received in it are those of the
log. -/
def Brings (log : List (Option Token)) (s s' : State) : Prop :=
  ∃ moves, s.fireAll? moves = some s' ∧ ∀ token, s.Delivers moves token ↔ some token ∈ log

section Brings
variable {s s' s'' : State} {m : Move} {log log' : List (Option Token)}

theorem Brings.refl (s : State) : s.Brings [] s :=
  ⟨[], rfl, fun _ => iff_of_false not_passes_nil (by simp)⟩

theorem Brings.trans (h : s.Brings log s') (h' : s'.Brings log' s'') :
    s.Brings (log ++ log') s'' := by
  obtain ⟨first, run, given⟩ := h
  obtain ⟨last, more, given'⟩ := h'
  refine ⟨first ++ last, fireAll?_trans run more, fun token => ?_⟩
  rw [delivers_iff, passes_append run more, List.mem_append]
  exact or_congr (given token) (given' token)

theorem Brings.congr (h : s.Brings log s') (same : ∀ token, some token ∈ log ↔ some token ∈ log') :
    s.Brings log' s' := by
  obtain ⟨moves, run, given⟩ := h
  exact ⟨moves, run, fun token => (given token).trans (same token)⟩

theorem brings_of_fire? (fired : s.fire? m = some s') (other : m ≠ .take) : s.Brings [] s' := by
  refine ⟨[m], (fireAll?_singleton s m).trans fired, fun token => ?_⟩
  rw [delivers_iff, ← List.nil_append [m], passes_concat_of_ne other]
  exact iff_of_false not_passes_nil (by simp)

theorem brings_of_take (fired : s.fire? .take = some s') : s.Brings [s'.token?] s' := by
  have run : s.fireAll? ([] ++ [.take]) = some s' := (fireAll?_singleton s .take).trans fired
  refine ⟨[.take], run, fun token => ?_⟩
  rw [delivers_iff, ← List.nil_append [Move.take], passes_concat_self run,
    or_iff_right not_passes_nil, List.mem_singleton, eq_comm]

/-! ## The moves of a call -/

theorem token?_of_consumerStep (step : ConsumerStep s m s') (other : m ≠ .take) :
    s'.token? = none := by
  cases step with
  | take => exact absurd rfl other
  | @dropTokens sequel => cases sequel <;> rfl
  | _ => rfl

/-- The one move by which a call is answered with a token takes it out of the slot. -/
theorem token?_of_fire? (fired : s.fire? m = some s') (other : m ≠ .take)
    (busy : s.isBusy = true) (quiet : s'.isBusy = false) : s'.token? = none := by
  rcases step_of_fire? fired with ⟨c, rfl, idle, -⟩ | step | step | ⟨-, -, rfl⟩
  · exact absurd (isBusy_of_isIdle idle) (by simp [busy])
  · exact token?_of_consumerStep step other
  · exact absurd ((isBusy_congr step.frame.1).symm.trans quiet) (by simp [busy])
  · exact absurd quiet (by simpa [isBusy] using busy)

theorem isBusy_of_take (fired : s.fire? .take = some s') :
    s.isBusy = true ∧ s'.isBusy = false := by
  have step := consumerStep_of_fire? fired rfl
  refine ⟨isBusy_of_consumerStep step, ?_⟩
  cases step
  rfl

theorem Serves.brings (h : s.Serves s') (busy : s.isBusy = true) : s.Brings [s'.token?] s' := by
  induction h with
  | answered quiet => exact absurd busy (by simp [quiet])
  | @move s s₁ s' _ moved rest ih =>
    obtain ⟨m, -, fired⟩ := moved
    by_cases take : m = .take
    · subst take
      obtain rfl := rest.of_quiet (isBusy_of_take fired).2
      exact brings_of_take fired
    · have nothing := brings_of_fire? fired take
      cases still : s₁.isBusy with
      | true => exact nothing.trans (ih still)
      | false =>
        obtain rfl := rest.of_quiet still
        rw [token?_of_fire? fired take busy still]
        exact nothing.congr (by simp)

theorem Drifts.brings {base : Scanner} (h : s.Drifts s') (quiet : s.isBusy = false)
    (sync : s.Sync base) : s.Brings [] s' := by
  induction h with
  | refl => exact .refl s
  | tail drifts moved ih =>
    obtain ⟨m, -, fired⟩ := moved
    refine ih.trans (brings_of_fire? fired ?_)
    rintro rfl
    have consumer := (Drifts.quiet drifts quiet sync).2.1
    exact absurd (isBusy_of_take fired).1 (by simp [isBusy_congr consumer, quiet])

theorem isBusy_begin (s : State) (c : Call) : (c.begin s).isBusy = true := by
  cases c <;> rfl

theorem Calls.brings {base : Scanner} {c : Call} (h : s.Calls c s') (quiet : s.isBusy = false)
    (sync : s.Sync base) : s.Brings [s'.token?] s' := by
  obtain ⟨s₁, s₂, drifts, begun, serves⟩ := h
  obtain ⟨-, rfl⟩ := of_guard begun
  have before := (drifts.brings quiet sync).trans (brings_of_fire? begun (by simp))
  exact before.trans (serves.brings (isBusy_begin s₁ c))

theorem Serves.token?_of_cancel (h : s.Serves s') (stops : s.Stops .cancel) : s'.token? = none := by
  refine h.ends (P := fun t => t.Stops .cancel) (Q := fun t => t.token? = none) stops
    (fun _ => Stops.isBusy) ?_
  intro t t' stops moved
  rcases moved.step with ⟨m, step⟩ | ⟨m, step⟩ | ⟨-, rfl⟩
  · obtain ⟨-, -, stops' | rfl⟩ := stops.consumerStep step
    · exact .inl stops'
    · exact .inr ⟨rfl, rfl⟩
  · refine .inl ?_
    unfold Stops
    rw [step.frame.1]
    exact stops
  · exact .inl stops

theorem Calls.token?_of_cancel (h : s.Calls .cancel s') : s'.token? = none := by
  obtain ⟨s₁, s₂, -, begun, serves⟩ := h
  obtain ⟨-, rfl⟩ := of_guard begun
  exact serves.token?_of_cancel (.inl rfl)

/-! ## The requests of a consumer -/

variable {tokens : List Token} {before : List (Option Token)}

theorem Draws.brings {α : Type} {reading : Grammar.Reading α} {answer : α}
    (draws : Draws reading s log answer s') (h : Logged tokens before s)
    (idle : s.isIdle = true) : s.Brings log s' := by
  induction draws generalizing before with
  | done _ s => exact .refl s
  | ask called _ ih =>
    obtain ⟨base, sync⟩ := h.exists_sync
    obtain ⟨h', idle'⟩ := h.receive idle called
    exact (called.brings (isBusy_of_isIdle idle) sync).trans (ih h' idle')

theorem Answers.brings {request : Request} {reply : Reply} (answers : Answers s request log reply s')
    (h : Logged tokens before s) (idle : s.isIdle = true) : s.Brings log s' := by
  obtain ⟨base, sync⟩ := h.exists_sync
  have quiet := isBusy_of_isIdle idle
  cases answers with
  | receive called | next called => exact called.brings quiet sync
  | parse draws => exact draws.brings h idle
  | cancel called =>
    have brings := called.brings quiet sync
    rw [called.token?_of_cancel] at brings
    exact brings.congr (by simp)

/-- **The log holds the tokens that the run delivers**, and no others. -/
theorem Performs.brings {requests : List Request} {replies : List Reply}
    (performs : Performs s requests log replies s') (h : Logged tokens before s)
    (idle : s.isIdle = true) : s.Brings log s' := by
  induction performs generalizing before with
  | done s => exact .refl s
  | request answers _ ih =>
    obtain ⟨h', idle'⟩ := h.answers idle answers
    exact (answers.brings h idle).trans (ih h' idle')

end Brings

end AssignLang.Handoff.State
