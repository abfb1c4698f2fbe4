import AssignLang.Proofs.Handoff.Requests
import Mathlib.Data.List.Induction

/-! Runs as lists of moves, with the beginnings of the calls and the passing of the deadline among
them. What is so at first and is kept by every move is so in every run (`fireAll?_induction`), the
same for what is said of states alone (`fireAll?_invariant`). Main statement: whatever a consumer
asks for and in whatever order the threads move, the state that it comes to is that of a run
(`Performs.leads`). A next and a parse are made of receives, and to drop the handoff is to join it
and not to look at the answer, so the three calls are enough. -/
namespace AssignLang.Handoff.State
set_option autoImplicit false

/-! ## One run after another -/

theorem fireAll?_append (s : State) (first last : List Move) :
    s.fireAll? (first ++ last) = (s.fireAll? first).bind (·.fireAll? last) := by
  induction first generalizing s with
  | nil => rfl
  | cons m rest ih =>
    rw [List.cons_append, fireAll?, fireAll?, Option.bind_assoc]
    exact congrArg _ (funext ih)

theorem fireAll?_singleton (s : State) (m : Move) : s.fireAll? [m] = s.fire? m := by
  rw [fireAll?]
  exact Option.bind_fun_some _

theorem fireAll?_trans {s s' s'' : State} {first last : List Move}
    (run : s.fireAll? first = some s') (more : s'.fireAll? last = some s'') :
    s.fireAll? (first ++ last) = some s'' := by
  rw [fireAll?_append, run]
  exact more

theorem fireAll?_concat {s s' s'' : State} {moves : List Move} {m : Move}
    (run : s.fireAll? moves = some s') (fired : s'.fire? m = some s'') :
    s.fireAll? (moves ++ [m]) = some s'' :=
  fireAll?_trans run ((fireAll?_singleton s' m).trans fired)

/-- A run of two parts passes through a state between them. -/
theorem exists_of_fireAll?_append {s s' : State} {first last : List Move}
    (run : s.fireAll? (first ++ last) = some s') :
    ∃ s₁, s.fireAll? first = some s₁ ∧ s₁.fireAll? last = some s' := by
  rw [fireAll?_append] at run
  exact Option.bind_eq_some_iff.mp run

theorem exists_of_fireAll?_cons {s s' : State} {m : Move} {rest : List Move}
    (run : s.fireAll? (m :: rest) = some s') :
    ∃ s₁, s.fire? m = some s₁ ∧ s₁.fireAll? rest = some s' :=
  Option.bind_eq_some_iff.mp run

/-- A run is in two states around each of its moves. -/
theorem exists_of_fireAll?_split {s s' : State} {before after : List Move} {m : Move}
    (run : s.fireAll? (before ++ m :: after) = some s') :
    ∃ s₁ s₂, s.fireAll? before = some s₁ ∧ s₁.fire? m = some s₂ ∧ s₂.fireAll? after = some s' := by
  obtain ⟨s₁, reached, rest⟩ := exists_of_fireAll?_append run
  obtain ⟨s₂, fired, more⟩ := exists_of_fireAll?_cons rest
  exact ⟨s₁, s₂, reached, fired, more⟩

/-! ## What holds in every run -/

theorem fireAll?_induction {s₀ s : State} {P : List Move → State → Prop} {moves : List Move}
    (run : s₀.fireAll? moves = some s) (start : P [] s₀)
    (step : ∀ before s m s', s₀.fireAll? before = some s → P before s → s.fire? m = some s' →
      P (before ++ [m]) s') : P moves s := by
  induction moves using List.reverseRecOn generalizing s with
  | nil =>
    obtain rfl := Option.some.inj run
    exact start
  | append_singleton before m ih =>
    obtain ⟨s₁, reached, last⟩ := exists_of_fireAll?_append run
    rw [fireAll?_singleton] at last
    exact step before s₁ m s reached (ih reached) last

theorem fireAll?_invariant {s s' : State} {P : State → Prop} {moves : List Move}
    (run : s.fireAll? moves = some s') (here : P s)
    (keeps : ∀ s m s', P s → s.fire? m = some s' → P s') : P s' :=
  fireAll?_induction (P := fun _ t => P t) run here fun _ s m s' _ => keeps s m s'

theorem ends_of_run {deadline : Deadline} {filename text : String} {moves : List Move} {s : State}
    (run : (start deadline filename text).fireAll? moves = some s) : s.Ends :=
  fireAll?_invariant run (.start deadline filename text) fun _ _ _ ends fired => ends.fire? fired

theorem sync_of_run {deadline : Deadline} {filename text : String} {moves : List Move} {s : State}
    (run : (start deadline filename text).fireAll? moves = some s) : ∃ base, s.Sync base := by
  refine fireAll?_invariant (P := fun s => ∃ base, s.Sync base) run
    ⟨_, .start deadline filename text⟩ ?_
  rintro s m s' ⟨base, sync⟩ fired
  exact sync.exists_of_fire? fired

/-! ## The requests of a consumer make a run -/

/-- Some run leads from the one state to the other. -/
def Leads (s s' : State) : Prop :=
  ∃ moves, s.fireAll? moves = some s'

theorem Leads.refl (s : State) : s.Leads s :=
  ⟨[], rfl⟩

theorem Leads.trans {s s' s'' : State} (h : s.Leads s') (h' : s'.Leads s'') : s.Leads s'' := by
  obtain ⟨first, begun⟩ := h
  obtain ⟨last, ended⟩ := h'
  exact ⟨first ++ last, fireAll?_trans begun ended⟩

theorem leads_of_fire? {s s' : State} {m : Move} (fired : s.fire? m = some s') : s.Leads s' :=
  ⟨[m], by rwa [fireAll?_singleton]⟩

theorem Drifts.leads {s s' : State} (h : s.Drifts s') : s.Leads s' := by
  induction h with
  | refl => exact .refl s
  | tail _ moved ih =>
    obtain ⟨m, -, fired⟩ := moved
    exact ih.trans (leads_of_fire? fired)

theorem Serves.leads {s s' : State} (h : s.Serves s') : s.Leads s' := by
  induction h with
  | answered => exact .refl _
  | move _ moved _ ih =>
    obtain ⟨m, -, fired⟩ := moved
    exact (leads_of_fire? fired).trans ih

theorem Calls.leads {c : Call} {s s' : State} (h : s.Calls c s') : s.Leads s' := by
  obtain ⟨s₁, s₂, drifts, begun, serves⟩ := h
  exact (drifts.leads.trans (leads_of_fire? begun)).trans serves.leads

theorem Draws.leads {α : Type} {reading : Grammar.Reading α} {s s' : State}
    {log : List (Option Token)} {answer : α} (h : Draws reading s log answer s') : s.Leads s' := by
  induction h with
  | done _ s => exact .refl s
  | ask received _ ih => exact received.leads.trans ih

theorem Performs.leads {s s' : State} {requests : List Request} {log : List (Option Token)}
    {replies : List Reply} (h : Performs s requests log replies s') : s.Leads s' := by
  induction h with
  | done s => exact .refl s
  | request answers _ ih =>
    refine Leads.trans ?_ ih
    cases answers with
    | receive called | next called | cancel called => exact called.leads
    | parse draws => exact draws.leads

end AssignLang.Handoff.State
