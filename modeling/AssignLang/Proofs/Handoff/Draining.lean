import AssignLang.Proofs.Handoff.FirstFault

/-! What is left of a stream. A consumer drains a handoff by one receive after the other, up to the
first that gives no token. Main statements: where no fault is on record that gives what is left of
the stream, the whole of it if the fault that ends it is the end of the stream, and otherwise as much
as came before the deadline (`Drains.eq_rest`); and so it does after any requests and under every
schedule (`Session.drain_eq_rest`). -/
namespace AssignLang.Handoff
open Lexical (Scanner)
set_option autoImplicit false

namespace State

/-! ## Until a receive gives no token -/

/-- One receive after the other gives these tokens, and the last one none. -/
inductive Drains : State → List Token → State → Prop
  | nothing {s s' : State} (called : s.Calls .receive s') (gave : s'.token? = none) :
      Drains s [] s'
  | token {s s' s'' : State} {token : Token} {tokens : List Token} (called : s.Calls .receive s')
      (gave : s'.token? = some token) (rest : Drains s' tokens s'') :
      Drains s (token :: tokens) s''

section Drains
variable {s s' : State} {tokens : List Token} {base : Scanner}

theorem Drains.later (h : s.Drains tokens s') : s.Later s' := by
  induction h with
  | nothing called => exact called.later
  | token called _ _ ih => exact called.later.trans ih

theorem Rests.drains {fault : Fault} (h : s.Rests (some fault)) (drains : s.Drains tokens s') :
    tokens = [] ∧ s'.Rests (some fault) := by
  cases drains with
  | nothing called =>
    obtain ⟨rests, -⟩ := h.receive called
    exact ⟨rfl, rests⟩
  | token called gave =>
    obtain ⟨-, answered⟩ := h.receive called
    exact absurd (gave.symm.trans (token?_of_failed answered)) (by simp)

/-- A handoff that is closed has given everything. -/
theorem Sync.drain_of_closed (sync : s.Sync base) (idle : s.isIdle = true)
    (closed : s.fault = some .closed) : base.drain.1 = [] := by
  have ready := sync.ready idle
  rw [Ready, closed] at ready
  rw [Scanner.drain_of_done ready.2.2]

theorem Drains.eq_rest (h : s.Drains tokens s') (idle : s.isIdle = true) (sync : s.Sync base)
    (clear : s.fault = none) :
    (tokens = base.drain.1 ∧ s'.fault = some .closed) ∨
      (tokens <+: base.drain.1 ∧ s'.fault = some .deadlineExceeded ∧ s'.deadline = .passed) := by
  -- With each token the scanner that the consumer knows is one token further.
  induction h generalizing base with
  | @nothing s s' called gave =>
    obtain ⟨received, keeps⟩ := called.receive (isBusy_of_isIdle idle) sync
    have idle' := received.isIdle
    cases received with
    | token answered => simp [token?, answered] at gave
    | failed answered recorded sync' =>
      rcases keeps with same | ⟨-, closed | exceeded⟩
      · exact absurd (recorded.symm.trans (same.trans clear)) (by simp)
      · exact .inl ⟨(sync'.drain_of_closed idle' closed).symm, closed⟩
      · exact .inr ⟨List.nil_prefix, exceeded, sync'.passed_of_exceeded idle' exceeded⟩
  | @token s s' s'' token tokens called gave _ ih =>
    obtain ⟨received, -⟩ := called.receive (isBusy_of_isIdle idle) sync
    have idle' := received.isIdle
    cases received with
    | failed answered => simp [token?_of_failed answered] at gave
    | token answered next sync' clear' =>
      rw [token?, answered] at gave
      obtain rfl := Option.some.inj gave
      rw [Scanner.drain_of_next next]
      refine (ih idle' sync' clear').imp ?_ ?_
      · rintro ⟨rfl, closed⟩
        exact ⟨rfl, closed⟩
      · rintro ⟨begins, exceeded⟩
        exact ⟨(List.prefix_cons_inj _).mpr begins, exceeded⟩

end Drains

end State

/-! ## Every schedule drains so -/

namespace Session

theorem drain_of_none {s : Session} (nothing : (s.call .receive).state.token? = none) :
    s.drain = ([], s.call .receive) := by
  rw [drain, next_eq]
  simp [nothing]

theorem drain_of_some {s : Session} {token : Token}
    (gave : (s.call .receive).state.token? = some token) :
    s.drain = (token :: (s.call .receive).drain.1, (s.call .receive).drain.2) := by
  rw [drain, next_eq]
  simp [gave]

theorem drains_drain {s : Session} {base : Scanner} (sync : s.state.Sync base)
    (idle : s.state.isIdle = true) : s.state.Drains s.drain.1 s.drain.2.state := by
  induction s using drain.induct generalizing base
  next s r given ih =>
    have called := calls_call sync idle .receive
    obtain ⟨received, -⟩ := called.receive (State.isBusy_of_isIdle idle) sync
    obtain ⟨_, sync'⟩ := received.exists_sync
    obtain ⟨token, gave⟩ := Option.isSome_iff_exists.mp given
    have asked : r = ((s.call .receive).state.token?, s.call .receive) := next_eq s
    rw [asked] at ih gave
    rw [drain_of_some gave]
    exact .token called gave (ih sync' received.isIdle)
  next s r nothing =>
    have asked : r = ((s.call .receive).state.token?, s.call .receive) := next_eq s
    rw [asked, Option.not_isSome_iff_eq_none] at nothing
    rw [drain_of_none nothing]
    exact .nothing (calls_call sync idle .receive) nothing

/-- **A drain gives what is left of the stream**, up to the fault that ends it. After a fault there
is nothing left. -/
theorem drain_eq_rest {schedule : Schedule} {deadline : Deadline} {filename text : String}
    {requests : List Request} {s : Session}
    (reached : s = (replay reply requests (.start schedule deadline filename text)).2) :
    (∀ fault, s.state.fault = some fault →
      s.drain.1 = [] ∧ s.drain.2.state.fault = some fault) ∧
    (s.state.fault = none → ∃ given rest,
      (State.start deadline filename text).Performs requests (given.map some)
        (replay reply requests (.start schedule deadline filename text)).1 s.state ∧
      Lexical.stream filename text = given ++ rest ∧
      ((s.drain.1 = rest ∧ s.drain.2.state.fault = some .closed) ∨
        (s.drain.1 <+: rest ∧ s.drain.2.state.fault = some .deadlineExceeded ∧
          s.drain.2.state.deadline = .passed))) := by
  obtain ⟨log, performs⟩ := performs_replay_start schedule deadline filename text requests
  rw [← reached] at performs
  obtain ⟨logged, idle⟩ := (State.Logged.start deadline filename text).performs performs rfl
  constructor
  · intro fault recorded
    obtain ⟨base, sync⟩ := logged.exists_sync
    have rests : s.state.Rests (some fault) := ⟨idle, ⟨base, sync⟩, recorded⟩
    obtain ⟨nothing, rests'⟩ := rests.drains (drains_drain sync idle)
    exact ⟨nothing, rests'.recorded⟩
  · intro clear
    cases logged with
    | @whole base given sync _ received split =>
      rw [List.nil_append] at received
      subst received
      exact ⟨given, base.drain.1, performs, split,
        (drains_drain sync idle).eq_rest idle sync clear⟩
    | cut _ ended => exact absurd clear ended

/-- Without a deadline a drain gives the whole stream. -/
theorem drain_start_unset (schedule : Schedule) (filename text : String) :
    (start schedule .unset filename text).drain.1 = Lexical.stream filename text := by
  have sync : (State.start .unset filename text).Sync (.ofText filename text) :=
    .start .unset filename text
  have drains := drains_drain (s := start schedule .unset filename text) sync rfl
  rcases drains.eq_rest rfl sync rfl with ⟨whole, -⟩ | ⟨-, -, passed⟩
  · exact whole
  · exact absurd ((drains.later.unset rfl).symm.trans passed) (by simp)

end Session

end AssignLang.Handoff
