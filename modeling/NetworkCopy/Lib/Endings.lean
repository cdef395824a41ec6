import NetworkCopy.Lib.Crash

/-!
# How runs end

`Prog.Ends` is the big-step semantics of a program in which calls can fail from outside: it relates
a state to the result of a run, a value or an error, and to the state that the run leaves.  The
calls in `reliable` fail only by their own computation.

`Prog.Ensures P p Q E` is the triple with two postconditions: from `P`, a run that returns ends in
`Q` and a run that fails ends in `E`.  It has a rule for each way to build a program.  `onError` is
the one that matters: what the program leaves when it fails is where its cleanup starts.
-/

namespace Crash

namespace Prog

variable {σ ε α β γ : Type}

/-- The ends of the runs of a program.  A call fails by itself, or from outside when it is not
reliable. -/
inductive Ends (reliable : (σ → Except ε σ) → Prop) : Prog σ ε α → σ → Except ε α → σ → Prop
  | ret (value : α) (state : σ) : Ends reliable (.ret value) state (.ok value) state
  | fail (error : ε) (state : σ) : Ends reliable (.fail error) state (.error error) state
  | run {run : σ → Except ε σ} {next : σ → Prog σ ε α} {handler : ε → Prog σ ε α}
      {state middle final : σ} {result : Except ε α} (h : run state = .ok middle) :
      Ends reliable (next state) middle result final →
      Ends reliable (.act run next handler) state result final
  | fault {run : σ → Except ε σ} {next : σ → Prog σ ε α} {handler : ε → Prog σ ε α}
      {state final : σ} {result : Except ε α} (error : ε)
      (h : run state = .error error ∨ ¬ reliable run) :
      Ends reliable (handler error) state result final →
      Ends reliable (.act run next handler) state result final

variable {reliable : (σ → Except ε σ) → Prop}
variable {p : Prog σ ε α}
variable {f : α → Prog σ ε β}

/-- A run without outside failures is one of the runs. -/
theorem ends_of_eval {state final : σ} {result : Except ε α}
    (h : p.eval state = (result, final)) : Ends reliable p state result final := by
  induction p generalizing state with
  | ret value =>
    cases h
    exact .ret value _
  | fail error =>
    cases h
    exact .fail error _
  | act run next handler ihnext ihhandler =>
    rw [eval] at h
    cases hrun : run state with
    | ok middle =>
      rw [hrun] at h
      exact .run hrun (ihnext state h)
    | error error =>
      rw [hrun] at h
      exact .fault error (.inl hrun) (ihhandler error h)

theorem Ends.bind_ok {state middle final : σ} {value : α} {result : Except ε β}
    (hp : Ends reliable p state (.ok value) middle)
    (hf : Ends reliable (f value) middle result final) :
    Ends reliable (p >>= f) state result final := by
  generalize hvalue : (Except.ok value : Except ε α) = first at hp
  induction hp with
  | ret =>
    cases hvalue
    exact hf
  | fail => cases hvalue
  | run hrun _ ih => exact .run hrun (ih hf hvalue)
  | fault error hfault _ ih => exact .fault error hfault (ih hf hvalue)

theorem Ends.bind_inv {state final : σ} {result : Except ε β}
    (h : Ends reliable (p >>= f) state result final) :
    (∃ value middle, Ends reliable p state (.ok value) middle ∧
      Ends reliable (f value) middle result final) ∨
    ∃ error, Ends reliable p state (.error error) final ∧ result = .error error := by
  induction p generalizing state with
  | ret value => exact .inl ⟨value, state, .ret value state, h⟩
  | fail error =>
    cases h
    exact .inr ⟨error, .fail error _, rfl⟩
  | act run next handler ihnext ihhandler =>
    cases h with
    | run hrun hrest =>
      rcases ihnext _ hrest with ⟨value, middle, hfirst, hsecond⟩ | ⟨error, hfirst, hresult⟩
      · exact .inl ⟨value, middle, .run hrun hfirst, hsecond⟩
      · exact .inr ⟨error, .run hrun hfirst, hresult⟩
    | fault error hfault hrest =>
      rcases ihhandler error hrest with ⟨value, middle, hfirst, hsecond⟩ |
        ⟨found, hfirst, hresult⟩
      · exact .inl ⟨value, middle, .fault error hfault hfirst, hsecond⟩
      · exact .inr ⟨found, .fault error hfault hfirst, hresult⟩

theorem Ends.orElse_inv {f : ε → Prog σ ε α} {state final : σ} {result : Except ε α}
    (h : Ends reliable (p.orElse f) state result final) :
    (∃ value, result = .ok value ∧ Ends reliable p state result final) ∨
    ∃ error middle, Ends reliable p state (.error error) middle ∧
      Ends reliable (f error) middle result final := by
  induction p generalizing state with
  | ret value =>
    cases h
    exact .inl ⟨value, rfl, .ret value _⟩
  | fail error => exact .inr ⟨error, state, .fail error state, h⟩
  | act run next handler ihnext ihhandler =>
    cases h with
    | run hrun hrest =>
      rcases ihnext _ hrest with ⟨value, hresult, hfirst⟩ | ⟨error, middle, hfirst, hsecond⟩
      · exact .inl ⟨value, hresult, .run hrun hfirst⟩
      · exact .inr ⟨error, middle, .run hrun hfirst, hsecond⟩
    | fault error hfault hrest =>
      rcases ihhandler error hrest with ⟨value, hresult, hfirst⟩ |
        ⟨found, middle, hfirst, hsecond⟩
      · exact .inl ⟨value, hresult, .fault error hfault hfirst⟩
      · exact .inr ⟨found, middle, .fault error hfault hfirst, hsecond⟩

/-! ## Two postconditions -/

/-- From `P`, a run that returns ends in `Q` and a run that fails ends in `E`. -/
def Ensures (reliable : (σ → Except ε σ) → Prop) (P : σ → Prop) (p : Prog σ ε α)
    (Q : α → σ → Prop) (E : σ → Prop) : Prop :=
  ∀ state, P state → ∀ result final, Ends reliable p state result final →
    match result with
    | .ok value => Q value final
    | .error _ => E final

variable {P P' : σ → Prop} {Q Q' : α → σ → Prop} {E E' : σ → Prop}

theorem Ensures.imp (h : Ensures reliable P p Q E) (hP : ∀ state, P' state → P state)
    (hQ : ∀ value state, Q value state → Q' value state) (hE : ∀ state, E state → E' state) :
    Ensures reliable P' p Q' E' := by
  intro state hstate result final hend
  have hpost := h state (hP state hstate) result final hend
  cases result with
  | ok value => exact hQ value final hpost
  | error error => exact hE final hpost

/-- Another state in the precondition can be fixed first. -/
theorem Ensures.of_states
    (h : ∀ state, P state → Ensures reliable (fun current => current = state) p Q E) :
    Ensures reliable P p Q E :=
  fun state hstate => h state hstate state rfl

theorem ensures_ret {value : α} (h : ∀ state, P state → Q value state) :
    Ensures reliable P (.ret value : Prog σ ε α) Q E := by
  intro state hstate result final hend
  cases hend
  exact h state hstate

theorem ensures_fail {error : ε} (h : ∀ state, P state → E state) :
    Ensures reliable P (.fail error : Prog σ ε α) Q E := by
  intro state hstate result final hend
  cases hend
  exact h state hstate

theorem Ensures.bind {T : β → σ → Prop} (h : Ensures reliable P p Q E)
    (hnext : ∀ value, Ensures reliable (Q value) (f value) T E) :
    Ensures reliable P (p >>= f) T E := by
  intro state hstate result final hend
  rcases hend.bind_inv with ⟨value, middle, hfirst, hsecond⟩ | ⟨error, hfirst, rfl⟩
  · exact hnext value middle (h state hstate _ _ hfirst) result final hsecond
  · exact h state hstate _ _ hfirst

/-- The handler starts in what the program leaves when it fails. -/
theorem Ensures.orElse {f : ε → Prog σ ε α} {S : σ → Prop} (h : Ensures reliable P p Q S)
    (hhandler : ∀ error, Ensures reliable S (f error) Q E) :
    Ensures reliable P (p.orElse f) Q E := by
  intro state hstate result final hend
  rcases hend.orElse_inv with ⟨value, rfl, hfirst⟩ | ⟨error, middle, hfirst, hsecond⟩
  · exact h state hstate _ _ hfirst
  · exact hhandler error middle (h state hstate _ _ hfirst) result final hsecond

/-- The cleanup starts in what the program leaves when it fails; its own failure is ignored. -/
theorem Ensures.onError {cleanup : Prog σ ε Unit} {S : σ → Prop} (h : Ensures reliable P p Q S)
    (hcleanup : Ensures reliable S cleanup (fun _ => E) E) :
    Ensures reliable P (p.onError cleanup) Q E := by
  refine h.orElse (fun error => ?_)
  refine Ensures.bind (Q := fun _ => E) ?_ (fun _ => ensures_fail (fun _ hstate => hstate))
  exact hcleanup.orElse (fun _ => ensures_ret (fun _ hstate => hstate))

/-- A call succeeds, fails by itself or fails from outside. -/
theorem ensures_modify {run : σ → Except ε σ} {T : σ → Prop}
    (hok : ∀ state state', P state → run state = .ok state' → T state')
    (herror : ∀ state, P state → (∃ error, run state = .error error) ∨ ¬ reliable run → E state) :
    Ensures reliable P (modify run) (fun _ => T) E := by
  intro state hstate result final hend
  cases hend with
  | run hrun hrest =>
    cases hrest
    exact hok state _ hstate hrun
  | fault error hfault hrest =>
    cases hrest
    exact herror state hstate (hfault.imp_left (fun h => ⟨error, h⟩))

/-- A look at the state leaves it as it is. -/
theorem ensures_query {f : σ → Except ε α} (hok : ∀ state value, P state → f state = .ok value →
    Q value state) (herror : ∀ state, P state →
      (∃ error, f state = .error error) ∨ ¬ reliable .ok → E state) :
    Ensures reliable P (query f) Q E := by
  intro state hstate result final hend
  cases hend with
  | run hrun hrest =>
    cases hrun
    cases hvalue : f state with
    | ok value =>
      simp only [hvalue] at hrest
      cases hrest
      exact hok state value hstate hvalue
    | error error =>
      simp only [hvalue] at hrest
      cases hrest
      exact herror state hstate (.inl ⟨error, hvalue⟩)
  | fault error hfault hrest =>
    cases hrest
    refine herror state hstate (hfault.imp_left (fun h => ?_))
    cases h

theorem ensures_lift {outcome : Except ε α} (hok : ∀ value, outcome = .ok value → ∀ state,
    P state → Q value state) (herror : ∀ state, P state → E state) :
    Ensures reliable P (lift outcome) Q E := by
  cases outcome with
  | ok value => exact ensures_ret (hok value rfl)
  | error error => exact ensures_fail herror

/-- A loop whose turns keep an invariant. -/
theorem ensures_each {f : β → Prog σ ε Unit} {items : List β} {I : σ → Prop}
    (h : ∀ item ∈ items, Ensures reliable I (f item) (fun _ => I) E) :
    Ensures reliable I (each f items) (fun _ => I) E := by
  induction items with
  | nil => exact ensures_ret (fun _ hstate => hstate)
  | cons item rest ih =>
    exact (h item List.mem_cons_self).bind
      (fun _ => ih (fun other hother => h other (List.mem_cons_of_mem _ hother)))

end Prog

end Crash
