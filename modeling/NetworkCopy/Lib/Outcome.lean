import NetworkCopy.Lib.Crash

/-!
# What every run of a program comes to

`Outcome` follows a program through all of its runs, those with failing calls included: every state
that it reaches satisfies `I`, it returns with `Q` and fails with `E`.  The next call of a program
in `sure` is taken not to fail, which says that a cleanup succeeds.
-/

namespace Crash

namespace Prog

variable {σ ε α β γ : Type}

/-! ## Runs -/

variable {p : Prog σ ε α} {state state' : σ}

/-- A step of a program.  The next call of a program in `sure` succeeds. -/
inductive SureStep (sure : Prog σ ε α → Prop) : Prog σ ε α × σ → Prog σ ε α × σ → Prop
  | run {run : σ → Except ε σ} {next : σ → Prog σ ε α} {handler : ε → Prog σ ε α}
      {state state' : σ} (h : run state = .ok state') :
      SureStep sure (act run next handler, state) (next state, state')
  | fault {run : σ → Except ε σ} {next : σ → Prog σ ε α} {handler : ε → Prog σ ε α}
      {state : σ} (error : ε) (h : ¬ sure (act run next handler)) :
      SureStep sure (act run next handler, state) (handler error, state)

/-- The runs in which the calls of the programs in `sure` succeed. -/
abbrev SureSteps (sure : Prog σ ε α → Prop) : Prog σ ε α × σ → Prog σ ε α × σ → Prop :=
  Relation.ReflTransGen (SureStep sure)

/-- What runs without outside failures is a run, when the sure calls never fail by themselves. -/
theorem sureSteps_of_eval {sure : Prog σ ε α → Prop}
    (hsure : ∀ run next handler state error, sure (act run next handler) →
      run state ≠ .error error) {value : α} (h : p.eval state = (.ok value, state')) :
    SureSteps sure (p, state) (ret value, state') := by
  induction p generalizing state with
  | ret a =>
    cases h
    exact .refl
  | fail e => cases h
  | act run next handler ihnext ihhandler =>
    rw [eval] at h
    cases hrun : run state with
    | ok middle =>
      rw [hrun] at h
      exact .head (.run hrun) (ihnext state h)
    | error error =>
      rw [hrun] at h
      exact .head (.fault error (fun hact => hsure run next handler state error hact hrun))
        (ihhandler error h)

/-! ## Outcomes -/

/-- Every run keeps `I`, returns with `Q` and fails with `E`. -/
def Outcome (sure : Prog σ ε α → Prop) (I : σ → Prop) (Q : α → σ → Prop) (E : ε → σ → Prop) :
    Prog σ ε α → σ → Prop
  | ret value, state => Q value state
  | fail error, state => E error state
  | act run next handler, state =>
      (∀ state', run state = .ok state' →
        I state' ∧ Outcome sure I Q E (next state) state') ∧
      (¬ sure (act run next handler) → ∀ error, Outcome sure I Q E (handler error) state)

/-- Every call may fail. -/
abbrev AnyOutcome (I : σ → Prop) (Q : α → σ → Prop) (E : ε → σ → Prop) (p : Prog σ ε α)
    (state : σ) : Prop := p.Outcome (fun _ => False) I Q E state

variable {sure : Prog σ ε α → Prop} {I : σ → Prop} {Q : α → σ → Prop} {E : ε → σ → Prop}

/-- The outcome holds of what is left of the program wherever a run is. -/
theorem Outcome.reached {p p' : Prog σ ε α} (h : p.Outcome sure I Q E state) (hI : I state)
    (hsteps : SureSteps sure (p, state) (p', state')) :
    p'.Outcome sure I Q E state' ∧ I state' := by
  have hall : ∀ c d : Prog σ ε α × σ, SureSteps sure c d →
      c.1.Outcome sure I Q E c.2 → I c.2 → d.1.Outcome sure I Q E d.2 ∧ I d.2 := by
    intro c d hcd houtcome hc
    induction hcd with
    | refl => exact ⟨houtcome, hc⟩
    | tail _ hlast ih =>
      obtain ⟨hmiddle, hkept⟩ := ih
      cases hlast with
      | run hrun =>
        obtain ⟨hafter, hnext⟩ := hmiddle.1 _ hrun
        exact ⟨hnext, hafter⟩
      | fault error hsure => exact ⟨hmiddle.2 hsure error, hkept⟩
  exact hall _ _ hsteps h hI

theorem Outcome.mono {I' : σ → Prop} {Q' : α → σ → Prop} {E' : ε → σ → Prop} {state : σ}
    (h : p.Outcome sure I Q E state) (hI : ∀ state, I state → I' state)
    (hQ : ∀ value state, Q value state → Q' value state)
    (hE : ∀ error state, E error state → E' error state) : p.Outcome sure I' Q' E' state := by
  induction p generalizing state with
  | ret value => exact hQ value state h
  | fail error => exact hE error state h
  | act run next handler ihnext ihhandler =>
    refine ⟨?_, ?_⟩
    · intro state' hrun
      obtain ⟨hafter, hnext⟩ := h.1 state' hrun
      exact ⟨hI state' hafter, ihnext state hnext⟩
    · intro hsure error
      exact ihhandler error (h.2 hsure error)

/-- Two outcomes at once. -/
theorem Outcome.and {I' : σ → Prop} {Q' : α → σ → Prop} {E' : ε → σ → Prop} {state : σ}
    (h : p.Outcome sure I Q E state) (h' : p.Outcome sure I' Q' E' state) :
    p.Outcome sure (fun state => I state ∧ I' state)
      (fun value state => Q value state ∧ Q' value state)
      (fun error state => E error state ∧ E' error state) state := by
  induction p generalizing state with
  | ret value => exact ⟨h, h'⟩
  | fail error => exact ⟨h, h'⟩
  | act run next handler ihnext ihhandler =>
    refine ⟨?_, ?_⟩
    · intro state' hrun
      exact ⟨⟨(h.1 state' hrun).1, (h'.1 state' hrun).1⟩,
        ihnext state (h.1 state' hrun).2 (h'.1 state' hrun).2⟩
    · intro hsure error
      exact ihhandler error (h.2 hsure error) (h'.2 hsure error)

theorem AnyOutcome.bind {I : σ → Prop} {Q : α → σ → Prop} {E : ε → σ → Prop}
    {sure : Prog σ ε β → Prop} {Q' : β → σ → Prop} {E' : ε → σ → Prop} {f : α → Prog σ ε β}
    {state : σ} (h : p.AnyOutcome I Q E state)
    (hok : ∀ value state, Q value state → (f value).Outcome sure I Q' E' state)
    (herror : ∀ error state, E error state → E' error state) :
    (p >>= f).Outcome sure I Q' E' state := by
  induction p generalizing state with
  | ret value => exact hok value state h
  | fail error => exact herror error state h
  | act run next handler ihnext ihhandler =>
    refine ⟨?_, ?_⟩
    · intro state' hrun
      obtain ⟨hafter, hnext⟩ := h.1 state' hrun
      exact ⟨hafter, ihnext state hnext⟩
    · intro _ error
      exact ihhandler error (h.2 not_false error)

theorem AnyOutcome.orElse {Q' : α → σ → Prop} {E' : ε → σ → Prop} {f : ε → Prog σ ε α}
    {state : σ} (h : p.AnyOutcome I Q E state)
    (hok : ∀ value state, Q value state → Q' value state)
    (herror : ∀ error state, E error state → (f error).Outcome sure I Q' E' state) :
    (p.orElse f).Outcome sure I Q' E' state := by
  induction p generalizing state with
  | ret value => exact hok value state h
  | fail error => exact herror error state h
  | act run next handler ihnext ihhandler =>
    refine ⟨?_, ?_⟩
    · intro state' hrun
      obtain ⟨hafter, hnext⟩ := h.1 state' hrun
      exact ⟨hafter, ihnext state hnext⟩
    · intro _ error
      exact ihhandler error (h.2 not_false error)

theorem outcome_act {run : σ → Except ε σ} {handler : ε → ε} {Q : Unit → σ → Prop} {state : σ}
    (hok : ∀ state', run state = .ok state' → I state' ∧ Q () state')
    (herror : ∀ error, E error state) :
    (act run (fun _ => ret ()) (fun error => fail (handler error))).AnyOutcome I Q E state :=
  ⟨hok, fun _ error => herror (handler error)⟩

theorem outcome_lift {result : Except ε α} {state : σ}
    (hok : ∀ value, result = .ok value → Q value state)
    (herror : ∀ error, result = .error error → E error state) :
    (lift result : Prog σ ε α).Outcome sure I Q E state := by
  cases result with
  | ok value => exact hok value rfl
  | error error => exact herror error rfl

/-- A look at the state. -/
theorem outcome_query {f : σ → Except ε α} {state : σ} (hI : I state)
    (hok : ∀ value, f state = .ok value → Q value state) (herror : ∀ error, E error state) :
    (query f : Prog σ ε α).AnyOutcome I Q E state := by
  refine ⟨?_, fun _ error => herror error⟩
  rintro _ ⟨⟩
  refine ⟨hI, ?_⟩
  beta_reduce
  cases hf : f state with
  | ok value => exact hok value hf
  | error error => exact herror error

/-- A value that is known before the program runs. -/
theorem outcome_lift_bind {Q' : β → σ → Prop} {I : σ → Prop} {E : ε → σ → Prop}
    {sure : Prog σ ε β → Prop} {result : Except ε α} {f : α → Prog σ ε β} {state : σ}
    (hok : ∀ value, result = .ok value → (f value).Outcome sure I Q' E state)
    (herror : ∀ error, result = .error error → E error state) :
    (lift result >>= f).Outcome sure I Q' E state := by
  cases result with
  | ok value => exact hok value rfl
  | error error => exact herror error rfl

/-- A loop with an invariant over the items still to come. -/
theorem outcome_each {f : β → Prog σ ε Unit} {items : List β} {J : List β → σ → Prop}
    (hstep : ∀ item rest state, item :: rest <:+ items → J (item :: rest) state →
      (f item).AnyOutcome I (fun _ => J rest) E state) {state : σ} (h : J items state) :
    (each f items).AnyOutcome I (fun _ => J []) E state := by
  induction items generalizing state with
  | nil => exact h
  | cons item rest ih =>
    refine AnyOutcome.bind (hstep item rest state List.suffix_rfl h) ?_ (fun _ _ hE => hE)
    intro _ state' hrest
    refine ih ?_ hrest
    intro other more final hsuffix hmore
    exact hstep other more final (hsuffix.trans (List.suffix_cons item rest)) hmore

/-- The runs of a program are one of its outcomes. -/
theorem outcome_steps (p : Prog σ ε α) (state : σ) :
    p.AnyOutcome (fun state' => ∃ p', Steps (p, state) (p', state'))
      (fun value state' => Steps (p, state) (ret value, state'))
      (fun error state' => Steps (p, state) (fail error, state')) state := by
  have hall : ∀ (q : Prog σ ε α) (middle : σ), Steps (p, state) (q, middle) →
      q.AnyOutcome (fun state' => ∃ p', Steps (p, state) (p', state'))
        (fun value state' => Steps (p, state) (ret value, state'))
        (fun error state' => Steps (p, state) (fail error, state')) middle := by
    intro q
    induction q with
    | ret value => exact fun middle h => h
    | fail error => exact fun middle h => h
    | act run next handler ihnext ihhandler =>
      intro middle h
      refine ⟨?_, ?_⟩
      · intro state' hrun
        have hreached := h.tail (.run hrun)
        exact ⟨⟨_, hreached⟩, ihnext middle state' hreached⟩
      · intro _ error
        exact ihhandler error middle (h.tail (.fault error))
  exact hall p state .refl

/-- A run of the calls that may fail. -/
theorem sureSteps_of_steps {c d : Prog σ ε α × σ} (h : Steps c d) :
    SureSteps (fun _ => False) c d := by
  induction h with
  | refl => exact .refl
  | tail _ hlast ih =>
    refine ih.tail ?_
    cases hlast with
    | run hrun => exact .run hrun
    | fault error => exact .fault error not_false

/-- What holds of every outcome holds wherever a run is. -/
theorem AnyOutcome.of_steps {p p' : Prog σ ε α} (h : p.AnyOutcome I Q E state) (hI : I state)
    (hsteps : Steps (p, state) (p', state')) :
    p'.AnyOutcome I Q E state' ∧ I state' := h.reached hI (sureSteps_of_steps hsteps)

end Prog

end Crash
