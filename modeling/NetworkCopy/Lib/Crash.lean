import Mathlib

/-!
# Programs that can stop anywhere

A program (`Prog`) is a tree of atomic actions on a shared state.  An action may fail,
because its own computation does or because something outside it does; the program
then goes on with the action's handler.  A system (`Sys`) runs actions and groups of
interleaved programs one after the other.

A process can stop at any point, so a fact about what it leaves behind is a fact about
every state of every run.  `Sys.Safe I Q` says that all of them satisfy `I`, and that `Q`
holds when the system is done.  For one program, `Prog.Triple R G P p Q` is the
rely–guarantee triple: from a state with `P` and under interference `R`, each of its
changes is a `G` step, and `Q` holds when it returns.  Rules are given for sequencing, for
handlers, for loops and, with `Sys.safe_par`, for interleaving.

`Prog.eval` runs a program alone and without outside failures, and `Prog.Steps` says which
runs there are.
-/

namespace Crash

/-- A program over a shared state.  What follows an action may depend on the state in
which it was performed. -/
inductive Prog (σ ε α : Type) where
  | ret (value : α)
  | fail (error : ε)
  | act (run : σ → Except ε σ) (next : σ → Prog σ ε α) (handler : ε → Prog σ ε α)

namespace Prog

variable {σ ε α β γ : Type}

/-- Sequencing. -/
def bind : Prog σ ε α → (α → Prog σ ε β) → Prog σ ε β
  | ret value, f => f value
  | fail error, _ => fail error
  | act run next handler, f =>
      act run (fun state => (next state).bind f) (fun error => (handler error).bind f)

instance : Monad (Prog σ ε) where
  pure := ret
  bind := bind

/-- Go on after an error. -/
def orElse : Prog σ ε α → (ε → Prog σ ε α) → Prog σ ε α
  | ret value, _ => ret value
  | fail error, f => f error
  | act run next handler, f =>
      act run (fun state => (next state).orElse f) (fun error => (handler error).orElse f)

/-- Change the state. -/
def modify (run : σ → Except ε σ) : Prog σ ε Unit := act run (fun _ => ret ()) fail

/-- Look at the state. -/
def query (f : σ → Except ε α) : Prog σ ε α :=
  act .ok (fun state => match f state with
    | .ok value => ret value
    | .error error => fail error) fail

/-- A computation that does not touch the state. -/
def lift : Except ε α → Prog σ ε α
  | .ok value => ret value
  | .error error => fail error

/-- Run a cleanup when a program fails, and fail all the same.  The cleanup's own
failure is ignored. -/
def onError (p : Prog σ ε α) (cleanup : Prog σ ε Unit) : Prog σ ε α :=
  p.orElse (fun error => (cleanup.orElse (fun _ => ret ())).bind (fun _ => fail error))

/-- A loop over a list. -/
def each (f : β → Prog σ ε Unit) : List β → Prog σ ε Unit
  | [] => ret ()
  | item :: rest => (f item).bind (fun _ => each f rest)

@[simp] theorem pure_eq_ret (value : α) : (pure value : Prog σ ε α) = ret value := rfl

@[simp] theorem ret_bind (value : α) (f : α → Prog σ ε β) : (ret value >>= f) = f value := rfl

@[simp] theorem fail_bind (error : ε) (f : α → Prog σ ε β) : (fail error >>= f) = fail error :=
  rfl

@[simp] theorem act_bind (run : σ → Except ε σ) (next : σ → Prog σ ε α)
    (handler : ε → Prog σ ε α) (f : α → Prog σ ε β) :
    (act run next handler >>= f) =
      act run (fun state => next state >>= f) (fun error => handler error >>= f) := rfl

/-! ## Running alone -/

variable {p : Prog σ ε α} {state state' : σ} {f : α → Prog σ ε β}
variable {run : σ → Except ε σ} {items : List β} {cleanup : Prog σ ε Unit} {result : Except ε α}

/-- Run a program alone, without failures from outside. -/
def eval : Prog σ ε α → σ → Except ε α × σ
  | ret value, state => (.ok value, state)
  | fail error, state => (.error error, state)
  | act run next handler, state =>
      match run state with
      | .ok state' => (next state).eval state'
      | .error error => (handler error).eval state

@[simp] theorem eval_ret (value : α) (state : σ) :
    (ret value : Prog σ ε α).eval state = (.ok value, state) := rfl

@[simp] theorem eval_fail (error : ε) (state : σ) :
    (fail error : Prog σ ε α).eval state = (.error error, state) := rfl

/-- A sequence runs its second part in the state in which the first one returns. -/
theorem eval_bind (p : Prog σ ε α) (f : α → Prog σ ε β) (state : σ) :
    (p >>= f).eval state = match p.eval state with
      | (.ok value, middle) => (f value).eval middle
      | (.error error, middle) => (.error error, middle) := by
  induction p generalizing state with
  | ret a => rfl
  | fail e => rfl
  | act run next handler ihnext ihhandler =>
    rw [act_bind, eval, eval]
    cases run state with
    | ok middle => exact ihnext state middle
    | error error => exact ihhandler error state

theorem eval_bind_ok {value : α} (h : p.eval state = (.ok value, state')) :
    (p >>= f).eval state = (f value).eval state' := by
  rw [eval_bind, h]

theorem eval_bind_error {error : ε} (h : p.eval state = (.error error, state')) :
    (p >>= f).eval state = (.error error, state') := by
  rw [eval_bind, h]

/-- A sequence that returns has returned from both parts. -/
theorem eval_bind_eq_ok {result : β} (h : (p >>= f).eval state = (.ok result, state')) :
    ∃ value middle, p.eval state = (.ok value, middle) ∧
      (f value).eval middle = (.ok result, state') := by
  match hp : p.eval state with
  | (.ok value, middle) =>
    rw [eval_bind_ok hp] at h
    exact ⟨value, middle, rfl, h⟩
  | (.error error, middle) =>
    rw [eval_bind_error hp] at h
    cases h

theorem eval_orElse (p : Prog σ ε α) (f : ε → Prog σ ε α) (state : σ) :
    (p.orElse f).eval state = match p.eval state with
      | (.ok value, middle) => (.ok value, middle)
      | (.error error, middle) => (f error).eval middle := by
  induction p generalizing state with
  | ret a => rfl
  | fail e => rfl
  | act run next handler ihnext ihhandler =>
    rw [orElse, eval, eval]
    cases run state with
    | ok middle => exact ihnext state middle
    | error error => exact ihhandler error state

theorem eval_orElse_ok {f : ε → Prog σ ε α} {value : α} (h : p.eval state = (.ok value, state')) :
    (p.orElse f).eval state = (.ok value, state') := by
  rw [eval_orElse, h]

theorem eval_orElse_error {f : ε → Prog σ ε α} {error : ε}
    (h : p.eval state = (.error error, state')) :
    (p.orElse f).eval state = (f error).eval state' := by
  rw [eval_orElse, h]

theorem eval_query {f : σ → Except ε α} {state : σ} {value : α} (h : f state = .ok value) :
    (query f).eval state = (.ok value, state) := by
  simp [query, eval, h]

theorem eval_modify (h : run state = .ok state') :
    (modify run).eval state = (.ok (), state') := by
  simp [modify, eval, h]

@[simp] theorem eval_lift_ok (value : α) (state : σ) :
    (lift (.ok value) : Prog σ ε α).eval state = (.ok value, state) := rfl

theorem eval_query_eq_ok {f : σ → Except ε α} {value : α}
    (h : (query f).eval state = (.ok value, state')) : f state = .ok value ∧ state = state' := by
  unfold query at h
  simp only [eval] at h
  cases hf : f state with
  | ok result =>
    rw [hf] at h
    cases h
    exact ⟨rfl, rfl⟩
  | error error =>
    rw [hf] at h
    cases h

theorem eval_modify_eq_ok {u : Unit} (h : (modify run).eval state = (.ok u, state')) :
    run state = .ok state' := by
  unfold modify at h
  simp only [eval] at h
  cases hrun : run state with
  | ok result =>
    rw [hrun] at h
    cases h
    rfl
  | error error =>
    rw [hrun] at h
    cases h

theorem eval_lift_eq_ok {value : α}
    (h : (lift result : Prog σ ε α).eval state = (.ok value, state')) :
    result = .ok value ∧ state = state' := by
  cases result with
  | ok found =>
    cases h
    exact ⟨rfl, rfl⟩
  | error error => cases h

/-- A program that returns has not run its cleanup. -/
theorem eval_onError_eq_ok {value : α}
    (h : (p.onError cleanup).eval state = (.ok value, state')) :
    p.eval state = (.ok value, state') := by
  match hp : p.eval state with
  | (.ok result, middle) =>
    rw [onError, eval_orElse_ok hp] at h
    exact h
  | (.error error, middle) =>
    rw [onError, eval_orElse_error hp] at h
    obtain ⟨_, _, _, hfail⟩ := eval_bind_eq_ok h
    cases hfail

/-- A loop succeeds when an invariant over the items still to come lets each turn
succeed. -/
theorem eval_each {f : β → Prog σ ε Unit} {I : List β → σ → Prop}
    (hstep : ∀ item rest state, I (item :: rest) state →
      ∃ state', (f item).eval state = (.ok (), state') ∧ I rest state') :
    ∀ {state}, I items state → ∃ state', (each f items).eval state = (.ok (), state') ∧
      I [] state' := by
  induction items with
  | nil =>
    intro state hI
    exact ⟨state, rfl, hI⟩
  | cons item rest ih =>
    intro state hI
    obtain ⟨middle, hmiddle, hrest⟩ := hstep item rest state hI
    obtain ⟨final, hfinal, hdone⟩ := ih hrest
    refine ⟨final, ?_, hdone⟩
    rw [each]
    exact (eval_bind_ok hmiddle).trans hfinal

/-! ## Steps -/

/-- One step of a program: its action succeeds, or it fails. -/
inductive Step : Prog σ ε α × σ → Prog σ ε α × σ → Prop
  | run {run : σ → Except ε σ} {next : σ → Prog σ ε α} {handler : ε → Prog σ ε α}
      {state state' : σ} (h : run state = .ok state') :
      Step (act run next handler, state) (next state, state')
  | fault {run : σ → Except ε σ} {next : σ → Prog σ ε α} {handler : ε → Prog σ ε α}
      {state : σ} (error : ε) : Step (act run next handler, state) (handler error, state)

/-- The runs of a program alone. -/
abbrev Steps : Prog σ ε α × σ → Prog σ ε α × σ → Prop := Relation.ReflTransGen Step

/-- What runs without outside failures is a run. -/
theorem steps_eval (p : Prog σ ε α) (state : σ) :
    Steps (p, state) (lift (p.eval state).1, (p.eval state).2) := by
  induction p generalizing state with
  | ret a => exact .refl
  | fail e => exact .refl
  | act run next handler ihnext ihhandler =>
    rw [eval]
    cases hrun : run state with
    | ok middle => exact .head (.run hrun) (ihnext state middle)
    | error error => exact .head (.fault error) (ihhandler error state)

theorem steps_of_eval {value : α} (h : p.eval state = (.ok value, state')) :
    Steps (p, state) (ret value, state') := by
  have hsteps := steps_eval p state
  rw [h] at hsteps
  exact hsteps

/-- A run of the first part is a run of the sequence. -/
theorem Steps.bind {p p' : Prog σ ε α} (h : Steps (p, state) (p', state')) (f : α → Prog σ ε β) :
    Steps (p >>= f, state) (p' >>= f, state') := by
  have hlift : ∀ c d : Prog σ ε α × σ, Step c d → Step (c.1 >>= f, c.2) (d.1 >>= f, d.2) := by
    intro c d hstep
    cases hstep with
    | run hrun => exact .run hrun
    | fault error => exact .fault error
  exact Relation.ReflTransGen.lift (fun c : Prog σ ε α × σ => (c.1 >>= f, c.2)) hlift _ _ h

/-- A run of a program is one of the program with a handler. -/
theorem Steps.orElse {p p' : Prog σ ε α} (h : Steps (p, state) (p', state'))
    (f : ε → Prog σ ε α) : Steps (p.orElse f, state) (p'.orElse f, state') := by
  have hlift : ∀ c d : Prog σ ε α × σ, Step c d →
      Step (c.1.orElse f, c.2) (d.1.orElse f, d.2) := by
    intro c d hstep
    cases hstep with
    | run hrun => exact .run hrun
    | fault error => exact .fault error
  exact Relation.ReflTransGen.lift (fun c : Prog σ ε α × σ => (c.1.orElse f, c.2)) hlift _ _ h

/-! ## Stops -/

/-- The states of a run alone and without outside failures, where the program can stop. -/
def stops : Prog σ ε α → σ → List σ
  | ret _, state => [state]
  | fail _, state => [state]
  | act run next handler, state => state :: match run state with
      | .ok state' => (next state).stops state'
      | .error error => (handler error).stops state

theorem mem_stops_self (p : Prog σ ε α) (state : σ) : state ∈ p.stops state := by
  cases p <;> simp [stops]

/-- A program stops where it ends. -/
theorem eval_mem_stops (p : Prog σ ε α) (state : σ) : (p.eval state).2 ∈ p.stops state := by
  induction p generalizing state with
  | ret value => exact mem_stops_self _ _
  | fail error => exact mem_stops_self _ _
  | act run next handler ihnext ihhandler =>
    rw [stops, eval]
    cases run state with
    | ok state' => exact List.mem_cons_of_mem _ (ihnext state state')
    | error error => exact List.mem_cons_of_mem _ (ihhandler error state)

/-- A sequence stops in its first part, or in the second when the first returns. -/
theorem mem_stops_bind {state stop : σ} :
    stop ∈ (p >>= f).stops state ↔ stop ∈ p.stops state ∨
      ∃ value state', p.eval state = (.ok value, state') ∧ stop ∈ (f value).stops state' := by
  induction p generalizing state with
  | ret value =>
    rw [ret_bind, stops, List.mem_singleton]
    constructor
    · intro h
      exact .inr ⟨value, state, rfl, h⟩
    · rintro (rfl | ⟨value', state', heval, h⟩)
      · exact mem_stops_self _ _
      · cases heval
        exact h
  | fail error =>
    rw [fail_bind, stops, stops]
    constructor
    · exact .inl
    · rintro (h | ⟨value, state', heval, _⟩)
      · exact h
      · cases heval
  | act run next handler ihnext ihhandler =>
    rw [act_bind, stops, stops, eval, List.mem_cons, List.mem_cons, or_assoc]
    cases run state with
    | ok state' => exact or_congr_right (ihnext state)
    | error error => exact or_congr_right (ihhandler error)

/-- A program with a handler stops in the program, or in the handler when the program fails. -/
theorem mem_stops_orElse {f : ε → Prog σ ε α} {state stop : σ} :
    stop ∈ (p.orElse f).stops state ↔ stop ∈ p.stops state ∨
      ∃ error state', p.eval state = (.error error, state') ∧ stop ∈ (f error).stops state' := by
  induction p generalizing state with
  | ret value =>
    rw [orElse, stops]
    constructor
    · exact .inl
    · rintro (h | ⟨error, state', heval, _⟩)
      · exact h
      · cases heval
  | fail error =>
    rw [orElse, stops, List.mem_singleton]
    constructor
    · intro h
      exact .inr ⟨error, state, rfl, h⟩
    · rintro (rfl | ⟨error', state', heval, h⟩)
      · exact mem_stops_self _ _
      · cases heval
        exact h
  | act run next handler ihnext ihhandler =>
    rw [orElse, stops, stops, eval, List.mem_cons, List.mem_cons, or_assoc]
    cases run state with
    | ok state' => exact or_congr_right (ihnext state)
    | error error => exact or_congr_right (ihhandler error)

/-- A program can stop where it stops when every call succeeds. -/
theorem steps_of_mem_stops {state stop : σ} (h : stop ∈ p.stops state) :
    ∃ p', Steps (p, state) (p', stop) := by
  induction p generalizing state with
  | ret value =>
    rw [stops, List.mem_singleton] at h
    subst h
    exact ⟨_, Relation.ReflTransGen.refl⟩
  | fail error =>
    rw [stops, List.mem_singleton] at h
    subst h
    exact ⟨_, Relation.ReflTransGen.refl⟩
  | act run next handler ihnext ihhandler =>
    rw [stops] at h
    rcases List.mem_cons.mp h with hstart | h
    · subst hstart
      exact ⟨_, Relation.ReflTransGen.refl⟩
    · cases hrun : run state with
      | ok state' =>
        rw [hrun] at h
        obtain ⟨p', hp'⟩ := ihnext state h
        exact ⟨p', .head (.run hrun) hp'⟩
      | error error =>
        rw [hrun] at h
        obtain ⟨p', hp'⟩ := ihhandler error h
        exact ⟨p', .head (.fault error) hp'⟩

/-! ## Triples -/

/-- The rely–guarantee specification of a program in a state.  At every point the other
programs may have moved the state along `R`. -/
def Spec (R G : σ → σ → Prop) (Q : α → σ → Prop) : Prog σ ε α → σ → Prop
  | ret value, state => ∀ moved, R state moved → Q value moved
  | fail _, _ => True
  | act run next handler, state => ∀ moved, R state moved →
      (∀ state', run moved = .ok state' →
        (moved = state' ∨ G moved state') ∧ Spec R G Q (next moved) state') ∧
      ∀ error, Spec R G Q (handler error) moved

/-- The others keep a predicate. -/
def Stable (R : σ → σ → Prop) (P : σ → Prop) : Prop := ∀ before after, R before after →
  P before → P after

/-- The rely–guarantee triple. -/
def Triple (R G : σ → σ → Prop) (P : σ → Prop) (p : Prog σ ε α) (Q : α → σ → Prop) : Prop :=
  ∀ state, P state → p.Spec R G Q state

variable {R G : σ → σ → Prop} {P P' : σ → Prop} {Q Q' : α → σ → Prop}

/-- A specification holds wherever the others may move the state. -/
theorem Spec.stable (htrans : ∀ a b c, R a b → R b c → R a c) {state moved : σ}
    (h : p.Spec R G Q state) (hmoved : R state moved) : p.Spec R G Q moved := by
  cases p with
  | ret value => exact fun other hother => h other (htrans _ _ _ hmoved hother)
  | fail => trivial
  | act run next handler => exact fun other hother => h other (htrans _ _ _ hmoved hother)

theorem Spec.mono {state : σ} (h : p.Spec R G Q state)
    (hQ : ∀ value final, Q value final → Q' value final) : p.Spec R G Q' state := by
  induction p generalizing state with
  | ret value => exact fun moved hmoved => hQ _ _ (h moved hmoved)
  | fail => trivial
  | act run next handler ihnext ihhandler =>
    intro moved hmoved
    obtain ⟨hrun, herror⟩ := h moved hmoved
    refine ⟨?_, fun error => ihhandler error (herror error)⟩
    intro state' hstate'
    exact ⟨(hrun state' hstate').1, ihnext moved (hrun state' hstate').2⟩

theorem Spec.bind (hrefl : ∀ state, R state state) {T : β → σ → Prop} {state : σ}
    (h : p.Spec R G Q state) (hnext : ∀ value final, Q value final → (f value).Spec R G T final) :
    (p >>= f).Spec R G T state := by
  induction p generalizing state with
  | ret value => exact hnext value state (h state (hrefl state))
  | fail => trivial
  | act run next handler ihnext ihhandler =>
    intro moved hmoved
    obtain ⟨hrun, herror⟩ := h moved hmoved
    refine ⟨?_, fun error => ihhandler error (herror error)⟩
    intro state' hstate'
    exact ⟨(hrun state' hstate').1, ihnext moved (hrun state' hstate').2⟩

/-- A handler that can start wherever the program may fail.  Every point of the program
satisfies `P`, and the handler may do more than the program. -/
theorem Spec.orElse {G' : σ → σ → Prop} {f : ε → Prog σ ε α} {state : σ}
    (h : p.Spec R G' Q state) (hP : P state) (hR : Stable R P) (hG : Stable G' P)
    (hsub : ∀ before after, G' before after → G before after)
    (hhandler : ∀ error, (f error).Triple R G P Q) : (p.orElse f).Spec R G Q state := by
  induction p generalizing state with
  | ret value => exact h
  | fail error => exact hhandler error state hP
  | act run next handler ihnext ihhandler =>
    intro moved hmoved
    have hPmoved := hR _ _ hmoved hP
    obtain ⟨hrun, herror⟩ := h moved hmoved
    refine ⟨?_, fun error => ihhandler error (herror error) hPmoved⟩
    intro state' hstate'
    obtain ⟨hguar, hnext⟩ := hrun state' hstate'
    refine ⟨hguar.imp_right (hsub _ _), ihnext moved hnext ?_⟩
    rcases hguar with rfl | hguar
    · exact hPmoved
    · exact hG _ _ hguar hPmoved

theorem Triple.imp (h : p.Triple R G P Q) (hP : ∀ state, P' state → P state)
    (hQ : ∀ value final, Q value final → Q' value final) : p.Triple R G P' Q' :=
  fun state hstate => (h state (hP state hstate)).mono hQ

/-- A weaker guarantee. -/
theorem Triple.weaken {G' : σ → σ → Prop} (h : p.Triple R G' P Q)
    (hG : ∀ before after, G' before after → G before after) : p.Triple R G P Q := by
  intro state hstate
  have hspec := h state hstate
  clear h hstate
  induction p generalizing state with
  | ret value => exact hspec
  | fail => trivial
  | act run next handler ihnext ihhandler =>
    intro moved hmoved
    obtain ⟨hrun, herror⟩ := hspec moved hmoved
    refine ⟨?_, fun error => ihhandler error moved (herror error)⟩
    intro state' hstate'
    obtain ⟨hguar, hnext⟩ := hrun state' hstate'
    exact ⟨hguar.imp_right (hG _ _), ihnext moved state' hnext⟩

/-- Two triples of one program hold together. -/
theorem Triple.and {G' : σ → σ → Prop} (h : p.Triple R G P Q) (h' : p.Triple R G' P' Q') :
    p.Triple R (fun before after => G before after ∧ G' before after)
      (fun state => P state ∧ P' state) (fun value state => Q value state ∧ Q' value state) := by
  rintro state ⟨hstate, hstate'⟩
  have hspec := h state hstate
  have hspec' := h' state hstate'
  clear h h' hstate hstate'
  induction p generalizing state with
  | ret value => exact fun moved hmoved => ⟨hspec moved hmoved, hspec' moved hmoved⟩
  | fail => trivial
  | act run next handler ihnext ihhandler =>
    intro moved hmoved
    obtain ⟨hrun, herror⟩ := hspec moved hmoved
    obtain ⟨hrun', herror'⟩ := hspec' moved hmoved
    refine ⟨?_, fun error => ihhandler error moved (herror error) (herror' error)⟩
    intro state' hstate'
    obtain ⟨hguar, hnext⟩ := hrun state' hstate'
    obtain ⟨hguar', hnext'⟩ := hrun' state' hstate'
    refine ⟨?_, ihnext moved state' hnext hnext'⟩
    rcases hguar with hsame | hguar
    · exact .inl hsame
    · exact hguar'.imp_right (fun hguar' => ⟨hguar, hguar'⟩)

theorem Triple.bind (hrefl : ∀ state, R state state) {T : β → σ → Prop} (h : p.Triple R G P Q)
    (hnext : ∀ value, (f value).Triple R G (Q value) T) :
    (p >>= f).Triple R G P T :=
  fun state hstate => (h state hstate).bind hrefl hnext

/-- A cleanup that can start wherever the program may fail. -/
theorem Triple.onError (hrefl : ∀ state, R state state) {G' : σ → σ → Prop} {S : σ → Prop}
    (h : p.Triple R G' P Q) (hPS : ∀ state, P state → S state) (hR : Stable R S)
    (hG : Stable G' S) (hsub : ∀ before after, G' before after → G before after)
    (hcleanup : cleanup.Triple R G S (fun _ _ => True)) :
    (p.onError cleanup).Triple R G P Q := by
  intro state hstate
  refine Spec.orElse (h state hstate) (hPS state hstate) hR hG hsub ?_
  intro error final hfinal
  refine Spec.bind (Q := fun _ _ => True) hrefl ?_ (fun _ _ _ => trivial)
  refine Spec.orElse (P := fun _ => True) (hcleanup final hfinal) trivial
    (fun _ _ _ _ => trivial) (fun _ _ _ _ => trivial) (fun _ _ hguar => hguar) ?_
  intro _ _ _ _ _
  trivial

theorem triple_ret {value : α} {T : σ → Prop} (hT : Stable R T) (h : ∀ state, P state → T state)
    : (ret value : Prog σ ε α).Triple R G P (fun _ => T) :=
  fun state hstate moved hmoved => hT state moved hmoved (h state hstate)

theorem triple_modify {T : σ → Prop} (hP : Stable R P) (hT : Stable R T)
    (h : ∀ state state', P state → run state = .ok state' →
      (state = state' ∨ G state state') ∧ T state') :
    (modify run).Triple R G P (fun _ => T) := by
  intro state hstate moved hmoved
  refine ⟨?_, fun _ => trivial⟩
  intro state' hstate'
  obtain ⟨hguar, hafter⟩ := h moved state' (hP state moved hmoved hstate) hstate'
  exact ⟨hguar, fun final hfinal => hT state' final hfinal hafter⟩

theorem triple_query {f : σ → Except ε α} (hP : Stable R P) (hQ : ∀ value, Stable R (Q value))
    (h : ∀ state value, P state → f state = .ok value → Q value state) :
    (query f).Triple R G P Q := by
  intro state hstate moved hmoved
  refine ⟨?_, fun _ => trivial⟩
  rintro state' ⟨⟩
  refine ⟨.inl rfl, ?_⟩
  have hPmoved := hP state moved hmoved hstate
  show Spec R G Q (match f moved with
    | .ok value => ret value
    | .error error => fail error) moved
  cases hf : f moved with
  | ok value => exact fun final hfinal => hQ value moved final hfinal (h moved value hPmoved hf)
  | error error => trivial

theorem triple_lift (hQ : ∀ value, Stable R (Q value))
    (h : ∀ value, result = .ok value → ∀ state, P state → Q value state) :
    (lift result : Prog σ ε α).Triple R G P Q := by
  intro state hstate
  cases result with
  | ok value => exact fun moved hmoved => hQ value state moved hmoved (h value rfl state hstate)
  | error error => trivial

/-- A loop with an invariant over the items still to come. -/
theorem triple_each (hrefl : ∀ state, R state state) {f : β → Prog σ ε Unit}
    {I : List β → σ → Prop} (hstable : Stable R (I []))
    (hstep : ∀ item rest, item :: rest <:+ items →
      (f item).Triple R G (I (item :: rest)) (fun _ => I rest)) :
    (each f items).Triple R G (I items) (fun _ => I []) := by
  induction items with
  | nil => exact triple_ret hstable (fun _ h => h)
  | cons item rest ih =>
    refine Triple.bind hrefl (hstep item rest List.suffix_rfl) (fun _ => ih ?_)
    intro other more hsuffix
    exact hstep other more (hsuffix.trans (List.suffix_cons item rest))

/-! ## Programs alone -/

/-- The triple of a program alone: every state it reaches satisfies `I`. -/
abbrev Alone (I : σ → Prop) (P : σ → Prop) (p : Prog σ ε α) (Q : α → σ → Prop) : Prop :=
  p.Triple Eq (fun _ after => I after) P Q

theorem stable_eq (P : σ → Prop) : Stable Eq P := by
  rintro before after rfl h
  exact h

theorem alone_true (p : Prog σ ε α) : p.Alone (fun _ => True) P (fun _ _ => True) := by
  intro state hstate
  clear hstate
  induction p generalizing state with
  | ret value => exact fun _ _ => trivial
  | fail => trivial
  | act run next handler ihnext ihhandler =>
    intro moved _
    exact ⟨fun state' _ => ⟨.inr trivial, ihnext moved state'⟩,
      fun error => ihhandler error moved⟩

theorem Alone.bind {I P : σ → Prop} {Q : α → σ → Prop} {T : β → σ → Prop} (h : p.Alone I P Q)
    (hnext : ∀ value, (f value).Alone I (Q value) T) :
    (p >>= f).Alone I P T := Triple.bind (fun _ => rfl) h hnext

/-- What a program alone returns satisfies its postcondition. -/
theorem Alone.of_steps {I : σ → Prop} {value : α} (h : p.Alone I P Q) (hstate : P state)
    (hsteps : Steps (p, state) (ret value, state')) :
    Q value state' := by
  have hkeep : ∀ c d : Prog σ ε α × σ, Step c d →
      c.1.Spec Eq (fun _ after => I after) Q c.2 → d.1.Spec Eq (fun _ after => I after) Q d.2 := by
    intro c d hstep hspec
    cases hstep with
    | run hrun => exact ((hspec _ rfl).1 _ hrun).2
    | fault error => exact (hspec _ rfl).2 error
  have hall : ∀ c d : Prog σ ε α × σ, Steps c d →
      c.1.Spec Eq (fun _ after => I after) Q c.2 → d.1.Spec Eq (fun _ after => I after) Q d.2 := by
    intro c d hcd hspec
    induction hcd with
    | refl => exact hspec
    | tail _ hlast ih => exact hkeep _ _ hlast ih
  exact hall _ _ hsteps (h state hstate) state' rfl

/-- Every state that a program alone reaches satisfies its invariant, wherever it stops. -/
theorem Alone.reached {I : σ → Prop} {p p' : Prog σ ε α} (h : p.Alone I P Q) (hstate : P state)
    (hI : I state) (hsteps : Steps (p, state) (p', state')) : I state' := by
  have hall : ∀ c d : Prog σ ε α × σ, Steps c d →
      c.1.Spec Eq (fun _ after => I after) Q c.2 → I c.2 →
      d.1.Spec Eq (fun _ after => I after) Q d.2 ∧ I d.2 := by
    intro c d hcd hspec hc
    induction hcd with
    | refl => exact ⟨hspec, hc⟩
    | tail _ hlast ih =>
      obtain ⟨hmiddle, hkept⟩ := ih
      cases hlast with
      | run hrun =>
        obtain ⟨hguar, hnext⟩ := (hmiddle _ rfl).1 _ hrun
        refine ⟨hnext, ?_⟩
        rcases hguar with hsame | hafter
        · exact hsame ▸ hkept
        · exact hafter
      | fault error => exact ⟨(hmiddle _ rfl).2 error, hkept⟩
  exact (hall _ _ hsteps (h state hstate) hI).2

/-! ## Programs that make only certain steps -/

/-- Every step of a program alone is a `G` step. -/
abbrev Within (G : σ → σ → Prop) (p : Prog σ ε α) : Prop :=
  p.Triple Eq G (fun _ => True) (fun _ _ => True)

theorem within_ret (value : α) : (ret value : Prog σ ε α).Within G := fun _ _ _ _ => trivial

theorem within_fail (error : ε) : (fail error : Prog σ ε α).Within G := fun _ _ => trivial

theorem within_modify (h : ∀ state state', run state = .ok state' → G state state') :
    (modify run).Within G :=
  triple_modify (stable_eq _) (stable_eq _)
    (fun state state' _ hrun => ⟨.inr (h state state' hrun), trivial⟩)

theorem within_query (f : σ → Except ε α) : (query f).Within G :=
  triple_query (stable_eq _) (fun _ => stable_eq _) (fun _ _ _ _ => trivial)

theorem within_lift (result : Except ε α) : (lift result : Prog σ ε α).Within G :=
  triple_lift (fun _ => stable_eq _) (fun _ _ _ _ => trivial)

theorem Within.bind (h : p.Within G) (hnext : ∀ value, (f value).Within G) : (p >>= f).Within G :=
  Triple.bind (fun _ => rfl) h hnext

/-- What follows a computation may use its result. -/
theorem within_lift_bind (h : ∀ value, result = .ok value → (f value).Within G) :
    (lift result >>= f).Within G := by
  cases result with
  | ok value => exact h value rfl
  | error error => exact within_fail error

theorem Within.onError (h : p.Within G) (hcleanup : cleanup.Within G) :
    (p.onError cleanup).Within G :=
  Triple.onError (fun _ => rfl) (S := fun _ => True) h (fun _ _ => trivial) (stable_eq _)
    (fun _ _ _ _ => trivial) (fun _ _ hguar => hguar) hcleanup

theorem within_each {f : β → Prog σ ε Unit} (h : ∀ item ∈ items, (f item).Within G) :
    (each f items).Within G := by
  apply triple_each (fun _ => rfl) (I := fun _ _ => True) (stable_eq _)
  intro item rest hsuffix
  exact h item (hsuffix.subset List.mem_cons_self)

/-- What every `G` step keeps, the program keeps. -/
theorem Within.alone {I K : σ → Prop} (h : p.Within G)
    (hkeep : ∀ before after, K before → G before after → I after ∧ K after) :
    p.Alone I K (fun _ => K) := by
  intro state hstate
  have hspec := h state trivial
  clear h
  induction p generalizing state with
  | ret value =>
    rintro moved rfl
    exact hstate
  | fail => trivial
  | act run next handler ihnext ihhandler =>
    rintro moved rfl
    obtain ⟨hrun, herror⟩ := hspec state rfl
    refine ⟨?_, fun error => ihhandler error state hstate (herror error)⟩
    intro state' hstate'
    obtain ⟨hsame | hstep, hnext⟩ := hrun state' hstate'
    · subst hsame
      exact ⟨.inl rfl, ihnext state state hstate hnext⟩
    · obtain ⟨hI, hK⟩ := hkeep state state' hstate hstep
      exact ⟨.inr hI, ihnext state state' hK hnext⟩

/-- A loop whose turns each establish something that every later turn keeps or establishes
again. -/
theorem each_alone_turns {G : β → σ → σ → Prop} {I K : σ → Prop} {f : β → Prog σ ε Unit}
    {made : β → σ → Prop} (hwithin : ∀ item ∈ items, (f item).Within (G item))
    (hkeep : ∀ item ∈ items, ∀ before after, K before → G item before after → I after ∧ K after)
    (hmono : ∀ item ∈ items, ∀ other ∈ items, (∀ state, made item state → made other state) ∨
      ∀ before after, made other before → G item before after → made other after)
    (hmade : ∀ item ∈ items, (f item).Alone (fun _ => True) K (fun _ => made item)) :
    (each f items).Alone I K (fun _ state => K state ∧ ∀ item ∈ items, made item state) := by
  refine Triple.imp (triple_each (I := fun rest state => K state ∧ ∀ item ∈ items,
    item ∈ rest ∨ made item state) (fun _ => rfl) (stable_eq _) ?_) ?_ ?_
  · intro item rest hsuffix
    have hmem : item ∈ items := hsuffix.subset List.mem_cons_self
    -- What this turn may undo is what it makes at its end.
    have hkept := (hwithin item hmem).alone (I := I) (K := fun state => K state ∧
      ∀ other ∈ items, other ∈ item :: rest ∨ (∀ state, made item state → made other state) ∨
        made other state) ?_
    · refine ((hkept.and (hmade item hmem)).weaken (fun _ _ hboth => hboth.1)).imp ?_ ?_
      · rintro state ⟨hstate, hall⟩
        exact ⟨⟨hstate, fun other hother => (hall other hother).imp_right .inr⟩, hstate⟩
      · rintro _ final ⟨⟨hfinal, hall⟩, hitem⟩
        refine ⟨hfinal, fun other hother => ?_⟩
        rcases hall other hother with hrest | hagain | hdone
        · rcases List.mem_cons.mp hrest with rfl | hrest
          · exact .inr hitem
          · exact .inl hrest
        · exact .inr (hagain final hitem)
        · exact .inr hdone
    · rintro before after ⟨hbefore, hall⟩ hstep
      obtain ⟨hI, hK⟩ := hkeep item hmem before after hbefore hstep
      refine ⟨hI, hK, fun other hother => (hall other hother).imp_right ?_⟩
      rintro (hagain | hdone)
      · exact .inl hagain
      · exact (hmono item hmem other hother).imp_right
          (fun hkeeps => hkeeps before after hdone hstep)
  · exact fun state hstate => ⟨hstate, fun item hmem => .inl hmem⟩
  · rintro _ final ⟨hfinal, hall⟩
    exact ⟨hfinal, fun item hmem => (hall item hmem).resolve_left (by simp)⟩

/-- A loop whose turns each establish something that no later turn undoes. -/
theorem each_alone {I K : σ → Prop} {f : β → Prog σ ε Unit} {made : β → σ → Prop}
    (hwithin : ∀ item ∈ items, (f item).Within G)
    (hkeep : ∀ before after, K before → G before after → I after ∧ K after)
    (hmono : ∀ item ∈ items, ∀ before after, made item before → G before after →
      made item after) (hmade : ∀ item ∈ items, (f item).Alone I K (fun _ => made item)) :
    (each f items).Alone I K (fun _ state => K state ∧ ∀ item ∈ items, made item state) :=
  each_alone_turns (G := fun _ => G) hwithin (fun _ _ => hkeep)
    (fun _ _ other hother => .inr (hmono other hother))
    (fun item hmem => (hmade item hmem).weaken (fun _ _ _ => trivial))

end Prog

/-! ## Systems -/

/-- A process: actions one after the other, and groups of programs that run interleaved
until all of them have ended. -/
inductive Sys (σ ε : Type) where
  | done
  | fail (error : ε)
  | act (run : σ → Except ε σ) (next : σ → Sys σ ε) (handler : ε → Sys σ ε)
  | par (threads : List (Prog σ ε Unit)) (next : Sys σ ε)

/-- A program followed by a system.  An error of the program ends the system. -/
def Prog.seq {σ ε α : Type} : Prog σ ε α → (α → Sys σ ε) → Sys σ ε
  | .ret value, f => f value
  | .fail error, _ => .fail error
  | .act run next handler, f =>
      .act run (fun state => (next state).seq f) (fun error => (handler error).seq f)

namespace Sys

variable {σ ε α : Type}

/-- One step of a system. -/
inductive Step : Sys σ ε × σ → Sys σ ε × σ → Prop
  | run {run : σ → Except ε σ} {next : σ → Sys σ ε} {handler : ε → Sys σ ε}
      {state state' : σ} (h : run state = .ok state') :
      Step (.act run next handler, state) (next state, state')
  | fault {run : σ → Except ε σ} {next : σ → Sys σ ε} {handler : ε → Sys σ ε}
      {state : σ} (error : ε) : Step (.act run next handler, state) (handler error, state)
  | thread {threads : List (Prog σ ε Unit)} {next : Sys σ ε} {index : Nat}
      {p p' : Prog σ ε Unit} {state state' : σ} (hget : threads[index]? = some p)
      (h : Prog.Step (p, state) (p', state')) :
      Step (.par threads next, state) (.par (threads.set index p') next, state')
  | join {threads : List (Prog σ ε Unit)} {next : Sys σ ε} {state : σ}
      (hall : ∀ p ∈ threads, p = .ret ()) : Step (.par threads next, state) (next, state)
  | abort {threads : List (Prog σ ε Unit)} {next : Sys σ ε} {state : σ} {error : ε}
      (hfail : .fail error ∈ threads)
      (hall : ∀ p ∈ threads, p = .ret () ∨ ∃ error, p = .fail error) :
      Step (.par threads next, state) (.fail error, state)

/-- The configurations that a run can be in, and stop in. -/
abbrev Reach : Sys σ ε × σ → Sys σ ε × σ → Prop := Relation.ReflTransGen Step

/-- Every state of every run satisfies `I`, and `Q` holds when the system is done. -/
def Safe (I Q : σ → Prop) (sys : Sys σ ε) (state : σ) : Prop :=
  ∀ c, Reach (sys, state) c → I c.2 ∧ (c.1 = .done → Q c.2)

variable {I Q : σ → Prop}

theorem safe_done {state : σ} (hI : I state) (hQ : Q state) :
    (.done : Sys σ ε).Safe I Q state := by
  intro c hc
  rcases Relation.ReflTransGen.cases_head hc with rfl | ⟨e, hfirst, _⟩
  · exact ⟨hI, fun _ => hQ⟩
  · cases hfirst

theorem safe_fail {error : ε} {state : σ} (hI : I state) :
    (.fail error : Sys σ ε).Safe I Q state := by
  intro c hc
  rcases Relation.ReflTransGen.cases_head hc with rfl | ⟨e, hfirst, _⟩
  · exact ⟨hI, fun h => by cases h⟩
  · cases hfirst

theorem safe_act {run : σ → Except ε σ} {next : σ → Sys σ ε} {handler : ε → Sys σ ε}
    {state : σ} (hI : I state)
    (hrun : ∀ state', run state = .ok state' → (next state).Safe I Q state')
    (hhandler : ∀ error, (handler error).Safe I Q state) :
    (Sys.act run next handler).Safe I Q state := by
  intro c hc
  rcases Relation.ReflTransGen.cases_head hc with rfl | ⟨e, hfirst, hrest⟩
  · exact ⟨hI, fun h => by cases h⟩
  · cases hfirst with
    | run h => exact hrun _ h c hrest
    | fault error => exact hhandler error c hrest

/-- A program alone, followed by a system. -/
theorem safe_seq {p : Prog σ ε α} {f : α → Sys σ ε} {P : σ → Prop} {T : α → σ → Prop} {state : σ}
    (h : p.Alone I P T) (hI : I state) (hP : P state)
    (hnext : ∀ value final, I final → T value final → (f value).Safe I Q final) :
    (p.seq f).Safe I Q state := by
  have hspec := h state hP
  clear h hP
  induction p generalizing state with
  | ret value => exact hnext value state hI (hspec state rfl)
  | fail error => exact safe_fail hI
  | act run next handler ihnext ihhandler =>
    obtain ⟨hrun, herror⟩ := hspec state rfl
    apply safe_act hI
    · intro state' hstate'
      obtain ⟨hsame | hI', hspec'⟩ := hrun state' hstate'
      · exact ihnext state (hsame ▸ hI) hspec'
      · exact ihnext state hI' hspec'
    · exact fun error => ihhandler error hI (herror error)

/-- A group of programs.  Each one relies on what the others guarantee, and all of them
keep `J`; when all have returned, all their postconditions hold. -/
theorem safe_par {threads : List (Prog σ ε Unit)} {next : Sys σ ε} {state : σ} (J : σ → Prop)
    (R G : Nat → σ → σ → Prop) (T : Nat → σ → Prop)
    (hrefl : ∀ index before, R index before before)
    (htrans : ∀ index a b c, R index a b → R index b c → R index a c)
    (hcompat : ∀ index other, other ≠ index → ∀ before after, J before →
      G other before after → R index before after)
    (hkeep : ∀ index before after, J before → G index before after → J after)
    (hJ : J state) (hJI : ∀ current, J current → I current)
    (hspec : ∀ (index : Nat) (p : Prog σ ε Unit), threads[index]? = some p →
      p.Spec (R index) (G index) (fun _ => T index) state)
    (hnext : ∀ final, J final → (∀ index < threads.length, T index final) →
      next.Safe I Q final) :
    (Sys.par threads next).Safe I Q state := by
  -- The invariant of the group: every thread still has its specification.
  have hpool : ∀ c, Reach (Sys.par threads next, state) c →
      (∃ threads' current, c = (.par threads' next, current) ∧
        threads'.length = threads.length ∧ J current ∧
        ∀ (index : Nat) (p : Prog σ ε Unit), threads'[index]? = some p →
          p.Spec (R index) (G index) (fun _ => T index) current) ∨
      (∃ final, next.Safe I Q final ∧ Reach (next, final) c) ∨
      ∃ error current, c = (.fail error, current) ∧ J current := by
    intro c hc
    induction hc with
    | refl => exact .inl ⟨threads, state, rfl, rfl, hJ, hspec⟩
    | tail _ hstep ih =>
      rcases ih with ⟨threads', current, rfl, hlength, hcurrent, hall⟩ |
        ⟨final, hsafe, hreach⟩ | ⟨error, current, rfl, hcurrent⟩
      · cases hstep with
        | @thread _ _ index p p' _ state' hget h =>
          have hthread := hall index p hget
          have hnew : p'.Spec (R index) (G index) (fun _ => T index) state' ∧
              (current = state' ∨ G index current state') := by
            cases h with
            | run hrun =>
              obtain ⟨hguar, hspec'⟩ := (hthread current (hrefl index current)).1 _ hrun
              exact ⟨hspec', hguar⟩
            | fault error =>
              exact ⟨(hthread current (hrefl index current)).2 error, .inl rfl⟩
          refine .inl ⟨threads'.set index p', state', rfl, by simpa using hlength, ?_, ?_⟩
          · rcases hnew.2 with rfl | hmove
            · exact hcurrent
            · exact hkeep index _ _ hcurrent hmove
          · intro other q hother
            by_cases hsame : index = other
            · subst hsame
              rw [List.getElem?_set_self (List.getElem?_eq_some_iff.mp hget).1] at hother
              cases hother
              exact hnew.1
            · rw [List.getElem?_set_ne hsame] at hother
              rcases hnew.2 with rfl | hmove
              · exact hall other q hother
              · exact (hall other q hother).stable (htrans other)
                  (hcompat other index hsame _ _ hcurrent hmove)
        | join hdone =>
          refine .inr (.inl ⟨current, hnext current hcurrent ?_, .refl⟩)
          intro index hindex
          rw [← hlength] at hindex
          have hget := List.getElem?_eq_getElem hindex
          have hret := hdone _ (List.getElem_mem hindex)
          rw [hret] at hget
          exact hall index _ hget current (hrefl index current)
        | abort hfail _ => exact .inr (.inr ⟨_, _, rfl, hcurrent⟩)
      · exact .inr (.inl ⟨final, hsafe, hreach.tail hstep⟩)
      · cases hstep
  intro c hc
  rcases hpool c hc with ⟨threads', current, rfl, _, hcurrent, _⟩ | ⟨final, hsafe, hreach⟩ |
    ⟨error, current, rfl, hcurrent⟩
  · exact ⟨hJI current hcurrent, fun h => by cases h⟩
  · exact hsafe c hreach
  · exact ⟨hJI current hcurrent, fun h => by cases h⟩

/-! ## Runs -/

/-- A program that returns leads to what follows it. -/
theorem reach_seq {p : Prog σ ε α} {f : α → Sys σ ε} {state state' : σ} {value : α}
    (h : p.eval state = (.ok value, state')) : Reach (p.seq f, state) (f value, state') := by
  induction p generalizing state with
  | ret a =>
    cases h
    exact .refl
  | fail e => cases h
  | act run next handler ihnext ihhandler =>
    rw [Prog.eval] at h
    cases hrun : run state with
    | ok middle =>
      rw [hrun] at h
      exact .head (.run hrun) (ihnext state h)
    | error error =>
      rw [hrun] at h
      exact .head (.fault error) (ihhandler error h)

/-- A run of one thread is a run of the group. -/
theorem reach_thread {threads : List (Prog σ ε Unit)} {next : Sys σ ε} {index : Nat}
    {p p' : Prog σ ε Unit} {state state' : σ} (hget : threads[index]? = some p)
    (h : Prog.Steps (p, state) (p', state')) :
    Reach (.par threads next, state) (.par (threads.set index p') next, state') := by
  have hlt := (List.getElem?_eq_some_iff.mp hget).1
  have hall : ∀ c d : Prog σ ε Unit × σ, Prog.Steps c d → threads[index]? = some c.1 →
      Reach (.par threads next, c.2) (.par (threads.set index d.1) next, d.2) := by
    intro c d hcd hfirst
    induction hcd with
    | refl =>
      obtain ⟨_, hvalue⟩ := List.getElem?_eq_some_iff.mp hfirst
      rw [← hvalue, List.set_getElem_self]
    | @tail middle last _ hlast ih =>
      refine ih.tail ?_
      rw [show threads.set index last.1 = (threads.set index middle.1).set index last.1 by simp]
      exact Step.thread (List.getElem?_set_self hlt) hlast
  exact hall (p, state) (p', state') h hget

end Sys

end Crash
