import NetworkCopy.Lib.OneWay

/-!
# What a party exchanges

`Proc.Exchanges` is a postcondition with counters: it speaks of the value that a party returns and
of how many tokens it has sent and received by then, whatever the other party sends.  A formula
that predicts the length of a conversation is stated with it, for one party alone.

`Meet` is the agreement that promises nothing: either party may fail with any error, and when both
return, their values are related.
-/

namespace Duplex

variable {τ ε α α' β β' γ : Type}

/-! ## Counters -/

/-- Whatever the party receives: when it returns a value, the value and the numbers of tokens sent
and received satisfy `φ`. -/
def Proc.Exchanges : Proc τ ε α → (α → Nat → Nat → Prop) → Prop
  | .ret a, φ => φ a 0 0
  | .fail _, _ => True
  | .send tokens next, φ =>
      next.Exchanges (fun a sent received => φ a (tokens.length + sent) received)
  | .recv count next, φ => ∀ tokens, tokens.length = count →
      (next tokens).Exchanges (fun a sent received => φ a sent (count + received))

namespace Proc.Exchanges

variable {φ ψ : α → Nat → Nat → Prop}

theorem mono {p : Proc τ ε α} (h : p.Exchanges φ)
    (hφ : ∀ a sent received, φ a sent received → ψ a sent received) : p.Exchanges ψ := by
  induction p generalizing φ ψ with
  | ret a => exact hφ a 0 0 h
  | fail e => trivial
  | send tokens next ih => exact ih h (fun a sent received => hφ a _ received)
  | recv count next ih =>
    intro tokens hcount
    exact ih tokens (h tokens hcount) (fun a sent received => hφ a sent _)

theorem write_bind {tokens : List τ} {f : Unit → Proc τ ε α}
    (h : (f ()).Exchanges (fun a sent received => φ a (tokens.length + sent) received)) :
    (Proc.write tokens >>= f).Exchanges φ :=
  h

theorem read_bind {count : Nat} {f : List τ → Proc τ ε α}
    (h : ∀ tokens, tokens.length = count →
      (f tokens).Exchanges (fun a sent received => φ a sent (count + received))) :
    (Proc.read count >>= f).Exchanges φ :=
  h

/-- What a party that only sends emits. -/
theorem emits {p : Proc τ ε α} (h : p.Exchanges φ) {w : List τ} {a : α}
    (hp : Emits p w (.ok a)) : φ a w.length 0 := by
  induction p generalizing φ w with
  | ret b =>
    obtain ⟨rfl, rfl⟩ := emits_ret.mp hp
    exact h
  | fail e => cases hp
  | send tokens next ih =>
    cases hp with
    | send _ hnext =>
      have hrest := ih h hnext
      rwa [← List.length_append] at hrest
  | recv count next => cases hp

end Proc.Exchanges

variable {p : Proc τ ε α}
variable {q : Proc τ ε β}

/-- A step of a run keeps the postcondition of its counting party. -/
theorem counted_step {sent received : Nat} {φ : α → Nat → Nat → Prop}
    (h : p.Exchanges (fun a sent' received' => φ a (sent + sent') (received + received')))
    {c d : Config τ ε (α × Nat × Nat) β} (hleft : c.left = counted p sent received)
    (hstep : Step c d) :
    ∃ (p' : Proc τ ε α) (sent' received' : Nat), d.left = counted p' sent' received' ∧
      p'.Exchanges (fun a s r => φ a (sent' + s) (received' + r)) := by
  cases hstep with
  | leftSend =>
    cases p with
    | send tokens next =>
      cases hleft
      refine ⟨next, _, received, rfl, Proc.Exchanges.mono (p := next) h ?_⟩
      intro a s r hφ
      rw [Nat.add_assoc]
      exact hφ
    | ret a => cases hleft
    | fail e => cases hleft
    | recv count next => cases hleft
  | leftRecv enough =>
    cases p with
    | recv count next =>
      cases hleft
      refine ⟨_, sent, _, rfl, (h _ (List.length_take_of_le enough)).mono ?_⟩
      intro a s r hφ
      rw [List.length_take_of_le enough, Nat.add_assoc]
      exact hφ
    | ret a => cases hleft
    | fail e => cases hleft
    | send tokens next => cases hleft
  | rightSend => exact ⟨p, sent, received, hleft, h⟩
  | rightRecv => exact ⟨p, sent, received, hleft, h⟩

/-- In a run against any other party, what a counting party returns satisfies its
postcondition. -/
theorem Proc.Exchanges.counted {φ : α → Nat → Nat → Prop} (h : p.Exchanges φ)
    {toRight toLeft : List τ} {c : Config τ ε (α × Nat × Nat) β}
    (hrun : Steps ⟨Duplex.counted p 0 0, q, toRight, toLeft⟩ c) {a : α} {sent received : Nat}
    (hend : c.left = .ret (a, sent, received)) : φ a sent received := by
  have hkept : ∃ (p' : Proc τ ε α) (s r : Nat), c.left = Duplex.counted p' s r ∧
      p'.Exchanges (fun a s' r' => φ a (s + s') (r + r')) := by
    clear hend
    induction hrun with
    | refl =>
      refine ⟨p, 0, 0, rfl, h.mono ?_⟩
      intro b s r hb
      rwa [Nat.zero_add, Nat.zero_add]
    | tail _ hstep ih =>
      obtain ⟨p', s, r, hleft, hp'⟩ := ih
      exact counted_step hp' hleft hstep
  obtain ⟨p', s, r, hleft, hp'⟩ := hkept
  rw [hend] at hleft
  cases p' with
  | ret b =>
    cases hleft
    exact hp'
  | fail e => cases hleft
  | send tokens next => cases hleft
  | recv count next => cases hleft

/-! ## Meeting -/

/-- Either party may fail; when both return, their values are related. -/
abbrev Meet (p : Proc τ ε α) (q : Proc τ ε β) (Q : α → β → Prop) : Prop :=
  Agree (fun _ => True) (fun _ => True) p q Q

/-- Both parties return, in some run from empty queues. -/
def Ends (p : Proc τ ε α) (q : Proc τ ε β) (a : α) (b : β) : Prop :=
  ∃ toRight toLeft, Steps ⟨p, q, [], []⟩ ⟨.ret a, .ret b, toRight, toLeft⟩

variable {Q : α → β → Prop}

theorem Agree.meet {L R : ε → Prop} (h : Agree L R p q Q) :
    Meet p q Q := by
  obtain ⟨c, hc, hout⟩ := h
  refine ⟨c, hc, ?_⟩
  rcases hout with hdone | ⟨e, he, _⟩ | ⟨e, he, _⟩
  · exact .inl hdone
  · exact .inr (.inl ⟨e, he, trivial⟩)
  · exact .inr (.inr ⟨e, he, trivial⟩)

theorem Meet.ends (h : Meet p q Q) {a : α} {b : β} (hends : Ends p q a b) :
    Q a b := by
  obtain ⟨toRight, toLeft, hsteps⟩ := hends
  rcases h.of_stuck hsteps (stuck_of_ret a b toRight toLeft) with
    ⟨_, _, hsame, hQ⟩ | ⟨_, hfail, _⟩ | ⟨_, hfail, _⟩
  · cases hsame
    exact hQ
  · cases hfail
  · cases hfail

/-! ## Running both parties -/

/-- The action that comes next when the left party goes before the right one and a send before a
receive. -/
def Config.next : Config τ ε α β → Option (Config τ ε α β)
  | ⟨.send tokens p, q, r, l⟩ => some ⟨p, q, r ++ tokens, l⟩
  | ⟨p, .send tokens q, r, l⟩ => some ⟨p, q, r, l ++ tokens⟩
  | ⟨.recv count k, .recv count' k', r, l⟩ =>
      if count ≤ l.length then some ⟨k (l.take count), .recv count' k', r, l.drop count⟩
      else if count' ≤ r.length then
        some ⟨.recv count k, k' (r.take count'), r.drop count', l⟩
      else none
  | ⟨.recv count k, q, r, l⟩ =>
      if count ≤ l.length then some ⟨k (l.take count), q, r, l.drop count⟩ else none
  | ⟨p, .recv count k, r, l⟩ =>
      if count ≤ r.length then some ⟨p, k (r.take count), r.drop count, l⟩ else none
  | _ => none

/-- A run of at most `fuel` actions. -/
def Config.run : Nat → Config τ ε α β → Config τ ε α β
  | 0, c => c
  | fuel + 1, c =>
      match c.next with
      | some d => d.run fuel
      | none => c

/-- What both parties have returned. -/
def Config.results : Config τ ε α β → Option (α × β)
  | ⟨.ret a, .ret b, _, _⟩ => some (a, b)
  | _ => none

theorem Config.step_of_next {c d : Config τ ε α β} (h : c.next = some d) : Step c d := by
  unfold Config.next at h
  split at h
  · cases h
    exact .leftSend
  · cases h
    exact .rightSend
  · split at h
    · next enough =>
        cases h
        exact .leftRecv enough
    · split at h
      · next enough =>
          cases h
          exact .rightRecv enough
      · cases h
  · split at h
    · next enough =>
        cases h
        exact .leftRecv enough
    · cases h
  · split at h
    · next enough =>
        cases h
        exact .rightRecv enough
    · cases h
  · cases h

theorem Config.steps_run (fuel : Nat) (c : Config τ ε α β) : Steps c (c.run fuel) := by
  induction fuel generalizing c with
  | zero => exact .refl
  | succ fuel ih =>
    rw [Config.run]
    split
    · next d hnext => exact .head (Config.step_of_next hnext) (ih d)
    · exact .refl

/-- What a run computes is what the parties end with. -/
theorem Ends.of_run {a : α} {b : β} (fuel : Nat)
    (h : (Config.run fuel ⟨p, q, [], []⟩).results = some (a, b)) : Ends p q a b := by
  have hsteps := Config.steps_run fuel (⟨p, q, [], []⟩ : Config τ ε α β)
  unfold Config.results at h
  split at h
  · next toRight toLeft hrun =>
      cases h
      rw [hrun] at hsteps
      exact ⟨toRight, toLeft, hsteps⟩
  · cases h

/-! ## Parties that only send -/

theorem emits_of_isSome (h : (emission p).isSome) : ∃ w a, Emits p w (.ok a) := by
  obtain ⟨⟨w, a⟩, hemission⟩ := Option.isSome_iff_exists.mp h
  exact ⟨w, a, emits_of_emission hemission⟩

/-- The party never waits for the other one. -/
def OnlySends (p : Proc τ ε α) : Prop := ∃ w r, Emits p w r

namespace OnlySends

theorem bind {p : Proc τ ε α} {f : α → Proc τ ε β} (hp : OnlySends p)
    (hf : ∀ a, OnlySends (f a)) : OnlySends (p >>= f) := by
  obtain ⟨w, r, hp⟩ := hp
  induction hp with
  | ret a => exact hf a
  | fail e => exact ⟨[], _, .fail e⟩
  | send tokens _ ih =>
    obtain ⟨w', r', hnext⟩ := ih
    exact ⟨_, r', .send tokens hnext⟩

theorem ret (a : α) : OnlySends (.ret a : Proc τ ε α) := ⟨[], _, .ret a⟩

theorem write (tokens : List τ) : OnlySends (Proc.write tokens : Proc τ ε Unit) :=
  ⟨_, _, .send tokens (.ret ())⟩

theorem lift (result : Except ε α) : OnlySends (Proc.lift result : Proc τ ε α) := by
  cases result with
  | error e => exact ⟨[], _, .fail e⟩
  | ok a => exact ret a

theorem sendEach {write : α → Proc τ ε Unit} (h : ∀ a, OnlySends (write a)) (items : List α) :
    OnlySends (Duplex.sendEach write items) := by
  induction items with
  | nil => exact ret ()
  | cons item rest ih => exact bind (h item) (fun _ => ih)

end OnlySends

/-- An outcome stays an outcome. -/
theorem Outcome.steps {L R : ε → Prop} {c d : Config τ ε α β} (h : Outcome L R Q c)
    (hsteps : Steps c d) : Outcome L R Q d := by
  rcases h with ⟨a, b, rfl, hQ⟩ | ⟨e, he, hL⟩ | ⟨e, he, hR⟩
  · have hsame := (stuck_of_ret a b [] []).steps_eq hsteps
    exact .inl ⟨a, b, hsame, hQ⟩
  · exact .inr (.inl ⟨e, by rw [hsteps.left_eq (.inr ⟨e, he⟩), he], hL⟩)
  · exact .inr (.inr ⟨e, by rw [hsteps.right_eq (.inr ⟨e, he⟩), he], hR⟩)

/-- How a message is cut into writes does not matter. -/
theorem Agree.of_emits_right {L R : ε → Prop} {q q' : Proc τ ε γ} {w : List τ} {c : γ}
    {g : γ → Proc τ ε β} (hq : Emits q w (.ok c)) (hq' : Emits q' w (.ok c))
    (h : Agree L R p (q' >>= g) Q) : Agree L R p (q >>= g) Q := by
  have hsent : ∀ {q : Proc τ ε γ}, Emits q w (.ok c) →
      Steps (⟨p, q >>= g, [], []⟩ : Config τ ε α β) ⟨p, g c, [], w⟩ := by
    intro q hq
    have hsteps := ((hq.steps p [] []).swap).bind (fun a => (.ret a : Proc τ ε α)) g
    simp only [Config.bind, Config.swap, Proc.bind_ret, Proc.lift_ok, Proc.ret_bind,
      List.nil_append] at hsteps
    exact hsteps
  obtain ⟨d, hd, hout⟩ := h
  obtain ⟨m, hm, hdm⟩ := steps_join (hsent hq') hd
  exact ⟨m, (hsent hq).trans hm, hout.steps hdm⟩

/-- A party that only sends fails, or has its message to send. -/
theorem Meet.of_onlySends {q : Proc τ ε γ} {g : γ → Proc τ ε β} (hq : OnlySends q)
    (h : ∀ w c, Emits q w (.ok c) → Meet p (q >>= g) Q) :
    Meet p (q >>= g) Q := by
  obtain ⟨w, r, hemits⟩ := hq
  cases r with
  | ok c => exact h w c hemits
  | error e =>
    have hsteps := ((hemits.steps p [] []).swap).bind (fun a => (.ret a : Proc τ ε α)) g
    simp only [Config.bind, Config.swap, Proc.bind_ret, Proc.lift_error, Proc.fail_bind,
      List.nil_append] at hsteps
    exact ⟨_, hsteps, .inr (.inr ⟨e, rfl, trivial⟩)⟩

end Duplex
