import Mathlib

/-!
# Two parties over a duplex channel

A party is a tree of sends and receives that ends with a value or an error
(`Proc`).  Two parties run against each other over two FIFO queues, one for each
direction (`Config`, `Step`).  A receive waits until its queue holds as many
tokens as it asks for, so what a party receives does not depend on the schedule:
`step_diamond` gives confluence, and with it a statement about one run is a
statement about all of them.

`Agree` is the relation that protocol proofs build up.  It says that the two
parties can run from empty queues to empty queues and related results, or that
one of them stops with an error of a permitted kind.  It is compositional
(`Agree.bind`), and its consequences for every schedule are
`Agree.of_stuck` and `Agree.of_left_ret`.

`counted` adds the byte counters of a counting reader and a counting writer.
-/

namespace Duplex

/-- A party that exchanges tokens of type `τ` with its peer. -/
inductive Proc (τ ε α : Type) where
  | ret (value : α)
  | fail (error : ε)
  | send (tokens : List τ) (next : Proc τ ε α)
  | recv (count : Nat) (next : List τ → Proc τ ε α)

namespace Proc

variable {τ ε α β γ : Type}

/-- Sequencing.  An error ends the party. -/
def bind : Proc τ ε α → (α → Proc τ ε β) → Proc τ ε β
  | ret value, f => f value
  | fail error, _ => fail error
  | send tokens next, f => send tokens (next.bind f)
  | recv count next, f => recv count (fun tokens => (next tokens).bind f)

instance : Monad (Proc τ ε) where
  pure := ret
  bind := bind

/-- Write tokens to the peer. -/
def write (tokens : List τ) : Proc τ ε Unit := send tokens (ret ())

/-- Read exactly `count` tokens. -/
def read (count : Nat) : Proc τ ε (List τ) := recv count ret

/-- A local computation. -/
def lift : Except ε α → Proc τ ε α
  | .ok value => ret value
  | .error error => fail error

@[simp] theorem pure_eq_ret (value : α) : (pure value : Proc τ ε α) = ret value := rfl

@[simp] theorem ret_bind (value : α) (f : α → Proc τ ε β) : (ret value >>= f) = f value :=
  rfl

@[simp] theorem fail_bind (error : ε) (f : α → Proc τ ε β) :
    (fail error >>= f) = fail error := rfl

@[simp] theorem send_bind (tokens : List τ) (next : Proc τ ε α) (f : α → Proc τ ε β) :
    (send tokens next >>= f) = send tokens (next >>= f) := rfl

@[simp] theorem recv_bind (count : Nat) (next : List τ → Proc τ ε α)
    (f : α → Proc τ ε β) :
    (recv count next >>= f) = recv count (fun tokens => next tokens >>= f) := rfl

@[simp] theorem lift_ok (value : α) : (lift (.ok value) : Proc τ ε α) = ret value := rfl

@[simp] theorem lift_error (error : ε) :
    (lift (.error error) : Proc τ ε α) = fail error := rfl

theorem bind_ret (p : Proc τ ε α) : (p >>= ret) = p := by
  induction p with
  | ret value => rfl
  | fail error => rfl
  | send tokens next ih => rw [send_bind, ih]
  | recv count next ih =>
    rw [recv_bind]
    congr 1
    funext tokens
    exact ih tokens

theorem bind_assoc' (p : Proc τ ε α) (f : α → Proc τ ε β) (g : β → Proc τ ε γ) :
    ((p >>= f) >>= g) = (p >>= fun value => f value >>= g) := by
  induction p with
  | ret value => rfl
  | fail error => rfl
  | send tokens next ih => rw [send_bind, send_bind, send_bind, ih]
  | recv count next ih =>
    rw [recv_bind, recv_bind, recv_bind]
    congr 1
    funext tokens
    exact ih tokens

instance : LawfulMonad (Proc τ ε) := LawfulMonad.mk' _
  (fun p => bind_ret p)
  (fun _ _ => rfl)
  (fun p f g => bind_assoc' p f g)

end Proc

/-! ## Runs -/

/-- The two parties and the tokens in flight in each direction. -/
structure Config (τ ε α β : Type) where
  left : Proc τ ε α
  right : Proc τ ε β
  toRight : List τ
  toLeft : List τ

section

variable {τ ε α β α' β' : Type}
variable {c d : Config τ ε α β}

/-- One action of one party. -/
inductive Step : Config τ ε α β → Config τ ε α β → Prop
  | leftSend {tokens : List τ} {p : Proc τ ε α} {q : Proc τ ε β} {r l : List τ} :
      Step ⟨.send tokens p, q, r, l⟩ ⟨p, q, r ++ tokens, l⟩
  | rightSend {tokens : List τ} {p : Proc τ ε α} {q : Proc τ ε β} {r l : List τ} :
      Step ⟨p, .send tokens q, r, l⟩ ⟨p, q, r, l ++ tokens⟩
  | leftRecv {count : Nat} {k : List τ → Proc τ ε α} {q : Proc τ ε β} {r l : List τ}
      (enough : count ≤ l.length) :
      Step ⟨.recv count k, q, r, l⟩ ⟨k (l.take count), q, r, l.drop count⟩
  | rightRecv {count : Nat} {p : Proc τ ε α} {k : List τ → Proc τ ε β} {r l : List τ}
      (enough : count ≤ r.length) :
      Step ⟨p, .recv count k, r, l⟩ ⟨p, k (r.take count), r.drop count, l⟩

/-- A run of any number of actions. -/
abbrev Steps : Config τ ε α β → Config τ ε α β → Prop := Relation.ReflTransGen Step

/-- No party can act. -/
def Stuck (c : Config τ ε α β) : Prop := ∀ d, ¬ Step c d

/-- A send appends behind the tokens that a pending receive takes. -/
theorem leftSend_rightRecv {tokens : List τ} {p : Proc τ ε α} {count : Nat}
    {k : List τ → Proc τ ε β} {r l : List τ} (enough : count ≤ r.length) :
    ∃ f, Step ⟨p, .recv count k, r ++ tokens, l⟩ f ∧
      Step ⟨.send tokens p, k (r.take count), r.drop count, l⟩ f := by
  refine ⟨_, .rightRecv ?_, ?_⟩
  · rw [List.length_append]
    omega
  · rw [List.take_append_of_le_length enough, List.drop_append_of_le_length enough]
    exact .leftSend

/-- The same in the other direction. -/
theorem rightSend_leftRecv {tokens : List τ} {q : Proc τ ε β} {count : Nat}
    {k : List τ → Proc τ ε α} {r l : List τ} (enough : count ≤ l.length) :
    ∃ f, Step ⟨.recv count k, q, r, l ++ tokens⟩ f ∧
      Step ⟨k (l.take count), .send tokens q, r, l.drop count⟩ f := by
  refine ⟨_, .leftRecv ?_, ?_⟩
  · rw [List.length_append]
    omega
  · rw [List.take_append_of_le_length enough, List.drop_append_of_le_length enough]
    exact .rightSend

/-- Actions of the two parties commute, and each party has at most one action. -/
theorem step_diamond {c d e : Config τ ε α β} (hd : Step c d) (he : Step c e) :
    d = e ∨ ∃ f, Step d f ∧ Step e f := by
  cases hd with
  | leftSend =>
    cases he with
    | leftSend => exact .inl rfl
    | rightSend => exact .inr ⟨_, .rightSend, .leftSend⟩
    | rightRecv enough => exact .inr (leftSend_rightRecv enough)
  | rightSend =>
    cases he with
    | leftSend => exact .inr ⟨_, .leftSend, .rightSend⟩
    | rightSend => exact .inl rfl
    | leftRecv enough => exact .inr (rightSend_leftRecv enough)
  | leftRecv enough =>
    cases he with
    | rightSend =>
      obtain ⟨f, hleft, hright⟩ := rightSend_leftRecv enough
      exact .inr ⟨f, hright, hleft⟩
    | leftRecv => exact .inl rfl
    | rightRecv enough' => exact .inr ⟨_, .rightRecv enough', .leftRecv enough⟩
  | rightRecv enough =>
    cases he with
    | leftSend =>
      obtain ⟨f, hleft, hright⟩ := leftSend_rightRecv enough
      exact .inr ⟨f, hright, hleft⟩
    | leftRecv enough' => exact .inr ⟨_, .leftRecv enough', .rightRecv enough⟩
    | rightRecv => exact .inl rfl

/-- Two runs from one configuration can be continued to a common one. -/
theorem steps_join {c d e : Config τ ε α β} (hd : Steps c d) (he : Steps c e) :
    ∃ f, Steps d f ∧ Steps e f := by
  refine Relation.church_rosser ?_ hd he
  intro a b c hab hac
  rcases step_diamond hab hac with rfl | ⟨f, hbf, hcf⟩
  · exact ⟨b, .refl, .refl⟩
  · exact ⟨f, .single hbf, .single hcf⟩

/-- A party that has returned or failed does not act any more. -/
theorem Step.left_eq (h : Step c d) (hdone : (∃ a, c.left = .ret a) ∨ ∃ e, c.left = .fail e) :
    d.left = c.left := by
  rcases hdone with ⟨a, ha⟩ | ⟨e, he⟩
  · cases h <;> simp_all
  · cases h <;> simp_all

theorem Step.right_eq (h : Step c d) (hdone : (∃ b, c.right = .ret b) ∨ ∃ e, c.right = .fail e) :
    d.right = c.right := by
  rcases hdone with ⟨b, hb⟩ | ⟨e, he⟩
  · cases h <;> simp_all
  · cases h <;> simp_all

theorem Steps.left_eq (h : Steps c d) (hdone : (∃ a, c.left = .ret a) ∨ ∃ e, c.left = .fail e) :
    d.left = c.left := by
  induction h with
  | refl => rfl
  | tail _ hstep ih => rw [hstep.left_eq (by rw [ih]; exact hdone), ih]

theorem Steps.right_eq (h : Steps c d)
    (hdone : (∃ b, c.right = .ret b) ∨ ∃ e, c.right = .fail e) : d.right = c.right := by
  induction h with
  | refl => rfl
  | tail _ hstep ih => rw [hstep.right_eq (by rw [ih]; exact hdone), ih]

/-- Only the trivial run leaves a stuck configuration. -/
theorem Stuck.steps_eq (hc : Stuck c) (h : Steps c d) : d = c := by
  rcases Relation.ReflTransGen.cases_head h with rfl | ⟨e, hstep, _⟩
  · rfl
  · exact absurd hstep (hc e)

theorem stuck_of_ret (a : α) (b : β) (r l : List τ) :
    Stuck (⟨.ret a, .ret b, r, l⟩ : Config τ ε α β) := by
  intro d h
  cases h

end

/-! ## Agreement -/

section

variable {τ ε α β α' β' : Type} {L R L' R' : ε → Prop} {Q : α → β → Prop}

/-- How a run may end: both parties have returned related values with nothing left
in flight, or one of them has failed with an error of its permitted kind. -/
def Outcome (L R : ε → Prop) (Q : α → β → Prop) (c : Config τ ε α β) : Prop :=
  (∃ a b, c = ⟨.ret a, .ret b, [], []⟩ ∧ Q a b) ∨
    (∃ e, c.left = .fail e ∧ L e) ∨ ∃ e, c.right = .fail e ∧ R e

/-- The parties, started with nothing in flight, reach a permitted outcome. -/
def Agree (L R : ε → Prop) (p : Proc τ ε α) (q : Proc τ ε β) (Q : α → β → Prop) : Prop :=
  ∃ c, Steps ⟨p, q, [], []⟩ c ∧ Outcome L R Q c

namespace Agree

theorem ret {a : α} {b : β} (h : Q a b) :
    Agree L R (.ret a : Proc τ ε α) (.ret b : Proc τ ε β) Q :=
  ⟨_, .refl, .inl ⟨a, b, rfl, h⟩⟩

theorem failLeft {e : ε} {q : Proc τ ε β} (h : L e) :
    Agree L R (.fail e : Proc τ ε α) q Q :=
  ⟨_, .refl, .inr (.inl ⟨e, rfl, h⟩)⟩

theorem failRight {e : ε} {p : Proc τ ε α} (h : R e) :
    Agree L R p (.fail e : Proc τ ε β) Q :=
  ⟨_, .refl, .inr (.inr ⟨e, rfl, h⟩)⟩

/-- A first action can be put in front of an agreement. -/
theorem head {p p' : Proc τ ε α} {q q' : Proc τ ε β}
    (hsteps : Steps ⟨p, q, [], []⟩ ⟨p', q', [], []⟩) (h : Agree L R p' q' Q) :
    Agree L R p q Q := by
  obtain ⟨c, hc, hout⟩ := h
  exact ⟨c, hsteps.trans hc, hout⟩

variable {tokens : List τ} {count : Nat}

/-- What one party sends, the other receives. -/
theorem sendRight {p : Proc τ ε α} {k : List τ → Proc τ ε β} (hcount : tokens.length = count)
    (h : Agree L R p (k tokens) Q) :
    Agree L R (.send tokens p) (.recv count k) Q := by
  refine head ?_ h
  refine .head .leftSend ?_
  have hrecv := Step.rightRecv (p := p) (k := k) (l := []) hcount.ge
  rw [← hcount, List.take_length, List.drop_length] at hrecv
  rw [← hcount]
  exact .single hrecv

theorem sendLeft {q : Proc τ ε β} {k : List τ → Proc τ ε α} (hcount : tokens.length = count)
    (h : Agree L R (k tokens) q Q) :
    Agree L R (.recv count k) (.send tokens q) Q := by
  refine head ?_ h
  refine .head .rightSend ?_
  have hrecv := Step.leftRecv (q := q) (k := k) (r := []) hcount.ge
  rw [← hcount, List.take_length, List.drop_length] at hrecv
  rw [← hcount]
  exact .single hrecv

theorem writeRead {f : Unit → Proc τ ε α} {g : List τ → Proc τ ε β}
    (hcount : tokens.length = count) (h : Agree L R (f ()) (g tokens) Q) :
    Agree L R (Proc.write tokens >>= f) (Proc.read count >>= g) Q :=
  sendRight hcount h

theorem readWrite {f : List τ → Proc τ ε α} {g : Unit → Proc τ ε β}
    (hcount : tokens.length = count) (h : Agree L R (f tokens) (g ()) Q) :
    Agree L R (Proc.read count >>= f) (Proc.write tokens >>= g) Q :=
  sendLeft hcount h

theorem mono {Q' : α → β → Prop} {p : Proc τ ε α} {q : Proc τ ε β} (h : Agree L R p q Q)
    (hQ : ∀ a b, Q a b → Q' a b) : Agree L R p q Q' := by
  obtain ⟨c, hc, hout⟩ := h
  refine ⟨c, hc, ?_⟩
  rcases hout with ⟨a, b, rfl, hab⟩ | hfail
  · exact .inl ⟨a, b, rfl, hQ a b hab⟩
  · exact .inr hfail

end Agree

/-- Both parties with their continuations. -/
def Config.bind (c : Config τ ε α β) (f : α → Proc τ ε α') (g : β → Proc τ ε β') :
    Config τ ε α' β' :=
  ⟨c.left >>= f, c.right >>= g, c.toRight, c.toLeft⟩

theorem Step.bind {c d : Config τ ε α β} (h : Step c d) (f : α → Proc τ ε α')
    (g : β → Proc τ ε β') : Step (c.bind f g) (d.bind f g) := by
  cases h with
  | leftSend => exact .leftSend
  | rightSend => exact .rightSend
  | leftRecv enough => exact .leftRecv enough
  | rightRecv enough => exact .rightRecv enough

theorem Steps.bind {c d : Config τ ε α β} (h : Steps c d) (f : α → Proc τ ε α')
    (g : β → Proc τ ε β') : Steps (c.bind f g) (d.bind f g) := by
  induction h with
  | refl => exact .refl
  | tail _ hstep ih => exact ih.tail (hstep.bind f g)

variable {q : Proc τ ε β} {p : Proc τ ε α}
variable {g : β → Proc τ ε β'}

/-- Agreements compose. -/
theorem Agree.bind {f : α → Proc τ ε α'} {Q' : α' → β' → Prop} (h : Agree L R p q Q)
    (hnext : ∀ a b, Q a b → Agree L R (f a) (g b) Q') :
    Agree L R (p >>= f) (q >>= g) Q' := by
  obtain ⟨c, hc, hout⟩ := h
  have hsteps : Steps ⟨p >>= f, q >>= g, [], []⟩ (c.bind f g) := hc.bind f g
  rcases hout with ⟨a, b, rfl, hab⟩ | ⟨e, he, hL⟩ | ⟨e, he, hR⟩
  · exact Agree.head hsteps (hnext a b hab)
  · refine ⟨_, hsteps, .inr (.inl ⟨e, ?_, hL⟩)⟩
    rw [Config.bind, he, Proc.fail_bind]
  · refine ⟨_, hsteps, .inr (.inr ⟨e, ?_, hR⟩)⟩
    rw [Config.bind, he, Proc.fail_bind]

/-- The right party goes on alone. -/
theorem Agree.bindRight {Q' : α → β' → Prop} (h : Agree L R p q Q)
    (hnext : ∀ a b, Q a b → Agree L R (.ret a) (g b) Q') : Agree L R p (q >>= g) Q' := by
  rw [← Proc.bind_ret p]
  exact h.bind hnext

/-- The same configuration with the parties exchanged. -/
def Config.swap (c : Config τ ε α β) : Config τ ε β α :=
  ⟨c.right, c.left, c.toLeft, c.toRight⟩

theorem Steps.swap {c d : Config τ ε α β} (h : Steps c d) : Steps c.swap d.swap := by
  induction h with
  | refl => exact .refl
  | tail _ hstep ih =>
    refine ih.tail ?_
    cases hstep with
    | leftSend => exact .rightSend
    | rightSend => exact .leftSend
    | leftRecv enough => exact .rightRecv enough
    | rightRecv enough => exact .leftRecv enough

/-- Agreement does not depend on which party is called the left one. -/
theorem Agree.swap {p : Proc τ ε α} {q : Proc τ ε β} (h : Agree L R p q Q) :
    Agree R L q p (fun b a => Q a b) := by
  obtain ⟨c, hc, hout⟩ := h
  refine ⟨c.swap, hc.swap, ?_⟩
  rcases hout with ⟨a, b, rfl, hab⟩ | hleft | hright
  · exact .inl ⟨b, a, rfl, hab⟩
  · exact .inr (.inr hleft)
  · exact .inr (.inl hright)

/-! ### What agreement says about every schedule -/

/-- Every run that cannot be continued ends as the agreement says. -/
theorem Agree.of_stuck (h : Agree L R p q Q) {c : Config τ ε α β} (hc : Steps ⟨p, q, [], []⟩ c)
    (hstuck : Stuck c) :
    Outcome L R Q c := by
  obtain ⟨d, hd, hout⟩ := h
  obtain ⟨m, hcm, hdm⟩ := steps_join hc hd
  have hm : m = c := hstuck.steps_eq hcm
  subst hm
  rcases hout with ⟨a, b, rfl, hab⟩ | ⟨e, he, hL⟩ | ⟨e, he, hR⟩
  · have hsame := (stuck_of_ret a b [] []).steps_eq hdm
    exact .inl ⟨a, b, hsame, hab⟩
  · exact .inr (.inl ⟨e, by rw [Steps.left_eq hdm (.inr ⟨e, he⟩), he], hL⟩)
  · exact .inr (.inr ⟨e, by rw [Steps.right_eq hdm (.inr ⟨e, he⟩), he], hR⟩)

/-- Once the left party has returned, the right one can only finish, unless it fails
with a permitted error. -/
theorem Agree.of_left_ret (h : Agree L R p q Q) {c : Config τ ε α β}
    (hc : Steps ⟨p, q, [], []⟩ c) {a : α} (ha : c.left = .ret a) :
    (∃ b, Steps c ⟨.ret a, .ret b, [], []⟩ ∧ Q a b) ∨
      ∃ d e, Steps c d ∧ d.right = .fail e ∧ R e := by
  obtain ⟨d, hd, hout⟩ := h
  obtain ⟨m, hcm, hdm⟩ := steps_join hc hd
  have hleft : m.left = .ret a := by rw [Steps.left_eq hcm (.inl ⟨a, ha⟩), ha]
  rcases hout with ⟨a', b, rfl, hab⟩ | ⟨e, he, _⟩ | ⟨e, he, hR⟩
  · have hsame := (stuck_of_ret a' b [] []).steps_eq hdm
    subst hsame
    cases hleft
    exact .inl ⟨b, hcm, hab⟩
  · rw [Steps.left_eq hdm (.inr ⟨e, he⟩), he] at hleft
    cases hleft
  · exact .inr ⟨m, e, hcm, by rw [Steps.right_eq hdm (.inr ⟨e, he⟩), he], hR⟩

/-- When no party may fail, every run can be continued to one and the same end. -/
theorem Agree.unfailing (h : Agree (fun _ => False) (fun _ => False) p q Q) :
    ∃ a b, Q a b ∧ ∀ c, Steps ⟨p, q, [], []⟩ c → Steps c ⟨.ret a, .ret b, [], []⟩ := by
  obtain ⟨d, hd, hout⟩ := h
  rcases hout with ⟨a, b, rfl, hab⟩ | ⟨_, _, hfalse⟩ | ⟨_, _, hfalse⟩
  · refine ⟨a, b, hab, ?_⟩
    intro c hc
    obtain ⟨m, hcm, hdm⟩ := steps_join hc hd
    rw [(stuck_of_ret a b [] []).steps_eq hdm] at hcm
    exact hcm
  · exact hfalse.elim
  · exact hfalse.elim

/-! ### One direction

Where one party only sends and the other only receives, the two may cut the stream
into different pieces. -/

variable {w : List τ}

/-- `Emits p w r`: without receiving anything, `p` sends `w` and ends with `r`. -/
inductive Emits : Proc τ ε α → List τ → Except ε α → Prop
  | ret (a : α) : Emits (.ret a) [] (.ok a)
  | fail (e : ε) : Emits (.fail e) [] (.error e)
  | send (tokens : List τ) {p : Proc τ ε α} {w : List τ} {r : Except ε α} :
      Emits p w r → Emits (.send tokens p) (tokens ++ w) r

/-- `Consumes q w r`: without sending anything, `q` receives exactly `w` and ends with
`r`; when it fails it may leave a part of `w`. -/
inductive Consumes : Proc τ ε β → List τ → Except ε β → Prop
  | ret (b : β) : Consumes (.ret b) [] (.ok b)
  | fail (e : ε) (w : List τ) : Consumes (.fail e) w (.error e)
  | recv (tokens : List τ) {k : List τ → Proc τ ε β} {w : List τ} {r : Except ε β} :
      Consumes (k tokens) w r → Consumes (.recv tokens.length k) (tokens ++ w) r

theorem Emits.bind_ok {f : α → Proc τ ε α'} {w w' : List τ} {a : α} {r : Except ε α'}
    (hp : Emits p w (.ok a)) (hf : Emits (f a) w' r) :
    Emits (p >>= f) (w ++ w') r := by
  generalize hx : (Except.ok a : Except ε α) = x at hp
  induction hp with
  | ret => cases hx; exact hf
  | fail => cases hx
  | send tokens _ ih =>
    rw [List.append_assoc]
    exact .send tokens (ih hx)

/-- What a party that only sends emits, and its value. -/
def emission : Proc τ ε α → Option (List τ × α)
  | .ret a => some ([], a)
  | .send tokens next => (emission next).map (fun rest => (tokens ++ rest.1, rest.2))
  | _ => none

theorem emits_of_emission {a : α} (h : emission p = some (w, a)) :
    Emits p w (.ok a) := by
  induction p generalizing w with
  | ret => cases h; exact .ret a
  | fail => cases h
  | send tokens next ih =>
    rw [emission, Option.map_eq_some_iff] at h
    obtain ⟨⟨rest, value⟩, hnext, hsame⟩ := h
    cases hsame
    exact .send tokens (ih hnext)
  | recv => cases h

/-- A sending party runs on its own. -/
theorem Emits.steps {x : Except ε α} (hp : Emits p w x) (q : Proc τ ε β) (r l : List τ) :
    Steps ⟨p, q, r, l⟩ ⟨Proc.lift x, q, r ++ w, l⟩ := by
  induction hp generalizing r with
  | ret a => rw [List.append_nil, Proc.lift_ok]
  | fail e => rw [List.append_nil, Proc.lift_error]
  | send tokens _ ih =>
    rw [← List.append_assoc]
    exact .head .leftSend (ih (r ++ tokens))

/-- A receiving party runs on its own when its input is there. -/
theorem Consumes.steps {b : β} (hq : Consumes q w (.ok b)) (p : Proc τ ε α) (r l : List τ) :
    Steps ⟨p, q, w ++ r, l⟩ ⟨p, .ret b, r, l⟩ := by
  generalize hx : (Except.ok b : Except ε β) = x at hq
  induction hq with
  | ret => cases hx; exact .refl
  | fail => cases hx
  | recv tokens _ ih =>
    refine .head (.rightRecv ?_) ?_
    · rw [List.append_assoc, List.length_append]
      omega
    · rw [List.append_assoc, List.take_left, List.drop_left]
      exact ih hx

theorem Agree.oneWay {a : α} {b : β} (hp : Emits p w (.ok a)) (hq : Consumes q w (.ok b))
    (h : Q a b) :
    Agree L R p q Q := by
  refine Agree.head ?_ (Agree.ret h)
  have hleft : Steps ⟨p, q, [], []⟩ ⟨.ret a, q, w, []⟩ := hp.steps q [] []
  have hright : Steps ⟨(.ret a : Proc τ ε α), q, w, []⟩ ⟨.ret a, .ret b, [], []⟩ := by
    have hsteps := hq.steps (.ret a : Proc τ ε α) [] []
    rwa [List.append_nil] at hsteps
  exact hleft.trans hright

/-- `Parses q w b`: run on the input `w`, the party reads exactly `w`, sends nothing and
returns `b`. -/
def Parses (q : Proc τ ε β) (w : List τ) (b : β) : Prop :=
  Steps (⟨.ret (), q, w, []⟩ : Config τ ε Unit β) ⟨.ret (), .ret b, [], []⟩

/-- The party that agrees with a sender parses what the sender emits. -/
theorem Agree.parses {a : α} (h : Agree L (fun _ => False) p q Q) (hp : Emits p w (.ok a)) :
    ∃ b, Parses q w b ∧ Q a b := by
  obtain ⟨d, hd, hout⟩ := h
  obtain ⟨m, hm, hdm⟩ := steps_join (hp.steps q [] []) hd
  have hleft : m.left = .ret a := hm.left_eq (.inl ⟨a, rfl⟩)
  rcases hout with ⟨a', b, rfl, hab⟩ | ⟨e, he, _⟩ | ⟨_, _, hfalse⟩
  · rw [(stuck_of_ret a' b [] []).steps_eq hdm] at hm hleft
    cases hleft
    have hunit := hm.bind (fun _ => (.ret () : Proc τ ε Unit)) .ret
    rw [Config.bind, Config.bind, Proc.bind_ret] at hunit
    exact ⟨b, hunit, hab⟩
  · rw [hdm.left_eq (.inr ⟨e, he⟩), he] at hleft
    cases hleft
  · exact hfalse.elim

/-- Parsing goes on behind what was read first. -/
theorem Parses.of_recv {tokens w : List τ} {k : List τ → Proc τ ε β} {b : β}
    (h : Parses (.recv tokens.length k) (tokens ++ w) b) : Parses (k tokens) w b := by
  have hfirst : Step (⟨.ret (), .recv tokens.length k, tokens ++ w, []⟩ : Config τ ε Unit β)
      ⟨.ret (), k ((tokens ++ w).take tokens.length), (tokens ++ w).drop tokens.length, []⟩ :=
    .rightRecv (by simp)
  rw [List.take_left, List.drop_left] at hfirst
  obtain ⟨m, hm, hend⟩ := steps_join (.single hfirst) h
  rw [(stuck_of_ret () b [] []).steps_eq hend] at hm
  exact hm

theorem Parses.ret_inv {a b : β} (h : Parses (.ret a : Proc τ ε β) w b) :
    w = [] ∧ a = b := by
  have hsame := (stuck_of_ret () a w []).steps_eq h
  cases hsame
  exact ⟨rfl, rfl⟩

theorem not_parses_fail {e : ε} {b : β} : ¬ Parses (.fail e : Proc τ ε β) w b := by
  intro h
  have hsame := Steps.right_eq h (.inr ⟨e, rfl⟩)
  cases hsame

theorem Parses.recv_inv {count : Nat} {k : List τ → Proc τ ε β} {b : β}
    (h : Parses (.recv count k) w b) :
    ∃ tokens rest, w = tokens ++ rest ∧ tokens.length = count ∧ Parses (k tokens) rest b := by
  rcases Relation.ReflTransGen.cases_head h with hsame | ⟨c, hstep, hrest⟩
  · cases hsame
  · cases hstep with
    | rightRecv enough =>
      exact ⟨w.take count, w.drop count, (List.take_append_drop count w).symm,
        List.length_take_of_le enough, hrest⟩

/-- While the left party has ended, what was sent to it stays there. -/
theorem Steps.toLeft_length_le {c d : Config τ ε α β} (h : Steps c d) {a : α}
    (ha : c.left = .ret a) : c.toLeft.length ≤ d.toLeft.length := by
  induction h with
  | refl => exact le_refl _
  | tail hsteps hstep ih =>
    have hleft := Steps.left_eq hsteps (.inl ⟨a, ha⟩)
    rw [ha] at hleft
    refine ih.trans ?_
    cases hstep with
    | leftSend => exact le_refl _
    | rightSend => simp
    | leftRecv => cases hleft
    | rightRecv => exact le_refl _

theorem Parses.send_inv {tokens : List τ} {next : Proc τ ε β} {b : β}
    (h : Parses (.send tokens next) w b) : tokens = [] ∧ Parses next w b := by
  rcases Relation.ReflTransGen.cases_head h with hsame | ⟨c, hstep, hrest⟩
  · cases hsame
  · cases hstep with
    | rightSend =>
      have hlength := Steps.toLeft_length_le hrest rfl
      have hnil : tokens = [] := by simpa using hlength
      subst hnil
      exact ⟨rfl, hrest⟩

/-- A party in two parts parses its input in two parts. -/
theorem Parses.bind_inv {b : β'} (h : Parses (q >>= g) w b) :
    ∃ first rest a, w = first ++ rest ∧ Parses q first a ∧ Parses (g a) rest b := by
  induction q generalizing w with
  | ret a => exact ⟨[], w, a, rfl, .refl, h⟩
  | fail e => exact absurd h not_parses_fail
  | send tokens next ih =>
    rw [Proc.send_bind] at h
    obtain ⟨rfl, hnext⟩ := Parses.send_inv h
    obtain ⟨first, rest, a, hw, hfirst, hsecond⟩ := ih hnext
    exact ⟨first, rest, a, hw, .head .rightSend hfirst, hsecond⟩
  | recv count k ih =>
    obtain ⟨tokens, rest, rfl, hcount, hk⟩ := Parses.recv_inv h
    obtain ⟨first, rest', a, rfl, hfirst, hsecond⟩ := ih tokens hk
    refine ⟨tokens ++ first, rest', a, (List.append_assoc _ _ _).symm, ?_, hsecond⟩
    refine .head (.rightRecv ?_) ?_
    · rw [List.length_append]
      omega
    · rw [← hcount, List.take_left, List.drop_left]
      exact hfirst

theorem Consumes.steps_error {e : ε} (hq : Consumes q w (.error e)) (p : Proc τ ε α)
    (l : List τ) :
    ∃ r, Steps ⟨p, q, w, l⟩ ⟨p, .fail e, r, l⟩ := by
  generalize hx : (Except.error e : Except ε β) = x at hq
  induction hq with
  | ret => cases hx
  | fail e' w => cases hx; exact ⟨w, .refl⟩
  | recv tokens _ ih =>
    obtain ⟨r, hr⟩ := ih hx
    refine ⟨r, .head (.rightRecv ?_) ?_⟩
    · rw [List.length_append]
      omega
    · rw [List.take_left, List.drop_left]
      exact hr

/-- The receiving party may stop while the sending one goes on. -/
theorem Agree.consumesError {a : α} {e : ε} (hp : Emits p w (.ok a))
    (hq : Consumes q w (.error e)) (h : R e) :
    Agree L R p q Q := by
  obtain ⟨r, hright⟩ := hq.steps_error (.ret a : Proc τ ε α) []
  have hleft : Steps ⟨p, q, [], []⟩ ⟨.ret a, q, w, []⟩ := hp.steps q [] []
  exact ⟨_, hleft.trans hright, .inr (.inr ⟨e, rfl, h⟩)⟩

/-! ### Counters -/

/-- Run a party and count the tokens it sends and receives, from given counts on. -/
def counted : Proc τ ε α → Nat → Nat → Proc τ ε (α × Nat × Nat)
  | .ret a, sent, received => .ret (a, sent, received)
  | .fail e, _, _ => .fail e
  | .send tokens next, sent, received =>
      .send tokens (counted next (sent + tokens.length) received)
  | .recv count next, sent, received =>
      .recv count (fun tokens => counted (next tokens) sent (received + tokens.length))

/-- In a run of counting parties, what one has sent is what the other has received and
what is still in flight. -/
theorem Steps.counted {c d : Config τ ε α β} (h : Steps c d) (sent received : Nat)
    (sent' received' : Nat) (hright : sent = received' + c.toRight.length)
    (hleft : sent' = received + c.toLeft.length) :
    ∃ s r s' r', s = r' + d.toRight.length ∧ s' = r + d.toLeft.length ∧
      Steps ⟨Duplex.counted c.left sent received, Duplex.counted c.right sent' received',
          c.toRight, c.toLeft⟩
        ⟨Duplex.counted d.left s r, Duplex.counted d.right s' r', d.toRight, d.toLeft⟩ := by
  induction h with
  | refl => exact ⟨sent, received, sent', received', hright, hleft, .refl⟩
  | tail _ hstep ih =>
    obtain ⟨s, r, s', r', hr, hl, hsteps⟩ := ih
    cases hstep with
    | @leftSend tokens =>
      refine ⟨s + tokens.length, r, s', r', ?_, hl, hsteps.tail .leftSend⟩
      rw [hr, List.length_append, Nat.add_assoc]
    | @rightSend tokens =>
      refine ⟨s, r, s' + tokens.length, r', hr, ?_, hsteps.tail .rightSend⟩
      rw [hl, List.length_append, Nat.add_assoc]
    | @leftRecv count _ _ _ l enough =>
      refine ⟨s, r + (l.take count).length, s', r', hr, ?_,
        hsteps.tail (.leftRecv enough)⟩
      simp only [List.length_take, List.length_drop] at hl ⊢
      omega
    | @rightRecv count _ _ r₀ _ enough =>
      refine ⟨s, r, s', r' + (r₀.take count).length, ?_, hl,
        hsteps.tail (.rightRecv enough)⟩
      simp only [List.length_take, List.length_drop] at hr ⊢
      omega

/-- Counting keeps an agreement, and the counts agree crosswise. -/
theorem Agree.counted (h : Agree L R p q Q) :
    Agree L R (counted p 0 0) (counted q 0 0)
      (fun x y => Q x.1 y.1 ∧ x.2.1 = y.2.2 ∧ x.2.2 = y.2.1) := by
  obtain ⟨c, hc, hout⟩ := h
  obtain ⟨s, r, s', r', hright, hleft, hsteps⟩ := hc.counted 0 0 0 0 rfl rfl
  refine ⟨_, hsteps, ?_⟩
  rcases hout with ⟨a, b, rfl, hab⟩ | ⟨e, he, hL⟩ | ⟨e, he, hR⟩
  · exact .inl ⟨(a, s, r), (b, s', r'), rfl, hab, hright, hleft.symm⟩
  · exact .inr (.inl ⟨e, by rw [he]; rfl, hL⟩)
  · exact .inr (.inr ⟨e, by rw [he]; rfl, hR⟩)

/-- A counting reader counts what it parses. -/
theorem Parses.counted_inv {b : β} {sent received s r : Nat}
    (h : Parses (counted q sent received) w (b, s, r)) :
    Parses q w b ∧ r = received + w.length := by
  induction q generalizing w received sent with
  | ret a =>
    obtain ⟨rfl, hsame⟩ := Parses.ret_inv h
    cases hsame
    exact ⟨.refl, rfl⟩
  | fail e => exact absurd h not_parses_fail
  | send tokens next ih =>
    obtain ⟨rfl, hnext⟩ := Parses.send_inv h
    obtain ⟨hparses, hr⟩ := ih hnext
    exact ⟨.head .rightSend hparses, hr⟩
  | recv count k ih =>
    obtain ⟨tokens, rest, rfl, hcount, hk⟩ := Parses.recv_inv h
    obtain ⟨hparses, hr⟩ := ih tokens hk
    refine ⟨?_, by rw [hr, List.length_append]; omega⟩
    refine .head (.rightRecv ?_) ?_
    · rw [List.length_append]
      omega
    · rw [← hcount, List.take_left, List.drop_left]
      exact hparses

end

end Duplex
