import NetworkCopy.Lib.Duplex

/-!
# Parties on a stream

`Proc.onStream` runs a party alone on the tokens that a peer has sent before it closed the
connection.  A run always ends: with a value and the tokens behind it, with an error, or with a read
that the stream cannot fill.  What the party sends itself plays no part.

`Agree.onStream` turns an agreement into a statement about one such run: on what the left party
emits, the right one returns a related value and stops exactly behind it.
-/

namespace Duplex

variable {τ ε α β γ : Type}

/-- How a party ends on a stream. -/
inductive StreamEnd (τ ε β : Type) where
  | returned (value : β) (rest : List τ)
  | failed (error : ε)
  | endOfStream

namespace StreamEnd

/-- What follows a party goes on behind the tokens that it took. -/
def andThen (result : StreamEnd τ ε β) (next : β → List τ → StreamEnd τ ε γ) :
    StreamEnd τ ε γ :=
  match result with
  | returned value rest => next value rest
  | failed error => failed error
  | endOfStream => endOfStream

/-- The same end with another value. -/
def map (f : β → γ) (result : StreamEnd τ ε β) : StreamEnd τ ε γ :=
  result.andThen (fun value rest => returned (f value) rest)

@[simp] theorem andThen_returned (value : β) (rest : List τ)
    (next : β → List τ → StreamEnd τ ε γ) :
    (returned value rest).andThen next = next value rest := rfl

@[simp] theorem andThen_failed (error : ε) (next : β → List τ → StreamEnd τ ε γ) :
    (failed error).andThen next = failed error := rfl

@[simp] theorem andThen_endOfStream (next : β → List τ → StreamEnd τ ε γ) :
    endOfStream.andThen next = endOfStream := rfl

theorem andThen_eq_returned {result : StreamEnd τ ε β} {next : β → List τ → StreamEnd τ ε γ}
    {value : γ} {rest : List τ} (h : result.andThen next = returned value rest) :
    ∃ first middle, result = returned first middle ∧ next first middle = returned value rest := by
  cases result with
  | returned first middle => exact ⟨first, middle, rfl, h⟩
  | failed error => cases h
  | endOfStream => cases h

/-- A value of the first party carries over to what follows. -/
theorem map_andThen {δ : Type} (f : γ → δ) (result : StreamEnd τ ε β)
    (next : β → List τ → StreamEnd τ ε γ) :
    (result.andThen next).map f = result.andThen (fun value rest => (next value rest).map f) := by
  cases result <;> rfl

end StreamEnd

open StreamEnd

/-- Run a party on a stream that ends. -/
def Proc.onStream : Proc τ ε β → List τ → StreamEnd τ ε β
  | .ret value, stream => returned value stream
  | .fail error, _ => failed error
  | .send _ next, stream => next.onStream stream
  | .recv count next, stream =>
      if count ≤ stream.length then (next (stream.take count)).onStream (stream.drop count)
      else endOfStream

@[simp] theorem Proc.onStream_ret (value : β) (stream : List τ) :
    (Proc.ret value : Proc τ ε β).onStream stream = returned value stream := rfl

@[simp] theorem Proc.onStream_fail (error : ε) (stream : List τ) :
    (Proc.fail error : Proc τ ε β).onStream stream = failed error := rfl

theorem Proc.onStream_bind (p : Proc τ ε β) (f : β → Proc τ ε γ) (stream : List τ) :
    (p >>= f).onStream stream =
      (p.onStream stream).andThen (fun value rest => (f value).onStream rest) := by
  induction p generalizing stream with
  | ret value => rfl
  | fail error => rfl
  | send tokens next ih => exact ih stream
  | recv count next ih =>
    rw [recv_bind, onStream, onStream]
    split
    · exact ih _ _
    · rfl

/-- A read takes tokens from the front. -/
theorem Proc.onStream_read (count : Nat) (stream : List τ) :
    (Proc.read count : Proc τ ε (List τ)).onStream stream =
      if count ≤ stream.length then returned (stream.take count) (stream.drop count)
      else endOfStream := rfl

/-- What is left is an end of the stream. -/
theorem Proc.suffix_of_onStream {p : Proc τ ε β} {stream rest : List τ} {value : β}
    (h : p.onStream stream = returned value rest) : ∃ taken, stream = taken ++ rest := by
  induction p generalizing stream with
  | ret found =>
    cases h
    exact ⟨[], rfl⟩
  | fail error => cases h
  | send tokens next ih => exact ih h
  | recv count next ih =>
    rw [onStream] at h
    split at h
    · obtain ⟨taken, htaken⟩ := ih _ h
      refine ⟨stream.take count ++ taken, ?_⟩
      rw [List.append_assoc, ← htaken, List.take_append_drop]
    · cases h

/-- More tokens behind the end do not matter to a run that returns. -/
theorem Proc.onStream_append {p : Proc τ ε β} {stream rest : List τ} {value : β}
    (h : p.onStream stream = returned value rest) (more : List τ) :
    p.onStream (stream ++ more) = returned value (rest ++ more) := by
  induction p generalizing stream with
  | ret found =>
    cases h
    rfl
  | fail error => cases h
  | send tokens next ih => exact ih h
  | recv count next ih =>
    rw [onStream] at h ⊢
    split at h
    · next hcount =>
        have hmore : count ≤ (stream ++ more).length := by
          rw [List.length_append]
          omega
        rw [if_pos hmore, List.take_append_of_le_length hcount,
          List.drop_append_of_le_length hcount]
        exact ih _ h
    · cases h

/-- Nor to a run that fails. -/
theorem Proc.onStream_append_failed {p : Proc τ ε β} {stream : List τ} {error : ε}
    (h : p.onStream stream = failed error) (more : List τ) :
    p.onStream (stream ++ more) = failed error := by
  induction p generalizing stream with
  | ret found => cases h
  | fail found => exact h
  | send tokens next ih => exact ih h
  | recv count next ih =>
    rw [onStream] at h ⊢
    split at h
    · next hcount =>
        have hmore : count ≤ (stream ++ more).length := by
          rw [List.length_append]
          omega
        rw [if_pos hmore, List.take_append_of_le_length hcount,
          List.drop_append_of_le_length hcount]
        exact ih _ h
    · cases h

/-- When the left party is done, the steps of the right one are a run on its queue. -/
theorem Steps.onStream {c d : Config τ ε α β} (h : Steps c d)
    (hdone : (∃ a, c.left = .ret a) ∨ ∃ e, c.left = .fail e) :
    c.right.onStream c.toRight = d.right.onStream d.toRight := by
  induction h with
  | refl => rfl
  | @tail middle last hsteps hstep ih =>
    rw [ih]
    have hleft : middle.left = c.left := Steps.left_eq hsteps hdone
    cases hstep with
    | leftSend =>
      rw [← hleft] at hdone
      rcases hdone with ⟨a, ha⟩ | ⟨e, he⟩
      · cases ha
      · cases he
    | rightSend => rfl
    | leftRecv enough => rfl
    | rightRecv enough =>
      show Proc.onStream (.recv _ _) _ = _
      rw [Proc.onStream, if_pos enough]

/-- On what the left party emits, the right one returns a related value and leaves what follows,
unless it fails with a permitted error. -/
theorem Agree.onStream {L R : ε → Prop} {Q : α → β → Prop} {p : Proc τ ε α} {q : Proc τ ε β}
    {wire : List τ} {a : α} (h : Agree L R p q Q) (hp : Emits p wire (.ok a))
    (more : List τ) :
    (∃ b, q.onStream (wire ++ more) = returned b more ∧ Q a b) ∨
      ∃ error, q.onStream (wire ++ more) = failed error ∧ R error := by
  have hsteps : Steps ⟨p, q, [], []⟩ ⟨.ret a, q, wire, []⟩ := hp.steps q [] []
  rcases h.of_left_ret hsteps rfl with ⟨b, hend, hrelated⟩ | ⟨d, error, hend, hfail, hpermitted⟩
  · have hrun := Steps.onStream hend (.inl ⟨a, rfl⟩)
    refine .inl ⟨b, ?_, hrelated⟩
    have hmore := Proc.onStream_append (hrun.trans (Proc.onStream_ret b [])) more
    rwa [List.nil_append] at hmore
  · have hrun := Steps.onStream hend (.inl ⟨a, rfl⟩)
    refine .inr ⟨error, ?_, hpermitted⟩
    rw [hfail] at hrun
    exact Proc.onStream_append_failed (hrun.trans (Proc.onStream_fail error _)) more

/-- Every error that the party can end with is permitted. -/
inductive Proc.FailsWith (R : ε → Prop) : Proc τ ε β → Prop
  | ret (value : β) : FailsWith R (.ret value)
  | fail {error : ε} (h : R error) : FailsWith R (.fail error)
  | send {tokens : List τ} {next : Proc τ ε β} : FailsWith R next →
      FailsWith R (.send tokens next)
  | recv {count : Nat} {next : List τ → Proc τ ε β} : (∀ tokens, FailsWith R (next tokens)) →
      FailsWith R (.recv count next)

namespace Proc.FailsWith

variable {R : ε → Prop}

theorem bind {p : Proc τ ε β} {f : β → Proc τ ε γ} (hp : FailsWith R p)
    (hf : ∀ value, FailsWith R (f value)) : FailsWith R (p >>= f) := by
  induction hp with
  | ret value => exact hf value
  | fail h => exact .fail h
  | send _ ih => exact .send ih
  | recv _ ih => exact .recv ih

theorem read (count : Nat) : FailsWith R (Proc.read count : Proc τ ε (List τ)) :=
  .recv .ret

theorem onStream {p : Proc τ ε β} {stream : List τ} {error : ε} (hp : FailsWith R p)
    (h : p.onStream stream = failed error) : R error := by
  induction hp generalizing stream with
  | ret value => cases h
  | fail hpermitted =>
    cases h
    exact hpermitted
  | send _ ih => exact ih h
  | recv _ ih =>
    rw [Proc.onStream] at h
    split at h
    · exact ih _ h
    · cases h

end Proc.FailsWith

end Duplex
