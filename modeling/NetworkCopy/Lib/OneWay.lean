import NetworkCopy.Lib.Duplex

/-!
# Messages in one direction

What a party emits and what a party parses, one lemma for each way a party is built.  Rewriting
with these lemmas turns "the writer accepts the value" and "the reader accepts the bytes" into the
layout of a message and the condition on its fields.  `sendEach` and `receiveDistinct` are the lists
of such messages: the items are written one after the other, and a reader refuses the second item
with a key.
-/

namespace Duplex

variable {τ ε α α' β β' γ κ : Type}

/-! ## Emitting -/

variable {w : List τ} {result : Except ε α}

theorem emits_ret {a b : α} :
    Emits (.ret a : Proc τ ε α) w (.ok b) ↔ w = [] ∧ b = a := by
  constructor
  · intro h
    cases h
    exact ⟨rfl, rfl⟩
  · intro ⟨hw, hb⟩
    rw [hw, hb]
    exact .ret a

theorem emits_write {tokens w : List τ} :
    Emits (Proc.write tokens : Proc τ ε Unit) w (.ok ()) ↔ w = tokens := by
  constructor
  · intro h
    cases h with
    | send _ hrest =>
      cases hrest
      exact List.append_nil tokens
  · intro hw
    have hsend : Emits (Proc.write tokens : Proc τ ε Unit) (tokens ++ []) (.ok ()) :=
      .send tokens (.ret ())
    rw [List.append_nil] at hsend
    rw [hw]
    exact hsend

theorem emits_bind {p : Proc τ ε α} {f : α → Proc τ ε α'} {b : α'} :
    Emits (p >>= f) w (.ok b) ↔
      ∃ first rest a, w = first ++ rest ∧ Emits p first (.ok a) ∧ Emits (f a) rest (.ok b) := by
  constructor
  · intro h
    induction p generalizing w with
    | ret a => exact ⟨[], w, a, rfl, .ret a, h⟩
    | fail e => cases h
    | send tokens next ih =>
      cases h with
      | send _ hnext =>
        obtain ⟨first, rest, a, hw, hfirst, hrest⟩ := ih hnext
        rw [hw, ← List.append_assoc]
        exact ⟨_, rest, a, rfl, .send tokens hfirst, hrest⟩
    | recv count next => cases h
  · intro ⟨first, rest, a, hw, hfirst, hrest⟩
    rw [hw]
    exact hfirst.bind_ok hrest

/-- A local computation does not write. -/
theorem emits_lift_bind {f : α → Proc τ ε α'} {b : α'} :
    Emits (Proc.lift result >>= f) w (.ok b) ↔
      ∃ a, result = .ok a ∧ Emits (f a) w (.ok b) := by
  cases result with
  | ok a => simp
  | error e =>
    simp only [Proc.lift_error, Proc.fail_bind, reduceCtorEq, false_and, exists_false, iff_false]
    intro h
    cases h

theorem emits_write_bind {tokens w : List τ} {f : Unit → Proc τ ε α} {b : α} :
    Emits (Proc.write tokens >>= f) w (.ok b) ↔
      ∃ rest, Emits (f ()) rest (.ok b) ∧ w = tokens ++ rest := by
  rw [emits_bind]
  constructor
  · intro ⟨first, rest, _, hw, hfirst, hrest⟩
    exact ⟨rest, hrest, by rw [hw, emits_write.mp hfirst]⟩
  · intro ⟨rest, hrest, hw⟩
    exact ⟨tokens, rest, (), hw, emits_write.mpr rfl, hrest⟩

/-! ## Parsing -/

variable {q : Proc τ ε β}
variable {count : Nat}

theorem parses_ret {a b : β} :
    Parses (.ret a : Proc τ ε β) w b ↔ w = [] ∧ b = a := by
  constructor
  · intro h
    obtain ⟨hw, hsame⟩ := h.ret_inv
    exact ⟨hw, hsame.symm⟩
  · intro ⟨hw, hb⟩
    rw [hw, hb]
    exact .refl

theorem Parses.recv {k : List τ → Proc τ ε β} {tokens w : List τ} {b : β}
    (hcount : tokens.length = count) (h : Parses (k tokens) w b) :
    Parses (.recv count k) (tokens ++ w) b := by
  refine .head (.rightRecv ?_) ?_
  · rw [List.length_append]
    omega
  · rw [← hcount, List.take_left, List.drop_left]
    exact h

theorem parses_bind {g : β → Proc τ ε β'} {b : β'} :
    Parses (q >>= g) w b ↔
      ∃ first rest a, w = first ++ rest ∧ Parses q first a ∧ Parses (g a) rest b := by
  refine ⟨Parses.bind_inv, ?_⟩
  intro ⟨first, rest, a, hw, hfirst, hrest⟩
  rw [hw]
  clear hw
  induction q generalizing first with
  | ret a' =>
    obtain ⟨hnil, hsame⟩ := hfirst.ret_inv
    rw [hnil, List.nil_append, Proc.ret_bind, hsame]
    exact hrest
  | fail e => exact absurd hfirst not_parses_fail
  | send tokens next ih =>
    obtain ⟨hnil, hnext⟩ := hfirst.send_inv
    rw [Proc.send_bind, hnil]
    exact .head .rightSend (ih first hnext)
  | recv count k ih =>
    obtain ⟨tokens, tail, hsplit, hcount, hk⟩ := hfirst.recv_inv
    rw [hsplit, List.append_assoc]
    exact .recv hcount (ih tokens tail hk)

theorem parses_read_bind {g : List τ → Proc τ ε β} {b : β} :
    Parses (Proc.read count >>= g) w b ↔
      ∃ tokens rest, tokens.length = count ∧ Parses (g tokens) rest b ∧ w = tokens ++ rest := by
  constructor
  · intro h
    obtain ⟨tokens, rest, hw, hcount, hrest⟩ := Parses.recv_inv h
    exact ⟨tokens, rest, hcount, hrest, hw⟩
  · intro ⟨tokens, rest, hcount, hrest, hw⟩
    rw [hw]
    exact .recv hcount hrest

/-- A local computation does not read. -/
theorem parses_lift_bind {g : α → Proc τ ε β} {b : β} :
    Parses (Proc.lift result >>= g) w b ↔ ∃ a, result = .ok a ∧ Parses (g a) w b := by
  cases result with
  | ok a => simp
  | error e =>
    simp only [Proc.lift_error, Proc.fail_bind, reduceCtorEq, false_and, exists_false, iff_false]
    exact not_parses_fail

/-! ## Input that goes on -/

variable {input rest : List τ}

/-- The party reads a value from the front of its input, and leaves the rest. -/
def Reads (q : Proc τ ε β) (input : List τ) (b : β) (rest : List τ) : Prop :=
  Steps (⟨.ret (), q, input, []⟩ : Config τ ε Unit β) ⟨.ret (), .ret b, rest, []⟩

/-- What is left does not matter. -/
theorem Parses.reads {b : β} (h : Parses q w b) (rest : List τ) :
    Reads q (w ++ rest) b rest := by
  unfold Reads
  induction q generalizing w with
  | ret a =>
    obtain ⟨hw, hsame⟩ := h.ret_inv
    rw [hw, hsame]
    exact .refl
  | fail e => exact absurd h not_parses_fail
  | send tokens next ih =>
    obtain ⟨hnil, hnext⟩ := h.send_inv
    rw [hnil]
    exact .head .rightSend (ih hnext)
  | recv count k ih =>
    obtain ⟨tokens, tail, hsplit, hcount, hk⟩ := h.recv_inv
    refine .head (.rightRecv ?_) ?_
    · rw [hsplit, List.length_append, List.length_append]
      omega
    · rw [hsplit, List.append_assoc, ← hcount, List.take_left, List.drop_left]
      exact ih tokens hk

theorem Reads.parses {input : List τ} {b : β} {rest : List τ} (h : Reads q input b rest) :
    ∃ w, input = w ++ rest ∧ Parses q w b := by
  unfold Reads at h
  induction q generalizing input with
  | ret a =>
    have hsame := (stuck_of_ret () a input []).steps_eq h
    cases hsame
    exact ⟨[], rfl, .refl⟩
  | fail e =>
    rcases Relation.ReflTransGen.cases_head h with hsame | ⟨c, hstep, _⟩
    · cases hsame
    · cases hstep
  | send tokens next ih =>
    rcases Relation.ReflTransGen.cases_head h with hsame | ⟨c, hstep, hrest⟩
    · cases hsame
    · cases hstep with
      | rightSend =>
        have hlength := Steps.toLeft_length_le hrest rfl
        have hnil : tokens = [] := by simpa using hlength
        rw [hnil] at hrest ⊢
        obtain ⟨w, hinput, hparses⟩ := ih hrest
        exact ⟨w, hinput, .head .rightSend hparses⟩
  | recv count k ih =>
    rcases Relation.ReflTransGen.cases_head h with hsame | ⟨c, hstep, hrest⟩
    · cases hsame
    · cases hstep with
      | rightRecv enough =>
        obtain ⟨w, hdrop, hparses⟩ := ih _ hrest
        refine ⟨input.take count ++ w, ?_, .recv (List.length_take_of_le enough) hparses⟩
        rw [List.append_assoc, ← hdrop, List.take_append_drop]

theorem reads_iff {input : List τ} {b : β} {rest : List τ} :
    Reads q input b rest ↔ ∃ w, input = w ++ rest ∧ Parses q w b := by
  refine ⟨Reads.parses, ?_⟩
  intro ⟨w, hinput, hparses⟩
  rw [hinput]
  exact hparses.reads rest

theorem reads_recv {k : List τ → Proc τ ε β} {b : β} :
    Reads (.recv count k) input b rest ↔
      count ≤ input.length ∧ Reads (k (input.take count)) (input.drop count) b rest := by
  constructor
  · intro h
    obtain ⟨w, hinput, hparses⟩ := h.parses
    obtain ⟨tokens, tail, hw, hcount, htail⟩ := hparses.recv_inv
    have hsplit : input = tokens ++ (tail ++ rest) := by rw [hinput, hw, List.append_assoc]
    rw [hsplit, ← hcount, List.take_left, List.drop_left, List.length_append]
    exact ⟨Nat.le_add_right _ _, htail.reads rest⟩
  · intro ⟨hcount, h⟩
    exact .head (.rightRecv hcount) h

/-- What is parsed does not depend on the other party. -/
theorem Parses.steps {b : β} (h : Parses q w b) (p : Proc τ ε α) (l : List τ) :
    Steps ⟨p, q, w, l⟩ ⟨p, .ret b, [], l⟩ := by
  induction q generalizing w with
  | ret a =>
    obtain ⟨hw, hsame⟩ := h.ret_inv
    cases hw
    cases hsame
    exact .refl
  | fail e => exact absurd h not_parses_fail
  | send tokens next ih =>
    obtain ⟨htokens, hnext⟩ := h.send_inv
    rw [htokens]
    refine .head .rightSend ?_
    rw [List.append_nil]
    exact ih hnext
  | recv count k ih =>
    obtain ⟨tokens, rest, hw, hcount, hk⟩ := h.recv_inv
    rw [hw]
    refine .head (.rightRecv ?_) ?_
    · rw [List.length_append]
      omega
    · rw [← hcount, List.take_left, List.drop_left]
      exact ih tokens hk

/-- A message that is emitted and parsed passes. -/
theorem Agree.passed {L R : ε → Prop} {Q : α → β → Prop} {p : Proc τ ε α} {a : α} {b : β}
    (hp : Emits p w (.ok a)) (hq : Parses q w b) (h : Q a b) :
    Agree L R p q Q := by
  have hleft : Steps ⟨p, q, [], []⟩ ⟨.ret a, q, w, []⟩ := hp.steps q [] []
  exact Agree.head (hleft.trans (hq.steps (.ret a) [])) (Agree.ret h)

/-- How a reader ends on its input. -/
inductive ReadEnd (τ ε β : Type) where
  | done (value : β) (rest : List τ)
  | failed (error : ε)
  | short

/-- Run a reader at the front of its input.  What it sends goes the other way. -/
def Proc.readFrom : Proc τ ε β → List τ → ReadEnd τ ε β
  | .ret value, input => .done value input
  | .fail error, _ => .failed error
  | .send _ next, input => next.readFrom input
  | .recv count next, input =>
      if count ≤ input.length then (next (input.take count)).readFrom (input.drop count)
      else .short

theorem Proc.readFrom_bind {p : Proc τ ε α} {f : α → Proc τ ε β} {b : β} :
    (p >>= f).readFrom input = .done b rest ↔
      ∃ a middle, p.readFrom input = .done a middle ∧ (f a).readFrom middle = .done b rest := by
  induction p generalizing input with
  | ret a =>
    constructor
    · intro h
      exact ⟨a, input, rfl, h⟩
    · intro ⟨_, _, hsame, h⟩
      cases hsame
      exact h
  | fail e =>
    constructor
    · intro h
      cases h
    · intro ⟨_, _, h, _⟩
      cases h
  | send tokens next ih => exact ih
  | recv count k ih =>
    rw [Proc.recv_bind, Proc.readFrom, Proc.readFrom]
    split
    · exact ih _
    · constructor
      · intro h
        cases h
      · intro ⟨_, _, h, _⟩
        cases h

theorem Proc.readFrom_lift {a : α} :
    (Proc.lift result : Proc τ ε α).readFrom input = .done a rest ↔
      result = .ok a ∧ rest = input := by
  cases result with
  | ok value =>
    rw [Proc.lift_ok, Proc.readFrom]
    constructor
    · intro h
      cases h
      exact ⟨rfl, rfl⟩
    · intro ⟨hvalue, hrest⟩
      cases hvalue
      rw [hrest]
  | error e =>
    constructor
    · intro h
      cases h
    · intro ⟨h, _⟩
      cases h

/-- A party that sends nothing. -/
inductive Proc.Silent : Proc τ ε β → Prop where
  | ret (value : β) : Silent (.ret value)
  | fail (error : ε) : Silent (.fail error)
  | recv {count : Nat} {next : List τ → Proc τ ε β} :
      (∀ tokens, Silent (next tokens)) → Silent (.recv count next)

namespace Proc.Silent

theorem bind {p : Proc τ ε α} {f : α → Proc τ ε β} (hp : p.Silent) (hf : ∀ a, (f a).Silent) :
    (p >>= f).Silent := by
  induction hp with
  | ret value => exact hf value
  | fail error => exact .fail error
  | recv _ ih => exact .recv ih

theorem read (count : Nat) : (Proc.read count : Proc τ ε (List τ)).Silent :=
  .recv .ret

theorem lift (result : Except ε α) : (Proc.lift result : Proc τ ε α).Silent := by
  cases result with
  | ok a => exact .ret a
  | error e => exact .fail e

/-- A silent reader, run on its input. -/
theorem readFrom_eq_done {q : Proc τ ε β} (h : q.Silent) {input rest : List τ} {b : β} :
    q.readFrom input = .done b rest ↔ Reads q input b rest := by
  induction h generalizing input with
  | ret value =>
    rw [reads_iff]
    simp only [Proc.readFrom, ReadEnd.done.injEq, parses_ret]
    constructor
    · intro ⟨hvalue, hrest⟩
      exact ⟨[], hrest, rfl, hvalue.symm⟩
    · intro ⟨w, hinput, hw, hvalue⟩
      rw [hw] at hinput
      exact ⟨hvalue.symm, hinput⟩
  | fail error =>
    rw [reads_iff]
    constructor
    · intro h
      cases h
    · intro ⟨_, _, hparses⟩
      exact absurd hparses not_parses_fail
  | recv _ ih =>
    rw [reads_recv, ← ih, Proc.readFrom]
    constructor
    · intro h
      split at h
      · exact ⟨‹_›, h⟩
      · cases h
    · intro ⟨hcount, h⟩
      rw [if_pos hcount]
      exact h

end Proc.Silent

/-! ## Lists -/

/-- Items one after the other. -/
def sendEach (write : α → Proc τ ε Unit) : List α → Proc τ ε Unit
  | [] => .ret ()
  | item :: rest => do
      write item
      sendEach write rest

/-- This many items with different keys.  An item whose key was seen is refused before it is
checked. -/
def receiveDistinct [DecidableEq κ] (item : Proc τ ε α) (key : α → κ) (duplicate : α → ε)
    (check : α → Except ε Unit) : Nat → List κ → Proc τ ε (List α)
  | 0, _ => .ret []
  | count + 1, seen => do
      let first ← item
      Proc.lift (if key first ∈ seen then .error (duplicate first) else .ok ())
      Proc.lift (check first)
      let rest ← receiveDistinct item key duplicate check count (key first :: seen)
      return first :: rest

theorem emits_sendEach {write : α → Proc τ ε Unit} {Accepts : α → Prop} {layout : α → List τ}
    (hwrite : ∀ a w, Emits (write a) w (.ok ()) ↔ Accepts a ∧ w = layout a) {items : List α} :
    ∀ {w : List τ}, Emits (sendEach write items) w (.ok ()) ↔
      (∀ a ∈ items, Accepts a) ∧ w = items.flatMap layout := by
  induction items with
  | nil =>
    intro w
    rw [sendEach, emits_ret]
    simp
  | cons first rest ih =>
    intro w
    rw [sendEach, emits_bind, List.forall_mem_cons, List.flatMap_cons]
    constructor
    · intro ⟨head, tail, _, hw, hfirst, hrest⟩
      obtain ⟨hfits, hhead⟩ := (hwrite first head).mp hfirst
      obtain ⟨hothers, htail⟩ := ih.mp hrest
      exact ⟨⟨hfits, hothers⟩, by rw [hw, hhead, htail]⟩
    · intro ⟨⟨hfits, hothers⟩, hw⟩
      exact ⟨_, _, (), hw, (hwrite first _).mpr ⟨hfits, rfl⟩, ih.mpr ⟨hothers, rfl⟩⟩

theorem parses_receiveDistinct [DecidableEq κ] {item : Proc τ ε α} {key : α → κ}
    {duplicate : α → ε} {check : α → Except ε Unit} {Fits : α → Prop} {layout : α → List τ}
    (hitem : ∀ w a, Parses item w a ↔ Fits a ∧ w = layout a) :
    ∀ {seen : List κ} {w : List τ} {items : List α},
      Parses (receiveDistinct item key duplicate check count seen) w items ↔
        items.length = count ∧ (items.map key).Nodup ∧
          (∀ a ∈ items, key a ∉ seen ∧ check a = .ok () ∧ Fits a) ∧
          w = items.flatMap layout := by
  induction count with
  | zero =>
    intro seen w items
    rw [receiveDistinct, parses_ret, List.length_eq_zero_iff]
    constructor
    · intro ⟨hw, hitems⟩
      rw [hw, hitems]
      simp
    · intro ⟨hitems, _, _, hw⟩
      rw [hw, hitems]
      simp
  | succ count ih =>
    intro seen w items
    rw [receiveDistinct, parses_bind]
    simp only [parses_lift_bind]
    constructor
    · intro ⟨head, tail, first, hw, hfirst, _, hfresh, _, hchecked, hrest⟩
      obtain ⟨body, final, others, htail, hothers, hret⟩ := parses_bind.mp hrest
      obtain ⟨hfinal, hitems⟩ := parses_ret.mp hret
      obtain ⟨hfits, hhead⟩ := (hitem head first).mp hfirst
      obtain ⟨hcount, hnodup, hall, hbody⟩ := ih.mp hothers
      have hnotSeen : key first ∉ seen := by
        intro hseen
        rw [if_pos hseen] at hfresh
        cases hfresh
      rw [hitems]
      refine ⟨by rw [List.length_cons, hcount], ?_, ?_, ?_⟩
      · rw [List.map_cons, List.nodup_cons]
        refine ⟨?_, hnodup⟩
        intro hmem
        obtain ⟨other, hother, hsame⟩ := List.mem_map.mp hmem
        exact (hall other hother).1 (hsame ▸ List.mem_cons_self)
      · refine List.forall_mem_cons.mpr ⟨⟨hnotSeen, hchecked, hfits⟩, ?_⟩
        intro other hother
        obtain ⟨hunseen, hrest⟩ := hall other hother
        exact ⟨fun hseen => hunseen (List.mem_cons_of_mem _ hseen), hrest⟩
      · rw [hw, htail, hhead, hbody, hfinal, List.append_nil, List.flatMap_cons]
    · intro ⟨hcount, hnodup, hall, hw⟩
      cases items with
      | nil => cases hcount
      | cons first others =>
        obtain ⟨⟨hnotSeen, hchecked, hfits⟩, hothers⟩ := List.forall_mem_cons.mp hall
        rw [List.map_cons, List.nodup_cons] at hnodup
        refine ⟨layout first, others.flatMap layout, first, by rw [hw, List.flatMap_cons],
          (hitem _ first).mpr ⟨hfits, rfl⟩, (), if_neg hnotSeen, (), hchecked,
          parses_bind.mpr ⟨others.flatMap layout, [], others, by rw [List.append_nil],
            ih.mpr ⟨Nat.succ.inj hcount, hnodup.2, ?_, rfl⟩, parses_ret.mpr ⟨rfl, rfl⟩⟩⟩
        intro other hother
        obtain ⟨hunseen, hrest⟩ := hothers other hother
        refine ⟨?_, hrest⟩
        intro hseen
        cases List.mem_cons.mp hseen with
        | inl hsame => exact hnodup.1 (hsame ▸ List.mem_map_of_mem hother)
        | inr hold => exact hunseen hold

end Duplex
