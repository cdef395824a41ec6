import Mathlib

/-!
# Texts made of lines and fields

A text is a list of characters.  The first part is about its lines: what a text is split
into at its line feeds, and the text that a list of lines makes.  The second part is about
lines of the form `key value`, and about finding a line by its first characters in the
middle of a text.  The third part is about numbers in a text, printed and parsed in any base
up to 16.

A format whose lines are all `Plain` is read back line by line (`lines_unlines`), and a
marker that no earlier line starts with is found where it was put (`find_unlines`).
-/

namespace LineText

/-! ## Lines -/

variable {line : List Char}

/-- A line without the carriage return in front of its line feed. -/
def stripReturn (line : List Char) : List Char :=
  if line.getLast? = some '\r' then line.dropLast else line

/-- The lines of a text whose first characters are already read. -/
def linesFrom (current : List Char) : List Char → List (List Char)
  | [] => if current = [] then [] else [current]
  | c :: rest =>
      if c = '\n' then stripReturn current :: linesFrom [] rest
      else linesFrom (current ++ [c]) rest

/-- The lines of a text.  A line ends at a line feed, with or without a carriage return in
front of it; what stands after the last line feed is a line too, unless it is empty. -/
def lines (text : List Char) : List (List Char) := linesFrom [] text

/-- Every line with a line feed after it. -/
def unlines (ls : List (List Char)) : List Char := ls.flatMap (fun line => line ++ ['\n'])

/-- A line that can be read back. -/
def Plain (line : List Char) : Prop := ∀ c ∈ line, c ≠ '\n' ∧ c ≠ '\r'

instance : DecidablePred Plain := fun line =>
  inferInstanceAs (Decidable (∀ c ∈ line, c ≠ '\n' ∧ c ≠ '\r'))

theorem Plain.append {line rest : List Char} (hline : Plain line) (hrest : Plain rest) :
    Plain (line ++ rest) := by
  intro c hc
  rcases List.mem_append.mp hc with hleft | hright
  · exact hline c hleft
  · exact hrest c hright

theorem Plain.not_mem (hline : Plain line) : '\n' ∉ line :=
  fun hmem => (hline _ hmem).1 rfl

@[simp] theorem unlines_nil : unlines [] = [] := rfl

@[simp] theorem unlines_cons (line : List Char) (ls : List (List Char)) :
    unlines (line :: ls) = line ++ '\n' :: unlines ls := by
  simp [unlines]

@[simp] theorem unlines_append (ls ms : List (List Char)) :
    unlines (ls ++ ms) = unlines ls ++ unlines ms := by
  simp [unlines]

/-- Lines joined by line feeds, and one more at the end. -/
theorem intercalate_append_newline {ls : List (List Char)} (hne : ls ≠ []) :
    List.intercalate ['\n'] ls ++ ['\n'] = unlines ls := by
  induction ls with
  | nil => exact absurd rfl hne
  | cons line rest ih =>
    cases rest with
    | nil => simp
    | cons second more =>
      rw [List.intercalate_cons_cons, unlines_cons, ← ih (List.cons_ne_nil _ _)]
      simp

theorem stripReturn_of_plain (hline : Plain line) :
    stripReturn line = line := by
  unfold stripReturn
  split
  · next hlast => exact absurd rfl (hline '\r' (List.mem_of_getLast? hlast)).2
  · rfl

theorem linesFrom_append (hline : '\n' ∉ line) (current text : List Char) :
    linesFrom current (line ++ text) = linesFrom (current ++ line) text := by
  induction line generalizing current with
  | nil => simp
  | cons c rest ih =>
    have hc : c ≠ '\n' := fun h => hline (h ▸ List.mem_cons_self)
    rw [List.cons_append, linesFrom, if_neg hc,
      ih (fun hmem => hline (List.mem_cons_of_mem _ hmem))]
    simp

/-- The first line of a text. -/
theorem lines_line (hline : Plain line) (text : List Char) :
    lines (line ++ '\n' :: text) = line :: lines text := by
  unfold lines
  rw [linesFrom_append hline.not_mem, List.nil_append, linesFrom, if_pos rfl,
    stripReturn_of_plain hline]

/-- Plain lines are read back. -/
theorem lines_unlines {ls : List (List Char)} (hplain : ∀ line ∈ ls, Plain line) :
    lines (unlines ls) = ls := by
  induction ls with
  | nil => rfl
  | cons line rest ih =>
    rw [unlines_cons, lines_line (hplain line List.mem_cons_self),
      ih (fun other hother => hplain other (List.mem_cons_of_mem _ hother))]

/-! ## Fields and markers -/

/-- The part of a text before the first separator, and the part after it. -/
def splitOnce (separator : Char) : List Char → Option (List Char × List Char)
  | [] => none
  | c :: rest =>
      if c = separator then some ([], rest)
      else (splitOnce separator rest).map (fun parts => (c :: parts.1, parts.2))

theorem splitOnce_append {separator : Char} {key : List Char} (hkey : separator ∉ key)
    (value : List Char) :
    splitOnce separator (key ++ separator :: value) = some (key, value) := by
  induction key with
  | nil => simp [splitOnce]
  | cons c rest ih =>
    have hc : c ≠ separator := fun h => hkey (h ▸ List.mem_cons_self)
    rw [List.cons_append, splitOnce, if_neg hc,
      ih (fun hmem => hkey (List.mem_cons_of_mem _ hmem))]
    rfl

/-- What stands before the first space of a line; the whole line when it has none. -/
def lineKey (line : List Char) : List Char := line.takeWhile (fun c => c ≠ ' ')

@[simp] theorem lineKey_field {key : List Char} (hkey : ' ' ∉ key) (value : List Char) :
    lineKey (key ++ ' ' :: value) = key := by
  induction key with
  | nil => simp [lineKey]
  | cons c rest ih =>
    have hc : c ≠ ' ' := fun h => hkey (h ▸ List.mem_cons_self)
    have hrest := ih (fun hmem => hkey (List.mem_cons_of_mem _ hmem))
    unfold lineKey at hrest ⊢
    rw [List.cons_append, List.takeWhile_cons_of_pos (by simpa using hc), hrest]

/-- A line that starts with a key and a space has that key. -/
theorem isPrefixOf_of_lineKey_ne {wanted line : List Char} (hwanted : ' ' ∉ wanted)
    (hkey : lineKey line ≠ wanted) : (wanted ++ [' ']).isPrefixOf line = false := by
  by_contra hstart
  rw [Bool.not_eq_false, List.isPrefixOf_iff_prefix] at hstart
  obtain ⟨value, rfl⟩ := hstart
  rw [List.append_assoc, List.singleton_append, lineKey_field hwanted] at hkey
  exact hkey rfl

theorem isPrefixOf_field (key value : List Char) :
    (key ++ [' ']).isPrefixOf (key ++ ' ' :: value) = true := by
  rw [List.isPrefixOf_iff_prefix]
  exact ⟨value, by simp⟩

/-- The place of the first occurrence of a pattern. -/
def find (pattern : List Char) : List Char → Option Nat
  | [] => if pattern = [] then some 0 else none
  | c :: rest =>
      if pattern.isPrefixOf (c :: rest) then some 0
      else (find pattern rest).map (fun index => index + 1)

/-- A pattern that starts with a line feed is not found inside a line. -/
theorem find_line {marker line : List Char} (hline : '\n' ∉ line) (text : List Char) :
    find ('\n' :: marker) (line ++ text) =
      (find ('\n' :: marker) text).map (fun index => index + line.length) := by
  induction line with
  | nil => simp
  | cons c rest ih =>
    have hc : ('\n' == c) = false := by
      simpa using fun h : '\n' = c => hline (h ▸ List.mem_cons_self)
    have hrest := ih (fun hmem => hline (List.mem_cons_of_mem _ hmem))
    rw [List.cons_append, find, hrest, List.isPrefixOf_cons_cons, hc]
    simp only [Bool.false_and, Bool.false_eq_true, if_false, Option.map_map,
      List.length_cons]
    rfl

/-- A marker without a line feed starts a text exactly when it starts its first line. -/
theorem isPrefixOf_line {marker line : List Char} (hmarker : '\n' ∉ marker)
    (text : List Char) :
    marker.isPrefixOf (line ++ '\n' :: text) = marker.isPrefixOf line := by
  induction marker generalizing line with
  | nil => simp
  | cons m marker ih =>
    have hm : m ≠ '\n' := fun h => hmarker (h ▸ List.mem_cons_self)
    cases line with
    | nil =>
      show (m == '\n' && _) = false
      simp [hm]
    | cons c rest =>
      rw [List.cons_append, List.isPrefixOf_cons_cons, List.isPrefixOf_cons_cons,
        ih (fun hmem => hmarker (List.mem_cons_of_mem _ hmem))]

/-- A marker at the start of a line is found there when no line before it starts with the
marker.  The first line of the text has no line feed in front of it, so it may. -/
theorem find_unlines {marker first : List Char} {before : List (List Char)}
    (hmarker : '\n' ∉ marker) (hfirst : '\n' ∉ first)
    (hbefore : ∀ line ∈ before, '\n' ∉ line ∧ marker.isPrefixOf line = false)
    (rest : List Char) :
    find ('\n' :: marker) (unlines (first :: before) ++ (marker ++ rest)) =
      some ((unlines (first :: before)).length - 1) := by
  induction before generalizing first with
  | nil =>
    rw [unlines_cons, unlines_nil, List.append_assoc, find_line hfirst]
    simp [find]
  | cons line before ih =>
    obtain ⟨hline, hstart⟩ := hbefore line List.mem_cons_self
    have hnext := ih hline (fun other hother => hbefore other (List.mem_cons_of_mem _ hother))
    rw [unlines_cons, List.append_assoc, find_line hfirst, List.cons_append, find, hnext,
      List.isPrefixOf_cons_cons]
    have hskip : marker.isPrefixOf (unlines (line :: before) ++ (marker ++ rest)) = false := by
      rw [unlines_cons, List.append_assoc, List.cons_append, isPrefixOf_line hmarker, hstart]
    rw [hskip]
    simp only [Bool.and_false, Bool.false_eq_true, if_false, Option.map_some,
      List.length_append, List.length_cons, unlines_cons]
    congr 1
    omega

/-! ## Numbers -/

/-- What can be wrong with the text of an unsigned number. -/
inductive ParseIntError where
  | empty
  | invalidDigit
  | posOverflow
  deriving DecidableEq, Repr

/-- The value of a digit in a base of at most 16. -/
def toDigit (base : Nat) (c : Char) : Option Nat :=
  let value :=
    if '0' ≤ c ∧ c ≤ '9' then some (c.toNat - '0'.toNat)
    else if 'a' ≤ c ∧ c ≤ 'f' then some (c.toNat - 'a'.toNat + 10)
    else if 'A' ≤ c ∧ c ≤ 'F' then some (c.toNat - 'A'.toNat + 10)
    else none
  value.filter (fun digit => digit < base)

/-- The digits of a number below `limit`, after the value of the digits already read. -/
def parseDigits (base limit : Nat) (value : Nat) : List Char → Except ParseIntError Nat
  | [] => .ok value
  | c :: rest =>
      match toDigit base c with
      | none => .error .invalidDigit
      | some digit =>
          if value * base + digit < limit then
            parseDigits base limit (value * base + digit) rest
          else .error .posOverflow

/-- An unsigned number below `limit`.  A plus sign may stand in front of its digits. -/
def parseUnsigned (base limit : Nat) : List Char → Except ParseIntError Nat
  | [] => .error .empty
  | ['+'] => .error .invalidDigit
  | '+' :: digits => parseDigits base limit 0 digits
  | digits => parseDigits base limit 0 digits

theorem parseDigits_append {base limit value result : Nat} {digits : List Char}
    (hdigits : parseDigits base limit value digits = .ok result) (rest : List Char) :
    parseDigits base limit value (digits ++ rest) = parseDigits base limit result rest := by
  induction digits generalizing value with
  | nil =>
    cases hdigits
    rfl
  | cons c digits ih =>
    rw [List.cons_append, parseDigits]
    rw [parseDigits] at hdigits
    cases hdigit : toDigit base c with
    | none => simp [hdigit] at hdigits
    | some digit =>
      simp only [hdigit] at hdigits ⊢
      split at hdigits
      · next hlimit => rw [if_pos hlimit, ih hdigits]
      · cases hdigits

/-- The digits of a number are read back, also in another spelling `f` of the digits. -/
theorem parseDigits_toDigits {base limit : Nat} {f : Char → Char} (hbase : 1 < base)
    (hf : ∀ digit < base, toDigit base (f digit.digitChar) = some digit) {n : Nat}
    (hn : n < limit) :
    parseDigits base limit 0 ((Nat.toDigits base n).map f) = .ok n := by
  induction n using Nat.strong_induction_on with
  | _ n ih =>
    by_cases hsmall : n < base
    · rw [Nat.toDigits_of_lt_base hsmall]
      simp [parseDigits, hf n hsmall, hn]
    · have hle : base ≤ n := by omega
      have hdiv : n / base < n := Nat.div_lt_self (by omega) hbase
      have hmod : n % base < base := Nat.mod_lt _ (by omega)
      have hlead := ih _ hdiv (by omega)
      have hvalue : n / base * base + n % base = n := Nat.div_add_mod' n base
      rw [Nat.toDigits_of_base_le hbase hle, List.map_append, parseDigits_append hlead,
        List.map_singleton, parseDigits, hf _ hmod]
      simp [hvalue, hn, parseDigits]

/-- Zeros in front of a number. -/
theorem parseDigits_replicate {base limit : Nat} (hbase : 0 < base) (hlimit : 0 < limit)
    (count : Nat) (rest : List Char) :
    parseDigits base limit 0 (List.replicate count '0' ++ rest) =
      parseDigits base limit 0 rest := by
  have hzero : toDigit base '0' = some 0 := by
    simp [toDigit, hbase]
  induction count with
  | zero => rfl
  | succ count ih => simp [List.replicate_succ, parseDigits, hzero, hlimit, ih]

theorem parseUnsigned_of_digit {base limit n : Nat} {digits : List Char} (hne : digits ≠ [])
    (hsign : digits.head? ≠ some '+') (hdigits : parseDigits base limit 0 digits = .ok n) :
    parseUnsigned base limit digits = .ok n := by
  unfold parseUnsigned
  split
  · exact absurd rfl hne
  · exact absurd rfl hsign
  · exact absurd rfl hsign
  · exact hdigits

/-- The characters of a number are digits of its base. -/
theorem exists_digit_of_mem_toDigits {base n : Nat} (hbase : 1 < base) {c : Char}
    (hc : c ∈ Nat.toDigits base n) : ∃ digit < base, c = digit.digitChar := by
  induction n using Nat.strong_induction_on with
  | _ n ih =>
    by_cases hsmall : n < base
    · rw [Nat.toDigits_of_lt_base hsmall, List.mem_singleton] at hc
      exact ⟨n, hsmall, hc⟩
    · have hle : base ≤ n := by omega
      rw [Nat.toDigits_of_base_le hbase hle, List.mem_append, List.mem_singleton] at hc
      rcases hc with hlead | hlast
      · exact ih _ (Nat.div_lt_self (by omega) hbase) hlead
      · exact ⟨n % base, Nat.mod_lt _ (by omega), hlast⟩

/-- A number is read back from its decimal digits. -/
theorem parseUnsigned_toDigits {limit n : Nat} (hn : n < limit) :
    parseUnsigned 10 limit (Nat.toDigits 10 n) = .ok n := by
  have hdigits : parseDigits 10 limit 0 ((Nat.toDigits 10 n).map id) = .ok n :=
    parseDigits_toDigits (by omega) (by decide) hn
  rw [List.map_id] at hdigits
  refine parseUnsigned_of_digit Nat.toDigits_ne_nil (fun hhead => ?_) hdigits
  have hdigit := Nat.isDigit_of_mem_toDigits (by omega) (by omega)
    (List.mem_of_head? hhead)
  exact absurd hdigit (by decide)

theorem plain_toDigits (n : Nat) : Plain (Nat.toDigits 10 n) := by
  intro c hc
  have hdigit := Nat.isDigit_of_mem_toDigits (by omega) (by omega) hc
  constructor
  · rintro rfl
    exact absurd hdigit (by decide)
  · rintro rfl
    exact absurd hdigit (by decide)

/-! ## Readers -/

section

variable {σ ε α β : Type}
variable {next : α → StateT (List σ) (Except ε) β} {reader : StateT (List σ) (Except ε) α}
variable {result : β} {more : List σ}

/-- The reader takes exactly this input and returns this value, whatever follows. -/
def Reads (reader : StateT (List σ) (Except ε) α) (input : List σ) (value : α) : Prop :=
  ∀ rest, reader.run (input ++ rest) = .ok (value, rest)

theorem Reads.pure (value : α) : Reads (pure value : StateT (List σ) (Except ε) α) [] value :=
  fun _ => rfl

theorem Reads.bind {input more : List σ} {value : α} (hreader : Reads reader input value)
    (hnext : Reads (next value) more result) :
    Reads (reader >>= next) (input ++ more) result := by
  intro rest
  rw [StateT.run_bind, List.append_assoc, hreader]
  exact hnext rest

/-- A step that takes one item. -/
theorem Reads.step {first : σ} {value : α} (hreader : Reads reader [first] value)
    (hnext : Reads (next value) more result) :
    Reads (reader >>= next) (first :: more) result :=
  hreader.bind hnext

/-- A step that takes nothing. -/
theorem Reads.lift {step : Except ε α} {value : α} (hstep : step = .ok value)
    (hnext : Reads (next value) more result) :
    Reads ((liftM step : StateT (List σ) (Except ε) α) >>= next) more result := by
  intro rest
  rw [hstep]
  exact hnext rest

/-- The reader takes the whole input and returns this value. -/
def Finishes (reader : StateT (List σ) (Except ε) α) (input : List σ) (value : α) : Prop :=
  reader.run input = .ok (value, [])

theorem Finishes.run' {input : List σ} {value : α} (h : Finishes reader input value) :
    reader.run' input = .ok value := by
  show (·.1) <$> reader.run input = _
  rw [h]
  rfl

theorem Finishes.bind {input more : List σ} {value : α} (hreader : Reads reader input value)
    (hnext : Finishes (next value) more result) :
    Finishes (reader >>= next) (input ++ more) result := by
  unfold Finishes
  rw [StateT.run_bind, hreader]
  exact hnext

theorem Finishes.step {first : σ} {value : α} (hreader : Reads reader [first] value)
    (hnext : Finishes (next value) more result) :
    Finishes (reader >>= next) (first :: more) result :=
  .bind hreader hnext

theorem Finishes.lift {step : Except ε α} {value : α} (hstep : step = .ok value)
    (hnext : Finishes (next value) more result) :
    Finishes ((liftM step : StateT (List σ) (Except ε) α) >>= next) more result := by
  rw [hstep]
  exact hnext

/-- Every value that the reader returns has the property. -/
def Yields (reader : StateT (List σ) (Except ε) α) (property : α → Prop) : Prop :=
  ∀ input value rest, reader.run input = .ok (value, rest) → property value

theorem Yields.pure {value : α} {property : α → Prop} (h : property value) :
    Yields (pure value : StateT (List σ) (Except ε) α) property := by
  intro input result rest hrun
  cases hrun
  exact h

theorem Yields.bind {first : α → Prop} {property : β → Prop} (hreader : Yields reader first)
    (hnext : ∀ value, first value → Yields (next value) property) :
    Yields (reader >>= next) property := by
  intro input result rest hrun
  rw [StateT.run_bind] at hrun
  cases hfirst : reader.run input with
  | error error =>
    rw [hfirst] at hrun
    cases hrun
  | ok read =>
    rw [hfirst] at hrun
    exact hnext read.1 (hreader input read.1 read.2 hfirst) read.2 result rest hrun

/-- A property that does not depend on the first step. -/
theorem Yields.after {property : β → Prop} (hnext : ∀ value, Yields (next value) property) :
    Yields (reader >>= next) property := by
  have hany : Yields reader (fun _ => True) := fun _ _ _ _ => trivial
  exact hany.bind fun value _ => hnext value

end

end LineText
