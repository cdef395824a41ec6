import NetworkCopy.Catalog
import NetworkCopy.ContentHash
import NetworkCopy.Lib.ByteRange
import NetworkCopy.Lib.Covering
import NetworkCopy.Lib.EvenSpacing

/-!
# The samples of the compression probe

`sample_ranges` chooses what is compressed to estimate how well a file compresses: all of a small
file, or seven pieces that are spread over a large one.  `measure_ranges` reads the pieces and adds
up their sizes before and after compression.

Arithmetic that the source writes with plain operators ends in `none` here where it overflows.
Windows may answer a read with fewer bytes, an interruption or an error, so the answers are an
input; a run that has used them up is still waiting.
-/

namespace NetworkCopy.CompressionProbe

open ByteRange Covering EvenSpacing

/-! ## The ranges -/

def sampleBytes : Nat := 1024 * 1024 / 2

def maxSampleCount : Nat := 7

/-- The offset of one sample of a large file. -/
def sampleOffset (wholeInterval intervalRemainder intervalCount index : Nat) : Option Nat := do
  let whole ← checkedMul wholeInterval index
  let scaled ← checkedMul intervalRemainder index
  checkedAdd whole (scaled / intervalCount)

/-- `sample_ranges`: offsets and lengths, or `none` after an overflow. -/
def sampleRanges (fileBytes : Nat) : Option (List (Nat × Nat)) := do
  if fileBytes = 0 then
    return []
  let maximumFullSample ← checkedMul sampleBytes maxSampleCount
  if fileBytes ≤ maximumFullSample then
    return [(0, fileBytes)]
  let lastOffset ← checkedSub fileBytes sampleBytes
  let intervalCount := maxSampleCount - 1
  let wholeInterval := lastOffset / intervalCount
  let intervalRemainder := lastOffset % intervalCount
  (List.range maxSampleCount).mapM fun index => do
    let offset ← sampleOffset wholeInterval intervalRemainder intervalCount index
    return (offset, sampleBytes)

/-! ## Reading -/

/-- What `seek_read` answers. -/
inductive SeekRead where
  | read (count : Nat)
  | failed (error : IoError)

/-- What a part of the probe has done: the offsets and buffer lengths it has called `seek_read`
with, the answers it has left, and its result, when it has one. -/
structure ProbeRun (α : Type) where
  calls : List (Nat × Nat)
  answers : List SeekRead
  result : Option (IoResult α)

/-- A part that calls `seek_read` and goes on. -/
def ProbeRun.after {α : Type} (call : Nat × Nat) (run : ProbeRun α) : ProbeRun α :=
  { run with calls := call :: run.calls }

/-- The bytes that were read before. -/
def ProbeRun.behind (bytes : Bytes) (run : ProbeRun Bytes) : ProbeRun Bytes :=
  { run with result := run.result.map (fun result => result.map (fun rest => bytes ++ rest)) }

/-- A part that is followed by another one, unless it fails or waits. -/
def ProbeRun.bind {α β : Type} (run : ProbeRun α) (next : α → List SeekRead → ProbeRun β) :
    ProbeRun β :=
  match run.result with
  | none => ⟨run.calls, run.answers, none⟩
  | some (.error error) => ⟨run.calls, run.answers, some (.error error)⟩
  | some (.ok value) =>
      let rest := next value run.answers
      ⟨run.calls ++ rest.calls, rest.answers, rest.result⟩

/-- A part that does not read. -/
def ProbeRun.pure {α : Type} (result : IoResult α) (answers : List SeekRead) : ProbeRun α :=
  ⟨[], answers, some result⟩

/-- `read_exact_at` with the length of the buffer that is left.  A read never gets more than the
buffer takes and the file has. -/
def readExactAt (content : Bytes) : (length offset : Nat) → List SeekRead → ProbeRun Bytes
  | 0, _, answers => .pure (.ok []) answers
  | length + 1, offset, [] => ⟨[(offset, length + 1)], [], none⟩
  | length + 1, offset, .failed error :: answers =>
      if error.kind = .interrupted then
        (readExactAt content (length + 1) offset answers).after (offset, length + 1)
      else
        ⟨[(offset, length + 1)], answers, some (.error error)⟩
  | length + 1, offset, .read count :: answers =>
      let read := min count (min (length + 1) (content.length - offset))
      if read = 0 then
        ⟨[(offset, length + 1)], answers,
          some (.error ⟨.unexpectedEof, "compression sample ended unexpectedly", none⟩)⟩
      else
        match checkedAdd offset read with
        | none =>
            ⟨[(offset, length + 1)], answers, some (.error (.other "sample offset overflowed"))⟩
        | some next =>
            ((readExactAt content (length + 1 - read) next answers).behind
              (range content offset read)).after (offset, length + 1)

/-- `zstd::bulk::Compressor`: creating one with a level, and compressing a sample. -/
structure Compressor where
  create : Int → Except String Unit
  compress : Bytes → Except String Bytes

/-- The loop of `measure_ranges`. -/
def measureLoop (compressor : Compressor) (content : Bytes) (baseOffset : Nat) :
    (ranges : List (Nat × Nat)) → (sampledBytes compressedBytes : Nat) → List SeekRead →
      ProbeRun (Nat × Nat)
  | [], sampledBytes, compressedBytes, answers =>
      .pure (.ok (sampledBytes, compressedBytes)) answers
  | (relativeOffset, length) :: ranges, sampledBytes, compressedBytes, answers =>
      match checkedAdd baseOffset relativeOffset with
      | none => .pure (.error (.other "compression sample offset overflowed")) answers
      | some absoluteOffset =>
          (readExactAt content length absoluteOffset answers).bind fun sample answers =>
            match compressor.compress sample with
            | .error text =>
                .pure (.error (.other s!"Zstandard sample compression failed: {text}")) answers
            | .ok compressed =>
                match checkedAdd sampledBytes length with
                | none => .pure (.error (.other "sampled byte count overflowed")) answers
                | some sampledBytes =>
                    match checkedAdd compressedBytes compressed.length with
                    | none =>
                        .pure (.error (.other "compressed sample byte count overflowed")) answers
                    | some compressedBytes =>
                        measureLoop compressor content baseOffset ranges sampledBytes
                          compressedBytes answers

/-- `measure_ranges`: the bytes sampled and what they compress to. -/
def measureRanges (compressor : Compressor) (content : Bytes) (baseOffset : Nat)
    (ranges : List (Nat × Nat)) (level : Int) (answers : List SeekRead) : ProbeRun (Nat × Nat) :=
  match compressor.create level with
  | .error text => .pure (.error (.other s!"failed to create Zstandard compressor: {text}")) answers
  | .ok () => measureLoop compressor content baseOffset ranges 0 0 answers

/-- The check of `decide_file_range_profiled` in front of its samples. -/
def checkCompressionRange (offset length fileLength : Nat) : IoResult Unit := do
  let rangeEnd ← okOrElse (checkedAdd offset length) (.invalidInput "compression range overflowed")
  ensure (rangeEnd ≤ fileLength)
    (.invalidInput s!"compression range {offset}..{rangeEnd} exceeds file length {fileLength}")

/-- What `decide_file_range_profiled` measures of a file before it decides. -/
def measureFileRange (compressor : Compressor) (content : Bytes) (offset length : Nat)
    (level : Int) (answers : List SeekRead) : IoResult (Option (ProbeRun (Nat × Nat))) := do
  checkCompressionRange offset length content.length
  .ok ((sampleRanges length).map fun ranges =>
    measureRanges compressor content offset ranges level answers)

/-! ## Where the ranges lie -/

variable {ranges : List (Nat × Nat)}
variable {fileBytes : Nat}

/-- The ranges are read one behind the other and stay below `high`. -/
structure Spread (high : Nat) (ranges : List (Nat × Nat)) : Prop where
  pos : ∀ range ∈ ranges, 0 < range.2
  inside : ∀ range ∈ ranges, range.1 + range.2 ≤ high
  apart : ranges.Pairwise fun left right => left.1 + left.2 ≤ right.1

theorem Spread.sum_le {high : Nat} (h : Spread high ranges) :
    (ranges.map Prod.snd).sum ≤ high := by
  have hsum := sum_size_le h.apart (fun _ _ => Nat.zero_le _) h.inside (Nat.zero_le high)
  omega

/-- The offsets increase. -/
theorem Spread.increasing {high : Nat} (h : Spread high ranges) :
    ranges.Pairwise fun left right => left.1 < right.1 := by
  refine h.apart.imp_of_mem ?_
  intro left right hleft _ hapart
  have hpos := h.pos left hleft
  omega

theorem mapM_eq_some {α β : Type} {f : α → Option β} {g : α → β} {items : List α}
    (h : ∀ item ∈ items, f item = some (g item)) : items.mapM f = some (items.map g) := by
  induction items with
  | nil => rfl
  | cons item rest ih =>
    have hrest := ih (fun other hother => h other (List.mem_cons_of_mem item hother))
    rw [List.mapM_cons, h item List.mem_cons_self, hrest]
    rfl

/-- The offsets of the samples are evenly spaced, and computing them does not overflow. -/
theorem sampleOffset_eq {lastOffset intervalCount index : Nat} (hcount : 0 < intervalCount)
    (hsmall : intervalCount * intervalCount < u64Limit) (hindex : index ≤ intervalCount)
    (hlast : lastOffset < u64Limit) :
    sampleOffset (lastOffset / intervalCount) (lastOffset % intervalCount) intervalCount index =
      some (place lastOffset intervalCount index) := by
  have hwhole : checkedMul (lastOffset / intervalCount) index =
      some (lastOffset / intervalCount * index) :=
    checkedMul_eq_some.mpr ⟨Nat.lt_of_le_of_lt (whole_le hindex) hlast, rfl⟩
  have hscaled : checkedMul (lastOffset % intervalCount) index =
      some (lastOffset % intervalCount * index) :=
    checkedMul_eq_some.mpr ⟨Nat.lt_of_le_of_lt (remainder_le hcount hindex) hsmall, rfl⟩
  have hsplit := split hcount lastOffset index
  have hsum : checkedAdd (lastOffset / intervalCount * index)
      (lastOffset % intervalCount * index / intervalCount) =
      some (place lastOffset intervalCount index) := by
    refine checkedAdd_eq_some.mpr ⟨?_, hsplit⟩
    rw [hsplit]
    exact Nat.lt_of_le_of_lt (place_le hindex) hlast
  simp only [sampleOffset, hwhole, hscaled, hsum, Option.bind_eq_bind, Option.bind_some]

/-- The ranges of a file that is larger than all samples together. -/
def spreadRanges (lastOffset : Nat) : List (Nat × Nat) :=
  (List.range maxSampleCount).map fun index =>
    (place lastOffset (maxSampleCount - 1) index, sampleBytes)

theorem sampleBytes_eq : sampleBytes = 524288 := by
  norm_num [sampleBytes]

theorem maximumFullSample_eq : ∃ maximumFullSample,
    checkedMul sampleBytes maxSampleCount = some maximumFullSample ∧
      maximumFullSample = 3670016 := by
  refine ⟨_, checkedMul_eq_some.mpr ⟨?_, rfl⟩, ?_⟩
  · norm_num [sampleBytes, maxSampleCount, u64Limit]
  · norm_num [sampleBytes, maxSampleCount]

theorem sampleRanges_small (hpos : 0 < fileBytes) (hsmall : fileBytes ≤ 3670016) :
    sampleRanges fileBytes = some [(0, fileBytes)] := by
  obtain ⟨maximumFullSample, hfull, hvalue⟩ := maximumFullSample_eq
  have hne : fileBytes ≠ 0 := by omega
  have hle : fileBytes ≤ maximumFullSample := by omega
  simp [sampleRanges, hne, hfull, hle]

theorem index_le {index : Nat} (h : index ∈ List.range maxSampleCount) :
    index ≤ maxSampleCount - 1 := by
  have hlt := List.mem_range.mp h
  omega

theorem sampleRanges_large (hlarge : 3670016 < fileBytes) (hlimit : fileBytes < u64Limit) :
    sampleRanges fileBytes = some (spreadRanges (fileBytes - sampleBytes)) := by
  have hle : sampleBytes ≤ fileBytes := by
    rw [sampleBytes_eq]
    omega
  have hlast : checkedSub fileBytes sampleBytes = some (fileBytes - sampleBytes) := by
    rw [checkedSub, if_pos hle]
  obtain ⟨maximumFullSample, hfull, hvalue⟩ := maximumFullSample_eq
  have hne : fileBytes ≠ 0 := by omega
  have hnot : ¬ fileBytes ≤ maximumFullSample := by omega
  have hsquare : (maxSampleCount - 1) * (maxSampleCount - 1) < u64Limit := by
    norm_num [maxSampleCount, u64Limit]
  rw [sampleRanges, if_neg hne, hfull, Option.bind_eq_bind, Option.bind_some, if_neg hnot, hlast,
    Option.bind_eq_bind, Option.bind_some]
  apply mapM_eq_some
  intro index hindex
  have hoffset := sampleOffset_eq (by decide) hsquare (index_le hindex)
    (Nat.lt_of_le_of_lt (Nat.sub_le fileBytes sampleBytes) hlimit)
  rw [hoffset]
  rfl

/-- Between neighbours there is room for a whole sample: the file is larger than seven of them. -/
theorem spreadRanges_spread (hlarge : 3670016 < fileBytes) :
    Spread fileBytes (spreadRanges (fileBytes - sampleBytes)) where
  pos := by
    intro range hrange
    obtain ⟨index, _, rfl⟩ := List.mem_map.mp hrange
    dsimp only
    rw [sampleBytes_eq]
    omega
  inside := by
    intro range hrange
    obtain ⟨index, hindex, rfl⟩ := List.mem_map.mp hrange
    have hplace : place (fileBytes - sampleBytes) (maxSampleCount - 1) index ≤
        fileBytes - sampleBytes := place_le (index_le hindex)
    rw [sampleBytes_eq] at hplace ⊢
    dsimp only
    omega
  apart := by
    rw [spreadRanges, List.pairwise_map]
    refine List.pairwise_lt_range.imp ?_
    intro left right hless
    have hgap : place (fileBytes - sampleBytes) (maxSampleCount - 1) left +
        (fileBytes - sampleBytes) / (maxSampleCount - 1) ≤
        place (fileBytes - sampleBytes) (maxSampleCount - 1) right := place_gap hless
    have hinterval : sampleBytes ≤ (fileBytes - sampleBytes) / (maxSampleCount - 1) := by
      rw [sampleBytes_eq, maxSampleCount]
      omega
    exact Nat.le_trans (Nat.add_le_add_left hinterval _) hgap

theorem spreadRanges_head? (lastOffset : Nat) :
    (spreadRanges lastOffset).head? = some (0, sampleBytes) := by
  have hplace : place lastOffset (maxSampleCount - 1) 0 = 0 := place_zero _ _
  calc (spreadRanges lastOffset).head?
      = some (place lastOffset (maxSampleCount - 1) 0, sampleBytes) := rfl
    _ = some (0, sampleBytes) := by rw [hplace]

theorem spreadRanges_getLast? (lastOffset : Nat) :
    (spreadRanges lastOffset).getLast? = some (lastOffset, sampleBytes) := by
  have hplace : place lastOffset (maxSampleCount - 1) (maxSampleCount - 1) = lastOffset :=
    place_count (by decide) lastOffset
  calc (spreadRanges lastOffset).getLast?
      = some (place lastOffset (maxSampleCount - 1) (maxSampleCount - 1), sampleBytes) := rfl
    _ = some (lastOffset, sampleBytes) := by rw [hplace]

/-- For every size the ranges are spread over the file, from its start to its end. -/
theorem sampleRanges_eq (hpos : 0 < fileBytes) (hlimit : fileBytes < u64Limit) :
    ∃ ranges, sampleRanges fileBytes = some ranges ∧ Spread fileBytes ranges ∧
      (∃ first, ranges.head? = some first ∧ first.1 = 0) ∧
      ∃ last, ranges.getLast? = some last ∧ last.1 + last.2 = fileBytes := by
  by_cases hsmall : fileBytes ≤ 3670016
  · refine ⟨_, sampleRanges_small hpos hsmall, ?_, ⟨_, rfl, rfl⟩, ⟨_, rfl, ?_⟩⟩
    · exact {
        pos := by simpa using hpos
        inside := by simp
        apart := List.pairwise_singleton _ _ }
    · exact Nat.zero_add fileBytes
  · have hlarge : 3670016 < fileBytes := by omega
    have hle : sampleBytes ≤ fileBytes := by
      rw [sampleBytes_eq]
      omega
    exact ⟨_, sampleRanges_large hlarge hlimit, spreadRanges_spread hlarge,
      ⟨_, spreadRanges_head? _, rfl⟩, ⟨_, spreadRanges_getLast? _, Nat.sub_add_cancel hle⟩⟩

/-! ## What is read -/

/-- Every call lies in the given part of the file. -/
def Within (low high : Nat) (calls : List (Nat × Nat)) : Prop :=
  ∀ call ∈ calls, low ≤ call.1 ∧ call.1 + call.2 ≤ high

theorem Within.nil (low high : Nat) : Within low high [] := by simp [Within]

theorem Within.cons {low high : Nat} {call : Nat × Nat} {calls : List (Nat × Nat)}
    (hcall : low ≤ call.1 ∧ call.1 + call.2 ≤ high) (h : Within low high calls) :
    Within low high (call :: calls) := by
  intro other hother
  cases List.mem_cons.mp hother with
  | inl heq => rw [heq]; exact hcall
  | inr hmem => exact h other hmem

theorem Within.append {low high : Nat} {calls calls' : List (Nat × Nat)}
    (h : Within low high calls) (h' : Within low high calls') :
    Within low high (calls ++ calls') := by
  intro call hcall
  exact (List.mem_append.mp hcall).elim (h call) (h' call)

/-- Reading a sample asks only for what is left of it, whatever the answers are. -/
theorem readExactAt_within (content : Bytes) {low high : Nat} (answers : List SeekRead) :
    ∀ {length offset : Nat}, low ≤ offset → offset + length ≤ high →
      Within low high (readExactAt content length offset answers).calls := by
  induction answers with
  | nil =>
    intro length offset hlow hhigh
    cases length with
    | zero => exact .nil low high
    | succ length => exact .cons ⟨hlow, hhigh⟩ (.nil low high)
  | cons answer answers ih =>
    intro length offset hlow hhigh
    cases length with
    | zero => exact .nil low high
    | succ length =>
      cases answer with
      | failed error =>
        rw [readExactAt]
        split
        · exact .cons ⟨hlow, hhigh⟩ (ih hlow hhigh)
        · exact .cons ⟨hlow, hhigh⟩ (.nil low high)
      | read count =>
        rw [readExactAt]
        split
        · exact .cons ⟨hlow, hhigh⟩ (.nil low high)
        split
        · exact .cons ⟨hlow, hhigh⟩ (.nil low high)
        · rename_i next hnext
          obtain ⟨_, rfl⟩ := checkedAdd_eq_some.mp hnext
          refine .cons ⟨hlow, hhigh⟩ (ih ?_ ?_)
          · exact Nat.le_trans hlow (Nat.le_add_right _ _)
          · omega

/-- What two parts in a row call, and how they succeed. -/
theorem ProbeRun.bind_within {α β : Type} {low high : Nat} {run : ProbeRun α}
    {next : α → List SeekRead → ProbeRun β} {Q : β → Prop} (hrun : Within low high run.calls)
    (hnext : ∀ value answers, Within low high (next value answers).calls ∧
      ∀ b, (next value answers).result = some (.ok b) → Q b) :
    Within low high (run.bind next).calls ∧
      ∀ b, (run.bind next).result = some (.ok b) → Q b := by
  unfold ProbeRun.bind
  split
  · exact ⟨hrun, fun b hresult => by cases hresult⟩
  · exact ⟨hrun, fun b hresult => by cases hresult⟩
  · rename_i value _
    obtain ⟨hwithin, hresult⟩ := hnext value run.answers
    exact ⟨hrun.append hwithin, hresult⟩

/-- The loop reads inside the ranges it is given, and adds up their lengths. -/
theorem measureLoop_within (compressor : Compressor) (content : Bytes) {baseOffset high : Nat}
    (hinside : ∀ range ∈ ranges, range.1 + range.2 ≤ high) :
    ∀ (sampledBytes compressedBytes : Nat) (answers : List SeekRead),
      Within baseOffset (baseOffset + high) (measureLoop compressor content baseOffset ranges
        sampledBytes compressedBytes answers).calls ∧
      ∀ sizes, (measureLoop compressor content baseOffset ranges sampledBytes
        compressedBytes answers).result = some (.ok sizes) →
        sizes.1 = sampledBytes + (ranges.map Prod.snd).sum := by
  induction ranges with
  | nil =>
    intro sampledBytes compressedBytes answers
    refine ⟨.nil _ _, fun sizes hresult => ?_⟩
    cases hresult
    rfl
  | cons range ranges ih =>
    intro sampledBytes compressedBytes answers
    have hrange := hinside range List.mem_cons_self
    have hrest := ih (fun other hother => hinside other (List.mem_cons_of_mem range hother))
    obtain ⟨relativeOffset, length⟩ := range
    rw [measureLoop]
    cases hoffset : checkedAdd baseOffset relativeOffset with
    | none => exact ⟨.nil _ _, fun sizes hresult => by cases hresult⟩
    | some absoluteOffset =>
      obtain ⟨_, rfl⟩ := checkedAdd_eq_some.mp hoffset
      dsimp only
      have hread : Within baseOffset (baseOffset + high)
          (readExactAt content length (baseOffset + relativeOffset) answers).calls := by
        refine readExactAt_within content answers (Nat.le_add_right _ _) ?_
        dsimp only at hrange
        omega
      refine ProbeRun.bind_within hread (fun sample answers => ?_)
      cases compressor.compress sample with
      | error text => exact ⟨.nil _ _, fun sizes hresult => by cases hresult⟩
      | ok compressed =>
        dsimp only
        cases hsampled : checkedAdd sampledBytes length with
        | none => exact ⟨.nil _ _, fun sizes hresult => by cases hresult⟩
        | some sampled =>
          obtain ⟨_, rfl⟩ := checkedAdd_eq_some.mp hsampled
          dsimp only
          cases checkedAdd compressedBytes compressed.length with
          | none => exact ⟨.nil _ _, fun sizes hresult => by cases hresult⟩
          | some compressedTotal =>
            obtain ⟨hwithin, hsizes⟩ :=
              hrest (sampledBytes + length) compressedTotal answers
            refine ⟨hwithin, fun sizes hresult => ?_⟩
            rw [hsizes sizes hresult, List.map_cons, List.sum_cons, Nat.add_assoc]

theorem measureRanges_within (compressor : Compressor) (content : Bytes) {baseOffset high : Nat}
    (h : Spread high ranges) (level : Int) (answers : List SeekRead) :
    Within baseOffset (baseOffset + high)
      (measureRanges compressor content baseOffset ranges level answers).calls ∧
    ∀ sizes, (measureRanges compressor content baseOffset ranges level answers).result =
      some (.ok sizes) → sizes.1 ≤ high := by
  rw [measureRanges]
  cases compressor.create level with
  | error text => exact ⟨.nil _ _, fun sizes hresult => by cases hresult⟩
  | ok _ =>
    obtain ⟨hwithin, hsizes⟩ := measureLoop_within compressor content h.inside 0 0 answers
    refine ⟨hwithin, fun sizes hresult => ?_⟩
    rw [hsizes sizes hresult, Nat.zero_add]
    exact h.sum_le

/-- For every size of a `u64` above zero the ranges are computed without an overflow; they are not
empty, lie in the file with increasing offsets and without an overlap, start at its start and end
at its end.  Measuring them at any offset where they fit the file reads nothing behind its end and
counts no more bytes than the size. -/
theorem sampleRanges_fit {fileBytes : Nat} (hpos : 0 < fileBytes) (hlimit : fileBytes < u64Limit) :
    ∃ ranges, sampleRanges fileBytes = some ranges ∧
      (∀ range ∈ ranges, 0 < range.2 ∧ range.1 + range.2 ≤ fileBytes) ∧
      ranges.Pairwise (fun left right => left.1 < right.1 ∧ left.1 + left.2 ≤ right.1) ∧
      (∃ first, ranges.head? = some first ∧ first.1 = 0) ∧
      (∃ last, ranges.getLast? = some last ∧ last.1 + last.2 = fileBytes) ∧
      ∀ (compressor : Compressor) (content : Bytes) (baseOffset : Nat) (level : Int)
        (answers : List SeekRead), baseOffset + fileBytes ≤ content.length →
        (∀ call ∈ (measureRanges compressor content baseOffset ranges level answers).calls,
          call.1 + call.2 ≤ content.length) ∧
        ∀ sampledBytes compressedBytes,
          (measureRanges compressor content baseOffset ranges level answers).result =
            some (.ok (sampledBytes, compressedBytes)) → sampledBytes ≤ fileBytes := by
  obtain ⟨ranges, hranges, hspread, hfirst, hlast⟩ := sampleRanges_eq hpos hlimit
  refine ⟨ranges, hranges, fun range hrange => ⟨hspread.pos range hrange,
    hspread.inside range hrange⟩, hspread.increasing.and hspread.apart, hfirst, hlast, ?_⟩
  intro compressor content baseOffset level answers hfile
  obtain ⟨hwithin, hsizes⟩ :=
    measureRanges_within compressor content hspread level answers
  constructor
  · intro call hcall
    exact Nat.le_trans (hwithin call hcall).2 hfile
  · intro sampledBytes compressedBytes hresult
    exact hsizes (sampledBytes, compressedBytes) hresult

/-- One byte more than the largest file that is sampled as a whole. -/
theorem sampleRanges_fit_threshold : ∃ ranges, sampleRanges 3670017 = some ranges ∧
    ranges.Pairwise (fun left right => left.1 < right.1 ∧ left.1 + left.2 ≤ right.1) ∧
    ∃ last, ranges.getLast? = some last ∧ last.1 + last.2 = 3670017 := by
  have hlimit : 3670017 < u64Limit := by norm_num [u64Limit]
  obtain ⟨ranges, hranges, _, hpairwise, _, hlast, _⟩ := sampleRanges_fit (by omega) hlimit
  exact ⟨ranges, hranges, hpairwise, hlast⟩

end NetworkCopy.CompressionProbe
