import NetworkCopy.Receiver.Ledger

/-!
# The bytes of a resume journal

`readFields_eq_ok` says exactly which byte strings `read_path` accepts: the layout of a list of
different stripes and a list of different file IDs, in the second version, or of stripes alone,
in the first.  Everything about the codec follows from it.  `write_to` writes one of these
layouts, that of the sorted sets.

The crash part uses the rule `saveAtomic_alone`: up to the rename the journal file is the old
one, and what the rename publishes has been read back before.
-/

namespace NetworkCopy

open Crash ByteOrder

namespace ResumeJournal

/-! ## Readers -/

section

variable {α β : Type} {bytes rest : Bytes}

theorem reader_bind_eq_ok {x : Reader α} {f : α → Reader β} {b : β} :
    (x >>= f) bytes = .ok (b, rest) ↔
      ∃ a middle, x bytes = .ok (a, middle) ∧ f a middle = .ok (b, rest) := by
  show (x bytes >>= fun pair => f pair.1 pair.2) = .ok (b, rest) ↔ _
  rw [bind_eq_ok]
  simp only [Prod.exists]

theorem reader_pure_eq_ok {a b : α} :
    (pure a : Reader α) bytes = .ok (b, rest) ↔ b = a ∧ bytes = rest := by
  show Except.ok (a, bytes) = .ok (b, rest) ↔ _
  simp [eq_comm]

theorem reader_check_eq_ok {condition : Prop} [Decidable condition] {error : IoError} {u : Unit} :
    (StateT.lift (ensure condition error) : Reader Unit) bytes = .ok (u, rest) ↔
      condition ∧ bytes = rest := by
  show (ensure condition error >>= fun u => pure (u, bytes)) = .ok (u, rest) ↔ _
  simp [bind_eq_ok]

theorem readExact_eq_ok {length : Nat} {field : Bytes} :
    readExact length bytes = .ok (field, rest) ↔
      field.length = length ∧ bytes = field ++ rest := by
  unfold readExact
  split
  · simp only [Except.ok.injEq, Prod.mk.injEq]
    constructor
    · rintro ⟨rfl, rfl⟩
      exact ⟨by simp; omega, (List.take_append_drop length bytes).symm⟩
    · rintro ⟨rfl, rfl⟩
      exact ⟨List.take_left' rfl, List.drop_left' rfl⟩
  · simp only [reduceCtorEq, false_iff]
    rintro ⟨rfl, rfl⟩
    simp at *

theorem readUint_eq_ok {width value : Nat} :
    readUint width bytes = .ok (value, rest) ↔
      value < 256 ^ width ∧ bytes = beBytes width value ++ rest := by
  unfold readUint
  simp only [reader_bind_eq_ok, readExact_eq_ok, reader_pure_eq_ok]
  constructor
  · rintro ⟨field, middle, ⟨hlength, rfl⟩, rfl, rfl⟩
    have hlt := beValue_lt field
    have hback := beBytes_beValue field
    rw [hlength] at hlt hback
    exact ⟨hlt, by rw [hback]⟩
  · rintro ⟨hlt, rfl⟩
    exact ⟨beBytes width value, rest, ⟨beBytes_length _ _, rfl⟩,
      (beValue_beBytes width value hlt).symm, rfl⟩

end

/-! ## Layouts -/

/-- The bytes of a stripe. -/
def stripeBytes (stripe : ResumeStripe) : Bytes :=
  beBytes 8 stripe.fileId ++ beBytes 8 stripe.offset ++ beBytes 8 stripe.length

/-- The ranges of the types of a stripe, and its length is not zero. -/
structure StripeFits (stripe : ResumeStripe) : Prop where
  fileId : stripe.fileId < 256 ^ 8
  offset : stripe.offset < 256 ^ 8
  length : stripe.length < 256 ^ 8
  pos : stripe.length ≠ 0

section

variable {α : Type} [DecidableEq α] {P : α → Prop} {known : Finset α} {first : α}
  {others : List α}

/-- An item is new beside the known ones, and the others are new beside it too. -/
theorem distinct_cons : ((P first ∧ first ∉ known) ∧ others.Nodup ∧
      ∀ other ∈ others, P other ∧ other ∉ insert first known) ↔
    (first :: others).Nodup ∧ ∀ item ∈ first :: others, P item ∧ item ∉ known := by
  simp only [List.nodup_cons, List.forall_mem_cons, Finset.mem_insert, not_or]
  constructor
  · rintro ⟨hfirst, hnodup, hothers⟩
    exact ⟨⟨fun hmem => (hothers first hmem).2.1 rfl, hnodup⟩, hfirst,
      fun other hmem => ⟨(hothers other hmem).1, (hothers other hmem).2.2⟩⟩
  · rintro ⟨⟨hfresh, hnodup⟩, hfirst, hothers⟩
    refine ⟨hfirst, hnodup, fun other hmem => ⟨(hothers other hmem).1, ?_, (hothers other hmem).2⟩⟩
    rintro rfl
    exact hfresh hmem

theorem union_cons : insert first known ∪ others.toFinset = known ∪ (first :: others).toFinset := by
  rw [List.toFinset_cons, Finset.insert_union, Finset.union_insert]

end

theorem readStripes_eq_ok {count : Nat} {known result : Finset ResumeStripe}
    {bytes rest : Bytes} :
    readStripes count known bytes = .ok (result, rest) ↔
      ∃ stripes : List ResumeStripe, stripes.length = count ∧ stripes.Nodup ∧
        (∀ stripe ∈ stripes, StripeFits stripe ∧ stripe ∉ known) ∧
        bytes = stripes.flatMap stripeBytes ++ rest ∧ result = known ∪ stripes.toFinset := by
  induction count generalizing known bytes with
  | zero =>
    rw [readStripes, reader_pure_eq_ok]
    constructor
    · rintro ⟨rfl, rfl⟩
      exact ⟨[], rfl, List.nodup_nil, by simp, rfl, by simp⟩
    · rintro ⟨stripes, hlength, _, _, rfl, rfl⟩
      obtain rfl := List.length_eq_zero_iff.mp hlength
      simp
  | succ count ih =>
    rw [readStripes]
    simp only [reader_bind_eq_ok, readUint_eq_ok, reader_check_eq_ok, ih]
    constructor
    · rintro ⟨fileId, _, ⟨hfileId, rfl⟩, offset, _, ⟨hoffset, rfl⟩, length, _, ⟨hlength, rfl⟩,
        _, _, ⟨hpos, rfl⟩, _, _, ⟨hnew, rfl⟩, stripes, rfl, hnodup, hfits, rfl, rfl⟩
      obtain ⟨hdistinct, hall⟩ := distinct_cons.mp
        ⟨⟨StripeFits.mk hfileId hoffset hlength hpos, hnew⟩, hnodup, hfits⟩
      exact ⟨⟨fileId, offset, length⟩ :: stripes, rfl, hdistinct, hall, by simp [stripeBytes],
        union_cons⟩
    · rintro ⟨stripes, hlength, hnodup, hfits, rfl, rfl⟩
      obtain ⟨stripe, others, rfl⟩ :=
        List.exists_cons_of_ne_nil (List.ne_nil_of_length_eq_add_one hlength)
      obtain ⟨⟨hfirst, hnew⟩, hrest, hothers⟩ := distinct_cons.mpr ⟨hnodup, hfits⟩
      refine ⟨stripe.fileId, _, ⟨hfirst.fileId, ?_⟩, stripe.offset, _, ⟨hfirst.offset, rfl⟩,
        stripe.length, _, ⟨hfirst.length, rfl⟩, (), _, ⟨hfirst.pos, rfl⟩, (), _, ⟨hnew, rfl⟩,
        others, by simpa using hlength, hrest, hothers, rfl, union_cons.symm⟩
      simp [stripeBytes]

theorem readFileIds_eq_ok {count : Nat} {known result : Finset Nat} {bytes rest : Bytes} :
    readFileIds count known bytes = .ok (result, rest) ↔
      ∃ fileIds : List Nat, fileIds.length = count ∧ fileIds.Nodup ∧
        (∀ fileId ∈ fileIds, fileId < 256 ^ 8 ∧ fileId ∉ known) ∧
        bytes = fileIds.flatMap (beBytes 8) ++ rest ∧ result = known ∪ fileIds.toFinset := by
  induction count generalizing known bytes with
  | zero =>
    rw [readFileIds, reader_pure_eq_ok]
    constructor
    · rintro ⟨rfl, rfl⟩
      exact ⟨[], rfl, List.nodup_nil, by simp, rfl, by simp⟩
    · rintro ⟨fileIds, hlength, _, _, rfl, rfl⟩
      obtain rfl := List.length_eq_zero_iff.mp hlength
      simp
  | succ count ih =>
    rw [readFileIds]
    simp only [reader_bind_eq_ok, readUint_eq_ok, reader_check_eq_ok, ih]
    constructor
    · rintro ⟨fileId, _, ⟨hfileId, rfl⟩, _, _, ⟨hnew, rfl⟩, fileIds, rfl, hnodup, hfits, rfl,
        rfl⟩
      obtain ⟨hdistinct, hall⟩ := (distinct_cons (P := fun other => other < 256 ^ 8)).mp
        ⟨⟨hfileId, hnew⟩, hnodup, hfits⟩
      exact ⟨fileId :: fileIds, rfl, hdistinct, hall, by simp, union_cons⟩
    · rintro ⟨fileIds, hlength, hnodup, hfits, rfl, rfl⟩
      obtain ⟨fileId, others, rfl⟩ :=
        List.exists_cons_of_ne_nil (List.ne_nil_of_length_eq_add_one hlength)
      obtain ⟨⟨hfirst, hnew⟩, hrest, hothers⟩ :=
        (distinct_cons (P := fun other => other < 256 ^ 8)).mpr ⟨hnodup, hfits⟩
      refine ⟨fileId, _, ⟨hfirst, ?_⟩, (), _, ⟨hnew, rfl⟩, others, by simpa using hlength,
        hrest, hothers, rfl, union_cons.symm⟩
      simp

/-- What the bytes of a journal file spell. -/
structure Layout where
  version : Nat
  manifestFingerprint : Nat
  dataStreamCount : Nat
  stripes : List ResumeStripe
  fileIds : List Nat

namespace Layout

/-- The count of the files, which the first version does not have. -/
def fileCount (layout : Layout) : Bytes :=
  if journalVersion ≤ layout.version then beBytes 4 layout.fileIds.length else []

/-- The bytes of a layout. -/
def bytes (layout : Layout) : Bytes :=
  journalMagic ++ beBytes 2 layout.version ++ beBytes 2 0 ++
    beBytes 8 layout.manifestFingerprint ++ beBytes 4 layout.dataStreamCount ++
    beBytes 4 layout.stripes.length ++ layout.fileCount ++
    layout.stripes.flatMap stripeBytes ++ layout.fileIds.flatMap (beBytes 8)

/-- The journal of a layout. -/
def journal (layout : Layout) : ResumeJournal :=
  { manifestFingerprint := layout.manifestFingerprint
    dataStreamCount := layout.dataStreamCount
    completedStripes := layout.stripes.toFinset
    completedFileIds := layout.fileIds.toFinset }

/-- The stripes and the file IDs are different, the stripes have a length, and the counts are
within the limits of the reader. -/
structure Valid (layout : Layout) : Prop where
  version : layout.version = journalVersionV1 ∨ layout.version = journalVersion
  fingerprint : layout.manifestFingerprint < 256 ^ 8
  streams : layout.dataStreamCount < 256 ^ 4
  streams_ne : layout.dataStreamCount ≠ 0
  stripeCount : layout.stripes.length ≤ maxCompletedStripes
  fileCount : layout.fileIds.length ≤ maxCompletedFiles
  stripes : ∀ stripe ∈ layout.stripes, StripeFits stripe
  stripes_nodup : layout.stripes.Nodup
  fileIds : ∀ fileId ∈ layout.fileIds, fileId < 256 ^ 8
  fileIds_nodup : layout.fileIds.Nodup
  noFiles : layout.version = journalVersionV1 → layout.fileIds = []

end Layout

theorem readFileCount_eq_ok {version count : Nat} {bytes rest : Bytes} :
    (if journalVersion ≤ version then readUint 4 else return 0 : Reader Nat) bytes =
        .ok (count, rest) ↔
      count < 256 ^ 4 ∧ (¬ journalVersion ≤ version → count = 0) ∧
        bytes = (if journalVersion ≤ version then beBytes 4 count else []) ++ rest := by
  by_cases hsecond : journalVersion ≤ version
  · rw [if_pos hsecond, if_pos hsecond, readUint_eq_ok]
    simp only [hsecond, not_true_eq_false, false_implies, true_and]
  · rw [if_neg hsecond, if_neg hsecond, reader_pure_eq_ok]
    simp only [hsecond, not_false_eq_true, true_implies, List.nil_append]
    constructor
    · rintro ⟨rfl, rfl⟩
      exact ⟨by decide, rfl, rfl⟩
    · rintro ⟨_, rfl, rfl⟩
      exact ⟨rfl, rfl⟩

/-- What `read_path` accepts. -/
theorem readFields_eq_ok {bytes rest : Bytes} {journal : ResumeJournal} :
    readFields bytes = .ok (journal, rest) ↔
      ∃ layout : Layout, layout.Valid ∧ bytes = layout.bytes ++ rest ∧
        journal = layout.journal := by
  unfold readFields
  simp only [reader_bind_eq_ok, reader_check_eq_ok, reader_pure_eq_ok, readExact_eq_ok,
    readUint_eq_ok, readFileCount_eq_ok, readStripes_eq_ok, readFileIds_eq_ok]
  constructor
  · rintro ⟨magic, _, ⟨_, rfl⟩, _, _, ⟨rfl, rfl⟩, version, _, ⟨_, rfl⟩, _, _, ⟨hversion, rfl⟩,
      reserved, _, ⟨_, rfl⟩, _, _, ⟨rfl, rfl⟩, fingerprint, _, ⟨hfingerprint, rfl⟩, streams, _,
      ⟨hstreams, rfl⟩, _, _, ⟨hstreamsNe, rfl⟩, stripeCount, _, ⟨_, rfl⟩, fileCount, _,
      ⟨_, hnoFiles, rfl⟩, _, _, ⟨hstripeCount, rfl⟩, _, _, ⟨hfileCount, rfl⟩, _, _,
      ⟨stripes, rfl, hstripesNodup, hstripes, rfl, rfl⟩, _, _,
      ⟨fileIds, rfl, hfileIdsNodup, hfileIds, rfl, rfl⟩, rfl, rfl⟩
    refine ⟨⟨version, fingerprint, streams, stripes, fileIds⟩, ?_, ?_, ?_⟩
    · refine ⟨hversion, hfingerprint, hstreams, hstreamsNe, hstripeCount, hfileCount,
        fun stripe hmem => (hstripes stripe hmem).1, hstripesNodup,
        fun fileId hmem => (hfileIds fileId hmem).1, hfileIdsNodup, fun hfirst => ?_⟩
      refine List.length_eq_zero_iff.mp (hnoFiles ?_)
      have hfirst : version = journalVersionV1 := hfirst
      rw [hfirst]
      decide
    · simp [Layout.bytes, Layout.fileCount]
    · simp [Layout.journal]
  · rintro ⟨layout, hvalid, rfl, rfl⟩
    have hstripeLimit : layout.stripes.length < 256 ^ 4 := by
      have := hvalid.stripeCount
      simp only [maxCompletedStripes] at this
      omega
    have hfileLimit : layout.fileIds.length < 256 ^ 4 := by
      have := hvalid.fileCount
      simp only [maxCompletedFiles] at this
      omega
    have hversionLimit : layout.version < 256 ^ 2 := by
      rcases hvalid.version with h | h <;> rw [h] <;> decide
    refine ⟨journalMagic, _, ⟨rfl, ?_⟩, (), _, ⟨rfl, rfl⟩, layout.version, _,
      ⟨hversionLimit, rfl⟩, (), _, ⟨hvalid.version, rfl⟩, 0, _, ⟨by decide, rfl⟩, (), _,
      ⟨rfl, rfl⟩, layout.manifestFingerprint, _, ⟨hvalid.fingerprint, rfl⟩,
      layout.dataStreamCount, _, ⟨hvalid.streams, rfl⟩, (), _, ⟨hvalid.streams_ne, rfl⟩,
      layout.stripes.length, _, ⟨hstripeLimit, rfl⟩, layout.fileIds.length, _,
      ⟨hfileLimit, ?_, rfl⟩, (), _, ⟨hvalid.stripeCount, rfl⟩, (), _, ⟨hvalid.fileCount, rfl⟩,
      layout.stripes.toFinset, _, ⟨layout.stripes, rfl, hvalid.stripes_nodup, ?_, rfl, ?_⟩,
      layout.fileIds.toFinset, _, ⟨layout.fileIds, rfl, hvalid.fileIds_nodup, ?_, rfl, ?_⟩, rfl,
      rfl⟩
    · simp [Layout.bytes, Layout.fileCount]
    · intro hfirst
      rcases hvalid.version with h | h
      · rw [hvalid.noFiles h]
        rfl
      · exact absurd (Nat.le_of_eq h.symm) hfirst
    · exact fun stripe hmem => ⟨hvalid.stripes stripe hmem, Finset.notMem_empty _⟩
    · simp
    · exact fun fileId hmem => ⟨hvalid.fileIds fileId hmem, Finset.notMem_empty _⟩
    · simp

theorem readPath_eq_ok {bytes : Bytes} {journal : ResumeJournal} :
    readPath bytes = .ok journal ↔
      ∃ layout : Layout, layout.Valid ∧ bytes = layout.bytes ∧ journal = layout.journal := by
  unfold readPath
  simp only [bind_eq_ok, ensure_eq_ok, pure_eq_ok, Except.ok.injEq, exists_const, Prod.exists]
  constructor
  · rintro ⟨fields, _, hfields, rfl, rfl⟩
    obtain ⟨layout, hvalid, rfl, rfl⟩ := readFields_eq_ok.mp hfields
    exact ⟨layout, hvalid, List.append_nil _, rfl⟩
  · rintro ⟨layout, hvalid, rfl, rfl⟩
    refine ⟨layout.journal, [], ?_, rfl, rfl⟩
    exact readFields_eq_ok.mpr ⟨layout, hvalid, (List.append_nil _).symm, rfl⟩

/-! ## Round trips -/

/-- The bytes that `write_to` writes. -/
def encode (journal : ResumeJournal) : Bytes :=
  (journal.headerFields ++ [beBytes 4 journal.completedStripes.card] ++
    [beBytes 4 journal.completedFileIds.card] ++ journal.entryFields).flatten

/-- The ranges of the types of a journal, and the limits of the reader. -/
structure Readable (journal : ResumeJournal) : Prop where
  fingerprint : journal.manifestFingerprint < 256 ^ 8
  streams : journal.dataStreamCount < 256 ^ 4
  streams_ne : journal.dataStreamCount ≠ 0
  stripeCount : journal.completedStripes.card ≤ maxCompletedStripes
  fileCount : journal.completedFileIds.card ≤ maxCompletedFiles
  stripes : ∀ stripe ∈ journal.completedStripes, StripeFits stripe
  fileIds : ∀ fileId ∈ journal.completedFileIds, fileId < 256 ^ 8

/-- The layout that `write_to` chooses. -/
def layout (journal : ResumeJournal) : Layout :=
  { version := journalVersion
    manifestFingerprint := journal.manifestFingerprint
    dataStreamCount := journal.dataStreamCount
    stripes := journal.completedStripes.sort (· ≤ ·)
    fileIds := journal.completedFileIds.sort (· ≤ ·) }

theorem layout_bytes (journal : ResumeJournal) : journal.layout.bytes = journal.encode := by
  have hstripe : stripeBytes = fun stripe => (stripeFields stripe).flatten := by
    funext stripe
    simp [stripeBytes, stripeFields]
  simp [layout, Layout.bytes, Layout.fileCount, encode, headerFields, entryFields, hstripe,
    List.flatten_append, List.flatMap_def, List.flatten_flatten, Function.comp_def]

theorem layout_journal (journal : ResumeJournal) : journal.layout.journal = journal := by
  simp [layout, Layout.journal]

theorem Readable.layout_valid {journal : ResumeJournal} (h : journal.Readable) :
    journal.layout.Valid where
  version := .inr rfl
  fingerprint := h.fingerprint
  streams := h.streams
  streams_ne := h.streams_ne
  stripeCount := by simpa [layout] using h.stripeCount
  fileCount := by simpa [layout] using h.fileCount
  stripes := fun stripe hmem => h.stripes stripe (by simpa [layout] using hmem)
  stripes_nodup := Finset.sort_nodup _ _
  fileIds := fun fileId hmem => h.fileIds fileId (by simpa [layout] using hmem)
  fileIds_nodup := Finset.sort_nodup _ _
  noFiles := fun hfirst => absurd hfirst (by decide : journalVersion ≠ journalVersionV1)

theorem Layout.Valid.readable {layout : Layout} (h : layout.Valid) : layout.journal.Readable where
  fingerprint := h.fingerprint
  streams := h.streams
  streams_ne := h.streams_ne
  stripeCount := (List.toFinset_card_le _).trans h.stripeCount
  fileCount := (List.toFinset_card_le _).trans h.fileCount
  stripes := fun stripe hmem => h.stripes stripe (List.mem_toFinset.mp hmem)
  fileIds := fun fileId hmem => h.fileIds fileId (List.mem_toFinset.mp hmem)

theorem readPath_encode {journal : ResumeJournal} (h : journal.Readable) :
    readPath journal.encode = .ok journal :=
  readPath_eq_ok.mpr ⟨journal.layout, h.layout_valid, (layout_bytes journal).symm,
    (layout_journal journal).symm⟩

theorem readable_of_readPath {bytes : Bytes} {journal : ResumeJournal}
    (h : readPath bytes = .ok journal) : journal.Readable := by
  obtain ⟨layout, hvalid, _, rfl⟩ := readPath_eq_ok.mp h
  exact hvalid.readable

theorem encode_length (journal : ResumeJournal) : journal.encode.length =
    28 + 24 * journal.completedStripes.card + 8 * journal.completedFileIds.card := by
  have hstripes : (journal.completedStripes.sort (· ≤ ·)).length =
      journal.completedStripes.card := Finset.length_sort _
  have hfiles : (journal.completedFileIds.sort (· ≤ ·)).length =
      journal.completedFileIds.card := Finset.length_sort _
  rw [← layout_bytes, ← hstripes, ← hfiles]
  simp [layout, Layout.bytes, Layout.fileCount, stripeBytes, journalMagic, List.length_flatMap]
  omega

end ResumeJournal

namespace Receiver

open ResumeJournal

/-! ## Writing -/

variable {path : RelativePath} {state : Receiver}

/-- `write_all` at the end of a file that has room. -/
theorem append_eval {content : Bytes} (bytes : Bytes)
    (hcontent : state.files.contentAt path = some content)
    (hroom : (content ++ bytes).length < fileSizeLimit) :
    ∃ state', (append path bytes).eval state = (.ok (), state') ∧
      state'.files.contentAt path = some (content ++ bytes) := by
  obtain ⟨node, hnode, rfl⟩ := FileTree.contentAt_eq_some.mp hcontent
  obtain ⟨files, hfiles⟩ : ∃ files, state.files.append path bytes (state.clock 0) = .ok files := by
    rw [FileTree.append, FileTree.openFile_eq_ok.mpr hnode]
    exact ⟨_, dif_pos hroom⟩
  refine ⟨state.withFiles files, eval_change hfiles, ?_⟩
  obtain ⟨opened, hopen, hstore⟩ := bind_eq_ok.mp hfiles
  rw [FileTree.openFile_eq_ok, hnode] at hopen
  cases hopen
  exact (FileTree.store_eq_ok hstore).1

theorem each_append_eval (fields : List Bytes) {content : Bytes}
    (hcontent : state.files.contentAt path = some content)
    (hroom : (content ++ fields.flatten).length < fileSizeLimit) :
    ∃ state', (Prog.each (append path) fields).eval state = (.ok (), state') ∧
      state'.files.contentAt path = some (content ++ fields.flatten) := by
  have hloop : ∃ state', (Prog.each (append path) fields).eval state = (.ok (), state') ∧
      ∃ written, state'.files.contentAt path = some written ∧
        written ++ ([] : List Bytes).flatten = content ++ fields.flatten := by
    refine Prog.eval_each (I := fun rest (state' : Receiver) => ∃ written,
      state'.files.contentAt path = some written ∧
        written ++ rest.flatten = content ++ fields.flatten) ?_ ⟨content, hcontent, rfl⟩
    rintro field rest before ⟨written, hwritten, hsame⟩
    rw [List.flatten_cons, ← List.append_assoc] at hsame
    have hfits : (written ++ field).length < fileSizeLimit := by
      rw [← hsame, List.length_append] at hroom
      omega
    obtain ⟨after, heval, hafter⟩ := append_eval field hwritten hfits
    exact ⟨after, heval, written ++ field, hafter, hsame⟩
  obtain ⟨state', heval, written, hwritten, hsame⟩ := hloop
  rw [List.flatten_nil, List.append_nil] at hsame
  exact ⟨state', heval, by rw [hwritten, hsame]⟩

/-- `write_to` writes the encoding of a journal to an empty file. -/
theorem writeTo_eval {journal : ResumeJournal} (hreadable : journal.Readable)
    (hempty : state.files.contentAt path = some []) :
    ∃ state', (writeTo journal path).eval state = (.ok (), state') ∧
      state'.files.contentAt path = some journal.encode := by
  have hlength := encode_length journal
  have hstripes := hreadable.stripeCount
  have hfiles := hreadable.fileCount
  simp only [maxCompletedStripes] at hstripes
  simp only [maxCompletedFiles] at hfiles
  have hroom : journal.encode.length < fileSizeLimit := by
    rw [hlength]
    simp only [fileSizeLimit]
    omega
  have hstripeCheck : ensure (journal.completedStripes.card < 2 ^ 32)
      (.invalidInput "resume journal contains too many completed stripes") = .ok () :=
    ensure_eq_ok.mpr (by omega)
  have hfileCheck : ensure (journal.completedFileIds.card < 2 ^ 32)
      (.invalidInput "resume journal contains too many completed files") = .ok () :=
    ensure_eq_ok.mpr (by omega)
  simp only [encode, List.flatten_append, List.flatten_singleton, List.length_append] at hroom
  obtain ⟨header, hheader, hheaderContent⟩ := each_append_eval journal.headerFields hempty
    (by simp only [List.nil_append]; omega)
  obtain ⟨counted, hcounted, hcountedContent⟩ := append_eval
    (beBytes 4 journal.completedStripes.card) hheaderContent
    (by simp only [List.nil_append, List.length_append]; omega)
  obtain ⟨listed, hlisted, hlistedContent⟩ := append_eval
    (beBytes 4 journal.completedFileIds.card) hcountedContent
    (by simp only [List.nil_append, List.length_append]; omega)
  obtain ⟨final, hfinal, hfinalContent⟩ := each_append_eval journal.entryFields hlistedContent
    (by simp only [List.nil_append, List.length_append]; omega)
  refine ⟨final, ?_, ?_⟩
  · unfold writeTo
    rw [Prog.eval_bind_ok hheader, hstripeCheck, Prog.eval_bind_ok (Prog.eval_lift_ok _ _),
      Prog.eval_bind_ok hcounted, hfileCheck, Prog.eval_bind_ok (Prog.eval_lift_ok _ _),
      Prog.eval_bind_ok hlisted]
    exact hfinal
  · rw [hfinalContent]
    simp [encode]

theorem readAt_of_contentAt {files : FileTree} {content : Bytes}
    (h : files.contentAt path = some content) : readAt files path = readPath content := by
  obtain ⟨node, hnode, rfl⟩ := FileTree.contentAt_eq_some.mp h
  unfold readAt
  rw [FileTree.openFile_eq_ok.mpr hnode]
  rfl

/-! ## Crashes -/

/-- Wherever `save_atomic` stops, the journal file reads as before or as the new journal.  When
it returns, it reads as the new journal. -/
theorem saveAtomic_reached {journal : ResumeJournal} {state state' : Receiver}
    {rest : Program Unit} (hsteps : Prog.Steps (saveAtomic journal, state) (rest, state')) :
    (readAt state'.files journalFileName = readAt state.files journalFileName ∨
        readAt state'.files journalFileName = .ok journal) ∧
      (rest = .ret () → readAt state'.files journalFileName = .ok journal) := by
  have hrule : (saveAtomic journal).Alone
      (fun reached => readAt reached.files journalFileName =
          readAt state.files journalFileName ∨
        readAt reached.files journalFileName = .ok journal)
      (fun reached => readAt reached.files journalFileName =
        readAt state.files journalFileName)
      (fun _ reached => readAt reached.files journalFileName = .ok journal) := by
    have hframe : ∀ (before : Receiver) (files : FileTree),
        FileTree.Touches [temporaryJournalFileName] before.files files →
        readAt files journalFileName = readAt before.files journalFileName := by
      intro before files htouches
      unfold readAt FileTree.openFile
      rw [htouches.frame journalFileName (by decide)]
    apply saveAtomic_alone
    · exact fun reached h => .inl h
    · intro reached files h htouches _
      show readAt files journalFileName = _ ∨ readAt files journalFileName = _
      rw [hframe reached files htouches]
      exact h
    · intro reached files h htouches
      exact (hframe reached files htouches).trans h
    · exact fun reached files _ _ _ hread => ⟨.inr hread, hread⟩
  refine ⟨hrule.reached rfl (.inl rfl) hsteps, ?_⟩
  rintro rfl
  exact hrule.of_steps rfl hsteps

/-- `load_existing` depends on the journal file alone. -/
theorem loadExisting_eval (state : Receiver) (fingerprint streams : Nat) :
    ((loadExisting fingerprint streams).eval state).1 =
      readAt state.files journalFileName >>= fun stored =>
        stored.loadExisting fingerprint streams := by
  unfold loadExisting
  cases hread : readAt state.files journalFileName with
  | ok stored =>
    have hinspect : (inspect (fun files => readAt files journalFileName)).eval state =
        (.ok stored, state) := Prog.eval_query hread
    rw [Prog.eval_bind_ok hinspect, ok_bind]
    cases stored.loadExisting fingerprint streams <;> rfl
  | error error => simp [inspect, Prog.query, Prog.eval, hread]

/-- The codec of the journal and its crash safety.

* A journal within the limits of the reader is written and read back as it was.
* What the reader accepts is a layout with different stripes, different file IDs and nothing
  behind them, and its journal survives another round.
* Wherever `save_atomic` stops, `load_existing` sees the old file or the new journal. -/
theorem journal_codec_crash_safe :
    (∀ (journal : ResumeJournal) (state : Receiver) (path : RelativePath), journal.Readable →
      state.files.contentAt path = some [] →
      ∃ state', (writeTo journal path).eval state = (.ok (), state') ∧
        readAt state'.files path = .ok journal) ∧
    (∀ (bytes : Bytes) (journal : ResumeJournal), readPath bytes = .ok journal →
      (∃ layout : Layout, layout.Valid ∧ bytes = layout.bytes ∧ journal = layout.journal) ∧
        journal.Readable ∧ readPath journal.encode = .ok journal) ∧
    ∀ (journal : ResumeJournal) (state state' : Receiver) (rest : Program Unit)
      (fingerprint streams : Nat), Prog.Steps (saveAtomic journal, state) (rest, state') →
      (((loadExisting fingerprint streams).eval state').1 =
          ((loadExisting fingerprint streams).eval state).1 ∨
        ((loadExisting fingerprint streams).eval state').1 =
          journal.loadExisting fingerprint streams) ∧
      (rest = .ret () → ((loadExisting fingerprint streams).eval state').1 =
        journal.loadExisting fingerprint streams) := by
  refine ⟨?_, ?_, ?_⟩
  · intro journal state path hreadable hempty
    obtain ⟨state', heval, hcontent⟩ := writeTo_eval hreadable hempty
    exact ⟨state', heval, (readAt_of_contentAt hcontent).trans (readPath_encode hreadable)⟩
  · intro bytes journal hread
    have hreadable := readable_of_readPath hread
    exact ⟨readPath_eq_ok.mp hread, hreadable, readPath_encode hreadable⟩
  · intro journal state state' rest fingerprint streams hsteps
    obtain ⟨hreached, hreturned⟩ := saveAtomic_reached hsteps
    rw [loadExisting_eval, loadExisting_eval]
    refine ⟨hreached.imp (fun hsame => by rw [hsame]) (fun hnew => ?_), fun hreturn => ?_⟩
    · rw [hnew, ok_bind]
    · rw [hreturned hreturn, ok_bind]

end Receiver

end NetworkCopy
