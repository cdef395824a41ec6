import NetworkCopy.Session.ControlMessages

/-!
# Messages about verification and readiness

For every message of the control stream one lemma says what its writer accepts and which bytes it
writes, and one which bytes its reader accepts.  Sets are written in ascending order and read in
any order.
-/

namespace NetworkCopy

open Duplex ByteOrder

/-! ## Fields -/

section

variable {α β γ : Type} {w : Bytes} {b : β} {kind : IoError → Fault}
variable {f : Unit → Party β}
variable {value : Nat} {g : Nat → Party β}

theorem mapError_eq_ok {ε ε' : Type} {f : ε → ε'} {result : Except ε γ} {value : γ} :
    result.mapError f = .ok value ↔ result = .ok value := by
  cases result <;> simp [Except.mapError]

theorem emits_attempt_bind {result : IoResult γ} {f : γ → Party β} :
    Emits (attempt kind result >>= f) w (.ok b) ↔
      ∃ value, result = .ok value ∧ Emits (f value) w (.ok b) := by
  unfold attempt
  simp only [emits_lift_bind, mapError_eq_ok]

theorem emits_writeU8_bind {value : UInt8} :
    Emits (writeU8 value >>= f) w (.ok b) ↔
      ∃ rest, Emits (f ()) rest (.ok b) ∧ w = [value] ++ rest := emits_write_bind

theorem emits_writeU32_bind :
    Emits (writeU32 value >>= f) w (.ok b) ↔
      ∃ rest, Emits (f ()) rest (.ok b) ∧ w = beBytes 4 value ++ rest := emits_write_bind

theorem emits_writeU64_bind :
    Emits (writeU64 value >>= f) w (.ok b) ↔
      ∃ rest, Emits (f ()) rest (.ok b) ∧ w = beBytes 8 value ++ rest := emits_write_bind

theorem emits_writeU64 :
    Emits (writeU64 value) w (.ok ()) ↔ w = beBytes 8 value := emits_write

theorem emits_writeDigest {digest : Digest} :
    Emits (writeDigest digest) w (.ok ()) ↔ w = digest.1 := emits_write

theorem emits_writeIndex {text : String} :
    Emits (writeIndex text value) w (.ok ()) ↔ value < u64Limit ∧ w = beBytes 8 value := by
  unfold writeIndex
  simp only [emits_attempt_bind, u64TryFrom_eq_ok, emits_writeU64, and_assoc, exists_and_left,
    exists_eq_left]

theorem emits_writeIndex_bind {text : String} :
    Emits (writeIndex text value >>= f) w (.ok b) ↔
      value < u64Limit ∧ ∃ rest, Emits (f ()) rest (.ok b) ∧ w = beBytes 8 value ++ rest := by
  unfold writeIndex
  rw [bind_assoc]
  simp only [emits_attempt_bind, u64TryFrom_eq_ok, emits_writeU64_bind, and_assoc,
    exists_and_left, exists_eq_left]

theorem emits_writeCount_bind {count limit : Nat} {tooMany exceeds : String} :
    Emits (writeCount count limit tooMany exceeds >>= f) w (.ok b) ↔
      count < 2 ^ 32 ∧ count ≤ limit ∧ Emits (f ()) w (.ok b) := by
  unfold writeCount
  rw [bind_assoc]
  simp only [emits_attempt_bind, u32TryFrom_eq_ok, ensure_eq_ok, Unique.exists_iff, and_assoc,
    exists_and_left, exists_eq_left]

theorem parses_attempt_bind {result : IoResult γ} {g : γ → Party β} :
    Parses (attempt kind result >>= g) w b ↔ ∃ value, result = .ok value ∧ Parses (g value) w b := by
  unfold attempt
  simp only [parses_lift_bind, mapError_eq_ok]

theorem parses_ensure_bind {condition : Prop} [Decidable condition] {error : IoError}
    {g : Unit → Party β} :
    Parses (attempt kind (ensure condition error) >>= g) w b ↔ condition ∧ Parses (g ()) w b := by
  simp only [parses_attempt_bind, ensure_eq_ok, Unique.exists_iff]

theorem parses_readU8_bind {g : UInt8 → Party β} :
    Parses (readU8 >>= g) w b ↔ ∃ value rest, Parses (g value) rest b ∧ w = [value] ++ rest := by
  unfold readU8
  rw [bind_assoc]
  simp only [parses_read_bind, pure_bind]
  constructor
  · intro ⟨tokens, rest, hcount, hrest, hw⟩
    obtain ⟨value, htokens⟩ := List.length_eq_one_iff.mp hcount
    rw [htokens] at hrest hw
    exact ⟨value, rest, hrest, hw⟩
  · intro ⟨value, rest, hrest, hw⟩
    exact ⟨[value], rest, rfl, hrest, hw⟩

theorem parses_uint_bind {width : Nat} :
    Parses (Proc.read width >>= fun bytes => g (beValue bytes)) w b ↔
      ∃ value rest, value < 256 ^ width ∧ Parses (g value) rest b ∧
        w = beBytes width value ++ rest := by
  rw [parses_read_bind]
  constructor
  · intro ⟨tokens, rest, hcount, hrest, hw⟩
    have hlt := beValue_lt tokens
    have hback := beBytes_beValue tokens
    rw [hcount] at hlt hback
    exact ⟨beValue tokens, rest, hlt, hrest, by rw [hback]; exact hw⟩
  · intro ⟨value, rest, hlt, hrest, hw⟩
    refine ⟨beBytes width value, rest, beBytes_length _ _, ?_, hw⟩
    rw [beValue_beBytes width value hlt]
    exact hrest

theorem parses_readU32_bind :
    Parses (readU32 >>= g) w b ↔
      ∃ value rest, value < 256 ^ 4 ∧ Parses (g value) rest b ∧ w = beBytes 4 value ++ rest :=
  parses_uint_bind

theorem parses_readU64_bind :
    Parses (readU64 >>= g) w b ↔
      ∃ value rest, value < 256 ^ 8 ∧ Parses (g value) rest b ∧ w = beBytes 8 value ++ rest :=
  parses_uint_bind

theorem parses_readFileId :
    Parses readFileId w value ↔ value < 256 ^ 8 ∧ w = beBytes 8 value := by
  have hbind : readFileId = (readU64 >>= fun fileId => .ret fileId) := rfl
  rw [hbind, parses_readU64_bind]
  simp only [parses_ret]
  constructor
  · intro ⟨found, rest, hlt, ⟨hrest, hvalue⟩, hw⟩
    rw [hvalue]
    rw [hrest, List.append_nil] at hw
    exact ⟨hlt, hw⟩
  · intro ⟨hlt, hw⟩
    exact ⟨value, [], hlt, ⟨rfl, rfl⟩, by rw [hw, List.append_nil]⟩

theorem takeD_self {bytes : Bytes} {length : Nat} (h : bytes.length = length) :
    bytes.takeD length 0 = bytes := by
  rw [← h]
  exact (List.takeD_eq_take _ le_rfl).trans List.take_length

theorem parses_readDigest_bind {g : Digest → Party β} :
    Parses (readDigest >>= g) w b ↔
      ∃ (digest : Digest) (rest : Bytes), Parses (g digest) rest b ∧ w = digest.1 ++ rest := by
  unfold readDigest
  rw [bind_assoc]
  simp only [parses_read_bind, pure_bind]
  constructor
  · intro ⟨tokens, rest, hcount, hrest, hw⟩
    have hsame := takeD_self hcount
    exact ⟨_, rest, hrest, by rw [hw]; simp only [hsame]⟩
  · intro ⟨digest, rest, hrest, hw⟩
    have hsame := takeD_self digest.2
    refine ⟨digest.1, rest, digest.2, ?_, hw⟩
    simp only [hsame]
    exact hrest

end

/-! ## Lists of file IDs -/

/-- The bytes of file IDs. -/
def fileIdBytes (fileIds : List Nat) : Bytes := fileIds.flatMap (beBytes 8)

section

variable {β : Type} {w : Bytes} {b : β}

theorem emits_fileIds {text : String} {fileIds : List Nat} :
    Emits (sendEach (writeIndex text) fileIds) w (.ok ()) ↔
      (∀ fileId ∈ fileIds, fileId < u64Limit) ∧ w = fileIdBytes fileIds :=
  emits_sendEach (fun _ _ => emits_writeIndex)

theorem emits_fileIds_bind {text : String} {fileIds : List Nat} {f : Unit → Party β} :
    Emits (sendEach (writeIndex text) fileIds >>= f) w (.ok b) ↔
      (∀ fileId ∈ fileIds, fileId < u64Limit) ∧
        ∃ rest, Emits (f ()) rest (.ok b) ∧ w = fileIdBytes fileIds ++ rest := by
  rw [emits_bind]
  constructor
  · intro ⟨first, rest, (), hw, hfirst, hrest⟩
    obtain ⟨hids, hbytes⟩ := emits_fileIds.mp hfirst
    exact ⟨hids, rest, hrest, by rw [hw, hbytes]⟩
  · intro ⟨hids, rest, hrest, hw⟩
    exact ⟨_, rest, (), hw, emits_fileIds.mpr ⟨hids, rfl⟩, hrest⟩

theorem parses_readFileIds_bind {duplicate : Nat → String} {count : Nat}
    {g : List Nat → Party β} :
    Parses (readFileIds duplicate count >>= g) w b ↔
      ∃ (fileIds : List Nat) (rest : Bytes), fileIds.length = count ∧ fileIds.Nodup ∧
        (∀ fileId ∈ fileIds, fileId < u64Limit) ∧ Parses (g fileIds) rest b ∧
          w = fileIdBytes fileIds ++ rest := by
  have hitems : ∀ first fileIds, Parses (readFileIds duplicate count) first fileIds ↔
      fileIds.length = count ∧ fileIds.Nodup ∧ (∀ fileId ∈ fileIds, fileId < u64Limit) ∧
        first = fileIdBytes fileIds := by
    intro first fileIds
    unfold readFileIds
    rw [parses_receiveDistinct (fun _ _ => parses_readFileId), List.map_id, ← u64Limit_eq]
    simp only [List.not_mem_nil, not_false_eq_true, true_and]
    rfl
  rw [parses_bind]
  simp only [hitems]
  constructor
  · rintro ⟨first, rest, fileIds, hw, ⟨hcount, hnodup, hids, hfirst⟩, hrest⟩
    exact ⟨fileIds, rest, hcount, hnodup, hids, hrest, by rw [hw, hfirst]⟩
  · rintro ⟨fileIds, rest, hcount, hnodup, hids, hrest, hw⟩
    exact ⟨_, rest, fileIds, hw, ⟨hcount, hnodup, hids, rfl⟩, hrest⟩

end

/-- The limits of the lists fit their count. -/
theorem count_lt {count : Nat} (h : count ≤ maxUnchangedOfferFiles ∨
    count ≤ maxResumeOfferStripes ∨ count ≤ maxGenerationCommitFileIds) : count < 256 ^ 4 := by
  unfold maxUnchangedOfferFiles maxResumeOfferStripes maxGenerationCommitFileIds at h
  omega

/-! ## Verification requests -/

variable {message : UInt8}

/-- The bytes of an entry. -/
def digestEntryBytes (entry : Nat × Digest) : Bytes := beBytes 8 entry.1 ++ entry.2.1

theorem emits_writeDigestEntry {entry : Nat × Digest} {w : Bytes} :
    Emits (writeDigestEntry entry) w (.ok ()) ↔
      entry.1 < u64Limit ∧ w = digestEntryBytes entry := by
  unfold writeDigestEntry
  simp only [emits_writeIndex_bind, emits_writeDigest, exists_eq_left]
  rfl

theorem parses_readDigestEntry {entry : Nat × Digest} {w : Bytes} :
    Parses readDigestEntry w entry ↔ entry.1 < u64Limit ∧ w = digestEntryBytes entry := by
  unfold readDigestEntry readFileId
  simp only [parses_readU64_bind, parses_readDigest_bind, Proc.pure_eq_ret, parses_ret]
  rw [u64Limit_eq]
  constructor
  · intro ⟨fileId, rest, hlt, ⟨digest, tail, ⟨htail, hentry⟩, hrest⟩, hw⟩
    rw [hentry]
    refine ⟨hlt, ?_⟩
    rw [hw, hrest, htail, List.append_nil]
    rfl
  · intro ⟨hlt, hw⟩
    exact ⟨entry.1, entry.2.1, hlt, ⟨entry.2, [], ⟨rfl, rfl⟩, (List.append_nil _).symm⟩, hw⟩

/-- The IDs of a request. -/
def DigestMap.Representable (digests : DigestMap) : Prop :=
  ∀ entry ∈ digests.toList, entry.1 < u64Limit

/-- The bytes of a request behind its message. -/
def requestBytes (entries : List (Nat × Digest)) : Bytes :=
  beBytes 4 entries.length ++ entries.flatMap digestEntryBytes

theorem emits_writeVerificationRequest {digests : DigestMap} {w : Bytes} :
    Emits (writeVerificationRequest message digests) w (.ok ()) ↔
      (digests.size ≤ maxUnchangedOfferFiles ∧ digests.Representable) ∧
        w = [message] ++ requestBytes digests.toList := by
  unfold writeVerificationRequest requestBytes
  simp only [emits_writeCount_bind, emits_writeU8_bind, emits_writeU32_bind,
    emits_sendEach (fun _ _ => emits_writeDigestEntry), Std.ExtTreeMap.length_toList]
  constructor
  · intro ⟨_, hcount, rest, ⟨tail, ⟨hids, htail⟩, hrest⟩, hw⟩
    exact ⟨⟨hcount, hids⟩, by rw [hw, hrest, htail]⟩
  · intro ⟨⟨hcount, hids⟩, hw⟩
    have hlt := count_lt (.inl hcount)
    exact ⟨by omega, hcount, _, ⟨_, ⟨hids, rfl⟩, rfl⟩, hw⟩

theorem parses_readVerificationRequest {digests : DigestMap} {w : Bytes} :
    Parses readVerificationRequest w digests ↔
      ∃ entries : List (Nat × Digest), entries.length ≤ maxUnchangedOfferFiles ∧
        (entries.map Prod.fst).Nodup ∧ (∀ entry ∈ entries, entry.1 < u64Limit) ∧
        digests = .ofList entries ∧ w = requestBytes entries := by
  unfold readVerificationRequest requestBytes
  simp only [parses_readU32_bind, parses_ensure_bind, Proc.pure_eq_ret]
  constructor
  · rintro ⟨count, rest, _, ⟨hcount, hrest⟩, hw⟩
    obtain ⟨first, tail, entries, hsplit, hentries, hret⟩ := parses_bind.mp hrest
    obtain ⟨hlength, hnodup, hids, hfirst⟩ :=
      (parses_receiveDistinct (fun _ _ => parses_readDigestEntry)).mp hentries
    obtain ⟨htail, hdigests⟩ := parses_ret.mp hret
    refine ⟨entries, by rw [hlength]; exact hcount, hnodup, fun entry h => (hids entry h).2.2,
      hdigests, ?_⟩
    rw [hw, hsplit, hfirst, htail, List.append_nil, hlength]
  · rintro ⟨entries, hcount, hnodup, hids, hdigests, hw⟩
    refine ⟨entries.length, _, count_lt (.inl hcount), ⟨hcount, parses_bind.mpr
      ⟨entries.flatMap digestEntryBytes, [], entries, (List.append_nil _).symm,
        (parses_receiveDistinct (fun _ _ => parses_readDigestEntry)).mpr
          ⟨rfl, hnodup, fun entry h => ⟨List.not_mem_nil, rfl, hids entry h⟩, rfl⟩,
        parses_ret.mpr ⟨rfl, hdigests⟩⟩⟩, hw⟩

/-- A map is the map of its entries. -/
theorem DigestMap.ofList_toList (digests : DigestMap) :
    Std.ExtTreeMap.ofList digests.toList = digests := by
  apply Std.ExtTreeMap.ext_getElem?
  intro fileId
  cases hfound : digests[fileId]? with
  | some digest =>
    exact Std.ExtTreeMap.getElem?_ofList_of_mem (compare_eq_iff_eq.mpr rfl)
      Std.ExtTreeMap.distinct_keys_toList
      (Std.ExtTreeMap.mem_toList_iff_getElem?_eq_some.mpr hfound)
  | none =>
    apply Std.ExtTreeMap.getElem?_ofList_of_contains_eq_false
    have hmissing : fileId ∉ digests := by simpa using hfound
    rw [Std.ExtTreeMap.map_fst_toList_eq_keys, Std.ExtTreeMap.contains_keys,
      ← Bool.not_eq_true, ← Std.ExtTreeMap.mem_iff_contains]
    exact hmissing

/-- Different keys are all kept. -/
theorem distinct_of_nodup {entries : List (Nat × Digest)} (h : (entries.map Prod.fst).Nodup) :
    entries.Pairwise (fun first second => ¬ compare first.1 second.1 = .eq) := by
  rw [List.nodup_iff_pairwise_ne, List.pairwise_map] at h
  refine h.imp ?_
  intro first second hne hsame
  exact hne (compare_eq_iff_eq.mp hsame)

theorem DigestMap.nodup_toList (digests : DigestMap) : (digests.toList.map Prod.fst).Nodup := by
  rw [Std.ExtTreeMap.map_fst_toList_eq_keys]
  exact Std.ExtTreeMap.nodup_keys

/-- The IDs of a map are those of the entries it was made of. -/
theorem DigestMap.representable_ofList {entries : List (Nat × Digest)}
    (h : ∀ entry ∈ entries, entry.1 < u64Limit) :
    DigestMap.Representable (.ofList entries) := by
  intro entry hentry
  have hmem : entry.1 ∈ (Std.ExtTreeMap.ofList entries : DigestMap) := by
    rw [← Std.ExtTreeMap.mem_keys, ← Std.ExtTreeMap.map_fst_toList_eq_keys]
    exact List.mem_map_of_mem hentry
  rw [Std.ExtTreeMap.mem_ofList, List.contains_iff_mem] at hmem
  obtain ⟨source, hsource, hid⟩ := List.mem_map.mp hmem
  rw [← hid]
  exact h source hsource

/-! ## Verification responses -/

variable {matchingFileIds : Finset Nat}

/-- The bytes of a list with its count. -/
def countedFileIdBytes (fileIds : List Nat) : Bytes :=
  beBytes 4 fileIds.length ++ fileIdBytes fileIds

/-- Every ID fits its field. -/
def AllRepresentable (fileIds : Finset Nat) : Prop := ∀ fileId ∈ fileIds, fileId < u64Limit

theorem emits_writeVerificationResponse {w : Bytes} :
    Emits (writeVerificationResponse message matchingFileIds) w (.ok ()) ↔
      (matchingFileIds.card < 2 ^ 32 ∧ AllRepresentable matchingFileIds) ∧
        w = [message] ++ countedFileIdBytes matchingFileIds.sort := by
  unfold writeVerificationResponse countedFileIdBytes AllRepresentable
  simp only [emits_attempt_bind, u32TryFrom_eq_ok, emits_writeU8_bind, emits_writeU32_bind,
    emits_fileIds, Finset.mem_sort, Finset.length_sort, and_assoc, exists_and_left,
    exists_eq_left]

theorem parses_readVerificationResponse {description : String} {w : Bytes} :
    Parses (readVerificationResponse message description) w matchingFileIds ↔
      ∃ fileIds : List Nat, fileIds.length ≤ maxUnchangedOfferFiles ∧ fileIds.Nodup ∧
        (∀ fileId ∈ fileIds, fileId < u64Limit) ∧ matchingFileIds = fileIds.toFinset ∧
        w = [message] ++ countedFileIdBytes fileIds := by
  unfold readVerificationResponse countedFileIdBytes
  simp only [parses_readU8_bind, parses_readU32_bind, parses_ensure_bind,
    parses_readFileIds_bind, Proc.pure_eq_ret, parses_ret]
  constructor
  · rintro ⟨found, rest, ⟨hfound, count, tail, _, ⟨hcount, fileIds, final, hlength, hnodup, hids,
      ⟨hfinal, hresult⟩, htail⟩, hrest⟩, hw⟩
    refine ⟨fileIds, by rw [hlength]; exact hcount, hnodup, hids, hresult, ?_⟩
    rw [hw, hrest, htail, hfinal, List.append_nil, hfound, hlength]
  · rintro ⟨fileIds, hcount, hnodup, hids, hresult, hw⟩
    exact ⟨message, _, ⟨rfl, fileIds.length, fileIdBytes fileIds, count_lt (.inl hcount),
      ⟨hcount, fileIds, [], rfl, hnodup, hids, ⟨rfl, hresult⟩, (List.append_nil _).symm⟩, rfl⟩, hw⟩

/-- A set is written in the order of its elements. -/
theorem nodup_sort {α : Type} [LinearOrder α] (values : Finset α) : values.sort.Nodup :=
  Finset.sort_nodup values _

theorem eq_toFinset_sort {α : Type} [LinearOrder α] [DecidableEq α] (values : Finset α) :
    values = values.sort.toFinset := by
  ext value
  rw [List.mem_toFinset, Finset.mem_sort]

theorem AllRepresentable.sort {fileIds : Finset Nat} (h : AllRepresentable fileIds) :
    ∀ fileId ∈ fileIds.sort, fileId < u64Limit := by
  intro fileId hmem
  exact h fileId ((Finset.mem_sort _).mp hmem)

/-- A response within the limit of its reader arrives. -/
theorem parses_written_verificationResponse {description : String} {w : Bytes}
    (hlimit : matchingFileIds.card ≤ maxUnchangedOfferFiles)
    (h : Emits (writeVerificationResponse message matchingFileIds) w (.ok ())) :
    Parses (readVerificationResponse message description) w matchingFileIds := by
  obtain ⟨⟨_, hids⟩, hw⟩ := emits_writeVerificationResponse.mp h
  have hcount : matchingFileIds.sort.length ≤ maxUnchangedOfferFiles := by
    rw [Finset.length_sort]
    exact hlimit
  have hnodup := nodup_sort matchingFileIds
  have hsame := eq_toFinset_sort matchingFileIds
  rw [parses_readVerificationResponse]
  refine ⟨matchingFileIds.sort, hcount, hnodup, ?_, ?_, ?_⟩
  · exact hids.sort
  · exact hsame
  · exact hw

/-! ## Readiness -/

/-- The bytes of a stripe. -/
def stripeBytes (stripe : ResumeStripe) : Bytes :=
  beBytes 8 stripe.fileId ++ (beBytes 8 stripe.offset ++ beBytes 8 stripe.length)

/-- A stripe that `ResumeStripe::new` makes of `u64` values. -/
structure ResumeStripe.Typed (stripe : ResumeStripe) : Prop where
  fileId : stripe.fileId < u64Limit
  offset : stripe.offset < u64Limit
  length : stripe.length < u64Limit
  nonempty : 0 < stripe.length

theorem emits_writeStripe {stripe : ResumeStripe} {w : Bytes} :
    Emits (writeStripe stripe) w (.ok ()) ↔ True ∧ w = stripeBytes stripe := by
  unfold writeStripe stripeBytes
  simp only [emits_writeU64_bind, emits_writeU64, exists_eq_left, true_and]

theorem parses_readStripe {stripe : ResumeStripe} {w : Bytes} :
    Parses readStripe w stripe ↔ stripe.Typed ∧ w = stripeBytes stripe := by
  have hlast : ∀ (result : IoResult ResumeStripe) (w : Bytes),
      Parses (attempt .protocol result) w stripe ↔ w = [] ∧ result = .ok stripe := by
    intro result w
    have hbind : (attempt .protocol result : Party ResumeStripe) =
        (attempt .protocol result >>= fun value => .ret value) := (bind_pure _).symm
    rw [hbind, parses_attempt_bind]
    simp only [parses_ret]
    constructor
    · intro ⟨value, hvalue, hw, hsame⟩
      exact ⟨hw, by rw [hsame]; exact hvalue⟩
    · intro ⟨hw, hvalue⟩
      exact ⟨stripe, hvalue, hw, rfl⟩
  unfold readStripe stripeBytes
  simp only [parses_readU64_bind, hlast, mapError_eq_ok, ResumeStripe.new_eq_ok]
  rw [← u64Limit_eq]
  constructor
  · intro ⟨fileId, rest, hfileId, ⟨offset, tail, hoffset, ⟨length, final, hlength,
      ⟨hfinal, hpos, hstripe⟩, htail⟩, hrest⟩, hw⟩
    rw [hstripe]
    refine ⟨⟨hfileId, hoffset, hlength, hpos⟩, ?_⟩
    rw [hw, hrest, htail, hfinal, List.append_nil]
  · intro ⟨⟨hfileId, hoffset, hlength, hpos⟩, hw⟩
    exact ⟨stripe.fileId, _, hfileId, ⟨stripe.offset, _, hoffset, ⟨stripe.length, [], hlength,
      ⟨rfl, hpos, rfl⟩, (List.append_nil _).symm⟩, rfl⟩, hw⟩

/-- The bytes of the fixed fields. -/
def readyHeadBytes (ready : ReceiverReady) : Bytes :=
  beBytes 8 ready.summary.entries ++ (beBytes 8 ready.summary.directories ++
    (beBytes 8 ready.summary.totalFileBytes ++ (beBytes 8 ready.summary.fingerprint ++
      [if ready.destinationSeekPenalty then 1 else 0])))

/-- The bytes behind the message, for the stripes and IDs in some order. -/
def readyBytes (ready : ReceiverReady) (stripes : List ResumeStripe) (fileIds : List Nat) :
    Bytes :=
  readyHeadBytes ready ++ (beBytes 4 stripes.length ++ (stripes.flatMap stripeBytes ++
    countedFileIdBytes fileIds))

/-- A value with the types of the source. -/
structure ReceiverReady.Typed (ready : ReceiverReady) : Prop where
  summary : ready.summary.InRange
  stripes : ∀ stripe ∈ ready.completedStripes, stripe.Typed

/-- The sets are within the limits. -/
structure ReceiverReady.Bounded (ready : ReceiverReady) : Prop where
  stripes : ready.completedStripes.card ≤ maxResumeOfferStripes
  unchanged : ready.unchangedFileIds.card ≤ maxUnchangedOfferFiles

theorem emits_writeReceiverReady {ready : ReceiverReady} {w : Bytes} :
    Emits (writeReceiverReady ready) w (.ok ()) ↔
      (ready.Bounded ∧ AllRepresentable ready.unchangedFileIds) ∧
        w = [messageReceiverReady] ++
          readyBytes ready ready.completedStripes.sort ready.unchangedFileIds.sort := by
  have hstripes : ∀ {f : Unit → Party Unit} {w : Bytes},
      Emits (sendEach writeStripe ready.completedStripes.sort >>= f) w (.ok ()) ↔
        ∃ rest, Emits (f ()) rest (.ok ()) ∧
          w = ready.completedStripes.sort.flatMap stripeBytes ++ rest := by
    intro f w
    rw [emits_bind]
    constructor
    · intro ⟨first, rest, (), hw, hfirst, hrest⟩
      obtain ⟨_, hbytes⟩ := (emits_sendEach (fun _ _ => emits_writeStripe)).mp hfirst
      exact ⟨rest, hrest, by rw [hw, hbytes]⟩
    · intro ⟨rest, hrest, hw⟩
      exact ⟨_, rest, (), hw,
        (emits_sendEach (fun _ _ => emits_writeStripe)).mpr ⟨fun _ _ => trivial, rfl⟩, hrest⟩
  unfold writeReceiverReady readyBytes readyHeadBytes countedFileIdBytes AllRepresentable
  simp only [emits_writeCount_bind, emits_writeU8_bind, emits_writeU64_bind, emits_writeU32_bind,
    hstripes, emits_fileIds, Finset.mem_sort, Finset.length_sort, and_assoc, exists_and_left,
    exists_eq_left, List.append_assoc]
  constructor
  · intro ⟨_, hstripeCount, _, hcount, hids, hw⟩
    exact ⟨⟨hstripeCount, hcount⟩, hids, hw⟩
  · intro ⟨⟨hstripeCount, hcount⟩, hids, hw⟩
    have hstripesLt := count_lt (.inr (.inl hstripeCount))
    have hfilesLt := count_lt (.inl hcount)
    exact ⟨by omega, hstripeCount, by omega, hcount, hids, hw⟩

theorem seekPenaltyFlag_eq_ok {value : UInt8} {flag : Bool} :
    seekPenaltyFlag value = .ok flag ↔ value = if flag then 1 else 0 := by
  unfold seekPenaltyFlag
  split
  · rename_i hzero
    rw [hzero]
    cases flag <;> simp
  · split
    · rename_i hone
      rw [hone]
      cases flag <;> simp
    · rename_i hzero hone
      cases flag <;> simp [hzero, hone]

theorem parses_flag_bind {value : UInt8} {β : Type} {g : Bool → Party β} {w : Bytes} {b : β} :
    Parses (attempt .protocol (seekPenaltyFlag value) >>= g) w b ↔
      ∃ flag, value = (if flag = true then 1 else 0) ∧ Parses (g flag) w b := by
  simp only [parses_attempt_bind, seekPenaltyFlag_eq_ok]

theorem parses_readReceiverReady {ready : ReceiverReady} {w : Bytes} :
    Parses (readReceiverReadyAfterMessage message) w ready ↔
      ∃ (stripes : List ResumeStripe) (fileIds : List Nat),
        message = messageReceiverReady ∧ ready.summary.InRange ∧
        (stripes.length ≤ maxResumeOfferStripes ∧ stripes.Nodup ∧
          (∀ stripe ∈ stripes, stripe.Typed) ∧ ready.completedStripes = stripes.toFinset) ∧
        (fileIds.length ≤ maxUnchangedOfferFiles ∧ fileIds.Nodup ∧
          (∀ fileId ∈ fileIds, fileId < u64Limit) ∧
          ready.unchangedFileIds = fileIds.toFinset) ∧
        w = readyBytes ready stripes fileIds := by
  unfold readReceiverReadyAfterMessage readyBytes readyHeadBytes countedFileIdBytes
  simp only [parses_ensure_bind, parses_readU64_bind, parses_readU8_bind, parses_flag_bind,
    parses_readU32_bind, Proc.pure_eq_ret]
  rw [← u64Limit_eq]
  constructor
  · rintro ⟨hmessage, entries, _, hentries, ⟨directories, _, hdirectories, ⟨total, _, htotal,
      ⟨fingerprint, _, hfingerprint, ⟨flagByte, _, ⟨flag, hflag, stripeCount, _, _,
      ⟨hstripeCount, hrest⟩, hw6⟩, hw5⟩, hw4⟩, hw3⟩, hw2⟩, hw1⟩
    obtain ⟨first, tail, stripes, hsplit, hstripes, hafter⟩ := parses_bind.mp hrest
    obtain ⟨hlength, hnodup, hall, hfirst⟩ :=
      (parses_receiveDistinct (fun _ _ => parses_readStripe)).mp hstripes
    simp only [parses_readU32_bind, parses_ensure_bind, parses_readFileIds_bind,
      parses_ret] at hafter
    obtain ⟨count, _, _, ⟨hcount, fileIds, final, hidsLength, hidsNodup, hids,
      ⟨hfinal, hready⟩, hw8⟩, hw7⟩ := hafter
    rw [hready]
    refine ⟨stripes, fileIds, hmessage, ⟨hentries, hdirectories, htotal, hfingerprint⟩,
      ⟨by rw [hlength]; exact hstripeCount, ?_, fun stripe h => (hall stripe h).2.2, rfl⟩,
      ⟨by rw [hidsLength]; exact hcount, hidsNodup, hids, rfl⟩, ?_⟩
    · rwa [List.map_id] at hnodup
    · rw [hw1, hw2, hw3, hw4, hw5, hw6, hsplit, hfirst, hw7, hw8, hfinal, hflag, hlength,
        hidsLength]
      simp only [List.append_assoc, List.append_nil]
  · rintro ⟨stripes, fileIds, hmessage, ⟨hentries, hdirectories, htotal, hfingerprint⟩,
      ⟨hstripeCount, hnodup, htyped, hstripes⟩, ⟨hcount, hidsNodup, hids, hfiles⟩, hw⟩
    refine ⟨hmessage, ready.summary.entries, _, hentries, ⟨ready.summary.directories, _,
      hdirectories, ⟨ready.summary.totalFileBytes, _, htotal, ⟨ready.summary.fingerprint, _,
      hfingerprint, ⟨_, _, ⟨ready.destinationSeekPenalty, rfl, stripes.length,
      stripes.flatMap stripeBytes ++ (beBytes 4 fileIds.length ++ fileIdBytes fileIds),
      count_lt (.inr (.inl hstripeCount)), ⟨hstripeCount, ?_⟩, rfl⟩, rfl⟩, rfl⟩, rfl⟩, rfl⟩, ?_⟩
    · refine parses_bind.mpr ⟨_, _, stripes, rfl,
        (parses_receiveDistinct (fun _ _ => parses_readStripe)).mpr
          ⟨rfl, by rwa [List.map_id], fun stripe h => ⟨List.not_mem_nil, rfl, htyped stripe h⟩,
            rfl⟩, ?_⟩
      simp only [parses_readU32_bind, parses_ensure_bind, parses_readFileIds_bind, parses_ret]
      refine ⟨fileIds.length, fileIdBytes fileIds, count_lt (.inl hcount), ⟨hcount, fileIds, [],
        rfl, hidsNodup, hids, ⟨rfl, ?_⟩, (List.append_nil _).symm⟩, rfl⟩
      rw [← hstripes, ← hfiles]
    · rw [hw]
      simp only [List.append_assoc]

end NetworkCopy
