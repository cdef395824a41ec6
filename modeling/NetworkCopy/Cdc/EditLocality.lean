import NetworkCopy.Cdc.EndToEnd
import NetworkCopy.Cdc.Segmentation

/-!
# What an edit of a file costs

The planner sends the chunks of the candidate that the basis does not have.  Which chunks a content
begins with is decided by the bytes that they consist of, up to a chunk that is not cut yet, and the
chunks behind a cut are decided by the bytes behind it.  So an edit is paid for with the bytes that
it puts in and with less than one maximum chunk, however long the file is.
-/

namespace NetworkCopy

section

variable {config : ChunkConfig}

/-- The chunks that some bytes complete are the same whatever follows, and what is not cut yet is
below the maximum. -/
theorem cutChunks_append (hvalid : config.Valid) (bytes : Bytes) :
    ∀ (chunk : Bytes) (hash : UInt64), chunk.length < config.maximumBytes →
      ∃ common chunk' hash', chunk'.length < config.maximumBytes ∧
        common.flatten ++ chunk' = chunk ++ bytes ∧
        ∀ rest, cutChunks config (bytes ++ rest) chunk hash =
          common ++ cutChunks config rest chunk' hash' := by
  induction bytes with
  | nil =>
    intro chunk hash hchunk
    exact ⟨[], chunk, hash, hchunk, by simp, fun rest => rfl⟩
  | cons byte bytes ih =>
    intro chunk hash hchunk
    have hpos : 0 < config.maximumBytes := by omega
    have hlength : (chunk ++ [byte]).length = chunk.length + 1 := by simp
    by_cases hboundary :
        config.isBoundary (chunk ++ [byte]).length (gearPush hash byte) = true
    · obtain ⟨common, chunk', hash', hlt, hflatten, hcut⟩ := ih [] 0 hpos
      refine ⟨(chunk ++ [byte]) :: common, chunk', hash', hlt, ?_, ?_⟩
      · rw [List.flatten_cons, List.append_assoc, hflatten]
        simp
      · intro rest
        rw [List.cons_append, cutChunks, if_pos hboundary, hcut rest]
        rfl
    · have hbelow : (chunk ++ [byte]).length < config.maximumBytes := by
        by_contra hfull
        refine hboundary ?_
        have horder := hvalid.order
        simp only [ChunkConfig.isBoundary, Bool.and_eq_true, Bool.or_eq_true,
          decide_eq_true_eq]
        exact ⟨by omega, .inr (by omega)⟩
      obtain ⟨common, chunk', hash', hlt, hflatten, hcut⟩ := ih _ (gearPush hash byte) hbelow
      refine ⟨common, chunk', hash', hlt, ?_, ?_⟩
      · rw [hflatten]
        simp
      · intro rest
        rw [List.cons_append, cutChunks, if_neg hboundary, hcut rest]

/-- Contents that begin with the same bytes begin with the same chunks. -/
theorem chunksOf_common (hvalid : config.Valid) (kept : Bytes) :
    ∃ common chunk, chunk.length < config.maximumBytes ∧ common.flatten ++ chunk = kept ∧
      ∀ rest, ∃ tail, chunksOf config (kept ++ rest) = common ++ tail ∧
        tail.flatten = chunk ++ rest := by
  have hpos : ([] : Bytes).length < config.maximumBytes := by
    have hminimum := hvalid.minimum
    have horder := hvalid.order
    show 0 < _
    omega
  obtain ⟨common, chunk, hash, hlt, hflatten, hcut⟩ := cutChunks_append hvalid kept [] 0 hpos
  exact ⟨common, chunk, hlt, hflatten, fun rest => ⟨_, hcut rest, cutChunks_flatten config _ _ _⟩⟩

theorem isCut_length (content : Bytes) : IsCut config content content.length :=
  ⟨chunksOf config content, [], by simp, by rw [chunksOf_flatten]⟩

/-- Chunks that the basis has cost nothing, the others at most their bytes. -/
theorem absent_le (middle : List Bytes) {left right pieces : List Bytes} (hleft : left ⊆ pieces)
    (hright : right ⊆ pieces) :
    (((left ++ middle ++ right).filter (fun piece => piece ∉ pieces)).map List.length).sum ≤
      middle.flatten.length := by
  have hnone : ∀ known : List Bytes, known ⊆ pieces →
      known.filter (fun piece => piece ∉ pieces) = [] := by
    intro known hknown
    refine List.filter_eq_nil_iff.mpr fun piece hpiece => ?_
    simpa using hknown hpiece
  rw [List.filter_append, List.filter_append, hnone left hleft, hnone right hright,
    List.append_nil, List.nil_append, List.length_flatten]
  exact (List.filter_sublist.map List.length).sum_le_sum (fun _ _ => Nat.zero_le _)

/-- Without collisions, the index misses the bytes of the chunks that the basis does not have. -/
theorem missingBytes_indexOf {blake3 : Bytes → Digest} (averageKib : Nat) {basis candidate : Bytes}
    (hfree : CollisionFree blake3 (chunksOf config basis ++ chunksOf config candidate)) :
    missingBytes blake3 (indexOf blake3 averageKib config basis) (chunksOf config candidate) =
      absentBytes config basis candidate := by
  unfold missingBytes absentBytes
  congr 2
  refine List.filter_congr fun piece hpiece => ?_
  have hnone := find_indexOf_eq_none averageKib hfree hpiece
  simp [hnone]

/-- The bytes of the chunks that an edit leaves without a counterpart. -/
theorem absentBytes_edit (hvalid : config.Valid) {kept old new suffix : Bytes}
    (hcut : IsCut config (kept ++ old ++ suffix) (kept ++ old).length)
    (hcut' : IsCut config (kept ++ new ++ suffix) (kept ++ new).length) :
    absentBytes config (kept ++ old ++ suffix) (kept ++ new ++ suffix) <
      new.length + config.maximumBytes := by
  obtain ⟨common, chunk, hlt, hkept, hcommon⟩ := chunksOf_common hvalid kept
  obtain ⟨_, hbasis, _⟩ := hcommon (old ++ suffix)
  obtain ⟨tail, hcandidate, htail⟩ := hcommon (new ++ suffix)
  obtain ⟨_, hbasisEnd⟩ := hcut.chunksOf_eq
  obtain ⟨before, hcandidateEnd⟩ := hcut'.chunksOf_eq
  rw [← List.append_assoc] at hbasis hcandidate
  have hhead : common ⊆ chunksOf config (kept ++ old ++ suffix) := by
    rw [hbasis]
    exact List.subset_append_left _ _
  have hend : chunksOf config suffix ⊆ chunksOf config (kept ++ old ++ suffix) := by
    rw [hbasisEnd]
    exact List.subset_append_right _ _
  unfold absentBytes
  -- The chunks of the candidate before the cut begin with the common ones, or are among them.
  obtain ⟨middle, rfl, htails⟩ | ⟨middle, rfl, htails⟩ :=
    List.append_eq_append_iff.mp (hcandidate.symm.trans hcandidateEnd)
  · have hmiddle : middle.flatten = chunk ++ new := by
      have hsame : middle.flatten ++ suffix = chunk ++ new ++ suffix := by
        rw [List.append_assoc, ← htail, htails, List.flatten_append, chunksOf_flatten]
      exact List.append_cancel_right hsame
    have habsent := absent_le middle hhead hend
    rw [← hcandidateEnd, hmiddle, List.length_append] at habsent
    omega
  · have hbefore : before ⊆ chunksOf config (kept ++ old ++ suffix) :=
      fun piece hpiece => hhead (List.mem_append_left _ hpiece)
    have habsent := absent_le [] hbefore hend
    rw [List.append_nil, ← hcandidateEnd] at habsent
    change _ ≤ 0 at habsent
    omega

end

end NetworkCopy
