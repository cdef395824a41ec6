import NetworkCopy.Reuse.Acceptance
import NetworkCopy.Session.ControlStream

/-!
# The size of an exact-reuse plan

Whatever the sender finds at the source, a plan that it builds has at most one entry for a planned
file.  So a limit on the entries of the message is met by every manifest with no more files.
-/

namespace NetworkCopy

open Duplex ByteOrder

/-! ## Groups -/

section

variable {κ ρ : Type} [LinearOrder ρ]

/-- The files of some groups. -/
def groupedIds (groups : List (κ × List Nat)) : List Nat := groups.flatMap Prod.snd

@[simp] theorem groupedIds_nil : groupedIds ([] : List (κ × List Nat)) = [] := rfl

/-- A push adds one file. -/
theorem groupedIds_pushGroup (rank : κ → ρ) (key : κ) (fileId : Nat)
    (groups : List (κ × List Nat)) :
    (groupedIds (pushGroup rank key fileId groups)).Perm (fileId :: groupedIds groups) := by
  induction groups with
  | nil => exact .refl _
  | cons group rest ih =>
    unfold pushGroup
    by_cases hbefore : rank key < rank group.1
    · rw [if_pos hbefore]
      exact .refl _
    · rw [if_neg hbefore]
      by_cases hsame : rank key = rank group.1
      · rw [if_pos hsame]
        show (group.2 ++ [fileId] ++ groupedIds rest).Perm
          (fileId :: (group.2 ++ groupedIds rest))
        rw [List.append_assoc]
        exact List.perm_middle
      · rw [if_neg hsame]
        exact (ih.append_left group.2).trans List.perm_middle

end

variable {blake3 : Bytes → Digest} {source : FileTree} {manifest : Manifest}

theorem groupBySize_subperm {fileIds : List Nat} {groups result : List (Nat × List Nat)}
    (h : groupBySize manifest fileIds groups = .ok result) :
    (groupedIds result).Subperm (fileIds ++ groupedIds groups) := by
  induction fileIds generalizing groups with
  | nil =>
    cases h
    exact List.Subperm.refl _
  | cons fileId rest ih =>
    obtain ⟨entry, _, h⟩ := bind_eq_ok.mp h
    by_cases hempty : entry.fileSize = 0
    · rw [if_pos hempty] at h
      exact (ih h).trans (List.sublist_cons_self fileId _).subperm
    · rw [if_neg hempty] at h
      have hpush := groupedIds_pushGroup id entry.fileSize fileId groups
      exact (ih h).trans ((hpush.append_left rest).trans List.perm_middle).subperm

theorem groupByDigest_perm {fileIds : List Nat} {groups result : List (Digest × List Nat)}
    (h : groupByDigest blake3 source manifest fileIds groups = .ok result) :
    (groupedIds result).Perm (fileIds ++ groupedIds groups) := by
  induction fileIds generalizing groups with
  | nil =>
    cases h
    exact .refl _
  | cons fileId rest ih =>
    obtain ⟨entry, _, h⟩ := bind_eq_ok.mp h
    obtain ⟨digest, _, h⟩ := bind_eq_ok.mp h
    have hpush := groupedIds_pushGroup digestRank digest fileId groups
    exact (ih h).trans ((hpush.append_left rest).trans List.perm_middle)

/-! ## Entries -/

/-- The entries map different ones of some files to some of these files. -/
structure DrawnFrom (fileIds : List Nat) (entries : List ExactFileReuse) : Prop where
  targets : (entries.map ExactFileReuse.targetFileId).Subperm fileIds
  bases : ∀ entry ∈ entries, entry.basisFileId ∈ fileIds

namespace DrawnFrom

variable {fileIds otherIds : List Nat} {entries others : List ExactFileReuse}

theorem nil : DrawnFrom fileIds [] where
  targets := List.nil_subperm
  bases := by simp

theorem append (h : DrawnFrom fileIds entries) (hother : DrawnFrom otherIds others) :
    DrawnFrom (fileIds ++ otherIds) (entries ++ others) where
  targets := by
    rw [List.map_append]
    exact h.targets.append hother.targets
  bases := by
    intro entry hmem
    cases List.mem_append.mp hmem with
    | inl hleft => exact List.mem_append_left _ (h.bases entry hleft)
    | inr hright => exact List.mem_append_right _ (hother.bases entry hright)

theorem mono (h : DrawnFrom fileIds entries) (hids : fileIds.Subperm otherIds) :
    DrawnFrom otherIds entries where
  targets := h.targets.trans hids
  bases := fun entry hmem => hids.subset (h.bases entry hmem)

theorem perm (h : DrawnFrom fileIds entries) (hperm : others.Perm entries) :
    DrawnFrom fileIds others where
  targets := (hperm.map _).subperm.trans h.targets
  bases := fun entry hmem => h.bases entry (hperm.mem_iff.mp hmem)

/-- There are not more entries than files. -/
theorem length_le (h : DrawnFrom fileIds entries) : entries.length ≤ fileIds.length := by
  have hlength := h.targets.length_le
  rwa [List.length_map] at hlength

/-- The entries name only these files. -/
theorem mem (h : DrawnFrom fileIds entries) {entry : ExactFileReuse} (hmem : entry ∈ entries) :
    entry.basisFileId ∈ fileIds ∧ entry.targetFileId ∈ fileIds :=
  ⟨h.bases entry hmem, h.targets.subset (List.mem_map_of_mem hmem)⟩

end DrawnFrom

theorem reusesOfGroup_drawn (group : Digest × List Nat) :
    DrawnFrom group.2 (reusesOfGroup group) := by
  unfold reusesOfGroup
  by_cases hsingle : group.2.length < 2
  · rw [if_pos hsingle]
    exact DrawnFrom.nil
  · rw [if_neg hsingle]
    have hsorted := sortIds_perm group.2
    cases hids : sortIds group.2 with
    | nil => exact DrawnFrom.nil
    | cons basisFileId targets =>
      rw [hids] at hsorted
      constructor
      · rw [List.map_map, Function.comp_def, List.map_id']
        exact (List.sublist_cons_self basisFileId targets).subperm.trans hsorted.subperm
      · intro entry hmem
        obtain ⟨target, _, rfl⟩ := List.mem_map.mp hmem
        exact hsorted.subset List.mem_cons_self

theorem flatMap_reusesOfGroup_drawn (groups : List (Digest × List Nat)) :
    DrawnFrom (groupedIds groups) (groups.flatMap reusesOfGroup) := by
  induction groups with
  | nil => exact DrawnFrom.nil
  | cons group rest ih => exact (reusesOfGroup_drawn group).append ih

theorem reusesOfSizes_drawn {groups : List (Nat × List Nat)} {entries : List ExactFileReuse}
    (h : reusesOfSizes blake3 source manifest groups = .ok entries) :
    DrawnFrom (groupedIds groups) entries := by
  induction groups generalizing entries with
  | nil =>
    cases h
    exact DrawnFrom.nil
  | cons group rest ih =>
    obtain ⟨size, sameSizeIds⟩ := group
    rw [reusesOfSizes] at h
    by_cases hsingle : sameSizeIds.length < 2
    · rw [if_pos hsingle] at h
      exact (ih h).mono (List.sublist_append_right sameSizeIds (groupedIds rest)).subperm
    · rw [if_neg hsingle] at h
      obtain ⟨byDigest, hdigests, h⟩ := bind_eq_ok.mp h
      obtain ⟨others, hothers, h⟩ := bind_eq_ok.mp h
      cases h
      have hgrouped : (groupedIds byDigest).Perm sameSizeIds := by
        have hperm := groupByDigest_perm hdigests
        rw [groupedIds_nil, List.append_nil] at hperm
        exact hperm.trans (sortIds_perm sameSizeIds)
      exact ((flatMap_reusesOfGroup_drawn byDigest).mono hgrouped.subperm).append (ih hothers)

/-- A plan has at most one entry for each planned file, and names only planned files. -/
theorem buildFreshExactReusePlan_drawn {transferPlan : TransferPlan} {plan : ExactReusePlan}
    (h : buildFreshExactReusePlan blake3 source manifest transferPlan = .ok plan) :
    DrawnFrom (plannedExactReuseFileIds transferPlan).sort plan.entries := by
  obtain ⟨bySize, hbySize, h⟩ := bind_eq_ok.mp h
  obtain ⟨entries, hentries, h⟩ := bind_eq_ok.mp h
  cases h
  have hsizes := groupBySize_subperm hbySize
  rw [groupedIds_nil, List.append_nil] at hsizes
  exact ((reusesOfSizes_drawn hentries).mono hsizes).perm (List.perm_insertionSort ReuseLe entries)

/-! ## The message -/

/-- The bytes of an entry. -/
def reuseBytes (entry : ExactFileReuse) : Bytes :=
  beBytes 8 entry.basisFileId ++ (beBytes 8 entry.targetFileId ++ entry.digest.1)

theorem emits_writeReuseEntries {entries : List ExactFileReuse}
    (h : ∀ entry ∈ entries, entry.basisFileId < u64Limit ∧ entry.targetFileId < u64Limit) :
    Emits (writeReuseEntries entries) (entries.flatMap reuseBytes) (.ok ()) := by
  induction entries with
  | nil => exact .ret ()
  | cons entry rest ih =>
    obtain ⟨hbasis, htarget⟩ := h entry List.mem_cons_self
    have hrest := ih (fun other hmem => h other (List.mem_cons_of_mem _ hmem))
    rw [List.flatMap_cons, reuseBytes, List.append_assoc, List.append_assoc, writeReuseEntries,
      emits_attempt_bind]
    refine ⟨_, u64TryFrom_eq_ok.mpr ⟨hbasis, rfl⟩, emits_writeU64_bind.mpr ⟨_, ?_, rfl⟩⟩
    refine emits_attempt_bind.mpr ⟨_, u64TryFrom_eq_ok.mpr ⟨htarget, rfl⟩, ?_⟩
    exact emits_writeU64_bind.mpr ⟨_, emits_write_bind.mpr ⟨_, hrest, rfl⟩, rfl⟩

/-- A plan within the limit is written and read back. -/
theorem exactReusePlan_written {plan : ExactReusePlan}
    (hcount : plan.entries.length ≤ maxUnchangedOfferFiles)
    (h : ∀ entry ∈ plan.entries, entry.basisFileId < u64Limit ∧ entry.targetFileId < u64Limit) :
    ∃ w, Emits (writeExactReusePlan plan) w (.ok ()) ∧ Parses readExactReusePlan w plan := by
  have hlimit : plan.entries.length < 2 ^ 32 := count_lt (.inl hcount)
  have hwritten : Emits (writeExactReusePlan plan) ([messageExactReusePlan] ++
      (beBytes 4 plan.entries.length ++ plan.entries.flatMap reuseBytes)) (.ok ()) := by
    rw [writeExactReusePlan, emits_attempt_bind]
    refine ⟨_, u32TryFrom_eq_ok.mpr ⟨hlimit, rfl⟩, ?_⟩
    refine emits_attempt_bind.mpr ⟨(), ensure_eq_ok.mpr hcount, ?_⟩
    refine emits_writeU8_bind.mpr ⟨_, ?_, rfl⟩
    exact emits_writeU32_bind.mpr ⟨_, emits_writeReuseEntries h, rfl⟩
  have hagree : Agree (fun _ => False) (fun _ => False) (writeExactReusePlan plan)
      readExactReusePlan (fun _ received => received = plan) := agree_exactReusePlan hcount h
  obtain ⟨received, hparses, rfl⟩ := hagree.parses hwritten
  exact ⟨_, hwritten, hparses⟩

end NetworkCopy
