import NetworkCopy.Reuse.Delivery

/-!
# Exact reuse from the plan to the files

The copies of a plan are made one after the other.  Each turn removes what stands under the part
name of its target, so the loop delivers every target exactly when no turn removes a basis that it
or a later turn needs, or a target that an earlier turn has made.
-/

namespace NetworkCopy

open Crash FileTree Receiver Duplex

/-! ## The loop -/

variable {path : RelativePath}

/-- The turn of `first` leaves the basis of `second`, and the turn of `second` leaves the target of
`first`. -/
def TurnsApart (manifest : Manifest) (first second : ExactFileReuse) : Prop :=
  manifest.partOf first.targetFileId ≠ manifest.pathOf second.basisFileId ∧
    manifest.partOf second.targetFileId ≠ manifest.pathOf first.targetFileId

/-- Entries whose paths name different files. -/
structure Separate (manifest : Manifest) (entries : List ExactFileReuse) : Prop where
  targets : entries.Pairwise (fun first second =>
    manifest.pathOf first.targetFileId ≠ manifest.pathOf second.targetFileId)
  bases : ∀ first ∈ entries, ∀ second ∈ entries,
    manifest.pathOf first.basisFileId ≠ manifest.pathOf second.targetFileId

theorem Separate.tail {manifest : Manifest} {reuse : ExactFileReuse} {rest : List ExactFileReuse}
    (h : Separate manifest (reuse :: rest)) : Separate manifest rest where
  targets := (List.pairwise_cons.mp h.targets).2
  bases first hfirst second hsecond :=
    h.bases first (List.mem_cons_of_mem _ hfirst) second (List.mem_cons_of_mem _ hsecond)

/-- The receiver before the loop: the bases are published, the targets are not, and no part name
belongs to a directory. -/
structure ReadyToCopy (source : FileTree) (manifest : Manifest) (entries : List ExactFileReuse)
    (files : FileTree) : Prop where
  bases : ∀ reuse ∈ entries, files.contentAt (manifest.pathOf reuse.basisFileId) =
    some (sourceContent source manifest reuse.basisFileId)
  targets : ∀ reuse ∈ entries, files (manifest.pathOf reuse.targetFileId) = none
  parts : ∀ reuse ∈ entries, files (manifest.partOf reuse.targetFileId) ≠ some .directory

/-- Every target has the source bytes. -/
def HasTargets (source : FileTree) (manifest : Manifest) (entries : List ExactFileReuse)
    (files : FileTree) : Prop :=
  ∀ reuse ∈ entries, files.contentAt (manifest.pathOf reuse.targetFileId) =
    some (sourceContent source manifest reuse.targetFileId)

theorem contentAt_congr {files files' : FileTree} (h : files' path = files path) :
    files'.contentAt path = files.contentAt path := by
  unfold contentAt
  rw [h]

/-- After a turn the receiver is ready for the others. -/
theorem ReadyToCopy.step {source : FileTree} {manifest : Manifest} {reuse : ExactFileReuse}
    {rest : List ExactFileReuse} {files files' : FileTree}
    (h : ReadyToCopy source manifest (reuse :: rest) files)
    (hseparate : Separate manifest (reuse :: rest))
    (hapart : ∀ other ∈ rest, TurnsApart manifest reuse other)
    (hcopied : Copied manifest reuse files files') :
    ReadyToCopy source manifest rest files' := by
  have hstays : ∀ path, path ≠ manifest.partOf reuse.targetFileId →
      path ≠ manifest.pathOf reuse.targetFileId → files' path = files path := by
    intro path hpart htarget
    exact hcopied.frame path (by simp [hpart, htarget])
  constructor
  · intro other hother
    have hbefore := h.bases other (List.mem_cons_of_mem _ hother)
    have hne := hseparate.bases other (List.mem_cons_of_mem _ hother) reuse List.mem_cons_self
    rw [contentAt_congr (hstays _ (hapart other hother).1.symm hne)]
    exact hbefore
  · intro other hother
    have hbefore := h.targets other (List.mem_cons_of_mem _ hother)
    have hne := (List.pairwise_cons.mp hseparate.targets).1 other hother
    by_cases hpart : manifest.pathOf other.targetFileId = manifest.partOf reuse.targetFileId
    · rw [hpart]
      exact hcopied.part
    · rw [hstays _ hpart hne.symm]
      exact hbefore
  · intro other hother
    have hbefore := h.parts other (List.mem_cons_of_mem _ hother)
    by_cases hpart : manifest.partOf other.targetFileId = manifest.partOf reuse.targetFileId
    · rw [hpart, hcopied.part]
      exact fun habsurd => by cases habsurd
    · rw [hstays _ hpart (hapart other hother).2]
      exact hbefore

variable {transfer : Transfer} {source : FileTree}
variable {entries : List ExactFileReuse}

/-- What the planner promises of the entries: the digest is that of the basis, whose content is that
of the target. -/
structure Promised (transfer : Transfer) (source : FileTree) (reuse : ExactFileReuse) : Prop where
  admissible : Admissible transfer.manifest reuse
  length : (sourceContent source transfer.manifest reuse.basisFileId).length =
    transfer.manifest.sizeOf reuse.basisFileId
  digest : transfer.blake3 (sourceContent source transfer.manifest reuse.basisFileId) =
    reuse.digest
  content : sourceContent source transfer.manifest reuse.targetFileId =
    sourceContent source transfer.manifest reuse.basisFileId

/-- The loop delivers the targets when the turns leave each other's files. -/
theorem materializeAll_ok :
    ∀ {state : Receiver}, (∀ reuse ∈ entries, Promised transfer source reuse) →
      Separate transfer.manifest entries → entries.Pairwise (TurnsApart transfer.manifest) →
      (∀ reuse ∈ entries, TurnsApart transfer.manifest reuse reuse) →
      ReadyToCopy source transfer.manifest entries state.files →
      ∃ state', (Prog.each transfer.materializeExactReuse entries).eval state = (.ok (), state') ∧
        HasTargets source transfer.manifest entries state'.files ∧
        SameExcept (entries.flatMap (fun reuse =>
          [transfer.manifest.partOf reuse.targetFileId,
            transfer.manifest.pathOf reuse.targetFileId])) state.files state'.files := by
  induction entries with
  | nil =>
    intro state _ _ _ _ _
    exact ⟨state, rfl, by simp [HasTargets], SameExcept.refl _ _⟩
  | cons reuse rest ih =>
    intro state hpromised hseparate hapart hself hready
    obtain ⟨hfirst, hrest⟩ := List.pairwise_cons.mp hapart
    have hreuse := hpromised reuse List.mem_cons_self
    obtain ⟨middle, hturn⟩ := Transfer.materializeExactReuse_ok hreuse.admissible
      (hready.bases reuse List.mem_cons_self) hreuse.length hreuse.digest
      (hready.targets reuse List.mem_cons_self) (hready.parts reuse List.mem_cons_self)
      (hself reuse List.mem_cons_self).1
    have hcopied := Transfer.materializeExactReuse_eq_ok hturn
    obtain ⟨state', hloop, htargets, hframe⟩ := ih
      (fun other hother => hpromised other (List.mem_cons_of_mem _ hother)) hseparate.tail hrest
      (fun other hother => hself other (List.mem_cons_of_mem _ hother))
      (hready.step hseparate hfirst hcopied)
    refine ⟨state', ?_, ?_, ?_⟩
    · rw [Prog.each]
      exact (Prog.eval_bind_ok hturn).trans hloop
    · intro other hother
      cases List.mem_cons.mp hother with
      | inr hlater => exact htargets other hlater
      | inl hsame =>
        rw [hsame]
        have hkept : transfer.manifest.pathOf reuse.targetFileId ∉ rest.flatMap (fun other =>
            [transfer.manifest.partOf other.targetFileId,
              transfer.manifest.pathOf other.targetFileId]) := by
          rw [List.mem_flatMap]
          intro hmem
          obtain ⟨later, hlater, hpath⟩ := hmem
          cases List.mem_cons.mp hpath with
          | inl hpart => exact (hfirst later hlater).2 hpart.symm
          | inr htarget =>
            exact (List.pairwise_cons.mp hseparate.targets).1 later hlater
              (List.mem_singleton.mp htarget)
        obtain ⟨content, hbasis, htarget⟩ := hcopied.content
        rw [hready.bases reuse List.mem_cons_self, Option.some.injEq] at hbasis
        rw [contentAt_congr (hframe _ hkept), htarget, ← hbasis, hreuse.content]
    · rw [List.flatMap_cons]
      exact (hcopied.frame.mono (List.subset_append_left _ _)).trans
        (hframe.mono (List.subset_append_right _ _))

/-- A free name stays free while other targets are made, and no basis has it. -/
theorem materializeAll_free
    (hpath : ∀ reuse ∈ entries, path ≠ transfer.manifest.pathOf reuse.targetFileId) :
    ∀ {state state' : Receiver},
      (Prog.each transfer.materializeExactReuse entries).eval state = (.ok (), state') →
      state.files path = none → state'.files path = none ∧
        ∀ reuse ∈ entries, path ≠ transfer.manifest.pathOf reuse.basisFileId := by
  induction entries with
  | nil =>
    intro state state' h hfree
    cases h
    exact ⟨hfree, by simp⟩
  | cons reuse rest ih =>
    intro state state' h hfree
    rw [Prog.each] at h
    obtain ⟨_, middle, hturn, hloop⟩ := Prog.eval_bind_eq_ok h
    have hcopied := Transfer.materializeExactReuse_eq_ok hturn
    have hmiddle : middle.files path = none := by
      by_cases hpart : path = transfer.manifest.partOf reuse.targetFileId
      · rw [hpart]
        exact hcopied.part
      · rw [hcopied.frame path (by simp [hpart, hpath reuse List.mem_cons_self])]
        exact hfree
    obtain ⟨hafter, hothers⟩ := ih
      (fun other hother => hpath other (List.mem_cons_of_mem _ hother)) hloop hmiddle
    refine ⟨hafter, fun other hother => ?_⟩
    cases List.mem_cons.mp hother with
    | inr hlater => exact hothers other hlater
    | inl hsame =>
      intro hbasis
      obtain ⟨content, hcontent, _⟩ := hcopied.content
      obtain ⟨node, hnode, _⟩ := contentAt_eq_some.mp hcontent
      rw [hsame] at hbasis
      rw [← hbasis, hfree] at hnode
      cases hnode

/-- The part names are free at the end, unless a target has them. -/
theorem materializeAll_parts :
    ∀ {state state' : Receiver},
      (Prog.each transfer.materializeExactReuse entries).eval state = (.ok (), state') →
      ∀ reuse ∈ entries, (∀ other ∈ entries, transfer.manifest.partOf reuse.targetFileId ≠
        transfer.manifest.pathOf other.targetFileId) →
        state'.files (transfer.manifest.partOf reuse.targetFileId) = none := by
  induction entries with
  | nil =>
    intro state state' _ reuse hreuse
    cases hreuse
  | cons first rest ih =>
    intro state state' h reuse hreuse hpart
    rw [Prog.each] at h
    obtain ⟨_, middle, hturn, hloop⟩ := Prog.eval_bind_eq_ok h
    have hlater : ∀ other ∈ rest, transfer.manifest.partOf reuse.targetFileId ≠
        transfer.manifest.pathOf other.targetFileId :=
      fun other hother => hpart other (List.mem_cons_of_mem _ hother)
    cases List.mem_cons.mp hreuse with
    | inr hmem => exact ih hloop reuse hmem hlater
    | inl hsame =>
      have hcopied := Transfer.materializeExactReuse_eq_ok hturn
      rw [← hsame] at hcopied
      exact (materializeAll_free hlater hloop hcopied.part).1

/-- In a loop that delivers its targets the turns leave each other's files. -/
theorem turnsApart_of_delivery :
    ∀ {state state' : Receiver}, Separate transfer.manifest entries →
      (Prog.each transfer.materializeExactReuse entries).eval state = (.ok (), state') →
      HasTargets source transfer.manifest entries state'.files →
      entries.Pairwise (TurnsApart transfer.manifest) ∧
        ∀ reuse ∈ entries, TurnsApart transfer.manifest reuse reuse := by
  induction entries with
  | nil =>
    intro state state' _ _ _
    exact ⟨List.Pairwise.nil, by simp⟩
  | cons reuse rest ih =>
    intro state state' hseparate h htargets
    rw [Prog.each] at h
    obtain ⟨_, middle, hturn, hloop⟩ := Prog.eval_bind_eq_ok h
    have hcopied := Transfer.materializeExactReuse_eq_ok hturn
    obtain ⟨hpairwise, hself⟩ := ih hseparate.tail hloop
      (fun other hother => htargets other (List.mem_cons_of_mem _ hother))
    have hdistinct := (List.pairwise_cons.mp hseparate.targets).1
    refine ⟨List.pairwise_cons.mpr ⟨fun other hother => ⟨?_, ?_⟩, hpairwise⟩, ?_⟩
    · intro hbasis
      have hpath : ∀ later ∈ rest, transfer.manifest.partOf reuse.targetFileId ≠
          transfer.manifest.pathOf later.targetFileId := by
        intro later hlater
        rw [hbasis]
        exact hseparate.bases other (List.mem_cons_of_mem _ hother) later
          (List.mem_cons_of_mem _ hlater)
      exact (materializeAll_free hpath hloop hcopied.part).2 other hother hbasis
    · intro htarget
      have hfree := materializeAll_parts hloop other hother (fun later hlater => by
        rw [htarget]
        exact hdistinct later hlater)
      have hcontent := htargets reuse List.mem_cons_self
      obtain ⟨node, hnode, _⟩ := contentAt_eq_some.mp hcontent
      rw [← htarget, hfree] at hnode
      cases hnode
    · intro other hother
      cases List.mem_cons.mp hother with
      | inr hlater => exact hself other hlater
      | inl hsame =>
        rw [hsame]
        exact ⟨hcopied.apart, temporaryPath_ne _ _⟩

/-! ## The copies -/

/-- `materialize_exact_reuse_files`, run when the bases are published, returns and gives every
target the source bytes. -/
def CopiesDelivered (transfer : Transfer) (source : FileTree) (plan : ExactReusePlan) : Prop :=
  ∀ state : Receiver, ReadyToCopy source transfer.manifest plan.entries state.files →
    ∃ state', (Prog.each transfer.materializeExactReuse plan.entries).eval state =
        (.ok (), state') ∧ HasTargets source transfer.manifest plan.entries state'.files

open Classical in
/-- The bases alone. -/
noncomputable def basesOf (source : FileTree) (manifest : Manifest)
    (entries : List ExactFileReuse) : FileTree := fun path =>
  if ∃ reuse ∈ entries, path = manifest.pathOf reuse.basisFileId then
    (source.contentAt path).bind (fun _ => source path)
  else none

theorem basesOf_eq_file {manifest : Manifest} {node : Node}
    (h : basesOf source manifest entries path = some node) :
    ∃ file, node = .file file := by
  unfold basesOf at h
  split at h
  · obtain ⟨_, hcontent, hnode⟩ := Option.bind_eq_some_iff.mp h
    obtain ⟨file, hfile, _⟩ := contentAt_eq_some.mp hcontent
    rw [hfile, Option.some.injEq] at hnode
    exact ⟨file, hnode.symm⟩
  · cases h

/-- A receiver that has the bases and nothing else is ready. -/
theorem readyToCopy_basesOf {manifest : Manifest} (hseparate : Separate manifest entries)
    (hcontent : ∀ reuse ∈ entries, source.contentAt (manifest.pathOf reuse.basisFileId) =
      some (sourceContent source manifest reuse.basisFileId)) :
    ReadyToCopy source manifest entries (basesOf source manifest entries) := by
  constructor
  · intro reuse hreuse
    have hfound := hcontent reuse hreuse
    rw [← hfound]
    apply contentAt_congr
    unfold basesOf
    rw [if_pos ⟨reuse, hreuse, rfl⟩, hfound, Option.bind_some]
  · intro reuse hreuse
    unfold basesOf
    rw [if_neg]
    intro hbasis
    obtain ⟨other, hother, hsame⟩ := hbasis
    exact hseparate.bases other hother reuse hreuse hsame.symm
  · intro reuse hreuse hdirectory
    obtain ⟨file, hfile⟩ := basesOf_eq_file hdirectory
    cases hfile

theorem delivered_iff {plan : ExactReusePlan}
    (hpromised : ∀ reuse ∈ plan.entries, Promised transfer source reuse)
    (hcontent : ∀ reuse ∈ plan.entries,
      source.contentAt (transfer.manifest.pathOf reuse.basisFileId) =
        some (sourceContent source transfer.manifest reuse.basisFileId))
    (hseparate : Separate transfer.manifest plan.entries) :
    CopiesDelivered transfer source plan ↔ plan.entries.Pairwise (TurnsApart transfer.manifest) ∧
      ∀ reuse ∈ plan.entries, TurnsApart transfer.manifest reuse reuse := by
  constructor
  · intro h
    obtain ⟨state', hloop, htargets⟩ := h
      { files := basesOf source transfer.manifest plan.entries
        journal := ⟨0, 0, ∅, ∅⟩, holder := none, clock := fun _ => 0 }
      (readyToCopy_basesOf hseparate hcontent)
    exact turnsApart_of_delivery hseparate hloop htargets
  · intro h state hready
    obtain ⟨state', hloop, htargets, _⟩ := materializeAll_ok hpromised hseparate h.1 h.2 hready
    exact ⟨state', hloop, htargets⟩

/-! ## The whole way -/

/-- What exact reuse promises of a plan. -/
structure ExactReuse (transfer : Transfer) (source : FileTree) (plan : ExactReusePlan) :
    Prop where
  /-- `apply_exact_reuse_plan` accepts it on both sides, and every basis is still transferred. -/
  accepted : ∀ sort built,
    buildTransferPlan sort transfer.manifest transfer.dataStreamCount = .ok built →
      ∃ rewritten report,
        applyExactReusePlan built transfer.manifest plan true = .ok (rewritten, report) ∧
        ∀ reuse ∈ plan.entries, reuse.basisFileId ∈ plannedExactReuseFileIds rewritten
  /-- It leads each non-empty file but the first of its class to the first. -/
  mapped : ∀ reuse, reuse ∈ plan.entries ↔ IsReuse transfer.blake3 source transfer.manifest
    (Finset.range transfer.manifest.length) reuse
  unchained : ∀ reuse ∈ plan.entries, ∀ other ∈ plan.entries,
    reuse.basisFileId ≠ other.targetFileId
  one_basis : (plan.entries.map ExactFileReuse.targetFileId).Nodup
  /-- The receiver reads the plan that the sender writes. -/
  read_back : ∀ L R : Fault → Prop, Agree L R (writeExactReusePlan plan) readExactReusePlan
    (fun _ received => received = plan)
  delivered : CopiesDelivered transfer source plan

/-- No part name of a copy is the path of a basis of this or a later copy, or of an earlier
target. -/
def CopyNamesFree (blake3 : Bytes → Digest) (source : FileTree) (manifest : Manifest) : Prop :=
  ∀ first second, IsReuse blake3 source manifest (Finset.range manifest.length) first →
    IsReuse blake3 source manifest (Finset.range manifest.length) second →
    ReuseLe first second → TurnsApart manifest first second

variable {blake3 : Bytes → Digest} {manifest : Manifest} {planned : Finset Nat}
  {reuse other : ExactFileReuse}

/-- No basis is a target: the files before it in its class would be before its own targets. -/
theorem IsReuse.unchained (h : IsReuse blake3 source manifest planned reuse)
    (h' : IsReuse blake3 source manifest planned other) :
    reuse.basisFileId ≠ other.targetFileId := by
  intro hsame
  have hsize := h'.same_size
  have hdigest := h'.same_digest
  rw [← hsame] at hsize hdigest
  have hle := h.least other.basisFileId h'.basis (hsize.trans h.same_size)
    (hdigest.trans h.same_digest)
  have hle' := h'.least other.targetFileId h'.target rfl rfl
  exact h'.ne (le_antisymm hle' (by rw [← hsame]; exact hle))

theorem IsReuse.admissible (hmanifest : manifest.Classified)
    (h : IsReuse blake3 source manifest (Finset.range manifest.length) reuse) :
    Admissible manifest reuse := by
  have hbasis := Finset.mem_range.mp h.basis
  have htarget := Finset.mem_range.mp h.target
  refine ⟨h.ne, hbasis, htarget, ?_, by rw [h.same_size]; exact h.not_empty, h.same_size⟩
  obtain ⟨basis, hbasisEntry⟩ : ∃ basis, manifest[reuse.basisFileId]? = some basis :=
    ⟨_, List.getElem?_eq_getElem hbasis⟩
  obtain ⟨target, htargetEntry⟩ : ∃ target, manifest[reuse.targetFileId]? = some target :=
    ⟨_, List.getElem?_eq_getElem htarget⟩
  have hsize := h.same_size
  rw [Manifest.sizeOf_eq hbasisEntry, Manifest.sizeOf_eq htargetEntry] at hsize
  rw [Manifest.classOf_eq hbasisEntry, Manifest.classOf_eq htargetEntry,
    hmanifest basis (List.mem_of_getElem? hbasisEntry),
    hmanifest target (List.mem_of_getElem? htargetEntry), hsize]

/-- Paths of different files differ. -/
theorem pathOf_injective {directories : List DirectoryEntry} {summary : ManifestSummary}
    (hsummary : summarizeManifest manifest directories = .ok summary) {first second : Nat}
    (hfirst : first < manifest.length) (hsecond : second < manifest.length)
    (hpath : manifest.pathOf first = manifest.pathOf second) : first = second := by
  obtain ⟨_, hvalid, _⟩ := bind_eq_ok.mp hsummary
  obtain ⟨_, hnodup⟩ := files_of_validateTreeEntries hvalid
  obtain ⟨entry, hentry⟩ : ∃ entry, manifest[first]? = some entry :=
    ⟨_, List.getElem?_eq_getElem hfirst⟩
  obtain ⟨entry', hentry'⟩ : ∃ entry', manifest[second]? = some entry' :=
    ⟨_, List.getElem?_eq_getElem hsecond⟩
  rw [Manifest.pathOf_eq hentry, Manifest.pathOf_eq hentry'] at hpath
  rw [← List.getElem?_inj (i := first) (j := second) (by simpa using hfirst) hnodup,
    List.getElem?_map, List.getElem?_map, hentry, hentry', Option.map_some, Option.map_some, hpath]

/-- The entries of a sorted plan meet the condition on the names exactly when all reuses do. -/
theorem turnsApart_iff (hsorted : entries.Pairwise ReuseLe)
    (hnodup : (entries.map ExactFileReuse.targetFileId).Nodup) (hmem : ∀ reuse, reuse ∈ entries ↔
      IsReuse blake3 source manifest (Finset.range manifest.length) reuse) :
    (entries.Pairwise (TurnsApart manifest) ∧ ∀ reuse ∈ entries, TurnsApart manifest reuse reuse) ↔
      CopyNamesFree blake3 source manifest := by
  constructor
  · intro h first second hfirst hsecond hle
    obtain ⟨hpairwise, hself⟩ := h
    rw [List.Nodup, List.pairwise_map] at hnodup
    have hboth : entries.Pairwise (flip (fun first second =>
        ReuseLe first second → TurnsApart manifest first second)) := by
      refine (hsorted.and hnodup).imp (fun {first second} hpair hback => ?_)
      obtain ⟨hforth, hne⟩ := hpair
      unfold ReuseLe at hforth hback
      omega
    have hforward : entries.Pairwise (fun first second =>
        ReuseLe first second → TurnsApart manifest first second) := by
      refine hpairwise.imp (fun {first second} hapart => ?_)
      intro _
      exact hapart
    have hall := hforward.forall_of_forall_of_flip (fun reuse hreuse _ => hself reuse hreuse) hboth
    exact hall ((hmem first).mpr hfirst) ((hmem second).mpr hsecond) hle
  · intro h
    constructor
    · refine hsorted.imp_of_mem (fun {first second} hfirst hsecond hle => ?_)
      exact h first second ((hmem first).mp hfirst) ((hmem second).mp hsecond) hle
    · intro reuse hreuse
      have hreuse := (hmem reuse).mp hreuse
      exact h reuse reuse hreuse hreuse (.inr ⟨rfl, le_rfl⟩)

/-- The bases of an applied plan are still transferred. -/
theorem basis_planned {built rewritten : TransferPlan} {plan : ExactReusePlan} {report : LaneReport}
    (happlied : applyExactReusePlan built manifest plan true = .ok (rewritten, report))
    {fileId : Nat} (hplanned : fileId ∈ plannedExactReuseFileIds built)
    (hnot : fileId ∉ exactReuseTargetFileIds plan) :
    fileId ∈ plannedExactReuseFileIds rewritten := by
  obtain ⟨hkeeps, _⟩ := applyExactReusePlan_eq_ok happlied
  obtain ⟨unit, hunit, hsame⟩ := mem_planned_iff.mp hplanned
  refine mem_planned_iff.mpr ⟨unit, ?_, hsame⟩
  rw [hkeeps.units, List.mem_filter, decide_eq_true_iff, hsame]
  exact ⟨hunit, hnot⟩

/-- A hash function that tells the contents below apart. -/
def firstByteHash (contents : Bytes) : Digest :=
  ⟨List.replicate 32 (contents.headD 0), List.length_replicate⟩

/-- Two pairs of equal files; the last file has the part name of the third. -/
def pairedFiles : Transfer where
  manifest := [namedEntry "a0", namedEntry "a1", namedEntry "b", namedEntry "b.ncs-part-2"]
  directories := []
  dataStreamCount := 1
  reusePlan := {}
  limits := {}
  sort := .stable
  blake3 := firstByteHash
  classified := by
    intro entry hentry
    simp only [List.mem_cons, List.not_mem_nil, or_false] at hentry
    rcases hentry with rfl | rfl | rfl | rfl <;>
      norm_num [namedEntry, classifyFile, tinyFileMaxBytes]
  streams := Transfer.oneStream

/-- A file of five equal bytes. -/
def fiveBytes (byte : UInt8) : Node :=
  .file ⟨⟨List.replicate 5 byte, by norm_num [fileSizeLimit]⟩, 1, 0x20⟩

/-- Their source. -/
def pairedSource : FileTree := fun path =>
  if path = utf16 "a0" ∨ path = utf16 "b.ncs-part-2" then some (fiveBytes 1)
  else if path = utf16 "a1" ∨ path = utf16 "b" then some (fiveBytes 2)
  else none

theorem pairedSource_matches : SourceMatches pairedSource pairedFiles.manifest := by
  intro entry hentry
  simp only [pairedFiles, List.mem_cons, List.not_mem_nil, or_false] at hentry
  rcases hentry with rfl | rfl | rfl | rfl
  · exact ⟨⟨⟨List.replicate 5 1, by norm_num [fileSizeLimit]⟩, 1, 0x20⟩, by decide, rfl, rfl⟩
  · exact ⟨⟨⟨List.replicate 5 2, by norm_num [fileSizeLimit]⟩, 1, 0x20⟩, by decide, rfl, rfl⟩
  · exact ⟨⟨⟨List.replicate 5 2, by norm_num [fileSizeLimit]⟩, 1, 0x20⟩, by decide, rfl, rfl⟩
  · exact ⟨⟨⟨List.replicate 5 1, by norm_num [fileSizeLimit]⟩, 1, 0x20⟩, by decide, rfl, rfl⟩

theorem pairedFiles_hash : ∀ first < pairedFiles.manifest.length,
    ∀ second < pairedFiles.manifest.length,
      pairedFiles.blake3 (sourceContent pairedSource pairedFiles.manifest first) =
        pairedFiles.blake3 (sourceContent pairedSource pairedFiles.manifest second) →
      sourceContent pairedSource pairedFiles.manifest first =
        sourceContent pairedSource pairedFiles.manifest second := by
  decide +kernel

theorem buildTransferPlan_pairedFiles :
    buildTransferPlan pairedFiles.sort pairedFiles.manifest pairedFiles.dataStreamCount =
      .ok { lanes := [[.tinyPack [0, 1, 2, 3] 20]] } := by
  decide +kernel

/-- The third file is a copy of the second, and the last of the first. -/
def pairedReuse : ExactReusePlan where
  entries := [⟨0, 3, firstByteHash (List.replicate 5 1)⟩, ⟨1, 2, firstByteHash (List.replicate 5 2)⟩]

theorem buildFreshExactReusePlan_pairedFiles :
    buildFreshExactReusePlan pairedFiles.blake3 pairedSource pairedFiles.manifest
      { lanes := [[.tinyPack [0, 1, 2, 3] 20]] } = .ok pairedReuse := by
  have hplanned : plannedExactReuseFileIds { lanes := [[.tinyPack [0, 1, 2, 3] 20]] } =
      Finset.range 4 := by
    decide
  have hsort : (Finset.range 4).sort = [0, 1, 2, 3] := Finset.sort_range 4
  unfold buildFreshExactReusePlan
  rw [hplanned, hsort]
  decide +kernel

theorem summarizeManifest_pairedFiles : ∃ summary,
    summarizeManifest pairedFiles.manifest pairedFiles.directories = .ok summary := by
  have hok : (summarizeManifest pairedFiles.manifest pairedFiles.directories).isOk = true := by
    decide +kernel
  cases hresult : summarizeManifest pairedFiles.manifest pairedFiles.directories with
  | ok summary => exact ⟨summary, rfl⟩
  | error error =>
    rw [hresult] at hok
    cases hok

/-- The first two files are copied to the others. -/
theorem pairedReuse_separate : Separate pairedFiles.manifest pairedReuse.entries where
  targets := by decide
  bases := by decide

end NetworkCopy
