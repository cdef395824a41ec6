import NetworkCopy.Reuse.ExactReuse

/-!
# The classes of equal contents

The planner maps every non-empty planned file to the file with the smallest ID among those of its
size and digest.  The loops over the groups are followed group by group: a group holds the files of
its key, and the keys of the groups differ.
-/

namespace NetworkCopy

/-! ## Groups -/

section

variable {κ ρ : Type} [LinearOrder ρ] [DecidableEq κ] {rank : κ → ρ} {keyOf : Nat → κ}
  {done : List Nat} {groups : List (κ × List Nat)}

/-- The groups of some files, in the order of their keys. -/
structure GroupedBy (rank : κ → ρ) (keyOf : Nat → κ) (done : List Nat)
    (groups : List (κ × List Nat)) : Prop where
  ordered : groups.Pairwise (fun left right => rank left.1 < rank right.1)
  members : ∀ group ∈ groups, group.2 = done.filter (fun fileId => keyOf fileId = group.1)
  covered : ∀ fileId ∈ done, ∃ group ∈ groups, group.1 = keyOf fileId

/-- The keys after a push. -/
theorem key_mem_pushGroup {key : κ} {fileId : Nat} (hinjective : Function.Injective rank)
    {found : κ} : (∃ group ∈ pushGroup rank key fileId groups, group.1 = found) ↔
      found = key ∨ ∃ group ∈ groups, group.1 = found := by
  induction groups with
  | nil => simp [pushGroup, eq_comm]
  | cons group rest ih =>
    unfold pushGroup
    by_cases hlt : rank key < rank group.1
    · rw [if_pos hlt]
      simp [eq_comm]
    · rw [if_neg hlt]
      by_cases heq : rank key = rank group.1
      · rw [if_pos heq]
        have hkey := hinjective heq
        simp only [List.mem_cons, exists_eq_or_imp]
        rw [hkey]
        constructor
        · intro hfound
          exact .inr hfound
        · intro hfound
          cases hfound with
          | inl hsame => exact .inl hsame.symm
          | inr hold => exact hold
      · rw [if_neg heq]
        simp only [List.mem_cons, exists_eq_or_imp] at ih ⊢
        rw [ih]
        tauto

theorem pushGroup_spec (hinjective : Function.Injective rank) {fileId : Nat}
    (hordered : groups.Pairwise (fun left right => rank left.1 < rank right.1))
    (hmembers : ∀ group ∈ groups, group.2 = done.filter (fun other => keyOf other = group.1))
    (hcovered : (∃ other ∈ done, keyOf other = keyOf fileId) →
      ∃ group ∈ groups, group.1 = keyOf fileId) :
    (pushGroup rank (keyOf fileId) fileId groups).Pairwise
        (fun left right => rank left.1 < rank right.1) ∧
      ∀ group ∈ pushGroup rank (keyOf fileId) fileId groups,
        group.2 = (done ++ [fileId]).filter (fun other => keyOf other = group.1) := by
  -- A key that no group has is the key of no file so far.
  have hnew : (∀ group ∈ groups, group.1 ≠ keyOf fileId) →
      [fileId] = (done ++ [fileId]).filter (fun other => keyOf other = keyOf fileId) := by
    intro hnone
    have hempty : done.filter (fun other => keyOf other = keyOf fileId) = [] := by
      rw [List.filter_eq_nil_iff]
      intro other hother hkey
      obtain ⟨group, hgroup, hsame⟩ := hcovered ⟨other, hother, of_decide_eq_true hkey⟩
      exact hnone group hgroup hsame
    rw [List.filter_append, hempty]
    simp
  have hother : ∀ group ∈ groups, group.1 ≠ keyOf fileId →
      group.2 = (done ++ [fileId]).filter (fun other => keyOf other = group.1) := by
    intro group hgroup hne
    rw [List.filter_append, hmembers group hgroup]
    simp [Ne.symm hne]
  induction groups with
  | nil =>
    unfold pushGroup
    refine ⟨List.pairwise_singleton _ _, fun group hgroup => ?_⟩
    cases List.mem_singleton.mp hgroup
    exact hnew (fun _ hmem => by cases hmem)
  | cons group rest ih =>
    rw [List.pairwise_cons] at hordered
    obtain ⟨hfirst, hrest⟩ := hordered
    unfold pushGroup
    by_cases hlt : rank (keyOf fileId) < rank group.1
    · rw [if_pos hlt]
      have hnone : ∀ other ∈ group :: rest, other.1 ≠ keyOf fileId := by
        intro other hmem hsame
        have hle : rank group.1 ≤ rank other.1 := by
          cases List.mem_cons.mp hmem with
          | inl hfront => rw [hfront]
          | inr hback => exact le_of_lt (hfirst other hback)
        rw [hsame] at hle
        exact absurd hlt (not_lt.mpr hle)
      constructor
      · rw [List.pairwise_cons, List.pairwise_cons]
        refine ⟨fun other hmem => ?_, hfirst, hrest⟩
        cases List.mem_cons.mp hmem with
        | inl hfront => rw [hfront]; exact hlt
        | inr hback => exact lt_trans hlt (hfirst other hback)
      · intro other hmem
        cases List.mem_cons.mp hmem with
        | inl hfront => rw [hfront]; exact hnew hnone
        | inr hback => exact hother other hback (hnone other hback)
    · rw [if_neg hlt]
      by_cases heq : rank (keyOf fileId) = rank group.1
      · rw [if_pos heq]
        have hkey := hinjective heq
        constructor
        · rw [List.pairwise_cons]
          exact ⟨hfirst, hrest⟩
        · intro other hmem
          cases List.mem_cons.mp hmem with
          | inl hfront =>
            rw [hfront, List.filter_append, hmembers group List.mem_cons_self]
            simp [hkey]
          | inr hback =>
            refine hother other (List.mem_cons_of_mem _ hback) ?_
            intro hsame
            have hbetween := hfirst other hback
            rw [hsame, heq] at hbetween
            exact lt_irrefl _ hbetween
      · rw [if_neg heq]
        have hne : group.1 ≠ keyOf fileId := fun hsame => heq (by rw [hsame])
        have hlater : (∃ other ∈ done, keyOf other = keyOf fileId) →
            ∃ other ∈ rest, other.1 = keyOf fileId := by
          intro hsome
          obtain ⟨other, hmem, hsame⟩ := hcovered hsome
          cases List.mem_cons.mp hmem with
          | inl hfront => exact absurd (hfront ▸ hsame) hne
          | inr hback => exact ⟨other, hback, hsame⟩
        obtain ⟨hordered', hmembers'⟩ := ih hrest
          (fun other hmem => hmembers other (List.mem_cons_of_mem _ hmem)) hlater
          (fun hnone => hnew (fun other hmem => by
            cases List.mem_cons.mp hmem with
            | inl hfront => rw [hfront]; exact hne
            | inr hback => exact hnone other hback))
          (fun other hmem => hother other (List.mem_cons_of_mem _ hmem))
        constructor
        · rw [List.pairwise_cons]
          refine ⟨fun other hmem => ?_, hordered'⟩
          have hkeys := (key_mem_pushGroup hinjective).mp ⟨other, hmem, rfl⟩
          cases hkeys with
          | inl hsame =>
            rw [hsame]
            exact lt_of_le_of_ne (not_lt.mp hlt) (Ne.symm heq)
          | inr hold =>
            obtain ⟨found, hfound, hsame⟩ := hold
            rw [← hsame]
            exact hfirst found hfound
        · intro other hmem
          cases List.mem_cons.mp hmem with
          | inl hfront =>
            rw [hfront]
            exact hother group List.mem_cons_self hne
          | inr hback => exact hmembers' other hback

theorem GroupedBy.push (hinjective : Function.Injective rank)
    (h : GroupedBy rank keyOf done groups) (fileId : Nat) :
    GroupedBy rank keyOf (done ++ [fileId]) (pushGroup rank (keyOf fileId) fileId groups) := by
  have hcovered : (∃ other ∈ done, keyOf other = keyOf fileId) →
      ∃ group ∈ groups, group.1 = keyOf fileId := by
    intro hsome
    obtain ⟨other, hother, hsame⟩ := hsome
    rw [← hsame]
    exact h.covered other hother
  obtain ⟨hordered, hmembers⟩ := pushGroup_spec hinjective h.ordered h.members hcovered
  refine ⟨hordered, hmembers, fun other hother => ?_⟩
  rw [key_mem_pushGroup hinjective]
  cases List.mem_append.mp hother with
  | inl hdone => exact .inr (h.covered other hdone)
  | inr hnew => exact .inl (by rw [List.mem_singleton.mp hnew])

theorem GroupedBy.nil : GroupedBy rank keyOf [] [] where
  ordered := List.Pairwise.nil
  members := by simp
  covered := by simp

end

theorem digestRank_injective : Function.Injective digestRank := by
  intro digest digest' h
  have hinjective : Function.Injective UInt8.toNat := fun _ _ hsame => UInt8.toNat_inj.mp hsame
  exact Subtype.ext (hinjective.list_map h)

/-! ## The source -/

/-- The content of a file of the manifest at the source. -/
def sourceContent (source : FileTree) (manifest : Manifest) (fileId : Nat) : Bytes :=
  ((manifest[fileId]?).bind (fun entry => source.contentAt entry.relativePath)).getD []

/-- The files of the manifest are at the source as the manifest describes them. -/
def SourceMatches (source : FileTree) (manifest : Manifest) : Prop :=
  ∀ entry ∈ manifest, ∃ node, source entry.relativePath = some (.file node) ∧
    node.content.1.length = entry.fileSize ∧ node.lastWriteTime = entry.lastWriteTime

variable {blake3 : Bytes → Digest} {source : FileTree} {manifest : Manifest}

theorem SourceMatches.content (h : SourceMatches source manifest) {fileId : Nat}
    {entry : ManifestEntry} (hentry : manifest[fileId]? = some entry) :
    source.contentAt entry.relativePath = some (sourceContent source manifest fileId) ∧
      (sourceContent source manifest fileId).length = entry.fileSize := by
  obtain ⟨node, hnode, hlength, _⟩ := h entry (List.mem_of_getElem? hentry)
  have hcontent : source.contentAt entry.relativePath = some node.content.1 :=
    FileTree.contentAt_eq_some.mpr ⟨node, hnode, rfl⟩
  unfold sourceContent
  rw [hentry, Option.bind_some, hcontent]
  exact ⟨rfl, hlength⟩

theorem hashExactReuseCandidate_ok (h : SourceMatches source manifest) {fileId : Nat}
    {entry : ManifestEntry} (hentry : manifest[fileId]? = some entry) :
    hashExactReuseCandidate blake3 source fileId entry =
      .ok (blake3 (sourceContent source manifest fileId)) := by
  obtain ⟨node, hnode, hlength, htime⟩ := h entry (List.mem_of_getElem? hentry)
  have hcontent : source.contentAt entry.relativePath = some node.content.1 :=
    FileTree.contentAt_eq_some.mpr ⟨node, hnode, rfl⟩
  have hsource := (h.content hentry).1
  rw [hcontent, Option.some.injEq] at hsource
  unfold hashExactReuseCandidate
  refine bind_eq_ok.mpr ⟨node, FileTree.openFile_eq_ok.mpr hnode, ?_⟩
  refine bind_eq_ok.mpr ⟨(), ensure_eq_ok.mpr hlength, ?_⟩
  refine bind_eq_ok.mpr ⟨(), ensure_eq_ok.mpr htime, ?_⟩
  refine bind_eq_ok.mpr ⟨(), ensure_eq_ok.mpr hlength, ?_⟩
  rw [hsource]
  rfl

/-! ## The loops -/

variable {fileIds : List Nat}

theorem groupBySize_ok (hknown : ∀ fileId ∈ fileIds, fileId < manifest.length) :
    ∀ {done : List Nat} {groups : List (Nat × List Nat)}, GroupedBy id manifest.sizeOf done groups →
      ∃ groups', groupBySize manifest fileIds groups = .ok groups' ∧
        GroupedBy id manifest.sizeOf
          (done ++ fileIds.filter (fun fileId => manifest.sizeOf fileId ≠ 0)) groups' := by
  induction fileIds with
  | nil =>
    intro done groups h
    exact ⟨groups, rfl, by simpa using h⟩
  | cons fileId rest ih =>
    intro done groups h
    have hrest : ∀ other ∈ rest, other < manifest.length :=
      fun other hother => hknown other (List.mem_cons_of_mem _ hother)
    obtain ⟨entry, hentry⟩ : ∃ entry, manifest[fileId]? = some entry :=
      ⟨_, List.getElem?_eq_getElem (hknown fileId List.mem_cons_self)⟩
    have hsize : manifest.sizeOf fileId = entry.fileSize := Manifest.sizeOf_eq hentry
    rw [groupBySize, hentry, okOrElse_some, ok_bind, List.filter_cons]
    by_cases hempty : entry.fileSize = 0
    · rw [if_pos hempty, if_neg (by simp [hsize, hempty])]
      exact ih hrest h
    · rw [if_neg hempty, if_pos (by simp [hsize, hempty]), ← hsize]
      have hpushed := ih hrest (h.push Function.injective_id fileId)
      rw [List.append_assoc] at hpushed
      exact hpushed

theorem groupByDigest_ok (blake3 : Bytes → Digest) (h : SourceMatches source manifest)
    (hknown : ∀ fileId ∈ fileIds, fileId < manifest.length) :
    ∀ {done : List Nat} {groups : List (Digest × List Nat)},
      GroupedBy digestRank (fun fileId => blake3 (sourceContent source manifest fileId)) done
        groups →
      ∃ groups', groupByDigest blake3 source manifest fileIds groups = .ok groups' ∧
        GroupedBy digestRank (fun fileId => blake3 (sourceContent source manifest fileId))
          (done ++ fileIds) groups' := by
  induction fileIds with
  | nil =>
    intro done groups hgroups
    exact ⟨groups, rfl, by simpa using hgroups⟩
  | cons fileId rest ih =>
    intro done groups hgroups
    have hrest : ∀ other ∈ rest, other < manifest.length :=
      fun other hother => hknown other (List.mem_cons_of_mem _ hother)
    obtain ⟨entry, hentry⟩ : ∃ entry, manifest[fileId]? = some entry :=
      ⟨_, List.getElem?_eq_getElem (hknown fileId List.mem_cons_self)⟩
    rw [groupByDigest, hentry, okOrElse_some, ok_bind, hashExactReuseCandidate_ok h hentry,
      ok_bind]
    have hpushed := ih hrest (hgroups.push digestRank_injective fileId)
    rw [List.append_assoc] at hpushed
    exact hpushed

/-! ## One group -/

theorem sortIds_perm (fileIds : List Nat) : (sortIds fileIds).Perm fileIds :=
  List.perm_insertionSort _ _

theorem sortIds_pairwise (fileIds : List Nat) : (sortIds fileIds).Pairwise (· ≤ ·) :=
  List.pairwise_insertionSort _ _

/-- The entries of a group lead from its smallest file to each of the others. -/
theorem mem_reusesOfGroup {digest : Digest} (hnodup : fileIds.Nodup) {reuse : ExactFileReuse} :
    reuse ∈ reusesOfGroup (digest, fileIds) ↔
      reuse.digest = digest ∧ reuse.targetFileId ∈ fileIds ∧ reuse.basisFileId ∈ fileIds ∧
        (∀ fileId ∈ fileIds, reuse.basisFileId ≤ fileId) ∧
        reuse.basisFileId ≠ reuse.targetFileId := by
  have hperm := sortIds_perm fileIds
  have hsorted := sortIds_pairwise fileIds
  have hunique := hperm.nodup_iff.mpr hnodup
  have hlength := hperm.length_eq
  unfold reusesOfGroup
  simp only
  cases hids : sortIds fileIds with
  | nil =>
    rw [hids] at hperm
    have hempty : fileIds = [] := hperm.symm.eq_nil
    rw [hempty]
    simp
  | cons basis targets =>
    rw [hids] at hperm hsorted hunique hlength
    have hmem : ∀ fileId, fileId ∈ fileIds ↔ fileId = basis ∨ fileId ∈ targets := by
      intro fileId
      rw [← hperm.mem_iff, List.mem_cons]
    have hleast : ∀ fileId ∈ targets, basis ≤ fileId := (List.pairwise_cons.mp hsorted).1
    have hnot : basis ∉ targets := (List.nodup_cons.mp hunique).1
    have hall : reuse ∈ targets.map (fun targetFileId =>
        (⟨basis, targetFileId, digest⟩ : ExactFileReuse)) ↔
        reuse.digest = digest ∧ reuse.targetFileId ∈ fileIds ∧ reuse.basisFileId ∈ fileIds ∧
          (∀ fileId ∈ fileIds, reuse.basisFileId ≤ fileId) ∧
          reuse.basisFileId ≠ reuse.targetFileId := by
      rw [List.mem_map]
      constructor
      · intro hreuse
        obtain ⟨target, htarget, hsame⟩ := hreuse
        rw [← hsame]
        refine ⟨rfl, (hmem target).mpr (.inr htarget), (hmem basis).mpr (.inl rfl), ?_, ?_⟩
        · intro fileId hfileId
          cases (hmem fileId).mp hfileId with
          | inl hbasis => exact hbasis.ge
          | inr hother => exact hleast fileId hother
        · intro hequal
          have hequal' : basis = target := hequal
          rw [hequal'] at hnot
          exact hnot htarget
      · intro hreuse
        obtain ⟨hdigest, htarget, hbasis, hmin, hne⟩ := hreuse
        have hfirst : reuse.basisFileId = basis := by
          refine le_antisymm (hmin basis ((hmem basis).mpr (.inl rfl))) ?_
          cases (hmem _).mp hbasis with
          | inl hsame => exact hsame.ge
          | inr hother => exact hleast _ hother
        refine ⟨reuse.targetFileId, ?_, ?_⟩
        · cases (hmem _).mp htarget with
          | inl hsame => exact absurd (hfirst.trans hsame.symm) hne
          | inr hother => exact hother
        · rw [← hfirst, ← hdigest]
    by_cases hshort : fileIds.length < 2
    · rw [if_pos hshort, ← hall]
      rw [List.length_cons] at hlength
      have hnone : targets = [] := List.length_eq_zero_iff.mp (by omega)
      rw [hnone]
      simp
    · rw [if_neg hshort]
      exact hall

theorem nodup_targets_of_group {group : Digest × List Nat} (hnodup : group.2.Nodup) :
    ((reusesOfGroup group).map ExactFileReuse.targetFileId).Nodup := by
  have hunique := (sortIds_perm group.2).nodup_iff.mpr hnodup
  unfold reusesOfGroup
  split
  · simp
  · split
    · simp
    · next basis targets hids =>
        rw [hids] at hunique
        rw [List.map_map]
        exact (List.nodup_cons.mp hunique).2.map (fun _ _ hsame => hsame)

/-! ## All groups -/

/-- Groups of one map have no file in common. -/
theorem GroupedBy.disjoint {κ ρ : Type} [LinearOrder ρ] [DecidableEq κ] {rank : κ → ρ}
    {keyOf : Nat → κ} {done : List Nat} {groups : List (κ × List Nat)}
    (h : GroupedBy rank keyOf done groups) :
    groups.Pairwise (fun left right => ∀ fileId ∈ left.2, fileId ∉ right.2) := by
  refine h.ordered.imp_of_mem ?_
  intro left right hleft hright hlt fileId hfileId hother
  rw [h.members left hleft] at hfileId
  rw [h.members right hright] at hother
  have hkey : keyOf fileId = left.1 := of_decide_eq_true (List.mem_filter.mp hfileId).2
  have hkey' : keyOf fileId = right.1 := of_decide_eq_true (List.mem_filter.mp hother).2
  rw [← hkey, ← hkey'] at hlt
  exact lt_irrefl _ hlt

/-- Lists whose targets lie in groups without a common file have different targets together. -/
theorem nodup_targets_flatMap {γ : Type} {groups : List γ} {ids : γ → List Nat}
    {reuses : γ → List ExactFileReuse}
    (hdisjoint : groups.Pairwise (fun left right => ∀ fileId ∈ ids left, fileId ∉ ids right))
    (hone : ∀ group ∈ groups, ((reuses group).map ExactFileReuse.targetFileId).Nodup)
    (hin : ∀ group ∈ groups, ∀ reuse ∈ reuses group, reuse.targetFileId ∈ ids group) :
    ((groups.flatMap reuses).map ExactFileReuse.targetFileId).Nodup := by
  rw [List.map_flatMap, List.nodup_flatMap]
  refine ⟨hone, hdisjoint.imp_of_mem ?_⟩
  intro left right hleft hright hapart fileId hfileId hother
  obtain ⟨reuse, hreuse, hsame⟩ := List.mem_map.mp hfileId
  obtain ⟨reuse', hreuse', hsame'⟩ := List.mem_map.mp hother
  apply hapart fileId
  · rw [← hsame]
    exact hin left hleft reuse hreuse
  · rw [← hsame']
    exact hin right hright reuse' hreuse'

/-- An entry among files of one size: the file with the smallest ID of the target's digest. -/
structure ReusesIn (blake3 : Bytes → Digest) (source : FileTree) (manifest : Manifest)
    (fileIds : List Nat) (reuse : ExactFileReuse) : Prop where
  digest : reuse.digest = blake3 (sourceContent source manifest reuse.targetFileId)
  target : reuse.targetFileId ∈ fileIds
  basis : reuse.basisFileId ∈ fileIds
  same : blake3 (sourceContent source manifest reuse.basisFileId) =
    blake3 (sourceContent source manifest reuse.targetFileId)
  least : ∀ fileId ∈ fileIds, blake3 (sourceContent source manifest fileId) =
    blake3 (sourceContent source manifest reuse.targetFileId) → reuse.basisFileId ≤ fileId
  ne : reuse.basisFileId ≠ reuse.targetFileId

/-- The entries of the files of one size. -/
theorem mem_reusesOfDigests (hnodup : fileIds.Nodup) {groups : List (Digest × List Nat)}
    (hgroups : GroupedBy digestRank (fun fileId => blake3 (sourceContent source manifest fileId))
      fileIds groups) {reuse : ExactFileReuse} :
    reuse ∈ groups.flatMap reusesOfGroup ↔ ReusesIn blake3 source manifest fileIds reuse := by
  have hmem : ∀ group ∈ groups, ∀ fileId, fileId ∈ group.2 ↔
      fileId ∈ fileIds ∧ blake3 (sourceContent source manifest fileId) = group.1 := by
    intro group hgroup fileId
    rw [hgroups.members group hgroup, List.mem_filter, decide_eq_true_iff]
  have hunique : ∀ group ∈ groups, group.2.Nodup := by
    intro group hgroup
    rw [hgroups.members group hgroup]
    exact hnodup.filter _
  rw [List.mem_flatMap]
  constructor
  · intro hreuse
    obtain ⟨⟨digest, members⟩, hgroup, hreuse⟩ := hreuse
    obtain ⟨hdigest, htarget, hbasis, hleast, hne⟩ :=
      (mem_reusesOfGroup (hunique _ hgroup)).mp hreuse
    obtain ⟨htargetId, htargetDigest⟩ := (hmem _ hgroup _).mp htarget
    obtain ⟨hbasisId, hbasisDigest⟩ := (hmem _ hgroup _).mp hbasis
    refine ⟨hdigest.trans htargetDigest.symm, htargetId, hbasisId,
      hbasisDigest.trans htargetDigest.symm, ?_, hne⟩
    intro fileId hfileId hsame
    exact hleast fileId ((hmem _ hgroup _).mpr ⟨hfileId, hsame.trans htargetDigest⟩)
  · intro hreuse
    obtain ⟨group, hgroup, hkey⟩ := hgroups.covered reuse.targetFileId hreuse.target
    refine ⟨group, hgroup, (mem_reusesOfGroup (hunique group hgroup)).mpr ?_⟩
    refine ⟨hreuse.digest.trans hkey.symm, (hmem group hgroup _).mpr ⟨hreuse.target, hkey.symm⟩,
      (hmem group hgroup _).mpr ⟨hreuse.basis, hreuse.same.trans hkey.symm⟩, ?_, hreuse.ne⟩
    intro fileId hfileId
    obtain ⟨hmember, hdigest⟩ := (hmem group hgroup fileId).mp hfileId
    exact hreuse.least fileId hmember (hdigest.trans hkey)

/-- The entries of all sizes. -/
theorem reusesOfSizes_ok (blake3 : Bytes → Digest) (h : SourceMatches source manifest)
    {groups : List (Nat × List Nat)}
    (hdisjoint : groups.Pairwise (fun left right => ∀ fileId ∈ left.2, fileId ∉ right.2))
    (hnodup : ∀ group ∈ groups, group.2.Nodup)
    (hknown : ∀ group ∈ groups, ∀ fileId ∈ group.2, fileId < manifest.length) :
    ∃ entries, reusesOfSizes blake3 source manifest groups = .ok entries ∧
      (entries.map ExactFileReuse.targetFileId).Nodup ∧
      ∀ reuse, reuse ∈ entries ↔
        ∃ group ∈ groups, ReusesIn blake3 source manifest group.2 reuse := by
  induction groups with
  | nil => exact ⟨[], rfl, List.nodup_nil, by simp⟩
  | cons group rest ih =>
    obtain ⟨hfirst, hrest⟩ := List.pairwise_cons.mp hdisjoint
    obtain ⟨others, hothers, hothersNodup, hothersMem⟩ := ih hrest
      (fun other hother => hnodup other (List.mem_cons_of_mem _ hother))
      (fun other hother => hknown other (List.mem_cons_of_mem _ hother))
    obtain ⟨size, fileIds⟩ := group
    have hunique : fileIds.Nodup := hnodup (size, fileIds) List.mem_cons_self
    by_cases hshort : fileIds.length < 2
    · refine ⟨others, by rw [reusesOfSizes, if_pos hshort, hothers], hothersNodup, ?_⟩
      intro reuse
      rw [hothersMem, List.exists_mem_cons_iff]
      refine ⟨.inr, fun hreuse => ?_⟩
      cases hreuse with
      | inr hrest => exact hrest
      | inl hreuse =>
        -- A single file is not its own copy.
        exfalso
        have hpair : [reuse.basisFileId, reuse.targetFileId].Nodup := by
          simpa using hreuse.ne
        have hsub : [reuse.basisFileId, reuse.targetFileId] ⊆ fileIds := by
          intro fileId hfileId
          cases List.mem_cons.mp hfileId with
          | inl hbasis => rw [hbasis]; exact hreuse.basis
          | inr htarget => rw [List.mem_singleton.mp htarget]; exact hreuse.target
        have htwo := (List.subperm_of_subset hpair hsub).length_le
        simp only [List.length_cons, List.length_nil] at htwo
        omega
    · have hperm := sortIds_perm fileIds
      obtain ⟨byDigest, hbyDigest, hgroups⟩ := groupByDigest_ok blake3 h
        (fun fileId hfileId => hknown (size, fileIds) List.mem_cons_self fileId
          (hperm.mem_iff.mp hfileId)) GroupedBy.nil
      rw [List.nil_append] at hgroups
      have hsorted : (sortIds fileIds).Nodup := hperm.nodup_iff.mpr hunique
      have hmem : ∀ reuse, reuse ∈ byDigest.flatMap reusesOfGroup ↔
          ReusesIn blake3 source manifest fileIds reuse := by
        intro reuse
        rw [mem_reusesOfDigests hsorted hgroups]
        constructor
        · intro hreuse
          exact ⟨hreuse.digest, hperm.mem_iff.mp hreuse.target, hperm.mem_iff.mp hreuse.basis,
            hreuse.same, fun fileId hfileId => hreuse.least fileId (hperm.mem_iff.mpr hfileId),
            hreuse.ne⟩
        · intro hreuse
          exact ⟨hreuse.digest, hperm.mem_iff.mpr hreuse.target, hperm.mem_iff.mpr hreuse.basis,
            hreuse.same, fun fileId hfileId => hreuse.least fileId (hperm.mem_iff.mp hfileId),
            hreuse.ne⟩
      refine ⟨byDigest.flatMap reusesOfGroup ++ others, ?_, ?_, ?_⟩
      · rw [reusesOfSizes, if_neg hshort, hbyDigest, ok_bind, hothers]
        rfl
      · rw [List.map_append, List.nodup_append]
        refine ⟨?_, hothersNodup, ?_⟩
        · refine nodup_targets_flatMap hgroups.disjoint ?_ ?_
          · intro group hgroup
            apply nodup_targets_of_group
            rw [hgroups.members group hgroup]
            exact hsorted.filter _
          · intro group hgroup reuse hreuse
            refine ((mem_reusesOfGroup ?_).mp hreuse).2.1
            rw [hgroups.members group hgroup]
            exact hsorted.filter _
        · intro fileId hfileId other hother hsame
          obtain ⟨reuse, hreuse, htarget⟩ := List.mem_map.mp hfileId
          obtain ⟨reuse', hreuse', htarget'⟩ := List.mem_map.mp hother
          obtain ⟨group, hgroup, hin⟩ := (hothersMem reuse').mp hreuse'
          refine hfirst group hgroup fileId ?_ ?_
          · rw [← htarget]
            exact ((hmem reuse).mp hreuse).target
          · rw [hsame, ← htarget']
            exact hin.target
      · intro reuse
        rw [List.mem_append, hmem, hothersMem, List.exists_mem_cons_iff]

/-! ## The plan -/

instance : Std.Total ReuseLe where
  total left right := by
    unfold ReuseLe
    omega

instance : IsTrans ExactFileReuse ReuseLe where
  trans first second third h h' := by
    unfold ReuseLe at *
    omega

/-- An entry of the plan: a non-empty planned file, and the planned file with the smallest ID among
those of its size and digest. -/
structure IsReuse (blake3 : Bytes → Digest) (source : FileTree) (manifest : Manifest)
    (planned : Finset Nat) (reuse : ExactFileReuse) : Prop where
  digest : reuse.digest = blake3 (sourceContent source manifest reuse.targetFileId)
  target : reuse.targetFileId ∈ planned
  basis : reuse.basisFileId ∈ planned
  not_empty : manifest.sizeOf reuse.targetFileId ≠ 0
  same_size : manifest.sizeOf reuse.basisFileId = manifest.sizeOf reuse.targetFileId
  same_digest : blake3 (sourceContent source manifest reuse.basisFileId) =
    blake3 (sourceContent source manifest reuse.targetFileId)
  least : ∀ fileId ∈ planned, manifest.sizeOf fileId = manifest.sizeOf reuse.targetFileId →
    blake3 (sourceContent source manifest fileId) =
      blake3 (sourceContent source manifest reuse.targetFileId) → reuse.basisFileId ≤ fileId
  ne : reuse.basisFileId ≠ reuse.targetFileId

/-- The plan maps each non-empty file but the first of a class to the first, and nothing else, in
the order of the bases and the targets. -/
theorem buildFreshExactReusePlan_ok (h : SourceMatches source manifest)
    {transferPlan : TransferPlan}
    (hknown : ∀ fileId ∈ plannedExactReuseFileIds transferPlan, fileId < manifest.length) :
    ∃ plan, buildFreshExactReusePlan blake3 source manifest transferPlan = .ok plan ∧
      plan.entries.Pairwise ReuseLe ∧ (plan.entries.map ExactFileReuse.targetFileId).Nodup ∧
      ∀ reuse, reuse ∈ plan.entries ↔
        IsReuse blake3 source manifest (plannedExactReuseFileIds transferPlan) reuse := by
  have hids : ∀ fileId, fileId ∈ (plannedExactReuseFileIds transferPlan).sort ↔
      fileId ∈ plannedExactReuseFileIds transferPlan := fun fileId => Finset.mem_sort _
  obtain ⟨bySize, hbySize, hsizes⟩ := groupBySize_ok
    (fun fileId hfileId => hknown fileId ((hids fileId).mp hfileId)) GroupedBy.nil
  rw [List.nil_append] at hsizes
  have hmem : ∀ group ∈ bySize, ∀ fileId, fileId ∈ group.2 ↔
      (fileId ∈ plannedExactReuseFileIds transferPlan ∧ manifest.sizeOf fileId ≠ 0) ∧
        manifest.sizeOf fileId = group.1 := by
    intro group hgroup fileId
    rw [hsizes.members group hgroup, List.mem_filter, List.mem_filter, hids, decide_eq_true_iff,
      decide_eq_true_iff]
  have hunique : ∀ group ∈ bySize, group.2.Nodup := by
    intro group hgroup
    rw [hsizes.members group hgroup]
    exact ((Finset.sort_nodup _ _).filter _).filter _
  obtain ⟨entries, hentries, hnodup, hall⟩ := reusesOfSizes_ok blake3 h
    hsizes.disjoint hunique
    (fun group hgroup fileId hfileId => hknown fileId ((hmem group hgroup fileId).mp hfileId).1.1)
  have hperm := List.perm_insertionSort ReuseLe entries
  refine ⟨{ entries := entries.insertionSort ReuseLe }, ?_, List.pairwise_insertionSort _ _, ?_, ?_⟩
  · unfold buildFreshExactReusePlan
    rw [hbySize, ok_bind, hentries]
    rfl
  · exact (hperm.map _).nodup_iff.mpr hnodup
  · intro reuse
    rw [hperm.mem_iff, hall]
    constructor
    · intro hreuse
      obtain ⟨group, hgroup, hin⟩ := hreuse
      obtain ⟨⟨htarget, hsize⟩, hkey⟩ := (hmem group hgroup _).mp hin.target
      obtain ⟨⟨hbasis, _⟩, hkey'⟩ := (hmem group hgroup _).mp hin.basis
      refine ⟨hin.digest, htarget, hbasis, hsize, hkey'.trans hkey.symm, hin.same, ?_, hin.ne⟩
      intro fileId hfileId hsame hdigest
      refine hin.least fileId ((hmem group hgroup fileId).mpr ⟨⟨hfileId, ?_⟩, ?_⟩) hdigest
      · rw [hsame]
        exact hsize
      · rw [hsame, hkey]
    · intro hreuse
      have hcandidate : reuse.targetFileId ∈ (plannedExactReuseFileIds transferPlan).sort.filter
          (fun fileId => manifest.sizeOf fileId ≠ 0) := by
        rw [List.mem_filter, hids, decide_eq_true_iff]
        exact ⟨hreuse.target, hreuse.not_empty⟩
      obtain ⟨group, hgroup, hkey⟩ := hsizes.covered _ hcandidate
      refine ⟨group, hgroup, hreuse.digest, ?_, ?_, hreuse.same_digest, ?_, hreuse.ne⟩
      · exact (hmem group hgroup _).mpr ⟨⟨hreuse.target, hreuse.not_empty⟩, hkey.symm⟩
      · refine (hmem group hgroup _).mpr ⟨⟨hreuse.basis, ?_⟩, ?_⟩
        · rw [hreuse.same_size]
          exact hreuse.not_empty
        · rw [hreuse.same_size, hkey]
      · intro fileId hfileId hdigest
        obtain ⟨⟨hplanned, _⟩, hsize⟩ := (hmem group hgroup fileId).mp hfileId
        exact hreuse.least fileId hplanned (hsize.trans hkey) hdigest

end NetworkCopy
