import NetworkCopy.Lane.CdcNegotiation

/-!
# Session CDC

`session_cdc_lane.rs`: inside a fresh session a medium file may be sent as a
reconstruction plan over a file that an earlier generation already committed at the
destination.  The sender tries the published basis files from the newest on; it needs
no answer, since source and destination have the same basis.

The sender keeps the indexes of basis files in a cache that its lanes share.  What a
lane finds there is a parameter: an index that some lane built from the same file.
-/

namespace NetworkCopy

open Duplex ByteRange

/-- `MESSAGE_SESSION_CDC_PLAN`. -/
def messageSessionCdcPlan : UInt8 := 0x40

/-- `MINIMUM_TARGET_BYTES`. -/
@[irreducible] def minimumTargetBytes : Nat := 1024 * 1024

/-- `MAXIMUM_BASIS_CANDIDATES`. -/
def maximumBasisCandidates : Nat := 32

/-- `SIMILARITY_SAMPLE_BYTES`. -/
@[irreducible] def similaritySampleBytes : Nat := 64 * 1024

/-- `SESSION_CDC_PLAN_FIXED_WIRE_BYTES`. -/
def sessionCdcPlanFixedWireBytes : Nat := 1 + 8 + 8 + 8 + 8

/-- `basis_eligible`. -/
def basisEligible (entry : ManifestEntry) : Bool :=
  decide ((entry.fileClass = .medium ∨ entry.fileClass = .large) ∧
    minimumTargetBytes ≤ entry.fileSize)

/-- `completed_decision`. -/
def completedDecision (logicalBytes : Nat) (plan : ReconstructionPlan)
    (planWireBytes : Nat) : CdcLaneDecision where
  completed := true
  stats := { offeredFiles := 1, completedFiles := 1, logicalBytes
             reusedBytes := plan.referencedBytes, literalBytes := plan.literalBytes
             planWireBytes }

/-! ## Sending -/

section

variable (env : LaneEnv) (source : FileTree) (manifest : Manifest)
  (cached : Nat → Option BasisFileIndex)

/-- `read_sample`. -/
def readSample (path : RelativePath) (offset length : Nat) : IoResult Bytes := do
  let node ← source.openFile path
  readExactAt failedToFill node offset length

/-- `likely_similar`. -/
def likelySimilar (targetPath : RelativePath) (targetBytes : Nat) (basisPath : RelativePath)
    (basisBytes : Nat) : IoResult Bool :=
  if targetBytes = 0 ∨ basisBytes = 0 then .ok false
  else
    let smaller := min targetBytes basisBytes
    let larger := max targetBytes basisBytes
    let allowedDifference := max (smaller / 4) similaritySampleBytes
    if allowedDifference < larger - smaller then .ok false
    else do
      let sampleBytes := min smaller similaritySampleBytes
      let targetStart ← readSample source targetPath 0 sampleBytes
      let basisStart ← readSample source basisPath 0 sampleBytes
      if targetStart = basisStart then return true
      else do
        let targetEnd ← readSample source targetPath (targetBytes - sampleBytes) sampleBytes
        let basisEnd ← readSample source basisPath (basisBytes - sampleBytes) sampleBytes
        return decide (targetEnd = basisEnd)

/-- The check of an index against the manifest. -/
def checkIndexBytes (index : BasisFileIndex) (basisEntry : ManifestEntry) : IoResult Unit :=
  let indexBytes := index.fileBytes
  let expectedBytes := basisEntry.fileSize
  ensure (indexBytes = expectedBytes)
    (.invalidData
      s!"session CDC basis index contains {indexBytes} bytes, expected {expectedBytes}")

/-- `build_verified_basis_index`. -/
def buildVerifiedBasisIndex (basisEntry : ManifestEntry) : Party BasisFileIndex := do
  let index ← attempt .disk (buildIndex env source basisEntry.relativePath)
  validateSourceFile "session CDC basis" source basisEntry
  attempt .refused (checkIndexBytes index basisEntry)
  return index

/-- `SenderBasisIndexCache::get_or_build`. -/
def getOrBuild (basisFileId : Nat) (basisEntry : ManifestEntry) : Party BasisFileIndex :=
  match cached basisFileId with
  | some index => return index
  | none => buildVerifiedBasisIndex env source basisEntry

/-- The plan record that ends `sender_try_plan`. -/
def sendSessionPlan (targetFileId basisFileId indexBytes : Nat) (planWire : Bytes) :
    Party Unit := do
  writeU8 messageSessionCdcPlan
  writeFileId targetFileId
  writeFileId basisFileId
  writeU64 indexBytes
  writeU64 planWire.length
  Proc.write planWire

/-- The loop of `sender_try_plan` over the basis files, newest first. -/
def tryBases (targetFileId : Nat) (targetEntry : ManifestEntry) :
    List Nat → Nat → Party CdcLaneDecision
  | [], _ => return unavailableDecision
  | basisFileId :: rest, considered =>
      if basisFileId = targetFileId then tryBases targetFileId targetEntry rest considered
      else do
        let basisEntry ← attempt .refused (okOrElse manifest[basisFileId]?
          (.invalidInput
            s!"session CDC catalog references unknown basis file ID {basisFileId}"))
        if basisEligible basisEntry = false then
          tryBases targetFileId targetEntry rest considered
        else do
          let considered ← attempt .refused
            (addCounter considered 1 "session CDC basis count overflowed")
          if maximumBasisCandidates < considered then return unavailableDecision
          else do
            validateSourceFile "session CDC basis" source basisEntry
            let similar ← attempt .disk (likelySimilar source targetEntry.relativePath
              targetEntry.fileSize basisEntry.relativePath basisEntry.fileSize)
            if similar = false then tryBases targetFileId targetEntry rest considered
            else do
              let index ← getOrBuild env source cached basisFileId basisEntry
              validateSourceFile "session CDC basis" source basisEntry
              attempt .refused (checkIndexBytes index basisEntry)
              match buildPlan env source targetEntry.relativePath index with
              | .error error =>
                  if isLiteralLimitExceeded error then
                    tryBases targetFileId targetEntry rest considered
                  else attempt .refused (.error error)
              | .ok plan => do
                  validateSourceFile "session CDC target" source targetEntry
                  if plan.referencedBytes = 0 then
                    tryBases targetFileId targetEntry rest considered
                  else do
                    let planWire ← attempt .refused plan.encodeWire
                    if maximumPlanWireBytes < planWire.length then
                      tryBases targetFileId targetEntry rest considered
                    else do
                      let totalWireBytes ← attempt .refused
                        (addCounter sessionCdcPlanFixedWireBytes planWire.length
                          "session CDC wire size overflowed")
                      if targetEntry.fileSize ≤ totalWireBytes then
                        tryBases targetFileId targetEntry rest considered
                      else do
                        sendSessionPlan targetFileId basisFileId index.fileBytes planWire
                        return completedDecision targetEntry.fileSize plan planWire.length

/-- `sender_try_plan`. -/
def senderTryPlan (targetFileId : Nat) (basisFileIds : List Nat) :
    Party CdcLaneDecision := do
  let targetEntry ← attempt .refused (okOrElse manifest[targetFileId]?
    (.invalidInput s!"session CDC target references unknown file ID {targetFileId}"))
  if targetEntry.fileClass ≠ .medium ∨ targetEntry.fileSize < minimumTargetBytes ∨
      basisFileIds = [] then
    return unavailableDecision
  else do
    validateSourceFile "session CDC target" source targetEntry
    tryBases env source manifest cached targetFileId targetEntry basisFileIds.reverse 0

/-! ## Receiving -/

/-- `validate_committed_basis`. -/
def validateCommittedBasis (files : FileTree) (path : RelativePath)
    (expectedBytes basisFileId : Nat) : Party Unit :=
  let shown := displayPath path
  match files path with
  | none => attempt .disk (.error ⟨.notFound,
      s!"session CDC committed basis file {basisFileId} is unavailable: " ++ shown, none⟩)
  | some .directory =>
      attempt .protocol (.error (.invalidData
        (s!"session CDC committed basis file {basisFileId} is not a regular file: " ++ shown)))
  | some (.file node) => do
      attempt .protocol (ensure (node.isReparsePoint = false)
        (.invalidData
          (s!"session CDC committed basis file {basisFileId} is not a regular file: " ++
            shown)))
      let foundBytes := node.content.1.length
      attempt .protocol (ensure (foundBytes = expectedBytes)
        (.invalidData
          (s!"session CDC committed basis file {basisFileId} contains {foundBytes} bytes, " ++
            s!"expected {expectedBytes}: " ++ shown)))

/-- `receiver_apply_plan`, behind the message byte. -/
def receiverApplyPlan (files : FileTree) (expectedTargetFileId : Nat)
    (allowedBasisFileIds : List Nat) : Party (CdcLaneDecision × FileTree) := do
  let targetEntry ← attempt .protocol (okOrElse manifest[expectedTargetFileId]?
    (.invalidData
      s!"session CDC receiver expected unknown target file ID {expectedTargetFileId}"))
  attempt .protocol (ensure
    (targetEntry.fileClass = .medium ∧ minimumTargetBytes ≤ targetEntry.fileSize)
    (.invalidData "session CDC plan targeted an ineligible file"))
  let announcedTargetFileId ← readU64
  attempt .protocol (ensure (announcedTargetFileId = expectedTargetFileId)
    (.invalidData
      (s!"session CDC plan targeted file {announcedTargetFileId}, expected " ++
        s!"{expectedTargetFileId}")))
  let basisFileId ← readU64
  attempt .protocol (ensure (basisFileId ≠ expectedTargetFileId)
    (.invalidData "session CDC plan attempted to reference its target as its own basis"))
  attempt .protocol (ensure (basisFileId ∈ allowedBasisFileIds)
    (.invalidData s!"session CDC plan referenced unpublished basis file ID {basisFileId}"))
  let basisEntry ← attempt .protocol (okOrElse manifest[basisFileId]?
    (.invalidData s!"session CDC plan referenced unknown basis file ID {basisFileId}"))
  attempt .protocol (ensure
    (basisEntry.fileClass = .medium ∨ basisEntry.fileClass = .large)
    (.invalidData "session CDC plan referenced an ineligible basis file"))
  let expectedBasisBytes ← readU64
  let basisBytes := basisEntry.fileSize
  attempt .protocol (ensure (expectedBasisBytes = basisBytes)
    (.invalidData
      (s!"session CDC plan declared {expectedBasisBytes} basis bytes, but manifest file " ++
        s!"{basisFileId} contains {basisBytes}")))
  let planWire ← readPayload maximumPlanWireBytes "session CDC reconstruction plan"
  let plan ← attempt .protocol (ReconstructionPlan.decodeWire planWire)
  let targetBytes := plan.targetBytes
  let fileSize := targetEntry.fileSize
  attempt .protocol (ensure (targetBytes = fileSize)
    (.invalidData
      (s!"session CDC plan targets {targetBytes} bytes, but manifest file " ++
        s!"{expectedTargetFileId} requires {fileSize}")))
  attempt .protocol (ensure (plan.referencedBytes ≠ 0)
    (.invalidData "session CDC plan does not reference any basis data"))
  attempt .protocol (ensure (plan.literalBytes ≤ maximumLiteralBytes)
    (.invalidData "session CDC plan exceeds the literal staging limit"))
  let totalWireBytes ← attempt .protocol
    (addCounter sessionCdcPlanFixedWireBytes planWire.length
      "session CDC wire size overflowed")
  attempt .protocol (ensure (totalWireBytes < fileSize)
    (.invalidData "session CDC plan is not smaller than an ordinary whole-file transfer"))
  validateCommittedBasis files basisEntry.relativePath expectedBasisBytes basisFileId
  let files ← reconstructVerified env files basisEntry.relativePath
    targetEntry.relativePath expectedBasisBytes plan
  return (completedDecision fileSize plan planWire.length, files)

end

/-! ## Agreement -/

section

variable {α β : Type} {L R : Fault → Prop} {Q : α → β → Prop} {env : LaneEnv}
  {source files : FileTree} {manifest : Manifest} {cached : Nat → Option BasisFileIndex}

/-- Every cached index was built from the file it stands for. -/
def CacheSound (env : LaneEnv) (source : FileTree) (manifest : Manifest)
    (cached : Nat → Option BasisFileIndex) : Prop :=
  ∀ basisFileId index, cached basisFileId = some index →
    ∃ entry, manifest[basisFileId]? = some entry ∧
      buildIndex env source entry.relativePath = .ok index

/-- The destination holds the source's basis files. -/
def BasisCommitted (source files : FileTree) (manifest : Manifest)
    (basisFileIds : List Nat) : Prop :=
  ∀ basisFileId ∈ basisFileIds, ∀ entry, manifest[basisFileId]? = some entry →
    basisEligible entry = true → ∃ node, files entry.relativePath = some (.file node) ∧
      node.isReparsePoint = false ∧
      source.contentAt entry.relativePath = some node.content.1

/-- No chunk of the target collides with a chunk of a basis file. -/
def BasisCollisionFree (env : LaneEnv) (source : FileTree) (manifest : Manifest)
    (basisFileIds : List Nat) (targetEntry : ManifestEntry) : Prop :=
  ∀ basisFileId ∈ basisFileIds, ∀ entry, manifest[basisFileId]? = some entry →
    ∀ basis candidate, source.contentAt entry.relativePath = some basis →
      source.contentAt targetEntry.relativePath = some candidate →
      NoChunkCollision env basis candidate

/-- What the sender knows when it sends a plan for the target. -/
structure PlanSent (env : LaneEnv) (source : FileTree) (manifest : Manifest)
    (targetFileId : Nat) (targetEntry : ManifestEntry) (basisFileIds : List Nat)
    (basisFileId : Nat) (plan : ReconstructionPlan) (planWire : Bytes) where
  basisEntry : ManifestEntry
  basis : FileContent
  target : FileContent
  known : manifest[basisFileId]? = some basisEntry
  published : basisFileId ∈ basisFileIds
  other : basisFileId ≠ targetFileId
  eligible : basisEligible basisEntry = true
  basisContent : source.contentAt basisEntry.relativePath = some basis.1
  basisSize : basis.1.length = basisEntry.fileSize
  targetContent : source.contentAt targetEntry.relativePath = some target.1
  targetSize : target.1.length = targetEntry.fileSize
  usable : plan.Usable env.blake3 env.readSizes basis.1 target.1 maximumLiteralBytes planWire
  references : plan.referencedBytes ≠ 0
  wireLimit : planWire.length ≤ maximumPlanWireBytes
  smaller : sessionCdcPlanFixedWireBytes + planWire.length < targetEntry.fileSize

/-- How `sender_try_plan` ends: it stops, it has nothing to offer and has sent nothing, or
it has sent a plan. -/
def TriesPlan (env : LaneEnv) (source : FileTree) (manifest : Manifest) (targetFileId : Nat)
    (targetEntry : ManifestEntry) (basisFileIds : List Nat) (p : Party CdcLaneDecision) :
    Prop :=
  (∃ fault, p = .fail fault) ∨ p = .ret unavailableDecision ∨
    ∃ basisFileId plan planWire, ∃ sent : PlanSent env source manifest targetFileId
      targetEntry basisFileIds basisFileId plan planWire,
      p = (sendSessionPlan targetFileId basisFileId sent.basisEntry.fileSize planWire >>=
        fun _ => .ret (completedDecision targetEntry.fileSize plan planWire.length))

variable {targetFileId : Nat} {targetEntry : ManifestEntry} {basisFileIds : List Nat}

theorem triesPlan_attempt {γ : Type} {kind : IoError → Fault} {result : IoResult γ}
    {f : γ → Party CdcLaneDecision}
    (h : ∀ a, result = .ok a →
      TriesPlan env source manifest targetFileId targetEntry basisFileIds (f a)) :
    TriesPlan env source manifest targetFileId targetEntry basisFileIds
      (attempt kind result >>= f) := by
  cases result with
  | error e => exact .inl ⟨kind e, rfl⟩
  | ok a => exact h a rfl

/-- A source file that passes the check has the manifest's size. -/
theorem triesPlan_validateSourceFile {description : String} {entry : ManifestEntry}
    {f : Unit → Party CdcLaneDecision}
    (h : ∀ node, source entry.relativePath = some (.file node) →
      node.content.1.length = entry.fileSize →
      TriesPlan env source manifest targetFileId targetEntry basisFileIds (f ())) :
    TriesPlan env source manifest targetFileId targetEntry basisFileIds
      (validateSourceFile description source entry >>= f) := by
  unfold validateSourceFile
  split
  · exact .inl ⟨_, rfl⟩
  · exact .inl ⟨_, rfl⟩
  · rename_i node hnode
    simp only [bind_assoc]
    apply triesPlan_attempt
    intro _ _
    apply triesPlan_attempt
    intro _ hsize
    apply triesPlan_attempt
    intro _ _
    exact h node hnode (ensure_eq_ok.mp hsize)

/-- An index that the sender gets, from the cache or not, is the index of the source's
basis file. -/
theorem triesPlan_getOrBuild {f : BasisFileIndex → Party CdcLaneDecision}
    {basisFileId : Nat} {basisEntry : ManifestEntry} {node : FileNode}
    (hcache : CacheSound env source manifest cached)
    (hentry : manifest[basisFileId]? = some basisEntry)
    (hnode : source basisEntry.relativePath = some (.file node))
    (h : TriesPlan env source manifest targetFileId targetEntry basisFileIds
      (f (indexOf env.blake3 defaultAverageKib defaultChunkConfig node.content.1))) :
    TriesPlan env source manifest targetFileId targetEntry basisFileIds
      (getOrBuild env source cached basisFileId basisEntry >>= f) := by
  have hbuild := buildIndex_eq env (FileTree.openFile_eq_ok.mpr hnode)
  unfold getOrBuild
  split
  · rename_i index hindex
    obtain ⟨entry, hentry', hindex'⟩ := hcache basisFileId index hindex
    rw [hentry] at hentry'
    cases hentry'
    rw [hbuild] at hindex'
    cases hindex'
    exact h
  · unfold buildVerifiedBasisIndex
    rw [hbuild]
    simp only [attempt_ok, Proc.ret_bind, bind_assoc]
    apply triesPlan_validateSourceFile
    intro _ _ _
    apply triesPlan_attempt
    intro _ _
    exact h

/-- The sender's loop ends without a word, or with a plan that it has sent. -/
theorem triesPlan_tryBases {targetNode : FileNode}
    (hcache : CacheSound env source manifest cached)
    (htarget : source targetEntry.relativePath = some (.file targetNode))
    (hsize : targetNode.content.1.length = targetEntry.fileSize)
    (hfree : BasisCollisionFree env source manifest basisFileIds targetEntry) :
    ∀ (remaining : List Nat) (considered : Nat), remaining ⊆ basisFileIds →
      TriesPlan env source manifest targetFileId targetEntry basisFileIds
        (tryBases env source manifest cached targetFileId targetEntry remaining considered)
  | [], _, _ => .inr (.inl rfl)
  | basisFileId :: rest, considered, hsub => by
      have hrest : rest ⊆ basisFileIds := fun id hid => hsub (List.mem_cons_of_mem _ hid)
      have hskip := fun considered =>
        triesPlan_tryBases hcache htarget hsize hfree rest considered hrest
      rw [tryBases]
      split_ifs with hself
      · exact hskip considered
      apply triesPlan_attempt
      intro basisEntry hentry
      rw [okOrElse_eq_ok] at hentry
      split_ifs with heligible
      · exact hskip considered
      rw [Bool.not_eq_false] at heligible
      apply triesPlan_attempt
      intro considered' _
      split_ifs with hmany
      · exact .inr (.inl rfl)
      apply triesPlan_validateSourceFile
      intro basisNode hbasis hbasisSize
      apply triesPlan_attempt
      intro similar _
      split_ifs with hsimilar
      · exact hskip considered'
      apply triesPlan_getOrBuild hcache hentry hbasis
      apply triesPlan_validateSourceFile
      intro _ _ _
      apply triesPlan_attempt
      intro _ _
      have hbasisContent := FileTree.contentAt_of_openFile (FileTree.openFile_eq_ok.mpr hbasis)
      have htargetOpen := FileTree.openFile_eq_ok.mpr htarget
      have htargetContent := FileTree.contentAt_of_openFile htargetOpen
      have hcollision := hfree basisFileId (hsub List.mem_cons_self) basisEntry hentry
        _ _ hbasisContent htargetContent
      rcases buildPlan_indexOf htargetOpen basisNode.content hcollision with
        ⟨plan, planWire, hok, husable⟩ | herror
      · rw [hok]
        dsimp only
        apply triesPlan_validateSourceFile
        intro _ _ _
        split_ifs with hreferences
        · exact hskip considered'
        rw [husable.encode]
        simp only [attempt_ok, Proc.ret_bind]
        split_ifs with hlong
        · exact hskip considered'
        apply triesPlan_attempt
        intro totalWireBytes htotal
        have htotal' := addCounter_val htotal
        split_ifs with hlarge
        · exact hskip considered'
        refine .inr (.inr ⟨basisFileId, plan, planWire,
          { basisEntry, basis := basisNode.content, target := targetNode.content
            known := hentry, published := hsub List.mem_cons_self, other := hself
            eligible := heligible, basisContent := hbasisContent, basisSize := hbasisSize
            targetContent := htargetContent, targetSize := hsize, usable := husable
            references := hreferences, wireLimit := by omega, smaller := by omega }, ?_⟩)
        show (sendSessionPlan targetFileId basisFileId basisNode.content.1.length planWire >>=
          _) = _
        rw [hbasisSize]
        rfl
      · rw [herror]
        exact hskip considered'

/-- `sender_try_plan` ends without a word, or with a plan that it has sent for an eligible
target. -/
theorem senderTryPlan_cases (hcache : CacheSound env source manifest cached)
    (hentry : manifest[targetFileId]? = some targetEntry)
    (hfree : BasisCollisionFree env source manifest basisFileIds targetEntry) :
    senderTryPlan env source manifest cached targetFileId basisFileIds =
        .ret unavailableDecision ∨
      (targetEntry.fileClass = .medium ∧ minimumTargetBytes ≤ targetEntry.fileSize) ∧
        TriesPlan env source manifest targetFileId targetEntry basisFileIds
          (senderTryPlan env source manifest cached targetFileId basisFileIds) := by
  unfold senderTryPlan
  rw [hentry, okOrElse_some, attempt_ok, Proc.ret_bind]
  split_ifs with hineligible
  · exact .inl rfl
  · push Not at hineligible
    refine .inr ⟨⟨hineligible.1, hineligible.2.1⟩, ?_⟩
    apply triesPlan_validateSourceFile
    intro node hnode hsize
    exact triesPlan_tryBases hcache hnode hsize hfree basisFileIds.reverse 0
      (List.reverse_subset.mpr (List.Subset.refl _))

theorem agree_senderTryPlan {f : CdcLaneDecision → Party α} {q : Party β}
    (hcache : CacheSound env source manifest cached)
    (hentry : manifest[targetFileId]? = some targetEntry)
    (hfree : BasisCollisionFree env source manifest basisFileIds targetEntry)
    (hnone : LaneAgree (f unavailableDecision) q Q)
    (hplan : targetEntry.fileClass = .medium → minimumTargetBytes ≤ targetEntry.fileSize →
      ∀ basisFileId plan planWire, ∀ sent : PlanSent env source manifest targetFileId
      targetEntry basisFileIds basisFileId plan planWire,
      LaneAgree (sendSessionPlan targetFileId basisFileId sent.basisEntry.fileSize planWire >>=
        fun _ => f (completedDecision targetEntry.fileSize plan planWire.length)) q Q) :
    LaneAgree (senderTryPlan env source manifest cached targetFileId basisFileIds >>= f) q Q := by
  rcases senderTryPlan_cases hcache hentry hfree with
    hnothing | ⟨⟨hclass, hminimum⟩, ⟨fault, hstopped⟩ | hnothing |
      ⟨basisFileId, plan, planWire, sent, hsent⟩⟩
  · rw [hnothing]
    exact hnone
  · rw [hstopped]
    exact Agree.failLeft trivial
  · rw [hnothing]
    exact hnone
  · rw [hsent, bind_assoc]
    exact hplan hclass hminimum basisFileId plan planWire sent

/-- A plan that was sent is applied: both sides report it alike, and the target is the
source's file. -/
theorem agree_applyPlan {f : Unit → Party α} {g : CdcLaneDecision × FileTree → Party β}
    {other : UInt8 → Party β}
    {basisFileId : Nat} {plan : ReconstructionPlan} {planWire : Bytes}
    (hentry : manifest[targetFileId]? = some targetEntry)
    (hclass : targetEntry.fileClass = .medium)
    (hminimum : minimumTargetBytes ≤ targetEntry.fileSize)
    (hids : manifest.length ≤ u64Limit)
    (hR : Publishable env files targetEntry.relativePath ∨ ∀ e, R (.disk e))
    (hcommitted : BasisCommitted source files manifest basisFileIds)
    (sent : PlanSent env source manifest targetFileId targetEntry basisFileIds basisFileId plan
      planWire)
    (h : ∀ files', Placed source files files' targetEntry.relativePath →
      Agree L R (f ())
        (g (completedDecision targetEntry.fileSize plan planWire.length, files')) Q) :
    Agree L R
      (sendSessionPlan targetFileId basisFileId sent.basisEntry.fileSize planWire >>= f)
      (readU8 >>= fun message => if message = messageSessionCdcPlan then
        receiverApplyPlan env manifest files targetFileId basisFileIds >>= g
        else other message) Q := by
  have htargetId : targetFileId < u64Limit :=
    lt_of_lt_of_le (List.getElem?_eq_some_iff.mp hentry).1 hids
  have hbasisId : basisFileId < u64Limit :=
    lt_of_lt_of_le (List.getElem?_eq_some_iff.mp sent.known).1 hids
  unfold sendSessionPlan
  simp only [bind_assoc]
  apply agree_u8
  rw [if_pos rfl]
  unfold receiverApplyPlan
  rw [hentry, okOrElse_some, attempt_ok]
  simp only [Proc.ret_bind, bind_assoc]
  apply agree_ensure_right ⟨hclass, hminimum⟩
  apply agree_fileId htargetId
  apply agree_ensure_right rfl
  apply agree_fileId hbasisId
  apply agree_ensure_right sent.other
  apply agree_ensure_right sent.published
  rw [sent.known, okOrElse_some, attempt_ok, Proc.ret_bind]
  have heligible := sent.eligible
  rw [basisEligible, decide_eq_true_eq] at heligible
  apply agree_ensure_right heligible.1
  apply agree_u64 sent.basisEntry.fileSize_lt
  apply agree_ensure_right rfl
  have hlimit : planWire.length < u64Limit :=
    lt_of_le_of_lt sent.wireLimit maximumPlanWireBytes_lt
  apply agree_readPayload sent.usable.nonempty hlimit sent.wireLimit
  rw [sent.usable.decode, attempt_ok, Proc.ret_bind]
  apply agree_ensure_right (sent.usable.target.trans sent.targetSize)
  apply agree_ensure_right sent.references
  apply agree_ensure_right sent.usable.literals
  have htotal : addCounter sessionCdcPlanFixedWireBytes planWire.length
      "session CDC wire size overflowed" =
      .ok (sessionCdcPlanFixedWireBytes + planWire.length) :=
    addCounter_of_lt (sent.smaller.trans targetEntry.fileSize_lt)
  rw [htotal, attempt_ok, Proc.ret_bind]
  apply agree_ensure_right sent.smaller
  obtain ⟨node, hnode, hregular, hcontent⟩ :=
    hcommitted basisFileId sent.published sent.basisEntry sent.known sent.eligible
  have hsame : node.content.1 = sent.basis.1 := by
    have hbasis := sent.basisContent
    rw [hcontent] at hbasis
    exact Option.some.inj hbasis
  have hbasisContent : files.contentAt sent.basisEntry.relativePath = some sent.basis.1 := by
    rw [← hsame]
    exact FileTree.contentAt_of_openFile (FileTree.openFile_eq_ok.mpr hnode)
  unfold validateCommittedBasis
  rw [hnode]
  simp only [bind_assoc]
  apply agree_ensure_right hregular
  apply agree_ensure_right (by rw [hsame]; exact sent.basisSize)
  rw [← sent.basisSize]
  exact agree_reconstructVerified hR hbasisContent sent.targetContent sent.usable.reconstruct h

end

end NetworkCopy
