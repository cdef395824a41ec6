import NetworkCopy.Receiver.Footprint
import NetworkCopy.Reuse.Acceptance

/-!
# Copying the duplicates

`materialize_exact_reuse_files` writes each target under its part name, verifies the digest and
renames the part file.  A part file of that name is removed first, so the loop depends on the part
names: a basis that is still needed and a target that is already there must not have one of them.
-/

namespace NetworkCopy

open Crash FileTree Prog Receiver

/-- The path of a file of the manifest. -/
def Manifest.pathOf (manifest : Manifest) (fileId : Nat) : RelativePath :=
  ((manifest[fileId]?).map ManifestEntry.relativePath).getD []

/-- The part name of a file of the manifest. -/
def Manifest.partOf (manifest : Manifest) (fileId : Nat) : RelativePath :=
  temporaryPath (manifest.pathOf fileId) fileId

theorem Manifest.pathOf_eq {manifest : Manifest} {fileId : Nat} {entry : ManifestEntry}
    (hentry : manifest[fileId]? = some entry) : manifest.pathOf fileId = entry.relativePath := by
  simp [Manifest.pathOf, hentry]

/-! ## One copy -/

section

variable {source destination : RelativePath} {state state' : Receiver}

theorem copyFile_eq_ok {copied : Nat}
    (h : (Transfer.copyFile source destination).eval state = (.ok copied, state')) :
    ∃ content, state.files.contentAt source = some content ∧ copied = content.length ∧
      state.files destination = none ∧ state'.files.contentAt destination = some content ∧
      SameExcept [destination] state.files state'.files := by
  unfold Transfer.copyFile at h
  obtain ⟨node, _, hopen, h⟩ := eval_bind_eq_ok h
  obtain ⟨hopen, hstate⟩ := eval_query_eq_ok hopen
  rw [← hstate] at h
  obtain ⟨_, created, hcreate, h⟩ := eval_bind_eq_ok h
  obtain ⟨createdFiles, hcreate, hcreated⟩ := onFiles_eq_ok.mp (eval_modify_eq_ok hcreate)
  rw [← hcreated] at h
  obtain ⟨hfree, hempty, hframe⟩ := createNew_eq_ok hcreate
  obtain ⟨_, written, hwrite, h⟩ := eval_bind_eq_ok h
  obtain ⟨writtenFiles, hwrite, hwritten⟩ := onFiles_eq_ok.mp (eval_modify_eq_ok hwrite)
  rw [← hwritten] at h
  rw [withFiles_files] at hwrite
  obtain ⟨fresh, hfresh, hstore⟩ := bind_eq_ok.mp hwrite
  have hcontent := contentAt_of_openFile hfresh
  rw [hempty, Option.some.injEq] at hcontent
  obtain ⟨hstored, hframe'⟩ := store_eq_ok hstore
  rw [← hcontent, List.nil_append] at hstored
  obtain ⟨_, stamped, hstamp, h⟩ := eval_bind_eq_ok h
  obtain ⟨stampedFiles, hstamp, hstamped⟩ := onFiles_eq_ok.mp (eval_modify_eq_ok hstamp)
  rw [withFiles_files] at hstamp
  obtain ⟨copy, hcopy, hset⟩ := bind_eq_ok.mp hstamp
  rw [pure_eq_ok, Except.ok.injEq] at hset
  have hcopied := contentAt_of_openFile hcopy
  rw [hstored, Option.some.injEq] at hcopied
  cases h
  refine ⟨node.content.1, contentAt_of_openFile hopen, rfl, hfree, ?_, ?_⟩
  · rw [← hstamped, withFiles_files, ← hset, contentAt_eq_some]
    exact ⟨_, set_same _ _ _, hcopied.symm⟩
  · rw [← hstamped, withFiles_files, ← hset]
    exact (hframe.trans hframe').set _ (by simp)

/-- A file can be copied to a free name. -/
theorem copyFile_ok {node : FileNode} (hsource : state.files source = some (.file node))
    (hfree : state.files destination = none) :
    ∃ state', (Transfer.copyFile source destination).eval state =
      (.ok node.content.1.length, state') := by
  obtain ⟨createdFiles, hcreate⟩ := createNew_of_none hfree (state.clock 0)
  obtain ⟨_, hempty, _⟩ := createNew_eq_ok hcreate
  obtain ⟨fresh, hfresh, hnothing⟩ := contentAt_eq_some.mp hempty
  have hwrite : ∃ files, createdFiles.append destination node.content.1
      ((state.withFiles createdFiles).clock 0) = .ok files ∧
        files.contentAt destination = some node.content.1 := by
    unfold FileTree.append store
    rw [openFile_eq_ok.mpr hfresh, ok_bind, dif_pos (by rw [hnothing]; exact node.content.2)]
    refine ⟨_, rfl, contentAt_eq_some.mpr ⟨_, set_same _ _ _, ?_⟩⟩
    simp [hnothing]
  obtain ⟨writtenFiles, hwrite, hcontent⟩ := hwrite
  obtain ⟨copy, hcopy, _⟩ := contentAt_eq_some.mp hcontent
  have hopened : (inspect (fun files => files.openFile source)).eval state = (.ok node, state) :=
    eval_query (openFile_eq_ok.mpr hsource)
  have hcreated : (Receiver.createNew destination).eval state =
      (.ok (), state.withFiles createdFiles) := eval_change hcreate
  have hwritten : (Receiver.append destination node.content.1).eval
      (state.withFiles createdFiles) =
        (.ok (), (state.withFiles createdFiles).withFiles writtenFiles) := eval_change hwrite
  have hstamp : (onFiles (fun files _ => do
      let copied ← files.openFile destination
      return files.set destination (some (.file
        { copied with lastWriteTime := node.lastWriteTime
                      fileAttributes := node.fileAttributes }))))
        ((state.withFiles createdFiles).withFiles writtenFiles) = .ok
      (((state.withFiles createdFiles).withFiles writtenFiles).withFiles
        (writtenFiles.set destination (some (.file
        { copy with lastWriteTime := node.lastWriteTime
                    fileAttributes := node.fileAttributes })))) := by
    refine onFiles_eq_ok.mpr ⟨_, ?_, rfl⟩
    rw [withFiles_files, openFile_eq_ok.mpr hcopy]
    rfl
  unfold Transfer.copyFile
  rw [eval_bind_ok hopened, eval_bind_ok hcreated, eval_bind_ok hwritten,
    eval_bind_ok (eval_modify hstamp)]
  exact ⟨_, rfl⟩

end

/-! ## One turn of the loop -/

/-- What a turn that returns has done: the target has the content of the basis, and the part name,
which is not that of the basis, is free. -/
structure Copied (manifest : Manifest) (reuse : ExactFileReuse) (files files' : FileTree) :
    Prop where
  content : ∃ content, files.contentAt (manifest.pathOf reuse.basisFileId) = some content ∧
    files'.contentAt (manifest.pathOf reuse.targetFileId) = some content
  apart : manifest.partOf reuse.targetFileId ≠ manifest.pathOf reuse.basisFileId
  part : files' (manifest.partOf reuse.targetFileId) = none
  frame : SameExcept [manifest.partOf reuse.targetFileId, manifest.pathOf reuse.targetFileId]
    files files'

namespace Transfer

variable {transfer : Transfer} {reuse : ExactFileReuse} {state state' : Receiver}

theorem materializeExactReuse_eq_ok
    (h : (transfer.materializeExactReuse reuse).eval state = (.ok (), state')) :
    Copied transfer.manifest reuse state.files state'.files := by
  unfold materializeExactReuse at h
  obtain ⟨basis, _, hbasis, h⟩ := eval_bind_eq_ok h
  obtain ⟨hbasis, hstate⟩ := eval_lift_eq_ok hbasis
  rw [← hstate] at h
  obtain ⟨target, _, htarget, h⟩ := eval_bind_eq_ok h
  obtain ⟨htarget, hstate⟩ := eval_lift_eq_ok htarget
  rw [← hstate] at h
  have hbasisPath := Manifest.pathOf_eq (okOrElse_eq_ok.mp hbasis)
  have htargetPath := Manifest.pathOf_eq (okOrElse_eq_ok.mp htarget)
  have hpartPath : transfer.manifest.partOf reuse.targetFileId =
      temporaryPath target.relativePath reuse.targetFileId := by
    rw [Manifest.partOf, htargetPath]
  simp only at h
  obtain ⟨_, _, hvalid, h⟩ := eval_bind_eq_ok h
  obtain ⟨_, hstate⟩ := eval_query_eq_ok hvalid
  rw [← hstate] at h
  obtain ⟨_, _, hexists, h⟩ := eval_bind_eq_ok h
  obtain ⟨_, hstate⟩ := eval_query_eq_ok hexists
  rw [← hstate] at h
  obtain ⟨_, removed, hremove, h⟩ := eval_bind_eq_ok h
  obtain ⟨removedFiles, hremove, hremoved⟩ := onFiles_eq_ok.mp (eval_modify_eq_ok hremove)
  obtain ⟨hfree, htouches⟩ := FileTree.removeFileIfPresent_eq_ok hremove
  rw [← hremoved] at h
  have h := eval_onError_eq_ok h
  unfold copyExactReuse at h
  simp only at h
  obtain ⟨_, copied, hcopy, h⟩ := eval_bind_eq_ok h
  obtain ⟨content, hcontent, _, _, hpart, hcopyFrame⟩ := copyFile_eq_ok hcopy
  rw [withFiles_files] at hcontent hcopyFrame
  obtain ⟨_, _, hlength, h⟩ := eval_bind_eq_ok h
  obtain ⟨_, hstate⟩ := eval_lift_eq_ok hlength
  rw [← hstate] at h
  obtain ⟨_, _, hread, h⟩ := eval_bind_eq_ok h
  obtain ⟨_, hstate⟩ := eval_query_eq_ok hread
  rw [← hstate] at h
  obtain ⟨_, _, hverify, h⟩ := eval_bind_eq_ok h
  obtain ⟨_, hstate⟩ := eval_lift_eq_ok hverify
  rw [← hstate] at h
  obtain ⟨_, renamed, hrename, h⟩ := eval_bind_eq_ok h
  obtain ⟨renamedFiles, hrename, hrenamed⟩ := onFiles_eq_ok.mp (eval_modify_eq_ok hrename)
  obtain ⟨hplaced, hrenameFrame⟩ := replace_eq_ok hpart hrename
  have hgone := replace_frees (temporaryPath_ne _ _) hrename
  rw [← hrenamed] at h
  obtain ⟨restoredFiles, hrestore, hrestored⟩ := onFiles_eq_ok.mp (eval_modify_eq_ok h)
  rw [withFiles_files] at hrestore
  obtain ⟨hfinal, hrestoreFrame⟩ := restoreFile_eq_ok hplaced hrestore
  rw [← hrestored, withFiles_files]
  -- The part name was free when the basis was opened.
  have hapart : temporaryPath target.relativePath reuse.targetFileId ≠ basis.relativePath := by
    intro hsame
    rw [hsame] at hfree
    obtain ⟨node, hnode, _⟩ := contentAt_eq_some.mp hcontent
    rw [hfree] at hnode
    cases hnode
  have hremoveFrame : SameExcept [temporaryPath target.relativePath reuse.targetFileId]
      state.files removedFiles := htouches.frame
  constructor
  · refine ⟨content, ?_, by rw [htargetPath]; exact hfinal⟩
    rw [hbasisPath, ← hcontent]
    unfold contentAt
    rw [hremoveFrame _ (by simpa using hapart.symm)]
  · rw [hpartPath, hbasisPath]
    exact hapart
  · rw [hpartPath, hrestoreFrame _ (by simpa using temporaryPath_ne _ _)]
    exact hgone
  · rw [hpartPath, htargetPath]
    refine ((hremoveFrame.trans hcopyFrame).mono (by simp)).trans (hrenameFrame.trans ?_)
    exact hrestoreFrame.mono (by simp)

/-- The closure of the loop succeeds when the names of the part and of the target are free. -/
theorem copyExactReuse_ok {basis target : ManifestEntry} {node : FileNode}
    (hbasis : state.files basis.relativePath = some (.file node))
    (hsize : node.content.1.length = target.fileSize)
    (hdigest : transfer.blake3 node.content.1 = reuse.digest)
    (htarget : state.files target.relativePath = none)
    (hfree : state.files (temporaryPath target.relativePath reuse.targetFileId) = none) :
    ∃ state', (transfer.copyExactReuse reuse basis target).eval state = (.ok (), state') := by
  obtain ⟨copied, hcopy⟩ := copyFile_ok hbasis hfree
  obtain ⟨content, hread, _, _, hpart, hframe⟩ := copyFile_eq_ok hcopy
  rw [contentAt_eq_some.mpr ⟨node, hbasis, rfl⟩, Option.some.injEq] at hread
  rw [← hread] at hpart
  obtain ⟨partNode, hpartNode, hpartBytes⟩ := contentAt_eq_some.mp hpart
  have hnotDirectory : copied.files target.relativePath ≠ some .directory := by
    rw [hframe _ (by simpa using (temporaryPath_ne _ _).symm), htarget]
    exact fun habsurd => by cases habsurd
  obtain ⟨renamedFiles, hrename⟩ := replace_of_contentAt hpart hnotDirectory
  obtain ⟨hplaced, _⟩ := replace_eq_ok hpart hrename
  obtain ⟨placedNode, hplacedNode, _⟩ := contentAt_eq_some.mp hplaced
  have hrestore : ∃ files, renamedFiles.restoreFile target.relativePath target.lastWriteTime
      target.fileAttributes = .ok files := by
    unfold FileTree.restoreFile
    rw [openFile_eq_ok.mpr hplacedNode]
    exact ⟨_, rfl⟩
  obtain ⟨restoredFiles, hrestore⟩ := hrestore
  have hopened : (inspect (fun files => files.openFile
      (temporaryPath target.relativePath reuse.targetFileId))).eval copied =
        (.ok partNode, copied) := eval_query (openFile_eq_ok.mpr hpartNode)
  have hverified : transfer.blake3 partNode.content.1 = reuse.digest := by
    rw [hpartBytes, hdigest]
  have hreplaced : (Receiver.replace (temporaryPath target.relativePath reuse.targetFileId)
      target.relativePath).eval copied = (.ok (), copied.withFiles renamedFiles) :=
    eval_change hrename
  unfold copyExactReuse
  simp only
  rw [eval_bind_ok hcopy, ensure, if_pos hsize, eval_bind_ok (eval_lift_ok () copied),
    eval_bind_ok hopened, verifyDigest, ensure, if_pos hverified,
    eval_bind_ok (eval_lift_ok () copied), eval_bind_ok hreplaced]
  exact ⟨_, eval_change hrestore⟩

/-- A turn succeeds when the basis is there, the target is not and the part name is another. -/
theorem materializeExactReuse_ok (h : Admissible transfer.manifest reuse) {content : Bytes}
    (hbasis : state.files.contentAt (transfer.manifest.pathOf reuse.basisFileId) = some content)
    (hlength : content.length = transfer.manifest.sizeOf reuse.basisFileId)
    (hdigest : transfer.blake3 content = reuse.digest)
    (htarget : state.files (transfer.manifest.pathOf reuse.targetFileId) = none)
    (hpart : state.files (transfer.manifest.partOf reuse.targetFileId) ≠ some .directory)
    (hapart : transfer.manifest.partOf reuse.targetFileId ≠
      transfer.manifest.pathOf reuse.basisFileId) :
    ∃ state', (transfer.materializeExactReuse reuse).eval state = (.ok (), state') := by
  obtain ⟨basis, hbasisEntry⟩ : ∃ basis, transfer.manifest[reuse.basisFileId]? = some basis :=
    ⟨_, List.getElem?_eq_getElem h.basis⟩
  obtain ⟨target, htargetEntry⟩ : ∃ target, transfer.manifest[reuse.targetFileId]? = some target :=
    ⟨_, List.getElem?_eq_getElem h.target⟩
  have hsize := h.same_size
  rw [Manifest.sizeOf_eq hbasisEntry, Manifest.sizeOf_eq htargetEntry] at hsize
  rw [Manifest.sizeOf_eq hbasisEntry] at hlength
  unfold Manifest.partOf at hpart hapart
  rw [Manifest.pathOf_eq htargetEntry] at hpart hapart htarget
  rw [Manifest.pathOf_eq hbasisEntry] at hapart hbasis
  obtain ⟨node, hnode, hcontent⟩ := contentAt_eq_some.mp hbasis
  -- The part name is made free.
  have hremove : ∃ files, state.files.removeFileIfPresent
      (temporaryPath target.relativePath reuse.targetFileId) = .ok files := by
    unfold FileTree.removeFileIfPresent FileTree.removeFile
    cases hold : state.files (temporaryPath target.relativePath reuse.targetFileId) with
    | none => exact ⟨_, rfl⟩
    | some old =>
      cases old with
      | directory => exact absurd hold hpart
      | file part =>
        simp only
        rw [openFile_eq_ok.mpr hold]
        exact ⟨_, rfl⟩
  obtain ⟨removedFiles, hremove⟩ := hremove
  obtain ⟨hfree, htouches⟩ := FileTree.removeFileIfPresent_eq_ok hremove
  have hbasisStays : removedFiles basis.relativePath = some (.file node) := by
    rw [htouches.frame _ (by simpa using hapart.symm)]
    exact hnode
  have htargetStays : removedFiles target.relativePath = none := by
    rw [htouches.frame _ (by simpa using (temporaryPath_ne _ _).symm)]
    exact htarget
  have hclosure : ∃ state', (transfer.copyExactReuse reuse basis target).eval
      (state.withFiles removedFiles) = (.ok (), state') :=
    copyExactReuse_ok hbasisStays (by rw [hcontent, hlength, hsize])
      (by rw [hcontent, hdigest]) htargetStays hfree
  obtain ⟨state', hclosure⟩ := hclosure
  have hvalidated : (inspect (fun files => files.validateResumeFile basis.relativePath
      basis.fileSize "exact-reuse basis file")).eval state = (.ok (), state) :=
    eval_query (validateResumeFile_eq_ok.mpr ⟨node, hnode, by rw [hcontent, hlength]⟩)
  have habsent : ∀ error : IoError, (inspect (fun files => ensure
      (files.tryExists target.relativePath = false) error)).eval state = (.ok (), state) := by
    intro error
    refine eval_query (ensure_eq_ok.mpr ?_)
    rw [FileTree.tryExists, htarget]
    rfl
  have hremoved : (Receiver.removeFileIfPresent
      (temporaryPath target.relativePath reuse.targetFileId)).eval state =
        (.ok (), state.withFiles removedFiles) := eval_change hremove
  unfold materializeExactReuse
  rw [okOrElse_eq_ok.mpr hbasisEntry, eval_bind_ok (eval_lift_ok basis state),
    okOrElse_eq_ok.mpr htargetEntry, eval_bind_ok (eval_lift_ok target state)]
  simp only
  rw [eval_bind_ok hvalidated, eval_bind_ok (habsent _), eval_bind_ok hremoved]
  exact ⟨state', eval_orElse_ok hclosure⟩

end Transfer

end NetworkCopy
