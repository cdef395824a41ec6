import NetworkCopy.Lib.Endings
import NetworkCopy.Receiver.Lanes

/-!
# Reconstruction in place

`reconstruct` builds the target beside the output path and renames it there.  The output path may
be the basis itself, which is read piece by piece while the target is written.

Here every read and every write is a call of its own, and every call may fail from outside.  The
reads go through the path of the basis, so a read behind the rename would see the new file; what
`reconstruct` publishes is made of the basis as it was before.
-/

namespace NetworkCopy

open ByteRange Crash Prog

namespace Receiver

section

variable (blake3 : Bytes → Digest) (sizes : ReadSizes)

/-- The copy loop of one basis range.  Every turn copies at least one byte, so the length of the
range bounds the turns.  The result is what was fed to the hasher. -/
def copyBasisRange (basisPath temporary : RelativePath) : Nat → Nat → Nat → Bytes → Program Bytes
  | 0, _, _, written => return written
  | fuel + 1, position, remaining, written =>
      if 0 < remaining then do
        let requested := min remaining reconstructionBufferBytes
        let chunk ← inspect (fun files => do
          let basis ← files.openFile basisPath
          let available := basis.content.1.length - position
          return (basis.content.1.drop position).take (sizes.size requested available))
        Prog.lift (ensure (chunk ≠ [])
          ⟨.unexpectedEof, "basis file ended during reconstruction", none⟩)
        writeAt temporary written.length chunk
        let _ ← Prog.lift
          (addCounter written.length chunk.length "reconstructed byte count overflowed")
        copyBasisRange basisPath temporary fuel (position + chunk.length)
          (remaining - chunk.length) (written ++ chunk)
      else return written

/-- The loop of `reconstruct_into`. -/
def executeOperations (basisPath temporary : RelativePath) (basisBytes : Nat) :
    List ReconstructionOp → Bytes → Program Bytes
  | [], written => return written
  | .basis offset length :: rest, written => do
      let rangeEnd ← Prog.lift (okOrElse (checkedAdd offset length)
        (.invalidData "basis reconstruction range overflowed"))
      Prog.lift (ensure (rangeEnd ≤ basisBytes)
        (.invalidData
          (s!"basis reconstruction range {offset}..{rangeEnd} exceeds {basisBytes} " ++
            "bytes")))
      let written ← copyBasisRange sizes basisPath temporary length offset length written
      executeOperations basisPath temporary basisBytes rest written
  | .literal contents :: rest, written => do
      writeAt temporary written.length contents
      let _ ← Prog.lift
        (addCounter written.length contents.length "reconstructed byte count overflowed")
      executeOperations basisPath temporary basisBytes rest (written ++ contents)

/-- `reconstruct_into`. -/
def reconstructFrom (basisPath temporary : RelativePath) (basisBytes : Nat)
    (plan : ReconstructionPlan) : Program Unit := do
  setLen temporary plan.targetBytes
  let written ← executeOperations sizes basisPath temporary basisBytes plan.operations []
  let writtenBytes := written.length
  let targetBytes := plan.targetBytes
  Prog.lift (ensure (writtenBytes = targetBytes)
    (.invalidData s!"reconstruction wrote {writtenBytes} bytes, expected {targetBytes}"))
  Prog.lift (ensure (blake3 written = plan.targetDigest)
    (.invalidData
      ("reconstructed BLAKE3 mismatch: expected " ++ formatDigest plan.targetDigest ++
        ", found " ++ formatDigest (blake3 written))))

/-- `reconstruct` up to the rename. -/
def publishReconstruction (temporary basisPath outputPath : RelativePath)
    (expectedBasisBytes : Nat) (plan : ReconstructionPlan) : Program Unit := do
  createDestinationParent outputPath
  let basis ← inspect (fun files => files.openFile basisPath)
  let actualBasisBytes := basis.content.1.length
  Prog.lift (ensure (actualBasisBytes = expectedBasisBytes)
    (.invalidData
      (s!"basis file size changed: expected {expectedBasisBytes}, found " ++
        s!"{actualBasisBytes}")))
  createNew temporary
  (reconstructFrom blake3 sizes basisPath temporary actualBasisBytes plan).onError
    (removeFile temporary)
  (replace temporary outputPath).onError (removeFile temporary)

/-- `reconstruct`, for an output path with its own temporary name. -/
def reconstructTo (processId nanos : Nat) (basisPath outputPath : RelativePath)
    (expectedBasisBytes : Nat) (plan : ReconstructionPlan) : Program Unit := do
  publishReconstruction blake3 sizes (reconstructionTemporary outputPath processId nanos) basisPath
    outputPath expectedBasisBytes plan
  let targetBytes := plan.targetBytes
  inspect (fun files => do
    let output ← files.openFile outputPath
    let outputBytes := output.content.1.length
    ensure (outputBytes = targetBytes)
      (.invalidData
        s!"reconstructed output has {outputBytes} bytes, expected {targetBytes}"))

end

end Receiver

/-! ## What a plan describes -/

/-- The bytes that an operation contributes. -/
def ReconstructionOp.contents (basis : Bytes) : ReconstructionOp → Bytes
  | .basis offset length => range basis offset length
  | .literal contents => contents

/-- The target that the operations describe over a basis. -/
def describedTarget (basis : Bytes) (operations : List ReconstructionOp) : Bytes :=
  operations.flatMap (ReconstructionOp.contents basis)

/-! ## The files on the way -/

namespace FileTree

/-- The same files with the same metadata; directories may differ. -/
def SameFiles (files files' : FileTree) : Prop :=
  ∀ path node, files' path = some (.file node) ↔ files path = some (.file node)

/-- A new file with a content, and otherwise the same files. -/
structure Building (files : FileTree) (temporary : RelativePath) (content : Bytes)
    (files' : FileTree) : Prop where
  fresh : ∀ node, files temporary ≠ some (.file node)
  content : files'.contentAt temporary = some content
  others : ∀ path, path ≠ temporary → ∀ node,
    files' path = some (.file node) ↔ files path = some (.file node)

/-- The output path has a content, there is no temporary file, and otherwise the same files. -/
structure Rebuilt (files : FileTree) (temporary outputPath : RelativePath) (content : Bytes)
    (files' : FileTree) : Prop where
  fresh : ∀ node, files temporary ≠ some (.file node)
  content : files'.contentAt outputPath = some content
  removed : ∀ node, files' temporary ≠ some (.file node)
  others : ∀ path, path ≠ temporary → path ≠ outputPath → ∀ node,
    files' path = some (.file node) ↔ files path = some (.file node)

variable {files files' files'' : FileTree} {temporary : RelativePath} {content : Bytes}

theorem SameFiles.refl (files : FileTree) : SameFiles files files := fun _ _ => Iff.rfl

theorem SameFiles.createDirectory (h : SameFiles files files') {path : RelativePath}
    (hdirectory : files'.createDirectory path = .ok files'') : SameFiles files files'' := by
  unfold FileTree.createDirectory at hdirectory
  split at hdirectory
  · next hnone =>
      cases hdirectory
      intro other node
      rw [← h other node]
      by_cases hsame : other = path
      · rw [hsame, set_same, hnone]
        simp
      · rw [set_ne _ _ hsame]
  · cases hdirectory
    exact h
  · cases hdirectory

/-- A new file is built beside the others. -/
theorem SameFiles.createNew (h : SameFiles files files') {now : Nat}
    (hcreate : files'.createNew temporary now = .ok files'') :
    Building files temporary [] files'' := by
  obtain ⟨hnone, hcontent, hframe⟩ := createNew_eq_ok hcreate
  refine ⟨fun node hnode => ?_, hcontent, fun path hne node => ?_⟩
  · rw [(h temporary node).mpr hnode] at hnone
    cases hnone
  · rw [hframe path (by simpa using hne), h path node]

/-- Writing to it leaves the others alone. -/
theorem Building.change (h : Building files temporary content files') {content' : Bytes}
    (hcontent : files''.contentAt temporary = some content')
    (hframe : SameExcept [temporary] files' files'') :
    Building files temporary content' files'' := by
  refine ⟨h.fresh, hcontent, fun path hne node => ?_⟩
  rw [hframe path (by simpa using hne), h.others path hne node]

theorem Building.removeFile (h : Building files temporary content files')
    (hremove : files'.removeFile temporary = .ok files'') : SameFiles files files'' := by
  unfold FileTree.removeFile at hremove
  obtain ⟨_, hremove⟩ := bind_rest hremove
  cases hremove
  intro path node
  by_cases hsame : path = temporary
  · rw [hsame, set_same]
    simp [h.fresh node]
  · rw [set_ne _ _ hsame, h.others path hsame node]

/-- A file that is there can be removed. -/
theorem Building.removable (h : Building files temporary content files') :
    ∃ files'', files'.removeFile temporary = .ok files'' := by
  obtain ⟨node, hnode, _⟩ := contentAt_eq_some.mp h.content
  unfold FileTree.removeFile
  rw [openFile_eq_ok.mpr hnode]
  exact ⟨_, rfl⟩

theorem Building.replace (h : Building files temporary content files') {outputPath : RelativePath}
    (hne : temporary ≠ outputPath) (hreplace : files'.replace temporary outputPath = .ok files'') :
    Rebuilt files temporary outputPath content files'' := by
  obtain ⟨hcontent, hframe⟩ := replace_eq_ok h.content hreplace
  have hfree := replace_frees hne hreplace
  refine ⟨h.fresh, hcontent, fun node hnode => ?_, fun path htemporary houtput node => ?_⟩
  · rw [hfree] at hnode
    cases hnode
  · rw [hframe path (by simp [htemporary, houtput]), h.others path htemporary node]

/-- The basis is still there while the target is built. -/
theorem Building.basis (h : Building files temporary content files') {basisPath : RelativePath}
    {node : FileNode} (hbasis : files basisPath = some (.file node)) :
    files' basisPath = some (.file node) := by
  have hne : basisPath ≠ temporary := by
    intro hsame
    rw [hsame] at hbasis
    exact h.fresh node hbasis
  exact (h.others basisPath hne node).mpr hbasis

end FileTree

/-! ## Every end of a run -/

namespace Receiver

open FileTree

section

variable {α : Type} {reliable : (Receiver → IoResult Receiver) → Prop} {P T E : Receiver → Prop}

theorem ensures_change {change : FileTree → Nat → IoResult FileTree}
    (hok : ∀ state files, P state → change state.files (state.clock 0) = .ok files →
      T (state.withFiles files)) (herror : ∀ state, P state → E state) :
    Ensures reliable P (modify (onFiles change)) (fun _ => T) E := by
  apply ensures_modify
  · intro state state' hstate hchange
    obtain ⟨files, hfiles, rfl⟩ := onFiles_eq_ok.mp hchange
    exact hok state files hstate hfiles
  · exact fun state hstate _ => herror state hstate

end

section

variable {blake3 : Bytes → Digest} {sizes : ReadSizes}
  {reliable : (Receiver → IoResult Receiver) → Prop} {files : FileTree}
  {temporary basisPath outputPath : RelativePath} {basis : FileNode} {target : Nat}

/-- The temporary file with the bytes that have been written into its full length. -/
def Written (files : FileTree) (temporary : RelativePath) (target : Nat) (written : Bytes)
    (state : Receiver) : Prop :=
  Building files temporary (overwrite 0 (List.replicate target 0) 0 written) state.files

/-- What is left when building stops. -/
def Unfinished (files : FileTree) (temporary : RelativePath) (state : Receiver) : Prop :=
  ∃ content, Building files temporary content state.files

theorem Written.unfinished {written : Bytes} {state : Receiver}
    (h : Written files temporary target written state) : Unfinished files temporary state := ⟨_, h⟩

/-- Bytes written behind those that are there. -/
theorem writeAt_ensures (written bytes : Bytes) :
    Ensures reliable (Written files temporary target written)
      (writeAt temporary written.length bytes)
      (fun _ => Written files temporary target (written ++ bytes))
      (Unfinished files temporary) := by
  apply ensures_change
  · intro state files' hstate hwrite
    obtain ⟨hcontent, hframe⟩ := writeAt_eq_ok hstate.content hwrite
    have happend := overwrite_append (0 : UInt8) (List.replicate target 0) written bytes 0
    rw [Nat.zero_add] at happend
    rw [happend] at hcontent
    exact hstate.change hcontent hframe
  · exact fun state hstate => hstate.unfinished

/-- A range of the basis is copied as it was before anything was built. -/
theorem copyBasisRange_ensures (hbasis : files basisPath = some (.file basis)) :
    ∀ (fuel position remaining : Nat) (written : Bytes), remaining ≤ fuel →
      position + remaining ≤ basis.content.1.length →
      Ensures reliable (Written files temporary target written)
        (copyBasisRange sizes basisPath temporary fuel position remaining written)
        (fun written' state => written' = written ++ range basis.content.1 position remaining ∧
          Written files temporary target written' state)
        (Unfinished files temporary) := by
  intro fuel
  induction fuel with
  | zero =>
    intro position remaining written hfuel hin
    have hzero : remaining = 0 := by omega
    refine ensures_ret (fun state hstate => ⟨?_, hstate⟩)
    rw [hzero, range, List.take_zero, List.append_nil]
  | succ fuel ih =>
    intro position remaining written hfuel hin
    rw [copyBasisRange]
    by_cases hmore : 0 < remaining
    · rw [if_pos hmore]
      set count := sizes.size (min remaining reconstructionBufferBytes)
        (basis.content.1.length - position) with hcount
      have hle := sizes.le (min remaining reconstructionBufferBytes)
        (basis.content.1.length - position)
      have hpiece : ((basis.content.1.drop position).take count).length = count := by
        rw [List.length_take, List.length_drop]
        omega
      -- The read sees the basis as it was.
      refine Ensures.bind (Q := fun chunk state =>
        chunk = (basis.content.1.drop position).take count ∧
          Written files temporary target written state) ?_ (fun chunk => ?_)
      · refine ensures_query ?_ (fun state hstate _ => hstate.unfinished)
        intro state chunk hstate hread
        obtain ⟨node, hopen, hread⟩ := bind_eq_ok.mp hread
        rw [openFile_eq_ok, hstate.basis hbasis] at hopen
        cases hopen
        cases hread
        exact ⟨rfl, hstate⟩
      refine Ensures.bind (Q := fun _ state => chunk ≠ [] ∧
        chunk = (basis.content.1.drop position).take count ∧
          Written files temporary target written state) ?_ (fun _ => ?_)
      · refine ensures_lift ?_ (fun state hstate => hstate.2.unfinished)
        exact fun _ hensure state hstate => ⟨ensure_eq_ok.mp hensure, hstate⟩
      refine Ensures.of_states (fun start hstart => ?_)
      obtain ⟨hne, hchunk, hwritten⟩ := hstart
      have hlength : chunk.length = count := by rw [hchunk, hpiece]
      have hpos : 0 < chunk.length := List.length_pos_of_ne_nil hne
      refine Ensures.imp ?_ (P := Written files temporary target written)
        (fun state hstate => hstate ▸ hwritten) (fun _ _ h => h) (fun _ h => h)
      refine (writeAt_ensures written chunk).bind (fun _ => ?_)
      refine Ensures.bind (Q := fun _ => Written files temporary target (written ++ chunk))
        ?_ (fun _ => ?_)
      · exact ensures_lift (fun _ _ state hstate => hstate)
          (fun state hstate => hstate.unfinished)
      refine (ih (position + chunk.length) (remaining - chunk.length) (written ++ chunk)
        (by omega) (by omega)).imp (fun _ h => h) ?_ (fun _ h => h)
      intro written' state hdone
      refine ⟨?_, hdone.2⟩
      rw [hdone.1, List.append_assoc]
      congr 1
      rw [hchunk, hpiece, range, range, ← List.drop_drop]
      have hsplit := List.take_add (l := basis.content.1.drop position) (i := count)
        (j := remaining - count)
      rw [Nat.add_sub_cancel' (by omega)] at hsplit
      exact hsplit.symm
    · rw [if_neg hmore]
      have hzero : remaining = 0 := by omega
      refine ensures_ret (fun state hstate => ⟨?_, hstate⟩)
      rw [hzero, range, List.take_zero, List.append_nil]

/-- The operations write what they describe. -/
theorem executeOperations_ensures (hbasis : files basisPath = some (.file basis)) :
    ∀ (operations : List ReconstructionOp) (written : Bytes),
      Ensures reliable (Written files temporary target written)
        (executeOperations sizes basisPath temporary basis.content.1.length operations written)
        (fun written' state => written' = written ++ describedTarget basis.content.1 operations ∧
          Written files temporary target written' state)
        (Unfinished files temporary) := by
  intro operations
  induction operations with
  | nil =>
    intro written
    exact ensures_ret (fun state hstate => ⟨(List.append_nil _).symm, hstate⟩)
  | cons operation rest ih =>
    intro written
    cases operation with
    | basis offset length =>
      rw [executeOperations]
      refine Ensures.bind (Q := fun rangeEnd state => rangeEnd = offset + length ∧
        Written files temporary target written state) ?_ (fun rangeEnd => ?_)
      · refine ensures_lift ?_ (fun state hstate => hstate.unfinished)
        intro rangeEnd hadd state hstate
        rw [okOrElse_eq_ok, checkedAdd_eq_some] at hadd
        exact ⟨hadd.2.symm, hstate⟩
      refine Ensures.bind (Q := fun _ state => offset + length ≤ basis.content.1.length ∧
        Written files temporary target written state) ?_ (fun _ => ?_)
      · refine ensures_lift ?_ (fun state hstate => hstate.2.unfinished)
        exact fun _ hensure state hstate => ⟨hstate.1 ▸ ensure_eq_ok.mp hensure, hstate.2⟩
      refine Ensures.of_states (fun start hstart => ?_)
      refine Ensures.imp ?_ (P := Written files temporary target written)
        (fun state hstate => hstate ▸ hstart.2) (fun _ _ h => h) (fun _ h => h)
      refine (copyBasisRange_ensures hbasis length offset length written le_rfl hstart.1).bind
        (fun copied => ?_)
      refine Ensures.of_states (fun middle hmiddle => ?_)
      refine (ih copied).imp (fun state hstate => hstate ▸ hmiddle.2) ?_ (fun _ h => h)
      intro written' state hdone
      refine ⟨?_, hdone.2⟩
      rw [hdone.1, hmiddle.1, List.append_assoc]
      rfl
    | literal contents =>
      rw [executeOperations]
      refine (writeAt_ensures written contents).bind (fun _ => ?_)
      refine Ensures.bind
        (Q := fun _ => Written files temporary target (written ++ contents)) ?_ (fun _ => ?_)
      · exact ensures_lift (fun _ _ state hstate => hstate)
          (fun state hstate => hstate.unfinished)
      refine (ih (written ++ contents)).imp (fun _ h => h) ?_ (fun _ h => h)
      intro written' state hdone
      refine ⟨?_, hdone.2⟩
      rw [hdone.1, List.append_assoc]
      rfl

/-- The plan has been checked against what was written. -/
theorem reconstructFrom_ensures {plan : ReconstructionPlan}
    (hbasis : files basisPath = some (.file basis)) :
    Ensures reliable (fun state => Building files temporary [] state.files)
      (reconstructFrom blake3 sizes basisPath temporary basis.content.1.length plan)
      (fun _ state => (describedTarget basis.content.1 plan.operations).length = plan.targetBytes ∧
        blake3 (describedTarget basis.content.1 plan.operations) = plan.targetDigest ∧
        Building files temporary (describedTarget basis.content.1 plan.operations) state.files)
      (Unfinished files temporary) := by
  rw [reconstructFrom]
  refine Ensures.bind (Q := fun _ => Written files temporary plan.targetBytes []) ?_
    (fun _ => ?_)
  · apply ensures_change
    · intro state files' hstate hlen
      obtain ⟨hcontent, hframe⟩ := setLen_eq_ok hstate.content hlen
      rw [resize, List.length_nil, Nat.sub_zero, List.nil_append, List.take_replicate,
        Nat.min_self] at hcontent
      have hnil : overwrite (0 : UInt8) (List.replicate plan.targetBytes 0) 0 [] =
          List.replicate plan.targetBytes 0 := overwrite_nil 0 (Nat.zero_le _)
      rw [← hnil] at hcontent
      exact hstate.change hcontent hframe
    · exact fun state hstate => ⟨_, hstate⟩
  refine (executeOperations_ensures hbasis plan.operations []).bind (fun written => ?_)
  refine Ensures.bind (Q := fun _ state => written.length = plan.targetBytes ∧
    written = [] ++ describedTarget basis.content.1 plan.operations ∧
      Written files temporary plan.targetBytes written state) ?_ (fun _ => ?_)
  · refine ensures_lift ?_ (fun state hstate => hstate.2.unfinished)
    exact fun _ hensure state hstate => ⟨ensure_eq_ok.mp hensure, hstate⟩
  refine ensures_lift ?_ (fun state hstate => hstate.2.2.unfinished)
  intro _ hensure state hstate
  obtain ⟨hlength, hsame, hwritten⟩ := hstate
  rw [List.nil_append] at hsame
  rw [← hsame]
  refine ⟨hlength, ensure_eq_ok.mp hensure, ?_⟩
  unfold Written at hwritten
  rw [overwrite_all (0 : UInt8) (by rw [List.length_replicate, hlength])] at hwritten
  exact hwritten

/-- Removing the temporary file. -/
def removal (temporary : RelativePath) : Receiver → IoResult Receiver :=
  onFiles (fun files _ => files.removeFile temporary)

/-- What an error in front of the rename leaves: the same files, unless the removal of the temporary
file has failed as well. -/
def Restored (reliable : (Receiver → IoResult Receiver) → Prop) (files : FileTree)
    (temporary : RelativePath) (state : Receiver) : Prop :=
  SameFiles files state.files ∨
    (¬ reliable (removal temporary) ∧ Unfinished files temporary state)

theorem removal_ensures :
    Ensures reliable (Unfinished files temporary) (removeFile temporary)
      (fun _ => Restored reliable files temporary) (Restored reliable files temporary) := by
  apply ensures_modify
  · intro state state' hstate hremove
    obtain ⟨content, hbuilding⟩ := hstate
    obtain ⟨files', hfiles, rfl⟩ := onFiles_eq_ok.mp hremove
    exact .inl (hbuilding.removeFile hfiles)
  · intro state hstate hfault
    refine .inr ⟨?_, hstate⟩
    rcases hfault with ⟨error, herror⟩ | hunreliable
    · obtain ⟨content, hbuilding⟩ := hstate
      obtain ⟨files', hfiles⟩ := hbuilding.removable
      rw [onFiles, hfiles, ok_bind] at herror
      cases herror
    · exact hunreliable

/-- The output is the target of the plan, made of the basis as it was. -/
def Published (blake3 : Bytes → Digest) (files : FileTree)
    (temporary basisPath outputPath : RelativePath) (expectedBasisBytes : Nat)
    (plan : ReconstructionPlan) (state : Receiver) : Prop :=
  ∃ basis : FileNode, files basisPath = some (.file basis) ∧
    basis.content.1.length = expectedBasisBytes ∧
    (describedTarget basis.content.1 plan.operations).length = plan.targetBytes ∧
    blake3 (describedTarget basis.content.1 plan.operations) = plan.targetDigest ∧
    Rebuilt files temporary outputPath (describedTarget basis.content.1 plan.operations) state.files

theorem publishReconstruction_ensures {expectedBasisBytes : Nat} {plan : ReconstructionPlan}
    (hne : temporary ≠ outputPath) :
    Ensures reliable (fun state => SameFiles files state.files)
      (publishReconstruction blake3 sizes temporary basisPath outputPath expectedBasisBytes plan)
      (fun _ => Published blake3 files temporary basisPath outputPath expectedBasisBytes plan)
      (Restored reliable files temporary) := by
  rw [publishReconstruction]
  refine Ensures.bind (Q := fun _ state => SameFiles files state.files) ?_ (fun _ => ?_)
  · refine ensures_each (fun path _ => ?_)
    apply ensures_change
    · exact fun state files' hstate hdirectory => hstate.createDirectory hdirectory
    · exact fun state hstate => .inl hstate
  refine Ensures.bind (Q := fun basis state => files basisPath = some (.file basis) ∧
    SameFiles files state.files) ?_ (fun basis => ?_)
  · refine ensures_query ?_ (fun state hstate _ => .inl hstate)
    intro state basis hstate hopen
    exact ⟨(hstate basisPath basis).mp (openFile_eq_ok.mp hopen), hstate⟩
  refine Ensures.bind (Q := fun _ state => basis.content.1.length = expectedBasisBytes ∧
    files basisPath = some (.file basis) ∧ SameFiles files state.files) ?_ (fun _ => ?_)
  · refine ensures_lift ?_ (fun state hstate => .inl hstate.2)
    exact fun _ hensure state hstate => ⟨ensure_eq_ok.mp hensure, hstate⟩
  refine Ensures.of_states (fun start hstart => ?_)
  obtain ⟨hlength, hbasis, hsame⟩ := hstart
  refine Ensures.imp ?_ (P := fun state => SameFiles files state.files)
    (fun state hstate => hstate ▸ hsame) (fun _ _ h => h) (fun _ h => h)
  refine Ensures.bind (Q := fun _ state => Building files temporary [] state.files) ?_
    (fun _ => ?_)
  · apply ensures_change
    · exact fun state files' hstate hcreate => hstate.createNew hcreate
    · exact fun state hstate => .inl hstate
  refine ((reconstructFrom_ensures hbasis).onError removal_ensures).bind (fun _ => ?_)
  refine Ensures.onError (S := Unfinished files temporary) ?_ removal_ensures
  apply ensures_change
  · intro state files' hstate hreplace
    exact ⟨basis, hbasis, hlength, hstate.1, hstate.2.1, hstate.2.2.replace hne hreplace⟩
  · exact fun state hstate => ⟨_, hstate.2.2⟩

/-- The end of a reconstruction: all or nothing.  An error behind the rename is an outside failure of
the last look at the output. -/
def ReconstructionEnd (blake3 : Bytes → Digest) (reliable : (Receiver → IoResult Receiver) → Prop)
    (files : FileTree) (temporary basisPath outputPath : RelativePath) (expectedBasisBytes : Nat)
    (plan : ReconstructionPlan) (final : Receiver) : IoResult Unit → Prop
  | .ok _ => Published blake3 files temporary basisPath outputPath expectedBasisBytes plan final
  | .error _ => Restored reliable files temporary final ∨ (¬ reliable .ok ∧
      Published blake3 files temporary basisPath outputPath expectedBasisBytes plan final)

/-- Every end of a reconstruction, whatever fails on the way. -/
theorem reconstruction_all_or_nothing {processId nanos expectedBasisBytes : Nat}
    {plan : ReconstructionPlan} {state final : Receiver} {result : IoResult Unit}
    (h : Prog.Ends reliable (reconstructTo blake3 sizes processId nanos basisPath outputPath
      expectedBasisBytes plan) state result final) :
    ReconstructionEnd blake3 reliable state.files
      (reconstructionTemporary outputPath processId nanos) basisPath outputPath expectedBasisBytes
      plan final result := by
  have hne := reconstructionTemporary_ne outputPath processId nanos
  have hall : Prog.Ensures reliable (fun current => SameFiles state.files current.files)
      (reconstructTo blake3 sizes processId nanos basisPath outputPath expectedBasisBytes plan)
      (fun _ => Published blake3 state.files (reconstructionTemporary outputPath processId nanos)
        basisPath outputPath expectedBasisBytes plan)
      (fun final => Restored reliable state.files
          (reconstructionTemporary outputPath processId nanos) final ∨ (¬ reliable .ok ∧
        Published blake3 state.files (reconstructionTemporary outputPath processId nanos)
          basisPath outputPath expectedBasisBytes plan final)) := by
    rw [reconstructTo]
    refine Prog.Ensures.bind ((publishReconstruction_ensures hne).imp (fun _ h => h)
      (fun _ _ h => h) (fun _ h => .inl h)) (fun _ => ?_)
    apply Prog.ensures_query
    · exact fun current _ hpublished _ => hpublished
    · intro current hpublished hfault
      refine .inr ⟨?_, hpublished⟩
      rcases hfault with ⟨error, herror⟩ | hunreliable
      · -- The output has the length of the target, so the check itself passes.
        obtain ⟨basis, _, _, hlength, _, hrebuilt⟩ := hpublished
        obtain ⟨node, hnode, hcontent⟩ := contentAt_eq_some.mp hrebuilt.content
        simp only [openFile_eq_ok.mpr hnode, ok_bind] at herror
        rw [ensure, if_pos (by rw [hcontent, hlength])] at herror
        cases herror
      · exact hunreliable
  have hend := hall state (SameFiles.refl _) result final h
  cases result with
  | ok value => exact hend
  | error error => exact hend

end

/-! ### A failure behind the rename -/

/-- A receiver with one file of one byte. -/
def oneByteReceiver : Receiver where
  files := fun path => if path = [0x62] then
    some (.file { content := ⟨[0x7a], by norm_num [fileSizeLimit]⟩, lastWriteTime := 7
                  fileAttributes := 0x20 }) else none
  journal := ⟨0, 1, ∅, ∅⟩
  holder := none
  clock := fun _ => 8

/-- A plan that replaces the basis by `abc`. -/
def abcPlan : ReconstructionPlan where
  targetBytes := 3
  targetDigest := blake3OfAbc [0x61, 0x62, 0x63]
  operations := [.literal [0x61, 0x62, 0x63]]
  candidateChunks := 0
  referencedBytes := 0
  literalBytes := 3

/-- What the plan leaves when no call fails from outside. -/
def abcPublished : IoResult Unit × Receiver :=
  (publishReconstruction blake3OfAbc .full (reconstructionTemporary [0x62] 1 1) [0x62] [0x62] 1
    abcPlan).eval oneByteReceiver

theorem abcPublished_ok : abcPublished.1 = .ok () := by
  with_unfolding_all rfl

theorem abcPublished_content :
    abcPublished.2.files.contentAt [0x62] = some [0x61, 0x62, 0x63] := by
  with_unfolding_all rfl

theorem abcPublished_ends {reliable : (Receiver → IoResult Receiver) → Prop} :
    Ends reliable (publishReconstruction blake3OfAbc .full
      (reconstructionTemporary [0x62] 1 1) [0x62] [0x62] 1 abcPlan) oneByteReceiver (.ok ())
      abcPublished.2 := by
  apply ends_of_eval
  rw [← abcPublished_ok]
  rfl

/-- In place, with calls that never fail from outside. -/
theorem reconstruction_all_or_nothing_abc :
    ReconstructionEnd blake3OfAbc (fun _ => True) oneByteReceiver.files
      (reconstructionTemporary [0x62] 1 1) [0x62] [0x62] 1 abcPlan abcPublished.2 (.ok ()) := by
  have hend : Prog.Ends (fun _ => True) (reconstructTo blake3OfAbc .full 1 1 [0x62] [0x62] 1
      abcPlan) oneByteReceiver (.ok ()) abcPublished.2 := by
    refine abcPublished_ends.bind_ok (.run rfl ?_)
    exact Prog.ends_of_eval (by with_unfolding_all rfl)
  exact reconstruction_all_or_nothing hend

/-- A failure of the last look reports an error although the basis has been replaced. -/
theorem reconstruction_error_behind_rename :
    ∃ error final, Prog.Ends (fun _ => False) (reconstructTo blake3OfAbc .full 1 1 [0x62] [0x62] 1
      abcPlan) oneByteReceiver (.error error) final ∧
      oneByteReceiver.files.contentAt [0x62] = some [0x7a] ∧
      final.files.contentAt [0x62] = some [0x61, 0x62, 0x63] := by
  refine ⟨osError .other, abcPublished.2, ?_, rfl, abcPublished_content⟩
  refine abcPublished_ends.bind_ok ?_
  exact .fault (osError .other) (.inr not_false) (.fail _ _)

end Receiver

end NetworkCopy
