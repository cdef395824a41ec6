import NetworkCopy.Lib.Crash
import NetworkCopy.Management.PersistenceSize

/-!
# Saving the state file

`save_to_v4` writes a temporary file, moves the current file to a backup, moves the temporary
file in and removes the backup.  `load_from_v4` looks at the current file alone.  Between the
two moves there is no current file, so a manager that stops there comes back without the
state, and its next save removes the backup before it has published anything.

The three files are all that the functions touch.  A save keeps a record of the moves that it
has made; nothing reads it.
-/

namespace NetworkCopy

open LineText Crash

/-! ## Files -/

/-- A move of `save_to_v4`: `keep` is `fs::rename(path, &backup)`, `publish` is
`fs::rename(&temporary, path)`, and `restore` is `fs::rename(&backup, path)`. -/
inductive StateFileMove where
  | keep
  | publish
  | restore
  deriving DecidableEq

/-- The state file at `path`, its neighbours with the extensions `tmp` and `bak`, and the moves
that the current save has made. -/
structure StateFiles where
  primary : Option (List UInt8)
  temporary : Option (List UInt8)
  backup : Option (List UInt8)
  moves : List StateFileMove

/-- A program on the state files. -/
abbrev StateProgram := Prog StateFiles IoError

namespace StateFiles

/-- The error of a call on a file that is not there. -/
def notFound : IoError := ⟨.notFound, "", none⟩

/-- `fs::create_dir_all(parent)`. -/
def createDirAll : StateProgram Unit := .modify .ok

/-- `File::create(&temporary)`. -/
def createTemporary : StateProgram Unit :=
  .modify fun files => .ok { files with temporary := some [] }

/-- `file.write_all(bytes)`. -/
def writeTemporary (bytes : List UInt8) : StateProgram Unit :=
  .modify fun files => .ok { files with temporary := some bytes }

/-- `file.sync_all()`. -/
def syncTemporary : StateProgram Unit := .modify .ok

/-- `file.exists()`, which is false when the system cannot tell. -/
def fileExists (file : StateFiles → Option (List UInt8)) : StateProgram Bool :=
  .act .ok (fun files => .ret (file files).isSome) (fun _ => .ret false)

/-- `fs::remove_file(backup)`. -/
def removeBackup : StateProgram Unit :=
  .modify fun files =>
    if files.backup.isSome then .ok { files with backup := none } else .error notFound

/-- `fs::remove_file(&temporary)`. -/
def removeTemporary : StateProgram Unit :=
  .modify fun files =>
    if files.temporary.isSome then .ok { files with temporary := none } else .error notFound

/-- `fs::rename(path, &backup)`. -/
def keepPrimary : StateProgram Unit :=
  .modify fun files =>
    if files.primary.isSome then
      .ok { files with
        primary := none
        backup := files.primary
        moves := files.moves ++ [.keep] }
    else .error notFound

/-- `fs::rename(&temporary, path)`. -/
def renameTemporary (files : StateFiles) : Except IoError StateFiles :=
  if files.temporary.isSome then
    .ok { files with
      primary := files.temporary
      temporary := none
      moves := files.moves ++ [.publish] }
  else .error notFound

/-- `fs::rename(&backup, path)`. -/
def restoreBackup : StateProgram Unit :=
  .modify fun files =>
    if files.backup.isSome then
      .ok { files with
        primary := files.backup
        backup := none
        moves := files.moves ++ [.restore] }
    else .error notFound

/-- `let _ = call`. -/
def dropError (call : StateProgram Unit) : StateProgram Unit := call.orElse fun _ => .ret ()

/-- `if condition { call }`. -/
def onlyIf (condition : Bool) (call : StateProgram Unit) : StateProgram Unit :=
  if condition then call else pure ()

/-- `condition && file.exists()`. -/
def andExists (condition : Bool) (file : StateFiles → Option (List UInt8)) : StateProgram Bool :=
  if condition then fileExists file else pure false

end StateFiles

open StateFiles

section

variable {Address : Type} (texts : TextSupport Address) [DecidableEq Address]

/-- The branch of `save_to_v4` after a failed move of the temporary file.  The results of its
own calls are dropped. -/
def abandonSave (hadExisting : Bool) (error : IoError) : StateProgram Unit := do
  let backupExists ← andExists hadExisting StateFiles.backup
  onlyIf backupExists (dropError restoreBackup)
  dropError removeTemporary
  Prog.fail error

/-- The branch of `save_to_v4` after the new file has moved in. -/
def finishSave (hadExisting : Bool) : StateProgram Unit := do
  let backupExists ← andExists hadExisting StateFiles.backup
  onlyIf backupExists removeBackup

/-- The two moves of `save_to_v4`. -/
def replaceStateFile : StateProgram Unit := do
  let hadExisting ← StateFiles.fileExists StateFiles.primary
  onlyIf hadExisting keepPrimary
  .act renameTemporary (fun _ => finishSave hadExisting) (abandonSave hadExisting)

/-- `save_to_v4`. -/
def saveToV4 (state : ManagerPersistedState Address) : StateProgram Unit := do
  let encoded ← Prog.lift (encodeStateWithV5 texts state)
  createDirAll
  createTemporary
  writeTemporary (textBytes encoded)
  syncTemporary
  let backupExists ← StateFiles.fileExists StateFiles.backup
  onlyIf backupExists removeBackup
  replaceStateFile

/-- `load_from_v4`. -/
def loadFromV4 (files : StateFiles) : IoResult (Option (ManagerPersistedState Address)) :=
  match files.primary with
  | none => .ok none
  | some bytes => do
      let length := bytes.length
      ensure (length ≤ maxStateBytes)
        (.invalidData
          s!"manager state contains {length} bytes, exceeding the {maxStateBytes} byte limit")
      let text ← okOrElse (String.fromUTF8? bytes.toByteArray)
        (.invalidData "stream did not contain valid UTF-8")
      let state ← decodeStateWithV5 texts text.toList
      return some state

/-! ## Where a save can stop -/

omit [DecidableEq Address] texts

/-- The current file is away: it was moved to the backup, and no file has been moved in. -/
def StateFiles.Displaced (files : StateFiles) : Prop :=
  .keep ∈ files.moves ∧ .publish ∉ files.moves ∧ .restore ∉ files.moves

instance : DecidablePred StateFiles.Displaced := fun _ =>
  inferInstanceAs (Decidable (_ ∧ _ ∧ _))

section

variable (old : Option (List UInt8)) (new : List UInt8)

/-- Before the first move. -/
def Untouched (files : StateFiles) : Prop := files.moves = [] ∧ files.primary = old

/-- Before the first move, with the new text written. -/
def Written (files : StateFiles) : Prop := Untouched old files ∧ files.temporary = some new

/-- Between the moves. -/
structure KeptBack (files : StateFiles) : Prop where
  moves : files.moves = [.keep]
  primary : files.primary = none
  backup : files.backup = old
  existed : old.isSome
  temporary : files.temporary = some new

/-- After the second move. -/
def Published (files : StateFiles) : Prop := .publish ∈ files.moves ∧ files.primary = some new

/-- After the current file has been moved back. -/
def Restored (files : StateFiles) : Prop :=
  files.moves = [.keep, .restore] ∧ files.primary = old

/-- What holds wherever a save stops. -/
inductive SaveStage (files : StateFiles) : Prop
  | untouched (h : Untouched old files)
  | away (moves : files.moves = [.keep]) (primary : files.primary = none)
      (backup : files.backup = old) (existed : old.isSome)
  | published (h : Published new files)
  | restored (h : Restored old files)

variable {old new}
variable {run : StateFiles → Except IoError StateFiles}

theorem KeptBack.stage {files : StateFiles} (h : KeptBack old new files) :
    SaveStage old new files :=
  .away h.moves h.primary h.backup h.existed

theorem fileExists_alone {file : StateFiles → Option (List UInt8)}
    {I P : StateFiles → Prop} :
    (fileExists file).Alone I P
      (fun found files => P files ∧ (found = true → (file files).isSome = true)) := by
  intro files hfiles moved hmoved
  subst hmoved
  refine ⟨?_, ?_⟩
  · rintro state' ⟨⟩
    refine ⟨.inl rfl, ?_⟩
    rintro final rfl
    exact ⟨hfiles, id⟩
  · rintro error final rfl
    exact ⟨hfiles, fun h => absurd h Bool.false_ne_true⟩

/-- A call whose error is dropped. -/
theorem dropError_alone {I P Q : StateFiles → Prop} (hPQ : ∀ files, P files → Q files)
    (hrun : ∀ files files', P files → run files = .ok files' → I files' ∧ Q files') :
    (dropError (.modify run)).Alone I P (fun _ => Q) := by
  intro files hfiles moved hmoved
  subst hmoved
  refine ⟨?_, ?_⟩
  · intro files' hfiles'
    obtain ⟨hI, hQ⟩ := hrun _ _ hfiles hfiles'
    refine ⟨.inr hI, ?_⟩
    rintro final rfl
    exact hQ
  · rintro error final rfl
    exact hPQ _ hfiles

theorem modify_alone {I P Q : StateFiles → Prop}
    (hrun : ∀ files files', P files → run files = .ok files' → I files' ∧ Q files') :
    (Prog.modify run).Alone I P (fun _ => Q) :=
  Prog.triple_modify (Prog.stable_eq P) (Prog.stable_eq Q) fun files files' hfiles hfiles' =>
    ⟨.inr (hrun files files' hfiles hfiles').1, (hrun files files' hfiles hfiles').2⟩

theorem ret_alone {α : Type} {value : α} {I P : StateFiles → Prop} :
    (Prog.ret value : StateProgram α).Alone I P (fun _ => P) :=
  Prog.triple_ret (Prog.stable_eq P) fun _ h => h

/-- A call on a condition. -/
theorem when_alone {condition : Bool} {call : StateProgram Unit} {I P Q : StateFiles → Prop}
    (hskip : condition = false → ∀ files, P files → Q files)
    (hcall : condition = true → call.Alone I P (fun _ => Q)) :
    (onlyIf condition call).Alone I P (fun _ => Q) := by
  cases condition with
  | false => exact ret_alone.imp (hskip rfl) fun _ _ h => h
  | true => exact hcall rfl

/-- After a failed move, from the stage the save is in. -/
theorem abandonSave_alone {hadExisting : Bool} {error : IoError} :
    (abandonSave hadExisting error).Alone (SaveStage old new)
      (fun files => if hadExisting then KeptBack old new files else Written old new files)
      (fun _ _ => False) := by
  have hrestored : ∀ files files' : StateFiles, KeptBack old new files →
      (if files.backup.isSome then
        Except.ok { files with
          primary := files.backup
          backup := none
          moves := files.moves ++ [.restore] }
      else .error notFound) = .ok files' → Restored old files' := by
    intro files files' hkept hrun
    split at hrun
    · cases hrun
      exact ⟨by rw [hkept.moves]; rfl, hkept.backup⟩
    · cases hrun
  let Stage (files : StateFiles) : Prop :=
    Untouched old files ∨ (files.moves = [.keep] ∧ files.primary = none ∧
      files.backup = old ∧ old.isSome) ∨ Restored old files
  have hstage : ∀ files, Stage files → SaveStage old new files := by
    intro files hfiles
    rcases hfiles with huntouched | ⟨hmoves, hprimary, hbackup, hexisted⟩ | hrestored
    · exact .untouched huntouched
    · exact .away hmoves hprimary hbackup hexisted
    · exact .restored hrestored
  have hfinal : (dropError removeTemporary >>= fun _ => (Prog.fail error : StateProgram Unit)).Alone
      (SaveStage old new) Stage (fun _ _ => False) := by
    refine Prog.Alone.bind (dropError_alone (Q := Stage) (fun _ h => h) ?_)
      fun _ _ _ => trivial
    intro files files' hfiles hrun
    split at hrun
    · cases hrun
      have hkept : Stage { files with temporary := none } := hfiles
      exact ⟨hstage _ hkept, hkept⟩
    · cases hrun
  have hkeptStage : ∀ files, KeptBack old new files → Stage files := fun files hkept =>
    .inr (.inl ⟨hkept.moves, hkept.primary, hkept.backup, hkept.existed⟩)
  unfold abandonSave
  cases hadExisting with
  | false => exact hfinal.imp (fun files hfiles => .inl hfiles.1) fun _ _ h => h
  | true =>
    refine Prog.Alone.bind fileExists_alone fun found => ?_
    refine Prog.Triple.bind (Q := fun _ => Stage) (fun _ => rfl)
      (when_alone (fun _ files hfiles => hkeptStage files hfiles.1) fun _ => ?_) fun _ => hfinal
    refine dropError_alone (fun files hfiles => hkeptStage files hfiles.1) ?_
    intro files files' hfiles hrun
    have hback := hrestored files files' hfiles.1 hrun
    exact ⟨.restored hback, .inr (.inr hback)⟩

theorem finishSave_alone {hadExisting : Bool} :
    (finishSave hadExisting).Alone (SaveStage old new) (Published new)
      (fun _ => Published new) := by
  have hremove : removeBackup.Alone (SaveStage old new) (Published new) (fun _ => Published new) := by
    refine modify_alone fun files files' hfiles hrun => ?_
    split at hrun
    · cases hrun
      have hkept : Published new { files with backup := none } := hfiles
      exact ⟨.published hkept, hkept⟩
    · cases hrun
  unfold finishSave
  cases hadExisting with
  | false => exact ret_alone
  | true =>
    refine Prog.Alone.bind fileExists_alone fun found => ?_
    refine when_alone (fun _ files hfiles => hfiles.1) fun _ => ?_
    exact hremove.imp (fun _ h => h.1) fun _ _ h => h

theorem replaceStateFile_alone :
    replaceStateFile.Alone (SaveStage old new) (Written old new) (fun _ => Published new) := by
  unfold replaceStateFile
  refine Prog.Alone.bind fileExists_alone fun hadExisting => ?_
  let Stage (files : StateFiles) : Prop :=
    if hadExisting then KeptBack old new files else Written old new files
  refine Prog.Triple.bind (Q := fun _ => Stage) (fun _ => rfl) (when_alone ?_ ?_) fun _ => ?_
  · intro hnone files hfiles
    show if hadExisting = true then _ else _
    rw [hnone]
    exact hfiles.1
  · intro hsome
    refine modify_alone fun files files' hfiles hrun => ?_
    obtain ⟨⟨⟨hmoves, hprimary⟩, htemporary⟩, _⟩ := hfiles
    split at hrun
    · next hexists =>
        cases hrun
        have hkept : KeptBack old new { files with
            primary := none
            backup := files.primary
            moves := files.moves ++ [.keep] } :=
          ⟨by rw [hmoves]; rfl, rfl, hprimary, hprimary ▸ hexists, htemporary⟩
        refine ⟨hkept.stage, ?_⟩
        show if hadExisting = true then _ else _
        rw [hsome]
        exact hkept
    · cases hrun
  · intro files hfiles moved hmoved
    subst hmoved
    refine ⟨?_, fun error => (abandonSave_alone _ hfiles).mono fun _ _ h => h.elim⟩
    intro files' hrun
    have htemporary : files.temporary = some new := by
      have hstage : if hadExisting = true then KeptBack old new files else Written old new files :=
        hfiles
      split at hstage
      · exact hstage.temporary
      · exact hstage.2
    unfold renameTemporary at hrun
    rw [htemporary] at hrun
    cases hrun
    have hpublished : Published new { files with
        primary := some new
        temporary := none
        moves := files.moves ++ [.publish] } := ⟨by simp, rfl⟩
    exact ⟨.inr (.published hpublished), finishSave_alone _ hpublished⟩

end

variable {Address : Type} (texts : TextSupport Address) [DecidableEq Address]
variable {state : ManagerPersistedState Address}
variable {text : List Char}

/-- Wherever a save stops, the files are in one of its stages; when it returns, the new text
is published. -/
theorem saveToV4_alone {old : Option (List UInt8)}
    (hencode : encodeStateWithV5 texts state = .ok text) :
    (saveToV4 texts state).Alone (SaveStage old (textBytes text)) (Untouched old)
      (fun _ => Published (textBytes text)) := by
  have hkeep : ∀ run : StateFiles → Except IoError StateFiles,
      (∀ files files', run files = .ok files' →
        files'.moves = files.moves ∧ files'.primary = files.primary) →
      (Prog.modify run).Alone (SaveStage old (textBytes text)) (Untouched old)
        (fun _ => Untouched old) := by
    intro run hrun
    refine modify_alone fun files files' hfiles hfiles' => ?_
    obtain ⟨hmoves, hprimary⟩ := hrun files files' hfiles'
    have huntouched : Untouched old files' := ⟨hmoves.trans hfiles.1, hprimary.trans hfiles.2⟩
    exact ⟨.untouched huntouched, huntouched⟩
  have hwritten : ∀ run : StateFiles → Except IoError StateFiles,
      (∀ files files', run files = .ok files' → files'.moves = files.moves ∧
        files'.primary = files.primary ∧ files'.temporary = files.temporary) →
      (Prog.modify run).Alone (SaveStage old (textBytes text)) (Written old (textBytes text))
        (fun _ => Written old (textBytes text)) := by
    intro run hrun
    refine modify_alone fun files files' hfiles hfiles' => ?_
    obtain ⟨hmoves, hprimary, htemporary⟩ := hrun files files' hfiles'
    have huntouched : Untouched old files' :=
      ⟨hmoves.trans hfiles.1.1, hprimary.trans hfiles.1.2⟩
    exact ⟨.untouched huntouched, huntouched, htemporary.trans hfiles.2⟩
  unfold saveToV4
  rw [hencode]
  show (createDirAll >>= _).Alone _ _ _
  refine Prog.Alone.bind (hkeep _ ?_) fun _ => ?_
  · rintro files files' ⟨⟩
    exact ⟨rfl, rfl⟩
  refine Prog.Alone.bind (hkeep _ ?_) fun _ => ?_
  · rintro files files' ⟨⟩
    exact ⟨rfl, rfl⟩
  refine Prog.Triple.bind (Q := fun _ => Written old (textBytes text)) (fun _ => rfl)
    (modify_alone ?_) fun _ => ?_
  · rintro files files' hfiles ⟨⟩
    exact ⟨.untouched hfiles, hfiles, rfl⟩
  refine Prog.Alone.bind (hwritten _ ?_) fun _ => ?_
  · rintro files files' ⟨⟩
    exact ⟨rfl, rfl, rfl⟩
  refine Prog.Alone.bind fileExists_alone fun found => ?_
  refine Prog.Alone.bind (when_alone (Q := Written old (textBytes text))
    (fun _ files hfiles => hfiles.1) fun _ => ?_) fun _ => replaceStateFile_alone
  refine (hwritten _ ?_).imp (fun _ h => h.1) fun _ _ h => h
  intro files files' hrun
  split at hrun
  · cases hrun
    exact ⟨rfl, rfl, rfl⟩
  · cases hrun

/-! ## Loading what a save left -/

variable {files : StateFiles}
variable {bytes : List UInt8}

theorem loadFromV4_none (hprimary : files.primary = none) :
    loadFromV4 texts files = .ok none := by
  unfold loadFromV4
  rw [hprimary]

/-- Only the current file is looked at. -/
theorem loadFromV4_congr {files files' : StateFiles} (hprimary : files.primary = files'.primary) :
    loadFromV4 texts files = loadFromV4 texts files' := by
  unfold loadFromV4
  rw [hprimary]

theorem loadFromV4_ne_none (hprimary : files.primary = some bytes) :
    loadFromV4 texts files ≠ .ok none := by
  unfold loadFromV4
  rw [hprimary]
  intro hload
  obtain ⟨_, hload⟩ := bind_rest hload
  obtain ⟨_, hload⟩ := bind_rest hload
  obtain ⟨_, hload⟩ := bind_rest hload
  cases hload

/-- The file of a text that the decoder accepts is loaded. -/
theorem loadFromV4_text (hsize : (textBytes text).length ≤ maxStateBytes)
    (hdecode : decodeStateWithV5 texts text = .ok state)
    (hprimary : files.primary = some (textBytes text)) :
    loadFromV4 texts files = .ok (some state) := by
  have hstring : String.fromUTF8? (textBytes text).toByteArray = some (String.ofList text) := by
    show String.fromUTF8? (String.ofList text).toByteArray = _
    unfold String.fromUTF8?
    rw [dif_pos (String.ofList text).isValidUTF8]
    rfl
  unfold loadFromV4
  rw [hprimary]
  show (do
    ensure ((textBytes text).length ≤ maxStateBytes) _
    let text ← okOrElse (String.fromUTF8? (textBytes text).toByteArray) _
    let state ← decodeStateWithV5 texts text.toList
    return some state) = _
  rw [hstring, ensure_eq_ok (u := ()).mpr hsize]
  show (decodeStateWithV5 texts (String.ofList text).toList >>= _) = _
  rw [String.toList_ofList, hdecode]
  rfl

/-- What has been published is loaded. -/
theorem loadFromV4_published (hlawful : texts.Lawful)
    (hencode : encodeStateWithV5 texts state = .ok text)
    (hfiles : Published (textBytes text) files) : loadFromV4 texts files = .ok (some state) := by
  obtain ⟨hvalid, hsizeV3, hsizeV4, hsizeV5, htext⟩ := (encodeStateWithV5_eq_ok texts).mp hencode
  have hdecode := decodeStateWithV5_textV5 texts hlawful hvalid hsizeV5 hsizeV4 hsizeV3
  exact loadFromV4_text texts (htext ▸ hsizeV5) (htext ▸ hdecode) hfiles.2

/-! ## Stopping a save -/

/-- The files that a save of `state` leaves when it stops after some of its calls. -/
def SaveStops (state : ManagerPersistedState Address) (before after : StateFiles) : Prop :=
  ∃ rest, Prog.Steps (saveToV4 texts state, { before with moves := [] }) (rest, after)

/-- A save stops in one of its stages.  What it has published is the state. -/
theorem saveStops_stage (hlawful : texts.Lawful) {before after : StateFiles}
    (hstop : SaveStops texts state before after) :
    ∃ new, SaveStage before.primary new after ∧
      (Published new after → loadFromV4 texts after = .ok (some state)) := by
  obtain ⟨rest, hsteps⟩ := hstop
  have hbefore : Untouched before.primary { before with moves := [] } := ⟨rfl, rfl⟩
  cases hencode : encodeStateWithV5 texts state with
  | ok text =>
    exact ⟨textBytes text,
      (saveToV4_alone texts hencode).reached hbefore (.untouched hbefore) hsteps,
      loadFromV4_published texts hlawful hencode⟩
  | error error =>
    -- A state that is refused is not written.
    have hfail : saveToV4 texts state = Prog.fail error := by
      unfold saveToV4
      rw [hencode]
      rfl
    rw [hfail] at hsteps
    rcases Relation.ReflTransGen.cases_head hsteps with hsame | ⟨_, hfirst, _⟩
    · cases hsame
      refine ⟨[], .untouched hbefore, fun hpublished => ?_⟩
      exact absurd hpublished.1 List.not_mem_nil
    · cases hfirst

/-- The files hold a copy of a text. -/
def StateFiles.Holds (files : StateFiles) (bytes : List UInt8) : Prop :=
  files.primary = some bytes ∨ files.backup = some bytes

/-- A later save does not lose the current file: wherever it stops, a copy is left or the later
state is loaded. -/
theorem saveStops_holds (hlawful : texts.Lawful) {later : ManagerPersistedState Address}
    {after final : StateFiles} (hprimary : after.primary = some bytes)
    (hstop : SaveStops texts later after final) :
    final.Holds bytes ∨ loadFromV4 texts final = .ok (some later) := by
  obtain ⟨new, hstage, hload⟩ := saveStops_stage texts hlawful hstop
  cases hstage with
  | untouched h => exact .inl (.inl (h.2.trans hprimary))
  | away _ _ hbackup _ => exact .inl (.inr (hbackup.trans hprimary))
  | published h => exact .inr (hload h)
  | restored h => exact .inl (.inl (h.2.trans hprimary))

/-- What a stopped save should leave: one of the two states loads, an old state is not lost, and
no later save, wherever it stops, loses the copy that survived. -/
structure SafeStop (state : ManagerPersistedState Address) (before after : StateFiles) : Prop where
  loads : loadFromV4 texts after = loadFromV4 texts before ∨
    loadFromV4 texts after = .ok (some state)
  keeps : loadFromV4 texts before ≠ .ok none → loadFromV4 texts after ≠ .ok none
  succeeds : ∃ loaded, loadFromV4 texts after = .ok loaded
  survives : ∀ bytes, after.primary = some bytes ∨
      (after.primary = none ∧ before.primary = some bytes ∧ after.backup = some bytes) →
    ∀ later final, SaveStops texts later after final →
      final.Holds bytes ∨ loadFromV4 texts final = .ok (some later)

theorem SaveStage.displaced {old : Option (List UInt8)} {new : List UInt8}
    (hstage : SaveStage old new files) (hdisplaced : files.Displaced) :
    files.primary = none ∧ old.isSome = true := by
  obtain ⟨hkeep, hpublish, hrestore⟩ := hdisplaced
  cases hstage with
  | untouched h => exact absurd (h.1 ▸ hkeep) (List.not_mem_nil)
  | away _ hprimary _ hexisted => exact ⟨hprimary, hexisted⟩
  | published h => exact absurd h.1 hpublish
  | restored h =>
    rw [h.1] at hrestore
    exact absurd (by simp) hrestore

/-- A stop where the current file is not away leaves it as it was, or published. -/
theorem SaveStage.in_place {old : Option (List UInt8)} {new : List UInt8}
    (hstage : SaveStage old new files) (hplace : ¬ files.Displaced) :
    files.primary = old ∨ Published new files := by
  cases hstage with
  | untouched h => exact .inl h.2
  | away hmoves _ _ _ =>
    refine absurd ?_ hplace
    unfold StateFiles.Displaced
    rw [hmoves]
    decide
  | published h => exact .inr h
  | restored h => exact .inl h.2

/-- Every save over an old file has the point between its moves. -/
theorem saveStops_displaced {before : StateFiles}
    (hencode : encodeStateWithV5 texts state = .ok text)
    (hprimary : before.primary = some bytes) (hbackup : before.backup = none) :
    ∃ after, SaveStops texts state before after ∧ after.Displaced := by
  obtain ⟨primary, temporary, backup, moves⟩ := before
  cases hprimary
  cases hbackup
  refine ⟨⟨none, some (textBytes text), some bytes, [.keep]⟩, ⟨?_, ?_⟩, by simp [Displaced]⟩
  · exact .act renameTemporary (fun _ => finishSave true) (abandonSave true)
  unfold saveToV4
  rw [hencode]
  -- The directory, the new file's three calls, the search for a backup, and the first move.
  refine .head (.run rfl) (.head (.run rfl) (.head (.run rfl) (.head (.run rfl) ?_)))
  refine .head (.run rfl) (.head (.run rfl) (.head (.run rfl) ?_))
  exact .refl

theorem default_encodes : ∃ text, encodeStateWithV5 loopbackTexts .default = .ok text := by
  have hvalid := validateState_eq_ok.mp
    (show validateState (.default : ManagerPersistedState LoopbackAgent) = .ok () from
      ManagerPersistedState.default_validate)
  have hsize := byteCount_textV5_le loopbackTexts loopbackTexts_lawful hvalid.queue.length_le
    hvalid.history_le
  have htotal : (.default : ManagerPersistedState LoopbackAgent).textTotal ≤ 1900000 := by decide
  refine (encodeStateWithV5_iff loopbackTexts hvalid).mpr (hsize.trans ?_)
  simp only [maxStateBytes]
  omega

end

end NetworkCopy
