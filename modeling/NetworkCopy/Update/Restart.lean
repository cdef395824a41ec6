import NetworkCopy.Update.Cleanup

/-!
# Restarting the clean-up of an update

A clean-up that stops has removed the first files of its list.  When none of them is the installed
program, the transaction is still there as long as any of its files is, and recovery removes the
rest.
-/

namespace NetworkCopy

open Crash Prog

namespace RecoveryEnv

variable {env : RecoveryEnv} {entries : DirectoryListing} {handoff : UpdateHandoffPlan}

/-- What the clean-up of an update starts from: the handoff plan, the new program as the installed
one, and no startup marker or that of a process that is gone. -/
structure Transaction (env : RecoveryEnv) (handoff : UpdateHandoffPlan) (files : Volume) : Prop where
  plan : ∃ encoded, env.fileAt files handoff.handoffPlan = some encoded ∧
    decodeUpdateHandoffPlan env.pathOf encoded = .ok handoff
  installed : ∃ content, env.fileAt files handoff.installPath = some content ∧
    env.Matches content handoff.expectedSize.toNat handoff.expectedSha256Hex
  marker : ∀ encoded, env.fileAt files handoff.startupMarker = some encoded → ∃ marker,
    decodeUpdateStartupMarker encoded = .ok marker ∧
    validateStartupMarkerForHandoff marker handoff = .ok () ∧
    marker.processId ≠ env.processId ∧ env.openProcess marker.processId = .ok false

/-- The clean-up of an update can be restarted, and loses nothing else. -/
structure CleanupRestartable (env : RecoveryEnv) (handoff : UpdateHandoffPlan) : Prop where
  installKept : ∀ entries files p state,
    Prog.Steps (env.removeSuccessfulUpdateTransactionFiles entries handoff, files) (p, state) →
      env.fileAt state handoff.installPath = env.fileAt files handoff.installPath
  unknownKept : ∀ entries files p state paths, successfulUpdateCleanupPaths handoff = .ok paths →
    ¬ env.OnlyKnown entries handoff paths files →
    Prog.Steps (env.removeSuccessfulUpdateTransactionFiles entries handoff, files) (p, state) →
      state = files
  planLast : ∀ entries files p state paths, successfulUpdateCleanupPaths handoff = .ok paths →
    (env.fileAt files handoff.handoffPlan).isSome →
    Prog.Steps (env.removeSuccessfulUpdateTransactionFiles entries handoff, files) (p, state) →
    (∃ path ∈ paths, (env.fileAt state path).isSome) →
      (env.fileAt state handoff.handoffPlan).isSome
  recovered : ∀ entries files p state paths current,
    successfulUpdateCleanupPaths handoff = .ok paths → env.Transaction handoff files →
    env.OnlyKnown entries handoff paths files → entries.subdirectories = [] →
    Prog.Steps (env.removeSuccessfulUpdateTransactionFiles entries handoff, files) (p, state) →
    (∃ path ∈ paths, (env.fileAt state path).isSome) →
    current.isAbsolute → current.key env.upcase = handoff.installPath.key env.upcase →
      ∃ present state', (env.recoverInterruptedUpdateCleanupFromHandoff entries current
          handoff.handoffPlan handoff.artifactKind).eval state =
            (.ok (.cleaned handoff.stagingDirectory present), state') ∧
        (∀ path ∈ paths, env.fileAt state' path = none) ∧
        env.fileAt state' handoff.installPath = env.fileAt files handoff.installPath
  recoveryKept : ∀ entries files p state current kind,
    (∃ encoded, env.fileAt files handoff.handoffPlan = some encoded ∧
      decodeUpdateHandoffPlan env.pathOf encoded = .ok handoff) →
    Prog.Steps (env.recoverInterruptedUpdateCleanupFromHandoff entries current handoff.handoffPlan
      kind, files) (p, state) →
      env.fileAt state handoff.installPath = env.fileAt files handoff.installPath

/-! ## Where a removal stops -/

variable {paths : List WinPath}

theorem fileAt_removeAll_cases (paths : List WinPath) (files : Volume) (other : WinPath) :
    env.fileAt (env.removeAll paths files) other = none ∨
      env.fileAt (env.removeAll paths files) other = env.fileAt files other := by
  by_cases h : ∃ path ∈ paths, path.key env.upcase = other.key env.upcase
  · obtain ⟨path, hpath, hsame⟩ := h
    left
    have hgone : env.fileAt (env.removeAll paths files) path = none :=
      fileAt_removeAll_of_mem hpath
    unfold UpdateEnv.fileAt at hgone ⊢
    rw [← hsame]
    exact hgone
  · right
    apply fileAt_removeAll_of_ne
    intro path hpath hsame
    exact h ⟨path, hpath, hsame⟩

/-- No file of the transaction is the installed program, whatever the case of the letters. -/
def InstallApart (env : RecoveryEnv) (handoff : UpdateHandoffPlan) : Prop :=
  ∀ paths, successfulUpdateCleanupPaths handoff = .ok paths →
    ∀ path ∈ paths, path.key env.upcase ≠ handoff.installPath.key env.upcase

/-- A list of files to remove needs an installed program with a file name. -/
theorem installPath_of_cleanupPaths (h : successfulUpdateCleanupPaths handoff = .ok paths) :
    ∃ (directory : WinPath) (name : List UInt16), handoff.installPath = directory.join name := by
  unfold successfulUpdateCleanupPaths at h
  obtain ⟨candidate, hcandidate, _⟩ := bind_eq_ok.mp h
  unfold updateInstallCandidatePath at hcandidate
  obtain ⟨directory, hdirectory, hrest⟩ := bind_eq_ok.mp hcandidate
  obtain ⟨name, hname, _⟩ := bind_eq_ok.mp hrest
  exact ⟨directory, name,
    WinPath.eq_join (okOrElse_eq_ok.mp hdirectory) (okOrElse_eq_ok.mp hname)⟩

/-- A file that is not of the transaction stays. -/
theorem Progress.kept {files state : Volume} {program : WinPath}
    (hother : ∀ paths, successfulUpdateCleanupPaths handoff = .ok paths →
      ∀ path ∈ paths, path.key env.upcase ≠ program.key env.upcase)
    (h : env.Progress entries handoff files state) :
    env.fileAt state program = env.fileAt files program := by
  cases h with
  | inl hsame => rw [hsame]
  | inr hremoved =>
    obtain ⟨paths, front, rest, hpaths, _, hsplit, hstate⟩ := hremoved
    rw [hstate]
    apply fileAt_removeAll_of_ne
    intro path hpath
    exact hother paths hpaths path (by rw [hsplit]; exact List.mem_append_left _ hpath)

theorem Progress.install_kept {files state : Volume} (happart : env.InstallApart handoff)
    (h : env.Progress entries handoff files state) :
    env.fileAt state handoff.installPath = env.fileAt files handoff.installPath :=
  h.kept happart

/-- As long as a file of the transaction is there, the handoff plan is as it was. -/
theorem Progress.plan_kept {files state : Volume} (haccepted : handoff.Accepted)
    (hpaths : successfulUpdateCleanupPaths handoff = .ok paths)
    (h : env.Progress entries handoff files state)
    (hleft : ∃ path ∈ paths, (env.fileAt state path).isSome) :
    env.fileAt state handoff.handoffPlan = env.fileAt files handoff.handoffPlan := by
  cases h with
  | inl hsame => rw [hsame]
  | inr hremoved =>
    obtain ⟨paths', front, rest, hpaths', _, hsplit, hstate⟩ := hremoved
    cases hpaths.symm.trans hpaths'
    obtain ⟨directory, name, hinstall⟩ := installPath_of_cleanupPaths hpaths
    obtain ⟨others, hlast, hothers⟩ : ∃ others, paths = others ++ [handoff.handoffPlan] ∧
        ∀ path ∈ others, path.key env.upcase ≠ handoff.handoffPlan.key env.upcase :=
      successfulUpdateCleanupPaths_last haccepted hinstall hpaths
    rw [hstate]
    apply fileAt_removeAll_of_ne
    intro path hpath
    apply hothers path
    -- Something is left, so the last file has not been removed.
    cases List.eq_nil_or_concat rest with
    | inl hnil =>
      obtain ⟨left, hmem, hsome⟩ := hleft
      rw [hsplit, hnil, List.append_nil] at hmem
      rw [hstate, fileAt_removeAll_of_mem hmem] at hsome
      cases hsome
    | inr hconcat =>
      obtain ⟨rest', last, hrest⟩ := hconcat
      rw [hsplit, hrest, List.concat_eq_append, ← List.append_assoc] at hlast
      have hfront := (List.append_inj' hlast rfl).1
      rw [← hfront]
      exact List.mem_append_left _ hpath

/-- A stopped removal leaves the transaction, as long as it leaves any of its files. -/
theorem Progress.transaction {files state : Volume} (haccepted : handoff.Accepted)
    (happart : env.InstallApart handoff)
    (hpaths : successfulUpdateCleanupPaths handoff = .ok paths)
    (h : env.Progress entries handoff files state)
    (hleft : ∃ path ∈ paths, (env.fileAt state path).isSome)
    (hstart : env.Transaction handoff files) : env.Transaction handoff state := by
  have hplan := h.plan_kept haccepted hpaths hleft
  have hinstall := h.install_kept happart
  refine ⟨?_, ?_, ?_⟩
  · rw [hplan]
    exact hstart.plan
  · rw [hinstall]
    exact hstart.installed
  · intro encoded hencoded
    apply hstart.marker encoded
    cases h with
    | inl hsame => rw [← hsame, hencoded]
    | inr hremoved =>
      obtain ⟨_, front, _, _, _, _, hstate⟩ := hremoved
      have hmarker : env.fileAt (env.removeAll front files) handoff.startupMarker = none ∨
          env.fileAt (env.removeAll front files) handoff.startupMarker =
            env.fileAt files handoff.startupMarker := fileAt_removeAll_cases _ _ _
      cases hmarker with
      | inl hnone =>
        rw [hstate, hnone] at hencoded
        cases hencoded
      | inr hsame => rw [← hsame, ← hstate, hencoded]

theorem Progress.onlyKnown {files state : Volume} (h : env.Progress entries handoff files state)
    (hknown : env.OnlyKnown entries handoff paths files) :
    env.OnlyKnown entries handoff paths state := by
  cases h with
  | inl hsame =>
    rw [hsame]
    exact hknown
  | inr hremoved =>
    obtain ⟨_, front, _, _, _, _, hstate⟩ := hremoved
    rw [hstate]
    intro name hname
    exact hknown name (presentEntries_removeAll hname)

/-! ## A whole removal -/

variable {files : Volume}

theorem eval_ensure {condition : Prop} [Decidable condition] {error : IoError} (h : condition) :
    (.lift (ensure condition error) : FileProg Unit).eval files = (.ok (), files) := by
  rw [ensure, if_pos h]
  rfl

theorem eval_lift {α : Type} {result : IoResult α} {value : α} (h : result = .ok value) :
    (.lift result : FileProg α).eval files = (.ok value, files) := by
  rw [h]
  rfl

theorem eval_each_remove (paths : List WinPath) (files : Volume) :
    (each env.removeFileIfExists paths).eval files = (.ok (), env.removeAll paths files) := by
  induction paths generalizing files with
  | nil => rfl
  | cons path rest ih =>
    have hfirst : (env.removeFileIfExists path).eval files =
        (.ok (), env.setFile files path none) := rfl
    rw [each]
    exact (eval_bind_ok hfirst).trans (ih _)

/-- Without unknown entries and outside failures, all files of the transaction go. -/
theorem eval_removal (haccepted : handoff.Accepted)
    (hpaths : successfulUpdateCleanupPaths handoff = .ok paths)
    (hknown : env.OnlyKnown entries handoff paths files) (hflat : entries.subdirectories = []) :
    (env.removeSuccessfulUpdateTransactionFiles entries handoff).eval files =
      (.ok (), env.removeAll paths files) := by
  have hlook : (env.validateSuccessfulCleanupDirectory entries handoff paths).eval files =
      (.ok (), files) := by
    have hquery : (query (fun files =>
        .ok (env.presentEntries entries handoff.stagingDirectory files)) :
          FileProg (List (List UInt16))).eval files =
        (.ok (env.presentEntries entries handoff.stagingDirectory files), files) :=
      eval_query rfl
    unfold validateSuccessfulCleanupDirectory
    refine (eval_bind_ok hquery).trans ?_
    exact eval_lift (checkAll_eq_ok.mpr (fun name hname => ensure_eq_ok.mpr (hknown name hname)))
  have hempty : (env.removeDirectory entries handoff.stagingDirectory).eval
      (env.removeAll paths files) = (.ok (), env.removeAll paths files) := by
    apply eval_query
    apply ensure_eq_ok.mpr
    rw [List.eq_nil_iff_forall_not_mem]
    intro name hname
    have hpath := hknown name (presentEntries_removeAll hname)
    unfold presentEntries at hname
    rw [hflat, List.nil_append] at hname
    have hpresent := (List.mem_filter.mp hname).2
    rw [fileAt_removeAll_of_mem hpath] at hpresent
    cases hpresent
  unfold removeSuccessfulUpdateTransactionFiles
  refine (eval_bind_ok (eval_lift (validateUpdateHandoffPlan_eq_ok.mpr haccepted))).trans ?_
  refine (eval_bind_ok (eval_lift hpaths)).trans ?_
  refine (eval_bind_ok hlook).trans ?_
  refine (eval_bind_ok (eval_each_remove paths files)).trans ?_
  exact hempty

theorem eval_finishCleanup {present : Bool} (haccepted : handoff.Accepted)
    (hpaths : successfulUpdateCleanupPaths handoff = .ok paths)
    (hknown : env.OnlyKnown entries handoff paths files) (hflat : entries.subdirectories = []) :
    (env.finishCleanup entries handoff present).eval files =
      (.ok (.cleaned handoff.stagingDirectory present), env.removeAll paths files) :=
  eval_bind_ok (eval_removal haccepted hpaths hknown hflat)

/-! ## Recovery -/

variable {encoded : Bytes}

/-- A decoded plan has been validated, and was not too long. -/
theorem decodeUpdateHandoffPlan_inv {pathOf : List UInt16 → WinPath}
    (h : decodeUpdateHandoffPlan pathOf encoded = .ok handoff) :
    handoff.Accepted ∧ encoded.length ≤ updateHandoffMaxBytes := by
  unfold decodeUpdateHandoffPlan at h
  obtain ⟨_, hlength, h⟩ := bind_eq_ok.mp h
  obtain ⟨⟨plan, rest⟩, _, h⟩ := bind_eq_ok.mp h
  obtain ⟨_, h⟩ := bind_rest h
  obtain ⟨⟨⟩, hvalid, h⟩ := bind_eq_ok.mp h
  cases h
  exact ⟨validateUpdateHandoffPlan_eq_ok.mp hvalid, ensure_eq_ok.mp hlength⟩

theorem processId_ne_of_decode {marker : UpdateStartupMarker}
    (h : decodeUpdateStartupMarker encoded = .ok marker) : marker.processId ≠ 0 := by
  unfold decodeUpdateStartupMarker at h
  obtain ⟨_, h⟩ := bind_rest h
  obtain ⟨_, h⟩ := bind_rest h
  obtain ⟨_, h⟩ := bind_rest h
  obtain ⟨_, h⟩ := bind_rest h
  obtain ⟨⟨⟩, hvalid, h⟩ := bind_eq_ok.mp h
  cases h
  unfold validateUpdateStartupMarker at hvalid
  obtain ⟨_, hprocess, _⟩ := bind_eq_ok.mp hvalid
  exact ensure_eq_ok.mp hprocess

theorem eval_readFile {path : WinPath} {content : Bytes}
    (h : env.fileAt files path = some content) :
    (env.readFile path).eval files = (.ok content, files) :=
  eval_query (okOrElse_eq_ok.mpr h)

theorem eval_readPlan (hfile : env.fileAt files handoff.handoffPlan = some encoded)
    (hdecode : decodeUpdateHandoffPlan env.pathOf encoded = .ok handoff) :
    (env.readUpdateHandoffPlan handoff.handoffPlan).eval files = (.ok handoff, files) := by
  obtain ⟨haccepted, hlength⟩ := decodeUpdateHandoffPlan_inv hdecode
  have habsolute : handoff.handoffPlan.isAbsolute = true :=
    haccepted.absolute (handoff.handoffPlan, "handoff plan") (by simp [UpdateHandoffPlan.paths])
  unfold readUpdateHandoffPlan
  refine (eval_bind_ok (eval_ensure habsolute)).trans ?_
  refine (eval_bind_ok (eval_readFile hfile)).trans ?_
  refine (eval_bind_ok (eval_ensure hlength)).trans ?_
  refine (eval_bind_ok (eval_lift hdecode)).trans ?_
  exact eval_bind_ok (eval_ensure rfl)

theorem eval_canonicalize {path : WinPath} {content : Bytes}
    (h : env.fileAt files path = some content) :
    (env.canonicalize path).eval files = (.ok (path.key env.upcase), files) := by
  apply eval_query
  rw [h]
  rfl

/-- The installed program is recognized under every path that names it. -/
theorem eval_installedIdentity {current : WinPath} {content : Bytes}
    (habsolute : current.isAbsolute)
    (hsame : current.key env.upcase = handoff.installPath.key env.upcase)
    (hfile : env.fileAt files handoff.installPath = some content)
    (hmatches : env.Matches content handoff.expectedSize.toNat handoff.expectedSha256Hex) :
    (env.validateRecoveryInstalledIdentity current handoff).eval files = (.ok (), files) := by
  have hcurrent : env.fileAt files current = some content := by
    unfold UpdateEnv.fileAt at hfile ⊢
    rw [hsame, hfile]
  unfold validateRecoveryInstalledIdentity
  refine (eval_bind_ok (eval_ensure habsolute)).trans ?_
  refine (eval_bind_ok (eval_canonicalize hcurrent)).trans ?_
  refine (eval_bind_ok (eval_canonicalize hfile)).trans ?_
  refine (eval_bind_ok (eval_ensure hsame)).trans ?_
  exact UpdateEnv.eval_verifyPrepared hcurrent hmatches

/-- What recovery sees of the startup marker. -/
theorem eval_readMarker (hstart : env.Transaction handoff files) :
    ∃ marker, ((do return some (← env.readUpdateStartupMarker handoff.startupMarker) :
        FileProg (Option UpdateStartupMarker)).orElse (fun error =>
          if error.kind = .notFound then .ret none else .fail error)).eval files =
        (.ok marker, files) ∧
      ∀ found, marker = some found → validateStartupMarkerForHandoff found handoff = .ok () ∧
        found.processId ≠ env.processId ∧ found.processId ≠ 0 ∧
        env.openProcess found.processId = .ok false := by
  cases hfile : env.fileAt files handoff.startupMarker with
  | none =>
    have hread : (env.readUpdateStartupMarker handoff.startupMarker).eval files =
        (.error (osError .notFound), files) := by
      unfold UpdateEnv.fileAt at hfile
      simp [readUpdateStartupMarker, UpdateEnv.readFile, query, eval, okOrElse,
        UpdateEnv.fileAt, hfile]
    refine ⟨none, ?_, fun found hfound => by cases hfound⟩
    refine (eval_orElse_error (eval_bind_error hread)).trans ?_
    rfl
  | some encoded =>
    obtain ⟨marker, hdecode, hvalid, hown, hdead⟩ := hstart.marker encoded hfile
    refine ⟨some marker, ?_, ?_⟩
    · apply eval_orElse_ok
      have hread : (env.readUpdateStartupMarker handoff.startupMarker).eval files =
          (.ok marker, files) := (eval_bind_ok (eval_readFile hfile)).trans
            (eval_lift hdecode)
      exact eval_bind_ok hread
    · intro found hfound
      cases hfound
      exact ⟨hvalid, hown, processId_ne_of_decode hdecode, hdead⟩

/-- Recovery from a transaction removes all its files. -/
theorem eval_recover {current : WinPath} (hstart : env.Transaction handoff files)
    (hpaths : successfulUpdateCleanupPaths handoff = .ok paths)
    (hknown : env.OnlyKnown entries handoff paths files) (hflat : entries.subdirectories = [])
    (habsolute : current.isAbsolute)
    (hsame : current.key env.upcase = handoff.installPath.key env.upcase) :
    ∃ present, (env.recoverInterruptedUpdateCleanupFromHandoff entries current
        handoff.handoffPlan handoff.artifactKind).eval files =
      (.ok (.cleaned handoff.stagingDirectory present), env.removeAll paths files) := by
  obtain ⟨encoded, hplan, hdecode⟩ := hstart.plan
  obtain ⟨content, hinstalled, hmatches⟩ := hstart.installed
  obtain ⟨haccepted, _⟩ := decodeUpdateHandoffPlan_inv hdecode
  have hexists : (env.fileExists handoff.handoffPlan).eval files = (.ok true, files) := by
    apply eval_query
    rw [hplan]
    rfl
  have hparent : handoff.handoffPlan.parent = some handoff.stagingDirectory := by
    rw [haccepted.handoffPlan, WinPath.parent_join]
  have hrest : ∃ present, (env.recoverFromPlan entries current handoff.handoffPlan
      handoff.artifactKind handoff).eval files =
        (.ok (.cleaned handoff.stagingDirectory present), env.removeAll paths files) := by
    obtain ⟨marker, hmarker, hgone⟩ := eval_readMarker hstart
    refine ⟨marker.isSome, ?_⟩
    unfold recoverFromPlan
    refine (eval_bind_ok (eval_ensure rfl)).trans ?_
    refine (eval_bind_ok (eval_lift (okOrElse_eq_ok.mpr hparent))).trans ?_
    refine (eval_bind_ok (eval_ensure rfl)).trans ?_
    refine (eval_bind_ok (eval_ensure rfl)).trans ?_
    refine (eval_bind_ok (eval_installedIdentity habsolute hsame hinstalled hmatches)).trans ?_
    refine (eval_bind_ok hmarker).trans ?_
    cases marker with
    | none => exact eval_finishCleanup haccepted hpaths hknown hflat
    | some marker =>
      obtain ⟨hvalid, hown, hopen, hdead⟩ := hgone marker rfl
      have hclosed : env.openParentProcess marker.processId = .ok false :=
        bind_eq_ok.mpr ⟨(), ensure_eq_ok.mpr hopen,
          bind_eq_ok.mpr ⟨(), ensure_eq_ok.mpr hown, hdead⟩⟩
      refine (eval_bind_ok (eval_lift hvalid)).trans ?_
      refine (eval_bind_ok (eval_ensure hown)).trans ?_
      refine (eval_bind_ok (eval_lift hclosed)).trans ?_
      rw [if_neg (by decide)]
      exact eval_finishCleanup haccepted hpaths hknown hflat
  obtain ⟨present, hpresent⟩ := hrest
  refine ⟨present, ?_⟩
  unfold recoverInterruptedUpdateCleanupFromHandoff
  refine (eval_bind_ok hexists).trans ?_
  rw [if_pos rfl]
  exact (eval_bind_ok (eval_readPlan hplan hdecode)).trans hpresent

/-! ### Runs of recovery -/

/-- A program that only looks at the files. -/
def Looks {α : Type} (p : FileProg α) : Prop :=
  ∀ start : Volume, p.Alone (fun _ => False) (fun state => state = start)
    (fun _ state => state = start)

section

variable {α β : Type}

theorem looks_query (f : Volume → IoResult α) : Looks (.query f : FileProg α) := by
  intro start
  exact query_alone.imp (fun _ h => h) (fun _ _ h => h.2)

theorem looks_lift (result : IoResult α) : Looks (.lift result : FileProg α) := by
  intro start
  exact lift_alone.imp (fun _ h => h) (fun _ _ h => h.2)

theorem Looks.bind {p : FileProg α} {f : α → FileProg β} (h : Looks p)
    (hnext : ∀ value, Looks (f value)) : Looks (p >>= f) :=
  fun start => (h start).bind (fun value => hnext value start)

theorem Looks.orElse {p : FileProg α} {f : IoError → FileProg α} (h : Looks p)
    (hhandler : ∀ error, Looks (f error)) : Looks (p.orElse f) := by
  intro start state hstate
  refine Spec.orElse (h start state hstate) hstate (stable_eq _) ?_
    (fun _ _ hfalse => hfalse) (fun error => hhandler error start)
  intro before after hfalse
  exact hfalse.elim

theorem Looks.alone {p : FileProg α} (h : Looks p) (I : Volume → Prop) (start : Volume) :
    p.Alone I (fun state => state = start) (fun _ state => state = start) :=
  (h start).weaken (fun _ _ hfalse => hfalse.elim)

end

theorem looks_installedIdentity (current : WinPath) :
    Looks (env.validateRecoveryInstalledIdentity current handoff) := by
  refine (looks_lift _).bind (fun _ => ?_)
  refine (looks_query _).bind (fun _ => ?_)
  refine (looks_query _).bind (fun _ => ?_)
  refine (looks_lift _).bind (fun _ => ?_)
  refine (looks_query _).bind (fun _ => ?_)
  exact (looks_lift _).bind (fun _ => looks_lift _)

theorem looks_readMarker :
    Looks ((do return some (← env.readUpdateStartupMarker handoff.startupMarker) :
      FileProg (Option UpdateStartupMarker)).orElse (fun error =>
        if error.kind = .notFound then .ret none else .fail error)) := by
  have hread : Looks (env.readUpdateStartupMarker handoff.startupMarker) :=
    (looks_query _).bind (fun _ => looks_lift _)
  refine Looks.orElse (hread.bind (fun marker => looks_lift (.ok (some marker)))) ?_
  intro error
  split
  · exact looks_lift (.ok none)
  · exact looks_lift (.error error)

theorem finishCleanup_alone (files : Volume) (present : Bool) :
    (env.finishCleanup entries handoff present).Alone (env.Progress entries handoff files)
      (fun state => state = files) (fun _ _ => True) :=
  (removal_alone handoff files).bind (fun _ =>
    triple_ret (stable_eq _) (fun _ _ => trivial))

/-- Wherever recovery stops, it has removed the first files of the plan's list. -/
theorem recoverFromPlan_alone (files : Volume) (current path : WinPath)
    (kind : ReleaseArtifactKind) :
    (env.recoverFromPlan entries current path kind handoff).Alone
      (env.Progress entries handoff files) (fun state => state = files) (fun _ _ => True) := by
  unfold recoverFromPlan
  refine Alone.bind ((looks_lift _).alone _ _) (fun _ => ?_)
  refine Alone.bind ((looks_lift _).alone _ _) (fun _ => ?_)
  refine Alone.bind ((looks_lift _).alone _ _) (fun _ => ?_)
  refine Alone.bind ((looks_lift _).alone _ _) (fun _ => ?_)
  refine Alone.bind ((looks_installedIdentity current).alone _ _)
    (fun _ => ?_)
  refine Alone.bind (looks_readMarker.alone _ _) (fun marker => ?_)
  cases marker with
  | none => exact finishCleanup_alone files false
  | some marker =>
    refine Alone.bind ((looks_lift _).alone _ _) (fun _ => ?_)
    refine Alone.bind ((looks_lift _).alone _ _) (fun _ => ?_)
    refine Alone.bind ((looks_lift _).alone _ _) (fun alive => ?_)
    cases alive with
    | true => exact triple_ret (stable_eq _) (fun _ _ => trivial)
    | false => exact finishCleanup_alone files true

theorem recovery_alone (current : WinPath) (kind : ReleaseArtifactKind)
    (hfile : env.fileAt files handoff.handoffPlan = some encoded)
    (hdecode : decodeUpdateHandoffPlan env.pathOf encoded = .ok handoff) :
    (env.recoverInterruptedUpdateCleanupFromHandoff entries current handoff.handoffPlan
      kind).Alone (env.Progress entries handoff files) (fun state => state = files)
        (fun _ _ => True) := by
  have hplan : (env.readUpdateHandoffPlan handoff.handoffPlan).Alone
      (env.Progress entries handoff files) (fun state => state = files)
      (fun found state => found = handoff ∧ state = files) := by
    refine Alone.bind ((looks_lift _).alone _ _) (fun _ => ?_)
    refine Alone.bind query_alone (fun content => alone_of_fact ?_)
    intro hcontent
    cases hfile.symm.trans (okOrElse_eq_ok.mp hcontent)
    refine Alone.bind ((looks_lift _).alone _ _) (fun _ => ?_)
    refine Alone.bind lift_alone (fun found => alone_of_fact ?_)
    intro hfound
    cases hdecode.symm.trans hfound
    refine Alone.bind ((looks_lift _).alone _ _) (fun _ => ?_)
    intro state hstate moved hmoved
    exact ⟨rfl, hmoved ▸ hstate⟩
  unfold recoverInterruptedUpdateCleanupFromHandoff
  refine Alone.bind ((looks_query _).alone _ _) (fun present => ?_)
  cases present with
  | false => exact triple_ret (stable_eq _) (fun _ _ => trivial)
  | true =>
    refine Alone.bind hplan (fun found => alone_of_fact ?_)
    intro hfound
    cases hfound
    exact recoverFromPlan_alone files current handoff.handoffPlan kind

/-! ## Restarting -/

/-- Apart from its files, the installed program survives, and the clean-up can be restarted. -/
theorem cleanupRestartable_of_apart (haccepted : handoff.Accepted)
    (happart : env.InstallApart handoff) : env.CleanupRestartable handoff where
  installKept := by
    intro entries files p state hsteps
    exact (progress_of_steps hsteps).install_kept happart
  unknownKept := by
    intro entries files p state paths hpaths hunknown hsteps
    cases progress_of_steps hsteps with
    | inl hsame => exact hsame
    | inr hremoved =>
      obtain ⟨paths', _, _, hpaths', hknown, _, _⟩ := hremoved
      cases hpaths.symm.trans hpaths'
      exact absurd hknown hunknown
  planLast := by
    intro entries files p state paths hpaths hplan hsteps hleft
    rw [(progress_of_steps hsteps).plan_kept haccepted hpaths hleft]
    exact hplan
  recovered := by
    intro entries files p state paths current hpaths hstart hknown hflat hsteps hleft habsolute
      hsame
    have hprogress := progress_of_steps hsteps
    have hstate := hprogress.transaction haccepted happart hpaths hleft hstart
    obtain ⟨present, heval⟩ :=
      eval_recover hstate hpaths (hprogress.onlyKnown hknown) hflat habsolute hsame
    refine ⟨present, _, heval, fun path hpath => fileAt_removeAll_of_mem hpath, ?_⟩
    rw [fileAt_removeAll_of_ne (happart paths hpaths)]
    exact hprogress.install_kept happart
  recoveryKept := by
    intro entries files p state current kind hplan hsteps
    obtain ⟨encoded, hfile, hdecode⟩ := hplan
    exact ((recovery_alone current kind hfile hdecode).reached rfl (.inl rfl) hsteps).install_kept
      happart

variable (env) in
/-- A program that is a file of the transaction is removed. -/
theorem removal_of_key {path : WinPath} (haccepted : handoff.Accepted)
    (hpaths : successfulUpdateCleanupPaths handoff = .ok paths) (hpath : path ∈ paths) :
    ∃ entries files state,
      Steps (env.removeSuccessfulUpdateTransactionFiles entries handoff, files)
        (.ret (), state) ∧
      ∀ program : WinPath, path.key env.upcase = program.key env.upcase →
        env.fileAt state program ≠ env.fileAt files program := by
  -- The only file is the one at that path.
  let files : Volume := env.setFile (fun _ => none) path (some [])
  have hremoved : ∃ entries, Steps
      (env.removeSuccessfulUpdateTransactionFiles entries handoff, files)
      (.ret (), env.removeAll paths files) := by
    by_cases hstaging : ∃ name, path = handoff.stagingDirectory.join name
    · obtain ⟨name, hname⟩ := hstaging
      refine ⟨⟨[name], []⟩, steps_of_eval (eval_removal haccepted hpaths ?_ rfl)⟩
      intro entry hentry
      unfold presentEntries at hentry
      rw [List.nil_append] at hentry
      cases List.mem_singleton.mp (List.mem_filter.mp hentry).1
      rw [← hname]
      exact hpath
    · refine ⟨⟨[], []⟩, steps_of_eval (eval_removal haccepted hpaths ?_ rfl)⟩
      intro entry hentry
      cases hentry
  obtain ⟨entries, hsteps⟩ := hremoved
  refine ⟨entries, files, _, hsteps, ?_⟩
  intro program hsame hkept
  have hgone : env.fileAt (env.removeAll paths files) path = none := fileAt_removeAll_of_mem hpath
  have hthere : env.fileAt files path = some [] := by
    simp [files, UpdateEnv.fileAt, UpdateEnv.setFile]
  unfold UpdateEnv.fileAt at hkept hgone hthere
  rw [hsame, hkept, ← hsame, hthere] at hgone
  cases hgone

theorem apart_of_cleanupRestartable (haccepted : handoff.Accepted)
    (h : env.CleanupRestartable handoff) : env.InstallApart handoff := by
  intro paths hpaths path hpath hsame
  obtain ⟨entries, files, state, hsteps, hremoved⟩ :=
    removal_of_key env haccepted hpaths hpath
  exact hremoved handoff.installPath hsame (h.installKept entries files _ state hsteps)

/-- The clean-up of an accepted plan can be restarted and keeps the installed program exactly when
none of the files it removes is that program. -/
theorem cleanup_restartable_iff (env : RecoveryEnv) {handoff : UpdateHandoffPlan}
    (h : validateUpdateHandoffPlan handoff = .ok ()) :
    env.CleanupRestartable handoff ↔
      ∀ paths, successfulUpdateCleanupPaths handoff = .ok paths →
        ∀ path ∈ paths, path.key env.upcase ≠ handoff.installPath.key env.upcase := by
  have haccepted := validateUpdateHandoffPlan_eq_ok.mp h
  exact ⟨apart_of_cleanupRestartable haccepted, cleanupRestartable_of_apart haccepted⟩

end RecoveryEnv

/-- The recovery of process 7, to which no other process is open.  Paths have a drive and names
between backslashes. -/
def sampleRecoveryEnv : RecoveryEnv where
  toUpdateEnv := sampleEnv
  pathOf := fun units =>
    let names := (units.splitOn 0x5C).filter (fun name => name ≠ [])
    ⟨names.head?, units.contains 0x5C, names.tail.map .normal⟩
  processId := 7
  openProcess := fun _ => .ok false

/-- The update of an agent with a name of its own. -/
def customHandoff : UpdateHandoffPlan :=
  UpdateEnv.plannedHandoff (agentPlan .preserveCurrentName "a.exe" "a.exe") 1

/-- The same update of an agent that runs as the backup in its staging directory. -/
def backupHandoff : UpdateHandoffPlan :=
  { customHandoff with
    currentExecutable := customHandoff.backupExecutable
    installPath := customHandoff.backupExecutable }

theorem customHandoff_accepted : validateUpdateHandoffPlan customHandoff = .ok () := by
  with_unfolding_all rfl

theorem backupHandoff_accepted : validateUpdateHandoffPlan backupHandoff = .ok () := by
  with_unfolding_all rfl

/-- The update of an agent beside its staging directory. -/
theorem cleanup_restartable_custom : sampleRecoveryEnv.CleanupRestartable customHandoff := by
  apply (RecoveryEnv.cleanup_restartable_iff sampleRecoveryEnv customHandoff_accepted).mpr
  intro paths hpaths path hpath
  have happart : ∀ found : List WinPath, successfulUpdateCleanupPaths customHandoff = .ok found →
      found.all (fun path => path.key sampleRecoveryEnv.upcase ≠
        customHandoff.installPath.key sampleRecoveryEnv.upcase) = true := by
    intro found hfound
    cases hfound
    with_unfolding_all rfl
  exact of_decide_eq_true (List.all_eq_true.mp (happart paths hpaths) path hpath)

/-- The clean-up of an accepted plan removes the installed program as the backup. -/
theorem cleanup_removes_installed_backup :
    validateUpdateHandoffPlan backupHandoff = .ok () ∧
      ¬ sampleRecoveryEnv.CleanupRestartable backupHandoff := by
  refine ⟨backupHandoff_accepted, fun h => ?_⟩
  have haccepted := validateUpdateHandoffPlan_eq_ok.mp backupHandoff_accepted
  obtain ⟨stagedName, hstaged, _⟩ := haccepted.staged
  have hinstall : backupHandoff.installPath =
      backupHandoff.stagingDirectory.join (osStr updateBackupFile) := haccepted.backup
  have hpaths := successfulUpdateCleanupPaths_eq haccepted hinstall hstaged
  refine RecoveryEnv.apart_of_cleanupRestartable haccepted h _ hpaths
    backupHandoff.backupExecutable ?_ rfl
  simp [haccepted.backup]

end NetworkCopy
