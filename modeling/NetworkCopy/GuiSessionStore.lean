import NetworkCopy.GuiSession
import NetworkCopy.Lib.Crash

/-!
# Where the resume record is kept

`save` writes the record beside the executable or, where that fails, under the local application
data, and removes the record of the other place.  It removes the old record before the temporary
takes its place.

`stops` of a program are the states of a run in which every call succeeds; `Steps` are all runs,
with calls that fail.
-/

namespace NetworkCopy

open Crash LineText

/-! ## Files -/

/-- A record with its modification time. -/
structure SessionFile where
  contents : List Char
  modified : Nat
  deriving DecidableEq

/-- The records, the temporary beside each, and the time of the latest write. -/
structure SessionDisk (Path : Type) where
  records : Path → Option SessionFile
  temporaries : Path → Option SessionFile
  clock : Nat

/-- The places of the two records: the directory of the executable and the fallback. -/
structure SessionEnv (Path : Type) where
  executable : SessionKind → Option Path
  fallback : SessionKind → Option Path

section

variable {Path : Type} [DecidableEq Path]

/-- `session_paths`. -/
def sessionPaths (env : SessionEnv Path) (kind : SessionKind) : IoResult (List Path) :=
  let paths := (env.executable kind).toList
  let paths := match env.fallback kind with
    | some fallback => if fallback ∈ paths then paths else paths ++ [fallback]
    | none => paths
  if paths = [] then
    .error ⟨.notFound, "neither the executable directory nor LOCALAPPDATA is available", none⟩
  else .ok paths

namespace SessionDisk

/-- A file appears empty. -/
def createTemporary (disk : SessionDisk Path) (path : Path) : SessionDisk Path :=
  { disk with
    temporaries := Function.update disk.temporaries path (some ⟨[], disk.clock + 1⟩)
    clock := disk.clock + 1 }

/-- The contents are written. -/
def writeTemporary (disk : SessionDisk Path) (path : Path) (contents : List Char) :
    SessionDisk Path :=
  { disk with
    temporaries := Function.update disk.temporaries path (some ⟨contents, disk.clock + 1⟩)
    clock := disk.clock + 1 }

/-- `fs::remove_file` of a temporary. -/
def removeTemporary (disk : SessionDisk Path) (path : Path) : SessionDisk Path :=
  { disk with temporaries := Function.update disk.temporaries path none }

/-- `fs::remove_file` of a record. -/
def removeRecord (disk : SessionDisk Path) (path : Path) : SessionDisk Path :=
  { disk with records := Function.update disk.records path none }

/-- `fs::rename` of a temporary to its record, in one step. -/
def publish (disk : SessionDisk Path) (path : Path) : Except IoError (SessionDisk Path) :=
  match disk.temporaries path with
  | some file => .ok { disk with
      records := Function.update disk.records path (some file)
      temporaries := Function.update disk.temporaries path none }
  | none => .error ⟨.notFound, "The system cannot find the file specified.", none⟩

end SessionDisk

/-! ## Saving -/

/-- A program over the session files. -/
abbrev SessionProg (Path α : Type) := Prog (SessionDisk Path) IoError α

/-- `let _ = remove_if_present(temporary)`. -/
def discardTemporary (path : Path) : SessionProg Path Unit :=
  (Prog.modify (fun disk => .ok (disk.removeTemporary path))).orElse (fun _ => .ret ())

/-- `let _ = remove_if_present(record)`. -/
def discardRecord (path : Path) : SessionProg Path Unit :=
  (Prog.modify (fun disk => .ok (disk.removeRecord path))).orElse (fun _ => .ret ())

/-- `Path::exists`. -/
def recordExists (path : Path) : SessionProg Path Bool :=
  (Prog.query (fun disk : SessionDisk Path => .ok (disk.records path).isSome)).orElse
    (fun _ => .ret false)

/-- `write_session_file`.  The paths of `session_paths` have a parent and a file name. -/
def writeSessionFile (path : Path) (contents : List Char) : SessionProg Path Unit := do
  -- `fs::create_dir_all`.
  Prog.modify .ok
  discardTemporary path
  Prog.modify (fun disk => .ok (disk.createTemporary path))
  Prog.modify (fun disk => .ok (disk.writeTemporary path contents))
  let present ← recordExists path
  if present then
    (Prog.modify (fun disk => .ok (disk.removeRecord path))).onError (discardTemporary path)
  (Prog.modify (fun disk => disk.publish path)).onError (discardTemporary path)

/-- The loop of `save`.  The records of the other paths are removed without looking at errors, so
only the write itself can make it go on to the next path. -/
def saveLoop (display : Path → String) (paths : List Path) (contents : List Char) :
    List Path → Option IoError → SessionProg Path Path
  | [], lastError =>
      .fail (lastError.getD (.other "no GUI session storage location is available"))
  | path :: rest, _ =>
      (do
        writeSessionFile path contents
        Prog.each discardRecord (paths.filter (fun other => other ≠ path))
        return path).orElse (fun error =>
          saveLoop display paths contents rest (some { error with
            message := "failed to save " ++ display path ++ ": " ++ error.message }))

/-- `save`.  `display` is `Path::display`. -/
def saveSession (env : SessionEnv Path) (display : Path → String) (texts : TextSupport SocketAddr)
    (request : GuiTransferRequest) : SessionProg Path Path := do
  let contents ← Prog.lift (encodeRequest texts request)
  let paths ← Prog.lift (sessionPaths env (sessionKind request))
  saveLoop display paths contents paths none

/-! ## Loading -/

/-- The records of one kind, with their times. -/
def sessionCandidates (disk : SessionDisk Path) (kind : SessionKind) (paths : List Path) :
    List (SessionFile × SessionKind × Path) :=
  paths.filterMap (fun path => (disk.records path).map (fun file => (file, kind, path)))

/-- A record that is read as one of its kind. -/
def readCandidate (texts : TextSupport SocketAddr) (candidate : SessionFile × SessionKind × Path) :
    IoResult GuiTransferRequest := do
  let request ← decodeRequest texts candidate.1.contents
  ensure (sessionKind request = candidate.2.1)
    (.invalidData "GUI session direction does not match its file name")
  return request

/-- The loop of `load_latest_for_kinds` over the sorted candidates. -/
def loadCandidates (display : Path → String) (texts : TextSupport SocketAddr) :
    List (SessionFile × SessionKind × Path) → Option IoError →
      IoResult (Option GuiTransferRequest)
  | [], firstError => match firstError with
      | some error => .error error
      | none => .ok none
  | candidate :: rest, firstError => match readCandidate texts candidate with
      | .ok request => .ok (some request)
      | .error error => loadCandidates display texts rest (some (firstError.getD { error with
          message := "failed to load " ++ display candidate.2.2 ++ ": " ++ error.message }))

/-- `load_latest_for_kinds`. -/
def loadLatestForKinds (env : SessionEnv Path) (display : Path → String)
    (texts : TextSupport SocketAddr) (kinds : List SessionKind) (disk : SessionDisk Path) :
    IoResult (Option GuiTransferRequest) := do
  let candidates ← kinds.mapM (fun kind => do
    let paths ← sessionPaths env kind
    return sessionCandidates disk kind paths)
  loadCandidates display texts
    (candidates.flatten.mergeSort (fun left right => right.1.modified ≤ left.1.modified)) none

/-! ## One write -/

variable {disk : SessionDisk Path}
variable {contents : List Char}

/-- The disk after a write that met no record. -/
def SessionDisk.saved (disk : SessionDisk Path) (path : Path) (contents : List Char) :
    SessionDisk Path where
  records := Function.update disk.records path (some ⟨contents, disk.clock + 2⟩)
  temporaries := Function.update disk.temporaries path none
  clock := disk.clock + 2

/-- The disk of a write that has removed the old record. -/
def SessionDisk.unsaved (disk : SessionDisk Path) (path : Path) (contents : List Char) :
    SessionDisk Path where
  records := Function.update disk.records path none
  temporaries := Function.update disk.temporaries path (some ⟨contents, disk.clock + 2⟩)
  clock := disk.clock + 2

theorem eval_writeSessionFile (disk : SessionDisk Path) (path : Path) (contents : List Char) :
    (writeSessionFile path contents).eval disk = (.ok (), disk.saved path contents) := by
  cases h : disk.records path with
  | none =>
    simp [writeSessionFile, discardTemporary, recordExists, Prog.modify, Prog.query, Prog.onError,
      Prog.orElse, Prog.eval, SessionDisk.removeTemporary, SessionDisk.createTemporary,
      SessionDisk.writeTemporary, SessionDisk.publish, SessionDisk.saved, h]
  | some file =>
    simp [writeSessionFile, discardTemporary, recordExists, Prog.modify, Prog.query, Prog.onError,
      Prog.orElse, Prog.eval, SessionDisk.removeTemporary, SessionDisk.createTemporary,
      SessionDisk.writeTemporary, SessionDisk.removeRecord, SessionDisk.publish,
      SessionDisk.saved, h]

/-- A write changes the records in one step where it meets none, and in two where it meets one. -/
theorem stops_writeSessionFile {disk stop : SessionDisk Path} {path : Path}
    (hstop : stop ∈ (writeSessionFile path contents).stops disk) :
    stop.records = disk.records ∨ stop.records = Function.update disk.records path none ∨
      stop = disk.saved path contents := by
  cases h : disk.records path with
  | none =>
    simp [writeSessionFile, discardTemporary, recordExists, Prog.modify, Prog.query, Prog.onError,
      Prog.orElse, Prog.stops, SessionDisk.removeTemporary, SessionDisk.createTemporary,
      SessionDisk.writeTemporary, SessionDisk.publish, h] at hstop
    rcases hstop with rfl | rfl | rfl | rfl | rfl
    · exact .inl rfl
    · exact .inl rfl
    · exact .inl rfl
    · exact .inl rfl
    · exact .inr (.inr rfl)
  | some file =>
    simp [writeSessionFile, discardTemporary, recordExists, Prog.modify, Prog.query, Prog.onError,
      Prog.orElse, Prog.stops, SessionDisk.removeTemporary, SessionDisk.createTemporary,
      SessionDisk.writeTemporary, SessionDisk.removeRecord, SessionDisk.publish, h] at hstop
    rcases hstop with rfl | rfl | rfl | rfl | rfl | rfl
    · exact .inl rfl
    · exact .inl rfl
    · exact .inl rfl
    · exact .inl rfl
    · exact .inr (.inl rfl)
    · exact .inr (.inr rfl)

/-- A write can stop when the old record is removed and the new one is not there yet. -/
theorem unsaved_mem_stops {path : Path} (contents : List Char) (h : disk.records path ≠ none) :
    disk.unsaved path contents ∈ (writeSessionFile path contents).stops disk := by
  obtain ⟨file, hfile⟩ := Option.ne_none_iff_exists'.mp h
  simp [writeSessionFile, discardTemporary, recordExists, Prog.modify, Prog.query, Prog.onError,
    Prog.orElse, Prog.stops, SessionDisk.removeTemporary, SessionDisk.createTemporary,
    SessionDisk.writeTemporary, SessionDisk.publish, SessionDisk.removeRecord,
    SessionDisk.unsaved, hfile]

/-! ## The clean-up -/

theorem eval_discardRecords (others : List Path) (disk : SessionDisk Path) :
    ∃ disk', (Prog.each discardRecord others).eval disk = (.ok (), disk') ∧
      disk'.clock = disk.clock := by
  refine Prog.eval_each (I := fun _ (disk' : SessionDisk Path) => disk'.clock = disk.clock) ?_ rfl
  intro path _ disk' hclock
  exact ⟨disk'.removeRecord path,
    by simp [discardRecord, Prog.modify, Prog.orElse, Prog.eval], hclock⟩

/-- The clean-up only removes records, and only of its paths. -/
theorem stops_discardRecords {others : List Path} {disk stop : SessionDisk Path}
    (h : stop ∈ (Prog.each discardRecord others).stops disk) (path : Path) :
    (path ∉ others → stop.records path = disk.records path) ∧
      (stop.records path = disk.records path ∨ stop.records path = none) := by
  induction others generalizing disk with
  | nil =>
    rw [Prog.each, Prog.stops, List.mem_singleton] at h
    subst h
    exact ⟨fun _ => rfl, .inl rfl⟩
  | cons first rest ih =>
    have hstops : stop = disk ∨
        stop ∈ (Prog.each discardRecord rest).stops (disk.removeRecord first) := by
      simpa [Prog.each, discardRecord, Prog.modify, Prog.orElse, Prog.bind, Prog.stops] using h
    have hremoved : (first ≠ path → (disk.removeRecord first).records path =
        disk.records path) ∧ ((disk.removeRecord first).records path = disk.records path ∨
        (disk.removeRecord first).records path = none) := by
      by_cases hpath : path = first
      · subst hpath
        exact ⟨fun hne => absurd rfl hne, .inr (by simp [SessionDisk.removeRecord])⟩
      · have hkept : (disk.removeRecord first).records path = disk.records path := by
          simp [SessionDisk.removeRecord, hpath]
        exact ⟨fun _ => hkept, .inl hkept⟩
    rcases hstops with rfl | hrest
    · exact ⟨fun _ => rfl, .inl rfl⟩
    · obtain ⟨hkept, hor⟩ := ih hrest
      constructor
      · intro hnot
        rw [hkept (fun hmem => hnot (List.mem_cons_of_mem _ hmem))]
        exact hremoved.1 (fun hsame => hnot (hsame ▸ List.mem_cons_self))
      · rcases hor with hor | hor
        · rw [hor]
          exact hremoved.2
        · exact .inr hor

/-! ## A save -/

variable {env : SessionEnv Path} {display : Path → String} {texts : TextSupport SocketAddr}
variable {request : GuiTransferRequest} {paths : List Path}

/-- The text of a request. -/
def sessionContents (texts : TextSupport SocketAddr) (request : GuiTransferRequest) : List Char :=
  unlines ((SessionFields.of request).lines texts)

theorem saveSession_eq (hpaths : sessionPaths env (sessionKind request) = .ok paths) :
    saveSession env display texts request =
      saveLoop display paths (sessionContents texts request) paths none := by
  unfold saveSession
  rw [hpaths]
  rfl

/-- A record is published at a path, and at the others nothing new. -/
structure PublishedSession (disk stop : SessionDisk Path) (path : Path)
    (contents : List Char) : Prop where
  record : stop.records path = some ⟨contents, disk.clock + 2⟩
  others : ∀ other, other ≠ path →
    stop.records other = disk.records other ∨ stop.records other = none

theorem publishedSession_saved (disk : SessionDisk Path) (path : Path) (contents : List Char) :
    PublishedSession disk (disk.saved path contents) path contents := by
  refine ⟨by simp [SessionDisk.saved], fun other hne => .inl ?_⟩
  simp [SessionDisk.saved, hne]

/-- The clean-up of the other places keeps what is published. -/
theorem PublishedSession.discard {disk saved stop : SessionDisk Path} {path : Path}
    {others : List Path} (h : PublishedSession disk saved path contents) (hpath : path ∉ others)
    (hstop : stop ∈ (Prog.each discardRecord others).stops saved) :
    PublishedSession disk stop path contents := by
  have hrecords := stops_discardRecords hstop
  refine ⟨?_, ?_⟩
  · rw [(hrecords path).1 hpath]
    exact h.record
  · intro other hne
    rcases (hrecords other).2 with hkept | hnone
    · rw [hkept]
      exact h.others other hne
    · exact .inr hnone

/-- Where a save stops, the records are untouched, or the place that it writes first holds none, or
its record is published there. -/
theorem stops_saveLoop {paths rest : List Path} {first : Path} {disk stop : SessionDisk Path}
    (hstop : stop ∈ (saveLoop display paths contents (first :: rest) none).stops disk) :
    stop.records = disk.records ∨ stop.records = Function.update disk.records first none ∨
      PublishedSession disk stop first contents := by
  have hwrite := eval_writeSessionFile disk first contents
  have hsaved := publishedSession_saved disk first contents
  have hfirst : first ∉ paths.filter (fun other => other ≠ first) := by simp
  obtain ⟨cleaned, hcleaned, _⟩ := eval_discardRecords (paths.filter (fun other => other ≠ first))
    (disk.saved first contents)
  rw [saveLoop, Prog.mem_stops_orElse] at hstop
  rcases hstop with hstop | ⟨error, failed, heval, _⟩
  · rw [Prog.mem_stops_bind] at hstop
    rcases hstop with hstop | ⟨u, written, heval, hstop⟩
    · rcases stops_writeSessionFile hstop with hsame | hremoved | hpublished
      · exact .inl hsame
      · exact .inr (.inl hremoved)
      · exact .inr (.inr (hpublished ▸ hsaved))
    · rw [hwrite] at heval
      cases heval
      have hclean : stop ∈ (Prog.each discardRecord
          (paths.filter (fun other => other ≠ first))).stops (disk.saved first contents) := by
        rw [Prog.mem_stops_bind] at hstop
        rcases hstop with hstop | ⟨u, final, heval, hstop⟩
        · exact hstop
        · have hend := Prog.eval_mem_stops (Prog.each discardRecord
            (paths.filter (fun other => other ≠ first))) (disk.saved first contents)
          rw [heval] at hend
          rw [List.mem_singleton.mp hstop]
          exact hend
      exact .inr (.inr (hsaved.discard hfirst hclean))
  · rw [Prog.eval_bind_ok hwrite, Prog.eval_bind_ok hcleaned] at heval
    cases heval

/-! ## Loading after a stop -/

variable {kind : SessionKind}

theorem load_eq (hpaths : sessionPaths env kind = .ok paths) (disk : SessionDisk Path) :
    loadLatestForKinds env display texts [kind] disk =
      loadCandidates display texts ((sessionCandidates disk kind paths).mergeSort
        (fun left right => right.1.modified ≤ left.1.modified)) none := by
  unfold loadLatestForKinds
  rw [List.mapM_cons, hpaths]
  show loadCandidates display texts ((([sessionCandidates disk kind paths]).flatten).mergeSort _)
    none = _
  rw [List.flatten_singleton]

omit [DecidableEq Path] in
theorem mem_sessionCandidates {candidate : SessionFile × SessionKind × Path} :
    candidate ∈ sessionCandidates disk kind paths ↔
      candidate.2.2 ∈ paths ∧ disk.records candidate.2.2 = some candidate.1 ∧
        candidate.2.1 = kind := by
  obtain ⟨file, candidateKind, path⟩ := candidate
  simp only [sessionCandidates, List.mem_filterMap, Option.map_eq_some_iff, Prod.mk.injEq]
  constructor
  · rintro ⟨found, hfound, found', hfile, rfl, rfl, rfl⟩
    exact ⟨hfound, hfile, rfl⟩
  · rintro ⟨hmem, hfile, rfl⟩
    exact ⟨path, hmem, file, hfile, rfl, rfl, rfl⟩

/-- Without records nothing is loaded. -/
theorem load_none (hpaths : sessionPaths env kind = .ok paths)
    (h : ∀ path ∈ paths, disk.records path = none) :
    loadLatestForKinds env display texts [kind] disk = .ok none := by
  have hnil : sessionCandidates disk kind paths = [] := by
    rw [List.eq_nil_iff_forall_not_mem]
    intro candidate hmem
    obtain ⟨hpath, hfile, _⟩ := mem_sessionCandidates.mp hmem
    rw [h _ hpath] at hfile
    cases hfile
  rw [load_eq hpaths, hnil, List.mergeSort_nil]
  rfl

/-- The newest record is loaded. -/
theorem load_newest {place : Path} {modified : Nat}
    (hpaths : sessionPaths env (sessionKind request) = .ok paths)
    (hdecode : decodeRequest texts (sessionContents texts request) = .ok request)
    (hplace : place ∈ paths)
    (hrecord : disk.records place = some ⟨sessionContents texts request, modified⟩)
    (hnewest : ∀ other ∈ paths, other ≠ place → ∀ file, disk.records other = some file →
      file.modified < modified) :
    loadLatestForKinds env display texts [sessionKind request] disk = .ok (some request) := by
  rw [load_eq hpaths]
  have hperm := List.mergeSort_perm (sessionCandidates disk (sessionKind request) paths)
    (fun left right => decide (right.1.modified ≤ left.1.modified))
  have hsorted : ((sessionCandidates disk (sessionKind request) paths).mergeSort
      (fun left right => decide (right.1.modified ≤ left.1.modified))).Pairwise
      (fun left right => right.1.modified ≤ left.1.modified) := by
    refine (List.pairwise_mergeSort ?_ ?_ _).imp (fun h => of_decide_eq_true h)
    · intro a b c hab hbc
      exact decide_eq_true ((of_decide_eq_true hbc).trans (of_decide_eq_true hab))
    · intro a b
      rcases le_total a.1.modified b.1.modified with h | h <;> simp [h]
  have hcandidate : ((⟨sessionContents texts request, modified⟩, sessionKind request, place) :
      SessionFile × SessionKind × Path) ∈
      sessionCandidates disk (sessionKind request) paths :=
    mem_sessionCandidates.mpr ⟨hplace, hrecord, rfl⟩
  have hmem := hperm.mem_iff.mpr hcandidate
  generalize (sessionCandidates disk (sessionKind request) paths).mergeSort
    (fun left right => decide (right.1.modified ≤ left.1.modified)) = sorted at *
  cases sorted with
  | nil => cases hmem
  | cons first rest =>
    obtain ⟨hfirstPath, hfirstRecord, hfirstKind⟩ :=
      mem_sessionCandidates.mp (hperm.mem_iff.mp List.mem_cons_self)
    have hlatest : modified ≤ first.1.modified := by
      rcases List.mem_cons.mp hmem with hsame | hrest
      · rw [← hsame]
      · exact (List.pairwise_cons.mp hsorted).1 _ hrest
    have hplaceFirst : first.2.2 = place := by
      by_contra hne
      have hlt := hnewest _ hfirstPath hne _ hfirstRecord
      omega
    rw [hplaceFirst, hrecord] at hfirstRecord
    have hfile := Option.some.inj hfirstRecord
    have hread : readCandidate texts first = .ok request := by
      rw [readCandidate, ← hfile, hdecode, ok_bind, ensure, if_pos hfirstKind.symm]
      rfl
    rw [loadCandidates, hread]

omit [DecidableEq Path] in
/-- A request that is loaded is read from a record. -/
theorem loadCandidates_some {candidates : List (SessionFile × SessionKind × Path)}
    {firstError : Option IoError}
    (h : loadCandidates display texts candidates firstError = .ok (some request)) :
    ∃ candidate ∈ candidates, readCandidate texts candidate = .ok request := by
  induction candidates generalizing firstError with
  | nil =>
    cases firstError <;> cases h
  | cons candidate rest ih =>
    rw [loadCandidates] at h
    cases hread : readCandidate texts candidate with
    | ok found =>
      rw [hread] at h
      cases h
      exact ⟨candidate, List.mem_cons_self, hread⟩
    | error error =>
      rw [hread] at h
      obtain ⟨found, hmem, hfound⟩ := ih h
      exact ⟨found, List.mem_cons_of_mem _ hmem, hfound⟩

/-! ## Stops of a save -/

variable {rest : List Path}

/-- The newest record is the one of the request. -/
structure SavedSession (texts : TextSupport SocketAddr) (paths : List Path)
    (request : GuiTransferRequest) (disk : SessionDisk Path) (place : Path) : Prop where
  mem : place ∈ paths
  newest : ∃ modified ≤ disk.clock,
    disk.records place = some ⟨sessionContents texts request, modified⟩ ∧
    ∀ other ∈ paths, other ≠ place → ∀ file, disk.records other = some file →
      file.modified < modified

/-- An older record at another place reads as one of the two requests. -/
def HasSpare (texts : TextSupport SocketAddr) (earlier request : GuiTransferRequest)
    (disk : SessionDisk Path) (others : List Path) : Prop :=
  ∃ other ∈ others, ∃ file, disk.records other = some file ∧
    (readCandidate texts (file, sessionKind request, other) = .ok earlier ∨
      readCandidate texts (file, sessionKind request, other) = .ok request)

/-- A save whose calls all succeed leaves its record as the newest. -/
theorem savedSession_of_save {first : Path}
    (hpaths : sessionPaths env (sessionKind request) = .ok (first :: rest))
    (hclock : ∀ path file, disk.records path = some file → file.modified ≤ disk.clock) :
    ∃ stop, (saveSession env display texts request).eval disk = (.ok first, stop) ∧
      SavedSession texts (first :: rest) request stop first := by
  have hwrite := eval_writeSessionFile disk first (sessionContents texts request)
  have hsaved := publishedSession_saved disk first (sessionContents texts request)
  obtain ⟨cleaned, hcleaned, hcleanedClock⟩ := eval_discardRecords
    ((first :: rest).filter (fun other => other ≠ first))
    (disk.saved first (sessionContents texts request))
  have hpublished : PublishedSession disk cleaned first (sessionContents texts request) := by
    have hend := Prog.eval_mem_stops (Prog.each discardRecord
      ((first :: rest).filter (fun other => other ≠ first)))
      (disk.saved first (sessionContents texts request))
    rw [hcleaned] at hend
    exact hsaved.discard (by simp) hend
  refine ⟨cleaned, ?_, List.mem_cons_self, disk.clock + 2, ?_, hpublished.record, ?_⟩
  · rw [saveSession_eq hpaths, saveLoop]
    refine Prog.eval_orElse_ok ?_
    rw [Prog.eval_bind_ok hwrite, Prog.eval_bind_ok hcleaned]
    rfl
  · rw [hcleanedClock]
    exact le_refl _
  · intro other _ hne file hfile
    rcases hpublished.others other hne with hkept | hnone
    · rw [hkept] at hfile
      have hold := hclock other file hfile
      omega
    · rw [hnone] at hfile
      cases hfile

/-- A load finds the earlier request or the new one. -/
def LoadsEither (env : SessionEnv Path) (display : Path → String) (texts : TextSupport SocketAddr)
    (earlier request : GuiTransferRequest) (disk : SessionDisk Path) : Prop :=
  loadLatestForKinds env display texts [sessionKind request] disk = .ok (some earlier) ∨
    loadLatestForKinds env display texts [sessionKind request] disk = .ok (some request)

/-- The place of the earlier record is reached by a save whose calls fail before it, and there the
record can be removed without another. -/
theorem steps_unsaved {paths rest : List Path} {place : Path} (hplace : place ∈ rest)
    (hrecord : disk.records place ≠ none) (lastError : Option IoError) :
    ∃ p, Prog.Steps (saveLoop display paths contents rest lastError, disk)
      (p, disk.unsaved place contents) := by
  induction rest generalizing lastError with
  | nil => cases hplace
  | cons first rest ih =>
    by_cases hfirst : first = place
    · subst hfirst
      obtain ⟨p, hp⟩ := Prog.steps_of_mem_stops (unsaved_mem_stops contents hrecord)
      rw [saveLoop]
      exact ⟨_, (hp.bind _).orElse _⟩
    · have hrest : place ∈ rest := (List.mem_cons.mp hplace).resolve_left (Ne.symm hfirst)
      rw [saveLoop]
      -- The directory of the first place cannot be created.
      obtain ⟨p, hp⟩ := ih hrest (some { (IoError.other "") with
        message := "failed to save " ++ display first ++ ": " ++ (IoError.other "").message })
      exact ⟨p, .head (.fault (IoError.other "")) hp⟩

/-- There are at most two places. -/
theorem rest_of_sessionPaths {first : Path} (h : sessionPaths env kind = .ok (first :: rest)) :
    rest = [] ∨ ∃ other, other ≠ first ∧ rest = [other] := by
  unfold sessionPaths at h
  cases hexecutable : env.executable kind with
  | none =>
    cases hfallback : env.fallback kind with
    | none => simp [hexecutable, hfallback] at h
    | some fallback =>
      simp [hexecutable, hfallback] at h
      exact .inl h.2
  | some executable =>
    cases hfallback : env.fallback kind with
    | none =>
      simp [hexecutable, hfallback] at h
      exact .inl h.2
    | some fallback =>
      by_cases hsame : fallback = executable
      · simp [hexecutable, hfallback, hsame] at h
        exact .inl h.2
      · simp [hexecutable, hfallback, hsame] at h
        exact .inr ⟨fallback, h.1 ▸ hsame, h.2.symm⟩

/-- With the record of the first place removed, the spare is what a load finds. -/
theorem loadsEither_of_spare {earlier request : GuiTransferRequest} {first other : Path}
    {disk stop : SessionDisk Path} {file : SessionFile}
    (hpaths : sessionPaths env (sessionKind request) = .ok (first :: rest))
    (hstop : stop.records = Function.update disk.records first none) (hother : other ∈ rest)
    (hfile : disk.records other = some file)
    (hread : readCandidate texts (file, sessionKind request, other) = .ok earlier ∨
      readCandidate texts (file, sessionKind request, other) = .ok request) :
    LoadsEither env display texts earlier request stop := by
  rcases rest_of_sessionPaths hpaths with rfl | ⟨only, hne, rfl⟩
  · cases hother
  · obtain rfl := List.mem_singleton.mp hother
    have hcandidates : sessionCandidates stop (sessionKind request) [first, other] =
        [(file, sessionKind request, other)] := by
      simp [sessionCandidates, hstop, hne, hfile]
    unfold LoadsEither
    rw [load_eq hpaths, hcandidates, List.mergeSort_singleton]
    rcases hread with hread | hread
    · left
      rw [loadCandidates, hread]
    · right
      rw [loadCandidates, hread]

/-- The record of a request comes back.  A save whose calls all succeed leaves the earlier request
or the new one to a load wherever it stops exactly when the earlier record is not at the place that
is written first, or a spare is at the other.  When calls can fail it can stop without a record. -/
theorem saveSession_keeps_iff {earlier request : GuiTransferRequest} {first place : Path}
    {rest : List Path} {disk : SessionDisk Path}
    (hpaths : sessionPaths env (sessionKind request) = .ok (first :: rest))
    (hkind : sessionKind earlier = sessionKind request)
    (hearlier : earlier.Nonzero) (hearlierPrints : earlier.connection.PrintsBack texts)
    (hrequest : request.Nonzero) (hrequestPrints : request.connection.PrintsBack texts)
    (hsaved : SavedSession texts (first :: rest) earlier disk place) :
    (encodeRequest texts request).bind (decodeRequest texts) = .ok request ∧
      ((∀ stop ∈ (saveSession env display texts request).stops disk,
          LoadsEither env display texts earlier request stop) ↔
        place ≠ first ∨ HasSpare texts earlier request disk rest) ∧
      ((∀ other ∈ first :: rest, other ≠ place → disk.records other = none) →
        ∃ p stop, Prog.Steps (saveSession env display texts request, disk) (p, stop) ∧
          loadLatestForKinds env display texts [sessionKind request] stop = .ok none) := by
  have hround := decodeRequest_encodeRequest hrequest hrequestPrints
  have hroundEarlier := decodeRequest_encodeRequest hearlier hearlierPrints
  obtain ⟨modified, hmodified, hrecord, hnewest⟩ := hsaved.newest
  have hplaceNe : disk.records place ≠ none := by
    rw [hrecord]
    exact Option.some_ne_none _
  rw [saveSession_eq hpaths]
  refine ⟨hround, ⟨?_, ?_⟩, ?_⟩
  · intro hkeeps
    by_contra hnot
    push Not at hnot
    obtain ⟨rfl, hspare⟩ := hnot
    have hstop : disk.unsaved place (sessionContents texts request) ∈
        (saveLoop display (place :: rest) (sessionContents texts request) (place :: rest)
          none).stops disk := by
      rw [saveLoop, Prog.mem_stops_orElse]
      exact .inl (Prog.mem_stops_bind.mpr (.inl (unsaved_mem_stops _ hplaceNe)))
    -- What is loaded there is read from the other place.
    have hread : ∀ found, loadLatestForKinds env display texts [sessionKind request]
        (disk.unsaved place (sessionContents texts request)) = .ok (some found) →
        ∃ other ∈ rest, ∃ file, disk.records other = some file ∧
          readCandidate texts (file, sessionKind request, other) = .ok found := by
      intro found hload
      rw [load_eq hpaths] at hload
      obtain ⟨⟨file, kind, other⟩, hmem, hfound⟩ := loadCandidates_some hload
      obtain ⟨hother, hfile, rfl⟩ :=
        mem_sessionCandidates.mp ((List.mergeSort_perm _ _).mem_iff.mp hmem)
      dsimp only [SessionDisk.unsaved] at hother hfile
      have hne : other ≠ place := by
        rintro rfl
        rw [Function.update_self] at hfile
        cases hfile
      rw [Function.update_of_ne hne] at hfile
      exact ⟨other, (List.mem_cons.mp hother).resolve_left hne, file, hfile, hfound⟩
    rcases hkeeps _ hstop with hload | hload
    · obtain ⟨other, hother, file, hfile, hfound⟩ := hread _ hload
      exact hspare ⟨other, hother, file, hfile, .inl hfound⟩
    · obtain ⟨other, hother, file, hfile, hfound⟩ := hread _ hload
      exact hspare ⟨other, hother, file, hfile, .inr hfound⟩
  · intro hcondition stop hstop
    have hpathsEarlier := hpaths
    rw [← hkind] at hpathsEarlier
    rcases stops_saveLoop hstop with hsame | hremoved | hpublished
    · left
      rw [← hkind]
      have hstopRecord := hrecord
      have hstopNewest := hnewest
      rw [← hsame] at hstopRecord hstopNewest
      exact load_newest hpathsEarlier hroundEarlier hsaved.mem hstopRecord hstopNewest
    · by_cases hplace : place = first
      · subst hplace
        obtain ⟨other, hother, file, hfile, hread⟩ := hcondition.resolve_left (fun h => h rfl)
        exact loadsEither_of_spare hpaths hremoved hother hfile hread
      · left
        rw [← hkind]
        have hstopRecord : stop.records place =
            some ⟨sessionContents texts earlier, modified⟩ := by
          rw [hremoved, Function.update_of_ne hplace]
          exact hrecord
        refine load_newest hpathsEarlier hroundEarlier hsaved.mem hstopRecord ?_
        intro other hother hne file hfile
        rw [hremoved] at hfile
        by_cases hfirst : other = first
        · rw [hfirst, Function.update_self] at hfile
          cases hfile
        · rw [Function.update_of_ne hfirst] at hfile
          exact hnewest other hother hne file hfile
    · right
      refine load_newest hpaths hround List.mem_cons_self hpublished.record ?_
      intro other hother hne file hfile
      rcases hpublished.others other hne with hkept | hnone
      · rw [hkept] at hfile
        by_cases hsame : other = place
        · rw [hsame, hrecord] at hfile
          cases hfile
          dsimp only
          omega
        · have hlt := hnewest other hother hsame file hfile
          omega
      · rw [hnone] at hfile
        cases hfile
  · intro halone
    obtain ⟨p, hp⟩ : ∃ p, Prog.Steps (saveLoop display (first :: rest)
        (sessionContents texts request) (first :: rest) none, disk)
        (p, disk.unsaved place (sessionContents texts request)) :=
      steps_unsaved hsaved.mem hplaceNe none
    refine ⟨p, _, hp, load_none hpaths ?_⟩
    intro path hpath
    by_cases hsame : path = place
    · rw [hsame]
      exact Function.update_self _ _ _
    · show Function.update disk.records place none path = none
      rw [Function.update_of_ne hsame]
      exact halone path hpath hsame

end

/-! ## One place -/

/-- The directory of the executable holds the records. -/
def executableOnly : SessionEnv Unit where
  executable _ := some ()
  fallback _ := none

/-- A transfer of a directory whose name has an unpaired surrogate. -/
def directSend (workerCount : UInt64) : GuiTransferRequest :=
  .send .direct [0x43, 0x3A, 0x5C, 0xD800] workerCount 128 (some 1) true

/-- The disk after the save of one request. -/
def savedDisk (request : GuiTransferRequest) : SessionDisk Unit where
  records _ := some ⟨sessionContents linkLocalTexts request, 2⟩
  temporaries _ := none
  clock := 2

theorem savedSession_savedDisk (request : GuiTransferRequest) :
    SavedSession linkLocalTexts [()] request (savedDisk request) () where
  mem := List.mem_singleton_self ()
  newest := ⟨2, le_refl 2, rfl, fun _ _ hne => absurd rfl hne⟩

theorem directSend_nonzero : (directSend 1).Nonzero ∧ (directSend 2).Nonzero :=
  ⟨⟨by decide, by decide, by decide⟩, by decide, by decide, by decide⟩

theorem directSend_printsBack (workerCount : UInt64) :
    (directSend workerCount).connection.PrintsBack linkLocalTexts :=
  fun _ h => by cases h

theorem saveSession_keeps_iff_directSend :
    (encodeRequest linkLocalTexts (directSend 2)).bind (decodeRequest linkLocalTexts) =
        .ok (directSend 2) ∧
      ((∀ stop ∈ (saveSession executableOnly (fun _ => "") linkLocalTexts (directSend 2)).stops
            (savedDisk (directSend 1)),
          LoadsEither executableOnly (fun _ => "") linkLocalTexts (directSend 1) (directSend 2)
            stop) ↔ () ≠ () ∨ HasSpare linkLocalTexts (directSend 1) (directSend 2)
              (savedDisk (directSend 1)) []) ∧
      ((∀ other ∈ [()], other ≠ () → (savedDisk (directSend 1)).records other = none) →
        ∃ p stop, Prog.Steps (saveSession executableOnly (fun _ => "") linkLocalTexts
            (directSend 2), savedDisk (directSend 1)) (p, stop) ∧
          loadLatestForKinds executableOnly (fun _ => "") linkLocalTexts
            [sessionKind (directSend 2)] stop = .ok none) :=
  saveSession_keeps_iff rfl rfl directSend_nonzero.1 (directSend_printsBack 1)
    directSend_nonzero.2 (directSend_printsBack 2) (savedSession_savedDisk (directSend 1))

/-- A second send is saved where the first one is, and the process stops before the rename. -/
theorem saveSession_loses_record :
    loadLatestForKinds executableOnly (fun _ => "") linkLocalTexts [sessionKind (directSend 2)]
        (savedDisk (directSend 1)) = .ok (some (directSend 1)) ∧
      ∃ stop ∈ (saveSession executableOnly (fun _ => "") linkLocalTexts (directSend 2)).stops
          (savedDisk (directSend 1)),
        loadLatestForKinds executableOnly (fun _ => "") linkLocalTexts
          [sessionKind (directSend 2)] stop = .ok none := by
  have hpaths : sessionPaths executableOnly (sessionKind (directSend 2)) = .ok [()] := rfl
  constructor
  · exact load_newest rfl (decodeRequest_encodeRequest directSend_nonzero.1
      (directSend_printsBack 1)) (List.mem_singleton_self ()) rfl
      (fun _ _ hne => absurd rfl hne)
  · refine ⟨(savedDisk (directSend 1)).unsaved () (sessionContents linkLocalTexts (directSend 2)),
      ?_, load_none hpaths (fun _ _ => rfl)⟩
    rw [saveSession_eq hpaths, saveLoop, Prog.mem_stops_orElse]
    exact .inl (Prog.mem_stops_bind.mpr (.inl (unsaved_mem_stops _ (Option.some_ne_none _))))

end NetworkCopy
