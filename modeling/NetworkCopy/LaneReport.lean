import NetworkCopy.IoResult

/-!
# Transfer counters

`LaneReport` is what one lane, or one preparation step, accounts for.  Both
sides of a session merge the same sequence of reports and compare the result,
so every counter is kept, not only the file and byte totals.

All additions are checked.  `addCounter` is the one addition that the source
repeats for each field; a merge that succeeds adds field by field.
-/

namespace NetworkCopy

/-- `counter.checked_add(value).ok_or_else(..)?`. -/
def addCounter (counter value : Nat) (overflow : String) : IoResult Nat :=
  okOrElse (checkedAdd counter value) (.other overflow)

variable {overflow : String}

theorem addCounter_eq_ok {counter value total : Nat} :
    addCounter counter value overflow = .ok total ↔
      counter + value < u64Limit ∧ counter + value = total := by
  rw [addCounter, okOrElse_eq_ok, checkedAdd_eq_some]

/-- An addition in range succeeds. -/
theorem addCounter_of_lt {counter value : Nat} (h : counter + value < u64Limit) :
    addCounter counter value overflow = .ok (counter + value) :=
  addCounter_eq_ok.mpr ⟨h, rfl⟩

/-- A successful addition adds. -/
theorem addCounter_val {counter value total : Nat}
    (h : addCounter counter value overflow = .ok total) : total = counter + value :=
  (addCounter_eq_ok.mp h).2.symm

/-- `cdc_lane::CdcLaneStats`. -/
structure CdcLaneStats where
  offeredFiles : Nat := 0
  completedFiles : Nat := 0
  fallbackFiles : Nat := 0
  logicalBytes : Nat := 0
  reusedBytes : Nat := 0
  literalBytes : Nat := 0
  indexWireBytes : Nat := 0
  planWireBytes : Nat := 0
  deriving DecidableEq, Repr

/-- `CdcLaneStats::merge`. -/
def CdcLaneStats.merge (stats other : CdcLaneStats) : IoResult CdcLaneStats := do
  let offeredFiles ← addCounter stats.offeredFiles other.offeredFiles
    "CDC offer count overflowed"
  let completedFiles ← addCounter stats.completedFiles other.completedFiles
    "CDC completion count overflowed"
  let fallbackFiles ← addCounter stats.fallbackFiles other.fallbackFiles
    "CDC fallback count overflowed"
  let logicalBytes ← addCounter stats.logicalBytes other.logicalBytes
    "CDC logical bytes overflowed"
  let reusedBytes ← addCounter stats.reusedBytes other.reusedBytes
    "CDC reused bytes overflowed"
  let literalBytes ← addCounter stats.literalBytes other.literalBytes
    "CDC literal bytes overflowed"
  let indexWireBytes ← addCounter stats.indexWireBytes other.indexWireBytes
    "CDC index wire bytes overflowed"
  let planWireBytes ← addCounter stats.planWireBytes other.planWireBytes
    "CDC plan wire bytes overflowed"
  return { offeredFiles, completedFiles, fallbackFiles, logicalBytes, reusedBytes,
           literalBytes, indexWireBytes, planWireBytes }

/-- `LaneReport`. -/
structure LaneReport where
  filesCopied : Nat := 0
  bytesCopied : Nat := 0
  dataWireBytes : Nat := 0
  compressedRecords : Nat := 0
  cdc : CdcLaneStats := {}
  exactReusedFiles : Nat := 0
  exactReusedBytes : Nat := 0
  exactReusePlanWireBytes : Nat := 0
  tinyPackCount : Nat := 0
  compressedTinyPackCount : Nat := 0
  rawTinyPackCount : Nat := 0
  tinyFilesPacked : Nat := 0
  tinyBytesPacked : Nat := 0
  tinyPackWireBytes : Nat := 0
  deriving DecidableEq, Repr

/-- `add_lane_counts`. -/
def addLaneCounts (report : LaneReport) (files bytes : Nat) (side : String) :
    IoResult LaneReport := do
  let filesCopied ← addCounter report.filesCopied files s!"{side} file count overflowed"
  let bytesCopied ← addCounter report.bytesCopied bytes s!"{side} byte count overflowed"
  return { report with filesCopied, bytesCopied }

theorem addLaneCounts_eq_ok {report report' : LaneReport} {files bytes : Nat}
    {side : String} (h : addLaneCounts report files bytes side = .ok report') :
    report' = { report with filesCopied := report.filesCopied + files
                            bytesCopied := report.bytesCopied + bytes } := by
  unfold addLaneCounts at h
  obtain ⟨filesCopied, hfiles, h⟩ := bind_eq_ok.mp h
  obtain ⟨bytesCopied, hbytes, h⟩ := bind_eq_ok.mp h
  rw [addCounter_val hfiles, addCounter_val hbytes, pure_eq_ok] at h
  cases h
  rfl

/-- `add_compressed_record`. -/
def addCompressedRecord (report : LaneReport) (compressed : Bool) : IoResult LaneReport :=
  if compressed then do
    let compressedRecords ← addCounter report.compressedRecords 1
      "compressed record count overflowed"
    return { report with compressedRecords }
  else .ok report

end NetworkCopy
