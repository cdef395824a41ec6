import NetworkCopy.DesktopLayoutFormat
import NetworkCopy.Lib.Rescale
import Std.Data.HashMap

/-!
# Where the icons of a saved desktop go

`plan_desktop_positions` maps the monitors of a snapshot to those of this computer and every icon
into the work area of the monitor that its own is mapped to.  Coordinates are `i32`; the code
subtracts some of them without a guard and calls `clamp`, which panics on an empty range, so both
are steps that can fail here.  The checks of a snapshot bound the coordinates so that they never do.
-/

namespace NetworkCopy

/-! ## Arithmetic -/

/-- Why the placement gives no positions: the `None` of the source, or a panic. -/
inductive PlacementStop where
  | none
  | subtractWithOverflow
  | clampMinAboveMax
  | indexOutOfBounds
  deriving DecidableEq

/-- A step of the placement. -/
abbrev Placing (α : Type) := Except PlacementStop α

/-- `Option` with `?`. -/
def orNone {α : Type} : Option α → Placing α
  | some a => .ok a
  | none => .error .none

/-- Indexing of a slice. -/
def atIndex {α : Type} (items : List α) (index : Nat) : Placing α :=
  match items[index]? with
  | some item => .ok item
  | none => .error .indexOutOfBounds

/-- A subtraction of `i32`, with the overflow check of a debug build. -/
def subI32 (left right : Int32) : Placing Int32 :=
  let difference := left.toInt - right.toInt
  if -2 ^ 31 ≤ difference ∧ difference < 2 ^ 31 then .ok (.ofInt difference)
  else .error .subtractWithOverflow

/-- `i32::saturating_sub`. -/
def saturatingSub (left right : Int32) : Int32 := .ofIntClamp (left.toInt - right.toInt)

/-- A value of `i64` after a saturating operation. -/
def saturateI64 (value : Int) : Int := max (-2 ^ 63) (min value (2 ^ 63 - 1))

/-- `Ord::clamp`. -/
def clamp {α : Type} [LE α] [LT α] [DecidableLE α] [DecidableLT α] (value low high : α) :
    Placing α :=
  if low ≤ high then .ok (if value < low then low else if high < value then high else value)
  else .error .clampMinAboveMax

/-- What follows a step that succeeds. -/
theorem placing_bind {α β : Type} {step : Placing α} {a : α} (h : step = .ok a)
    (next : α → Placing β) : (step >>= next) = next a := by
  rw [h]
  rfl

/-! ## Monitors -/

/-- `same_monitor_environment`. -/
def sameMonitorEnvironment (expected current : List DesktopMonitor) : Bool :=
  expected.length = current.length &&
    expected.all (fun monitor => current.any (fun candidate => candidate = monitor))

/-- `monitor_center_twice`. -/
def monitorCenterTwice (monitor : DesktopMonitor) : Int × Int :=
  (monitor.bounds.left.toInt + monitor.bounds.right.toInt,
    monitor.bounds.top.toInt + monitor.bounds.bottom.toInt)

/-- `monitor_direction_sector`. -/
def monitorDirectionSector (dx dy : Int) : Nat :=
  if |dy| ≤ |dx| then
    if dx < 0 then 0 else 2
  else if dy < 0 then 1
  else 3

/-- The key by which the secondary monitors are sorted. -/
def monitorSortKey (primary monitor : DesktopMonitor) : Nat ×ₗ Int ×ₗ Int ×ₗ Int :=
  let dx := (monitorCenterTwice monitor).1 - (monitorCenterTwice primary).1
  let dy := (monitorCenterTwice monitor).2 - (monitorCenterTwice primary).2
  toLex (monitorDirectionSector dx dy, toLex (saturateI64 (|dx| + |dy|), toLex (dx, dy)))

/-- `ordered_monitor_indices`. -/
def orderedMonitorIndices (monitors : List DesktopMonitor) : Placing (List Nat) :=
  match (monitors.zipIdx.filter (fun entry => entry.1.primary)).map Prod.snd with
  | [primaryIndex] => do
      let primary ← atIndex monitors primaryIndex
      let secondary := (List.range monitors.length).filter (fun index => index ≠ primaryIndex)
      -- Every index is one of the list, so the default is never the key.
      let key := fun index => monitorSortKey primary (monitors.getD index primary)
      return primaryIndex :: secondary.mergeSort (fun left right => key left ≤ key right)
  | _ => .error .none

/-- `virtual_monitor_bounds`. -/
def virtualMonitorBounds : List DesktopMonitor → Placing DesktopRect
  | [] => .error .none
  | first :: rest => .ok (rest.foldl (fun bounds monitor => {
      left := min bounds.left monitor.bounds.left
      top := min bounds.top monitor.bounds.top
      right := max bounds.right monitor.bounds.right
      bottom := max bounds.bottom monitor.bounds.bottom }) first.bounds)

/-- `translate_to_view_space`. -/
def translateToViewSpace (rect virtualBounds : DesktopRect) : Placing DesktopRect := do
  let left ← subI32 rect.left virtualBounds.left
  let top ← subI32 rect.top virtualBounds.top
  let right ← subI32 rect.right virtualBounds.left
  let bottom ← subI32 rect.bottom virtualBounds.top
  return { left, top, right, bottom }

/-- `point_in_rect`. -/
def pointInRect (point : DesktopPoint) (rect : DesktopRect) : Bool :=
  rect.left ≤ point.x && point.x < rect.right && rect.top ≤ point.y && point.y < rect.bottom

/-- The distance of a coordinate from a side of a rectangle. -/
def axisDistance (value first last : Int) : Int :=
  if value < first then first - value
  else if last < value then value - last
  else 0

/-- `point_distance_squared`. -/
def pointDistanceSquared (point : DesktopPoint) (rect : DesktopRect) : Int :=
  let dx := axisDistance point.x.toInt rect.left.toInt (saturatingSub rect.right 1).toInt
  let dy := axisDistance point.y.toInt rect.top.toInt (saturatingSub rect.bottom 1).toInt
  saturateI64 (saturateI64 (dx * dx) + saturateI64 (dy * dy))

/-- The loop of `monitor_for_desktop_point`, from the monitor `index` on. -/
def nearestMonitor (point : DesktopPoint) (virtualBounds : DesktopRect) :
    Nat → Option (Int × Nat) → List DesktopMonitor → Placing Nat
  | _, nearest, [] => orNone (nearest.map Prod.snd)
  | index, nearest, monitor :: rest => do
      let bounds ← translateToViewSpace monitor.bounds virtualBounds
      if pointInRect point bounds then return index
      let distance := pointDistanceSquared point bounds
      let nearest := match nearest with
        | some (bestDistance, best) =>
            if bestDistance ≤ distance then some (bestDistance, best) else some (distance, index)
        | none => some (distance, index)
      nearestMonitor point virtualBounds (index + 1) nearest rest

/-- `monitor_for_desktop_point`. -/
def monitorForDesktopPoint (point : DesktopPoint) (monitors : List DesktopMonitor)
    (virtualBounds : DesktopRect) : Placing Nat :=
  nearestMonitor point virtualBounds 0 none monitors

/-! ## Positions -/

/-- The span of an axis in `scale_axis`. -/
def axisSpan (start stop : Int32) : Int :=
  (max (saturatingSub (saturatingSub stop start) 1) 1).toInt

/-- `scale_axis`. -/
def scaleAxis (value sourceStart sourceEnd targetStart targetEnd : Int32) : Placing Int32 := do
  let sourceSpan := axisSpan sourceStart sourceEnd
  let targetSpan := axisSpan targetStart targetEnd
  let sourceRelative ← clamp (saturatingSub value sourceStart).toInt 0 sourceSpan
  let scaled := (saturateI64 (sourceRelative * targetSpan)).tdiv sourceSpan
  let mapped := saturateI64 (targetStart.toInt + scaled)
  return if -2 ^ 31 ≤ mapped ∧ mapped < 2 ^ 31 then .ofInt mapped
    else if scaled < 0 then Int32.minValue
    else Int32.maxValue

/-- `clamp_icon_axis`. -/
def clampIconAxis (value workStart workEnd iconExtent : Int32) : Placing Int32 := do
  let workSize := saturatingSub workEnd workStart
  let extent ← clamp iconExtent 1 (max workSize 1)
  let maximum := max (saturatingSub workEnd extent) workStart
  clamp value workStart maximum

/-- `map_desktop_point`. -/
def mapDesktopPoint (point : DesktopPoint) (sourceMonitor targetMonitor : DesktopMonitor)
    (sourceVirtual targetVirtual : DesktopRect) (iconExtent : Int32) : Placing DesktopPoint := do
  let sourceWork ← translateToViewSpace sourceMonitor.workArea sourceVirtual
  let targetWork ← translateToViewSpace targetMonitor.workArea targetVirtual
  let mappedX ← scaleAxis point.x sourceWork.left sourceWork.right targetWork.left targetWork.right
  let mappedY ← scaleAxis point.y sourceWork.top sourceWork.bottom targetWork.top targetWork.bottom
  let x ← clampIconAxis mappedX targetWork.left targetWork.right iconExtent
  let y ← clampIconAxis mappedY targetWork.top targetWork.bottom iconExtent
  return { x, y }

/-- The monitor of `current` for each monitor of the snapshot. -/
def monitorMapping (expected current : List DesktopMonitor) : Placing (Std.HashMap Nat Nat) := do
  let sourceOrder ← orderedMonitorIndices expected
  let targetOrder ← orderedMonitorIndices current
  if sourceOrder.length ≠ targetOrder.length then .error .none
  return Std.HashMap.ofList (sourceOrder.zip targetOrder)

/-- The place of one item of the snapshot. -/
def placeItem (snapshot : DesktopLayoutSnapshot) (currentMonitors : List DesktopMonitor)
    (mapping : Std.HashMap Nat Nat) (sourceVirtual targetVirtual : DesktopRect)
    (iconExtent : Int32) (item : DesktopLayoutItem) : Placing (String × DesktopPoint) := do
  let sourceMonitorIndex ← monitorForDesktopPoint item.position snapshot.monitors sourceVirtual
  let targetMonitorIndex ← orNone mapping[sourceMonitorIndex]?
  let sourceMonitor ← atIndex snapshot.monitors sourceMonitorIndex
  let targetMonitor ← atIndex currentMonitors targetMonitorIndex
  let mapped ← mapDesktopPoint item.position sourceMonitor targetMonitor sourceVirtual
    targetVirtual iconExtent
  return (item.name, mapped)

/-- `plan_desktop_positions`. -/
def planDesktopPositions (snapshot : DesktopLayoutSnapshot)
    (currentMonitors : List DesktopMonitor) : Placing (Std.HashMap String DesktopPoint) := do
  if snapshot.monitors.length ≠ currentMonitors.length ∨ snapshot.monitors = [] then .error .none
  if sameMonitorEnvironment snapshot.monitors currentMonitors then
    return Std.HashMap.ofList (snapshot.items.map (fun item => (item.name, item.position)))
  let mapping ← monitorMapping snapshot.monitors currentMonitors
  let sourceVirtual ← virtualMonitorBounds snapshot.monitors
  let targetVirtual ← virtualMonitorBounds currentMonitors
  -- `i32::try_from` of a `u32`.
  let iconExtent ← orNone
    (if snapshot.iconSize.toNat < 2 ^ 31 then some (Int32.ofNat snapshot.iconSize.toNat) else none)
  let positions ← snapshot.items.mapM
    (placeItem snapshot currentMonitors mapping sourceVirtual targetVirtual iconExtent)
  return Std.HashMap.ofList positions

/-! ## Coordinates of the view -/

variable {monitors : List DesktopMonitor}

theorem toInt_max (left right : Int32) : (max left right).toInt = max left.toInt right.toInt := by
  show (if left ≤ right then right else left).toInt = _
  by_cases h : left ≤ right
  · rw [if_pos h, max_eq_right (Int32.le_iff_toInt_le.mp h)]
  · rw [if_neg h, max_eq_left]
    rw [Int32.le_iff_toInt_le] at h
    omega

theorem toInt_min (left right : Int32) : (min left right).toInt = min left.toInt right.toInt := by
  show (if left ≤ right then left else right).toInt = _
  by_cases h : left ≤ right
  · rw [if_pos h, min_eq_left (Int32.le_iff_toInt_le.mp h)]
  · rw [if_neg h, min_eq_right]
    rw [Int32.le_iff_toInt_le] at h
    omega

/-- A coordinate that translation makes of coordinates in range. -/
def ViewCoordinate (value : Int32) : Prop := -2000000 ≤ value.toInt ∧ value.toInt ≤ 2000000

theorem CoordinateInRange.view {value : Int32} (h : CoordinateInRange value) :
    ViewCoordinate value := by
  simp only [CoordinateInRange, maxDesktopCoordinateAbs] at h
  constructor <;> omega

theorem toInt_saturatingSub {left right : Int32} (hleft : ViewCoordinate left)
    (hright : ViewCoordinate right) :
    (saturatingSub left right).toInt = left.toInt - right.toInt := by
  obtain ⟨hleftLow, hleftHigh⟩ := hleft
  obtain ⟨hrightLow, hrightHigh⟩ := hright
  apply Int32.toInt_ofIntClamp
  · rw [Int32.toInt_minValue]
    omega
  · rw [Int32.toInt_maxValue]
    omega

theorem subI32_of_inRange {left right : Int32} (hleft : CoordinateInRange left)
    (hright : CoordinateInRange right) :
    ∃ difference, subI32 left right = .ok difference ∧ ViewCoordinate difference ∧
      difference.toInt = left.toInt - right.toInt := by
  simp only [CoordinateInRange, maxDesktopCoordinateAbs] at hleft hright
  have hvalue : (Int32.ofInt (left.toInt - right.toInt)).toInt = left.toInt - right.toInt :=
    Int32.toInt_ofInt_of_le (by omega) (by omega)
  refine ⟨_, if_pos ⟨by omega, by omega⟩, ?_, hvalue⟩
  rw [ViewCoordinate, hvalue]
  constructor <;> omega

/-- A rectangle of the view is one of the screen, seen from the corner of all monitors. -/
structure DesktopRect.ViewOf (view rect virtualBounds : DesktopRect) : Prop where
  left : view.left.toInt = rect.left.toInt - virtualBounds.left.toInt
  top : view.top.toInt = rect.top.toInt - virtualBounds.top.toInt
  right : view.right.toInt = rect.right.toInt - virtualBounds.left.toInt
  bottom : view.bottom.toInt = rect.bottom.toInt - virtualBounds.top.toInt

/-- A rectangle of the view with an inside. -/
structure DesktopRect.InView (view : DesktopRect) : Prop where
  left : ViewCoordinate view.left
  top : ViewCoordinate view.top
  right : ViewCoordinate view.right
  bottom : ViewCoordinate view.bottom
  width : view.left.toInt < view.right.toInt
  height : view.top.toInt < view.bottom.toInt

/-- The corner that the view starts at. -/
def DesktopRect.CornerInRange (bounds : DesktopRect) : Prop :=
  CoordinateInRange bounds.left ∧ CoordinateInRange bounds.top

theorem translateToViewSpace_of_valid {rect virtualBounds : DesktopRect} (hrect : rect.Valid)
    (hcorner : virtualBounds.CornerInRange) :
    ∃ view, translateToViewSpace rect virtualBounds = .ok view ∧
      view.ViewOf rect virtualBounds ∧ view.InView := by
  obtain ⟨left, hleft, hleftView, hleftValue⟩ := subI32_of_inRange hrect.left hcorner.1
  obtain ⟨top, htop, htopView, htopValue⟩ := subI32_of_inRange hrect.top hcorner.2
  obtain ⟨right, hright, hrightView, hrightValue⟩ := subI32_of_inRange hrect.right hcorner.1
  obtain ⟨bottom, hbottom, hbottomView, hbottomValue⟩ := subI32_of_inRange hrect.bottom hcorner.2
  have hwidth := Int32.lt_iff_toInt_lt.mp hrect.width
  have hheight := Int32.lt_iff_toInt_lt.mp hrect.height
  refine ⟨⟨left, top, right, bottom⟩, ?_, ⟨hleftValue, htopValue, hrightValue, hbottomValue⟩, ?_⟩
  · rw [translateToViewSpace, placing_bind hleft, placing_bind htop, placing_bind hright,
      placing_bind hbottom]
    rfl
  · exact ⟨hleftView, htopView, hrightView, hbottomView, by dsimp only; omega,
      by dsimp only; omega⟩

/-- The corner of all monitors has the coordinates of monitors. -/
theorem virtualMonitorBounds_of_valid (hne : monitors ≠ [])
    (hvalid : ∀ monitor ∈ monitors, monitor.Valid) :
    ∃ bounds, virtualMonitorBounds monitors = .ok bounds ∧ bounds.CornerInRange := by
  have hfold : ∀ (rest : List DesktopMonitor) (bounds : DesktopRect),
      (∀ monitor ∈ rest, monitor.Valid) → bounds.CornerInRange →
      (rest.foldl (fun (bounds : DesktopRect) (monitor : DesktopMonitor) => {
        left := min bounds.left monitor.bounds.left
        top := min bounds.top monitor.bounds.top
        right := max bounds.right monitor.bounds.right
        bottom := max bounds.bottom monitor.bounds.bottom }) bounds).CornerInRange := by
    intro rest
    induction rest with
    | nil => exact fun bounds _ hcorner => hcorner
    | cons monitor rest ih =>
      intro bounds hrest hcorner
      obtain ⟨hmonitor, hrest⟩ := List.forall_mem_cons.mp hrest
      apply ih _ hrest
      obtain ⟨hleft, htop⟩ := hcorner
      have hmonitorLeft := hmonitor.bounds.left
      have hmonitorTop := hmonitor.bounds.top
      constructor
      · simp only [CoordinateInRange, toInt_min] at *
        omega
      · simp only [CoordinateInRange, toInt_min] at *
        omega
  cases monitors with
  | nil => exact absurd rfl hne
  | cons first rest =>
    obtain ⟨hfirst, hrest⟩ := List.forall_mem_cons.mp hvalid
    exact ⟨_, rfl, hfold rest first.bounds hrest ⟨hfirst.bounds.left, hfirst.bounds.top⟩⟩

/-! ## One axis -/

section

variable {sourceStart sourceEnd targetStart targetEnd : Int32}

theorem axisSpan_eq {start stop : Int32} (hstart : ViewCoordinate start)
    (hstop : ViewCoordinate stop) :
    axisSpan start stop = max (stop.toInt - start.toInt - 1) 1 := by
  have hone : (1 : Int32).toInt = 1 := by decide
  have hsize : (saturatingSub stop start).toInt = stop.toInt - start.toInt :=
    toInt_saturatingSub hstop hstart
  obtain ⟨hstartLow, hstartHigh⟩ := hstart
  obtain ⟨hstopLow, hstopHigh⟩ := hstop
  have hlast : (saturatingSub (saturatingSub stop start) 1).toInt =
      stop.toInt - start.toInt - 1 := by
    rw [← hsize, ← hone]
    apply Int32.toInt_ofIntClamp
    · rw [Int32.toInt_minValue]
      omega
    · rw [Int32.toInt_maxValue]
      omega
  rw [axisSpan, toInt_max, hlast, hone]

theorem clamp_of_le {low high : Int} (h : low ≤ high) (value : Int) :
    clamp value low high = .ok (max low (min value high)) := by
  rw [clamp, if_pos h]
  congr 1
  split
  · omega
  · split <;> omega

theorem clamp_of_toInt_le {low high : Int32} (h : low.toInt ≤ high.toInt) (value : Int32) :
    ∃ result, clamp value low high = .ok result ∧
      result.toInt = max low.toInt (min value.toInt high.toInt) := by
  refine ⟨_, if_pos (Int32.le_iff_toInt_le.mpr h), ?_⟩
  split
  · rename_i hlow
    have hlow := Int32.lt_iff_toInt_lt.mp hlow
    omega
  · rename_i hlow
    rw [Int32.lt_iff_toInt_lt] at hlow
    split
    · rename_i hhigh
      have hhigh := Int32.lt_iff_toInt_lt.mp hhigh
      omega
    · rename_i hhigh
      rw [Int32.lt_iff_toInt_lt] at hhigh
      omega

theorem saturateI64_of_fits {value : Int} (hlow : -2 ^ 63 ≤ value) (hhigh : value < 2 ^ 63) :
    saturateI64 value = value := by
  unfold saturateI64
  omega

/-- `scale_axis` moves a point to the same fraction of the target. -/
theorem scaleAxis_of_view {value : Int32} (hvalue : ViewCoordinate value)
    (hsourceStart : ViewCoordinate sourceStart) (hsourceEnd : ViewCoordinate sourceEnd)
    (htargetStart : ViewCoordinate targetStart) (htargetEnd : ViewCoordinate targetEnd) :
    ∃ mapped, scaleAxis value sourceStart sourceEnd targetStart targetEnd = .ok mapped ∧
      mapped.toInt = targetStart.toInt + Rescale.rescale
        (max (sourceEnd.toInt - sourceStart.toInt - 1) 1)
        (max (targetEnd.toInt - targetStart.toInt - 1) 1) (value.toInt - sourceStart.toInt) := by
  unfold scaleAxis
  rw [axisSpan_eq hsourceStart hsourceEnd, axisSpan_eq htargetStart htargetEnd,
    toInt_saturatingSub hvalue hsourceStart]
  obtain ⟨hsourceStartLow, hsourceStartHigh⟩ := hsourceStart
  obtain ⟨hsourceEndLow, hsourceEndHigh⟩ := hsourceEnd
  obtain ⟨htargetStartLow, htargetStartHigh⟩ := htargetStart
  obtain ⟨htargetEndLow, htargetEndHigh⟩ := htargetEnd
  generalize hsource : max (sourceEnd.toInt - sourceStart.toInt - 1) 1 = sourceSpan
  generalize htarget : max (targetEnd.toInt - targetStart.toInt - 1) 1 = targetSpan
  generalize value.toInt - sourceStart.toInt = offset
  have hsourcePos : 0 < sourceSpan := by omega
  have htargetPos : 0 ≤ targetSpan := by omega
  dsimp only
  rw [clamp_of_le hsourcePos.le]
  have hrelative : 0 ≤ max 0 (min offset sourceSpan) := le_max_left _ _
  have hproduct : max 0 (min offset sourceSpan) * targetSpan ≤ 4000000 * 4000000 := by
    apply Int.mul_le_mul (by omega) (by omega) htargetPos (by decide)
  have hscaled : (saturateI64 (max 0 (min offset sourceSpan) * targetSpan)).tdiv sourceSpan =
      Rescale.rescale sourceSpan targetSpan offset := by
    have hnonneg := Int.mul_nonneg hrelative htargetPos
    rw [saturateI64_of_fits (by omega) (by omega), Int.tdiv_eq_ediv_of_nonneg hnonneg,
      Rescale.rescale]
  have hlow := Rescale.rescale_nonneg hsourcePos htargetPos offset
  have hhigh := Rescale.rescale_le hsourcePos htargetPos offset
  have hmapped : saturateI64 (targetStart.toInt + Rescale.rescale sourceSpan targetSpan offset) =
      targetStart.toInt + Rescale.rescale sourceSpan targetSpan offset :=
    saturateI64_of_fits (by omega) (by omega)
  refine ⟨.ofInt (targetStart.toInt + Rescale.rescale sourceSpan targetSpan offset), ?_, ?_⟩
  · show Except.ok (ite _ _ _) = _
    rw [hscaled, hmapped, if_pos ⟨by omega, by omega⟩]
  · exact Int32.toInt_ofInt_of_le (by omega) (by omega)

/-- `clamp_icon_axis` leaves room for the icon. -/
theorem clampIconAxis_of_view (value : Int32) {iconExtent : Int32} (htargetStart : ViewCoordinate targetStart)
    (htargetEnd : ViewCoordinate targetEnd) (hwidth : targetStart.toInt < targetEnd.toInt)
    (hicon : 1 ≤ iconExtent.toInt ∧ iconExtent.toInt ≤ maxDesktopIconSize) :
    ∃ settled, clampIconAxis value targetStart targetEnd iconExtent = .ok settled ∧
      settled.toInt = Rescale.settle targetStart.toInt targetEnd.toInt
        (min iconExtent.toInt (targetEnd.toInt - targetStart.toInt)) value.toInt := by
  have hone : (1 : Int32).toInt = 1 := by decide
  simp only [maxDesktopIconSize] at hicon
  have hsize := toInt_saturatingSub htargetEnd htargetStart
  have hroom : (1 : Int32).toInt ≤ (max (saturatingSub targetEnd targetStart) 1).toInt := by
    rw [toInt_max, hsize, hone]
    omega
  obtain ⟨extent, hextent, hextentValue⟩ := clamp_of_toInt_le hroom iconExtent
  rw [toInt_max, hsize, hone] at hextentValue
  have hmaximum : (max (saturatingSub targetEnd extent) targetStart).toInt =
      max targetStart.toInt (targetEnd.toInt - extent.toInt) := by
    obtain ⟨htargetStartLow, htargetStartHigh⟩ := htargetStart
    obtain ⟨htargetEndLow, htargetEndHigh⟩ := htargetEnd
    rw [toInt_max, toInt_saturatingSub ⟨htargetEndLow, htargetEndHigh⟩ ⟨by omega, by omega⟩,
      max_comm]
  obtain ⟨settled, hsettled, hsettledValue⟩ := clamp_of_toInt_le
    (hmaximum ▸ le_max_left _ _ :
      targetStart.toInt ≤ (max (saturatingSub targetEnd extent) targetStart).toInt) value
  refine ⟨settled, ?_, ?_⟩
  · rw [clampIconAxis, placing_bind hextent]
    exact hsettled
  · rw [hsettledValue, hmaximum, hextentValue, Rescale.settle]
    congr 4
    omega

end

/-! ## One point -/

variable {sourceVirtual targetVirtual : DesktopRect}

/-- Where a point of the work area `source` goes in the work area `target`, for an icon of the
extent `extent`. -/
structure DesktopPoint.PlacedFrom (mapped point : DesktopPoint) (source target : DesktopRect)
    (extent : Int) : Prop where
  x : mapped.x.toInt = Rescale.place source.left.toInt source.right.toInt target.left.toInt
    target.right.toInt extent point.x.toInt
  y : mapped.y.toInt = Rescale.place source.top.toInt source.bottom.toInt target.top.toInt
    target.bottom.toInt extent point.y.toInt

theorem mapDesktopPoint_of_valid {point : DesktopPoint}
    {sourceMonitor targetMonitor : DesktopMonitor} {iconExtent : Int32}
    (hx : CoordinateInRange point.x) (hy : CoordinateInRange point.y)
    (hsource : sourceMonitor.Valid) (htarget : targetMonitor.Valid)
    (hsourceCorner : sourceVirtual.CornerInRange) (htargetCorner : targetVirtual.CornerInRange)
    (hicon : 1 ≤ iconExtent.toInt ∧ iconExtent.toInt ≤ maxDesktopIconSize) :
    ∃ mapped sourceWork targetWork,
      mapDesktopPoint point sourceMonitor targetMonitor sourceVirtual targetVirtual iconExtent =
        .ok mapped ∧
      translateToViewSpace sourceMonitor.workArea sourceVirtual = .ok sourceWork ∧
      translateToViewSpace targetMonitor.workArea targetVirtual = .ok targetWork ∧
      targetWork.InView ∧ mapped.PlacedFrom point sourceWork targetWork iconExtent.toInt := by
  obtain ⟨sourceWork, hsourceWork, _, hsourceView⟩ :=
    translateToViewSpace_of_valid hsource.workArea hsourceCorner
  obtain ⟨targetWork, htargetWork, _, htargetView⟩ :=
    translateToViewSpace_of_valid htarget.workArea htargetCorner
  obtain ⟨mappedX, hmappedX, hmappedXValue⟩ := scaleAxis_of_view hx.view hsourceView.left
    hsourceView.right htargetView.left htargetView.right
  obtain ⟨mappedY, hmappedY, hmappedYValue⟩ := scaleAxis_of_view hy.view hsourceView.top
    hsourceView.bottom htargetView.top htargetView.bottom
  obtain ⟨x, hsettledX, hsettledXValue⟩ := clampIconAxis_of_view mappedX
    htargetView.left htargetView.right htargetView.width hicon
  obtain ⟨y, hsettledY, hsettledYValue⟩ := clampIconAxis_of_view mappedY
    htargetView.top htargetView.bottom htargetView.height hicon
  refine ⟨⟨x, y⟩, sourceWork, targetWork, ?_, hsourceWork, htargetWork, htargetView, ?_, ?_⟩
  · rw [mapDesktopPoint, placing_bind hsourceWork, placing_bind htargetWork,
      placing_bind hmappedX, placing_bind hmappedY, placing_bind hsettledX,
      placing_bind hsettledY]
    rfl
  · rw [hsettledXValue, hmappedXValue, Rescale.place]
  · rw [hsettledYValue, hmappedYValue, Rescale.place]

/-! ## Which monitor -/

/-- The search ends at a monitor of the list. -/
theorem nearestMonitor_of_valid (point : DesktopPoint) {virtualBounds : DesktopRect}
    (hcorner : virtualBounds.CornerInRange) (hvalid : ∀ monitor ∈ monitors, monitor.Valid)
    {index : Nat} {nearest : Option (Int × Nat)} (hnearest : ∀ found ∈ nearest, found.2 < index)
    (hsome : monitors ≠ [] ∨ nearest ≠ none) :
    ∃ found, nearestMonitor point virtualBounds index nearest monitors = .ok found ∧
      found < index + monitors.length := by
  induction monitors generalizing index nearest with
  | nil =>
    cases nearest with
    | none => simp at hsome
    | some best =>
      have hbest := hnearest best rfl
      exact ⟨best.2, rfl, hbest⟩
  | cons monitor rest ih =>
    obtain ⟨hmonitor, hrest⟩ := List.forall_mem_cons.mp hvalid
    obtain ⟨bounds, hbounds, _⟩ := translateToViewSpace_of_valid hmonitor.bounds hcorner
    rw [nearestMonitor, placing_bind hbounds, List.length_cons]
    by_cases hinside : pointInRect point bounds = true
    · rw [if_pos hinside]
      exact ⟨index, rfl, by omega⟩
    · rw [if_neg hinside]
      have hnext : ∀ next : Option (Int × Nat), (∀ found ∈ next, found.2 < index + 1) →
          next ≠ none → ∃ found, nearestMonitor point virtualBounds (index + 1) next rest =
            .ok found ∧ found < index + (rest.length + 1) := by
        intro next hlt hne
        obtain ⟨found, hfound, hbound⟩ := ih hrest hlt (.inr hne)
        exact ⟨found, hfound, by omega⟩
      apply hnext
      · intro found hfound
        cases nearest with
        | none =>
          cases hfound
          exact Nat.lt_succ_self index
        | some best =>
          have hbest := hnearest best rfl
          dsimp only at hfound
          split at hfound
          · cases hfound
            exact Nat.lt_succ_of_lt hbest
          · cases hfound
            exact Nat.lt_succ_self index
      · cases nearest with
        | none => simp
        | some best =>
          dsimp only
          split <;> simp

theorem monitorForDesktopPoint_of_valid (point : DesktopPoint) {virtualBounds : DesktopRect}
    (hcorner : virtualBounds.CornerInRange) (hvalid : ∀ monitor ∈ monitors, monitor.Valid)
    (hne : monitors ≠ []) :
    ∃ index, monitorForDesktopPoint point monitors virtualBounds = .ok index ∧
      index < monitors.length := by
  have hnearest : ∀ found ∈ (none : Option (Int × Nat)), found.2 < 0 := by simp
  obtain ⟨index, hindex, hlt⟩ := nearestMonitor_of_valid point hcorner hvalid hnearest (.inl hne)
  exact ⟨index, hindex, by omega⟩

/-! ## The mapping of the monitors -/

theorem length_filter_zipIdx (monitors : List DesktopMonitor) :
    (monitors.zipIdx.filter (fun entry => entry.1.primary)).length =
      (monitors.filter DesktopMonitor.primary).length := by
  have hfst := List.zipIdx_map_fst 0 monitors
  have hfilter := List.filter_map (f := Prod.fst) (p := DesktopMonitor.primary)
    (l := monitors.zipIdx)
  rw [hfst] at hfilter
  rw [hfilter, List.length_map]
  rfl

/-- The order of the monitors starts at the primary one and has every monitor once. -/
theorem orderedMonitorIndices_of_primary
    (hprimary : (monitors.filter DesktopMonitor.primary).length = 1) :
    ∃ first rest primary, orderedMonitorIndices monitors = .ok (first :: rest) ∧
      (first :: rest).Perm (List.range monitors.length) ∧ monitors[first]? = some primary ∧
      primary.primary = true := by
  have hcount := (length_filter_zipIdx monitors).trans hprimary
  obtain ⟨⟨primary, index⟩, hentry⟩ := List.length_eq_one_iff.mp hcount
  have hmem : (primary, index) ∈ monitors.zipIdx.filter (fun entry => entry.1.primary) := by
    rw [hentry]
    exact List.mem_cons_self
  obtain ⟨hmem, hflag⟩ := List.mem_filter.mp hmem
  have hat : monitors[index]? = some primary := by
    simpa using List.mem_zipIdx_iff_getElem?.mp hmem
  have hrange : index ∈ List.range monitors.length := by
    rw [List.mem_range]
    exact (List.getElem?_eq_some_iff.mp hat).choose
  have hprimaryAt : atIndex monitors index = .ok primary := by
    rw [atIndex, hat]
  have hindices : (monitors.zipIdx.filter (fun entry => entry.1.primary)).map Prod.snd =
      [index] := by
    rw [hentry]
    rfl
  have hordered : ∃ rest, orderedMonitorIndices monitors = .ok (index :: rest) ∧
      rest.Perm ((List.range monitors.length).filter (fun other => other ≠ index)) := by
    rw [orderedMonitorIndices, hindices]
    dsimp only
    rw [placing_bind hprimaryAt]
    exact ⟨_, rfl, List.mergeSort_perm _ _⟩
  obtain ⟨rest, hordered, hperm⟩ := hordered
  have herase : (List.range monitors.length).filter (fun other => other ≠ index) =
      (List.range monitors.length).erase index := by
    rw [List.Nodup.erase_eq_filter List.nodup_range]
    apply List.filter_congr
    intro other _
    rw [bne, Bool.beq_eq_decide_eq, ← decide_not]
  rw [herase] at hperm
  exact ⟨index, rest, primary, hordered,
    (List.Perm.cons index hperm).trans (List.perm_cons_erase hrange).symm, hat, hflag⟩

/-- A one-to-one mapping of the monitors that keeps the primary one. -/
structure MonitorMatching (expected current : List DesktopMonitor) (mapping : Std.HashMap Nat Nat) :
    Prop where
  total : ∀ source < expected.length, ∃ target : Nat, mapping[source]? = some target
  bounds : ∀ source target : Nat, mapping[source]? = some target →
    source < expected.length ∧ target < current.length
  injective : ∀ source source' target : Nat, mapping[source]? = some target →
    mapping[source']? = some target → source = source'
  surjective : ∀ target < current.length, ∃ source : Nat, mapping[source]? = some target
  primary : ∀ (source target : Nat) (sourceMonitor targetMonitor : DesktopMonitor),
    mapping[source]? = some target → expected[source]? = some sourceMonitor →
    current[target]? = some targetMonitor →
    (sourceMonitor.primary = true ↔ targetMonitor.primary = true)

/-- Two monitors of a list with one primary monitor that are both primary are the same. -/
theorem index_eq_of_primary (hprimary : (monitors.filter DesktopMonitor.primary).length = 1)
    {left right : Nat} {leftMonitor rightMonitor : DesktopMonitor}
    (hleft : monitors[left]? = some leftMonitor) (hright : monitors[right]? = some rightMonitor)
    (hleftPrimary : leftMonitor.primary = true) (hrightPrimary : rightMonitor.primary = true) :
    left = right := by
  have hcount := (length_filter_zipIdx monitors).trans hprimary
  obtain ⟨entry, hentry⟩ := List.length_eq_one_iff.mp hcount
  have hmem : ∀ {index : Nat} {monitor : DesktopMonitor}, monitors[index]? = some monitor →
      monitor.primary = true → (monitor, index) = entry := by
    intro index monitor hat hflag
    have hfound : (monitor, index) ∈ monitors.zipIdx.filter (fun entry => entry.1.primary) :=
      List.mem_filter.mpr ⟨List.mem_zipIdx_iff_getElem?.mpr hat, hflag⟩
    rw [hentry] at hfound
    exact List.mem_singleton.mp hfound
  have hsame := (hmem hleft hleftPrimary).trans (hmem hright hrightPrimary).symm
  exact congrArg Prod.snd hsame

theorem getElem?_ofList_zip {keys values : List Nat} (hkeys : keys.Nodup)
    (hlength : keys.length = values.length) {key value : Nat} :
    (Std.HashMap.ofList (keys.zip values))[key]? = some value ↔
      ∃ index : Nat, keys[index]? = some key ∧ values[index]? = some value := by
  have hdistinct : (keys.zip values).Pairwise (fun left right => (left.1 == right.1) = false) := by
    have hfst : ((keys.zip values).map Prod.fst).Nodup := by
      rw [List.map_fst_zip hlength.le]
      exact hkeys
    refine (List.pairwise_map.mp hfst).imp ?_
    intro left right hne
    exact beq_eq_false_iff_ne.mpr hne
  have hof : ∀ {index key value : Nat}, keys[index]? = some key → values[index]? = some value →
      (Std.HashMap.ofList (keys.zip values))[key]? = some value := by
    intro index key value hkey hvalue
    apply Std.HashMap.getElem?_ofList_of_mem (beq_self_eq_true key) hdistinct
    apply List.mem_iff_getElem?.mpr
    refine ⟨index, ?_⟩
    rw [List.getElem?_zip_eq_some]
    exact ⟨hkey, hvalue⟩
  constructor
  · intro hfound
    by_cases hmem : key ∈ keys
    · obtain ⟨index, hkey⟩ := List.mem_iff_getElem?.mp hmem
      have hlt : index < values.length := by
        rw [← hlength]
        exact (List.getElem?_eq_some_iff.mp hkey).choose
      have hvalue := List.getElem?_eq_getElem hlt
      rw [hof hkey hvalue] at hfound
      exact ⟨index, hkey, hvalue.trans hfound⟩
    · have hnone : (Std.HashMap.ofList (keys.zip values))[key]? = none := by
        apply Std.HashMap.getElem?_ofList_of_contains_eq_false
        rw [List.map_fst_zip hlength.le]
        simpa using hmem
      rw [hnone] at hfound
      cases hfound
  · intro ⟨index, hkey, hvalue⟩
    exact hof hkey hvalue

/-- The mapping pairs the monitors of two lists with one primary monitor each. -/
theorem monitorMapping_of_primary {expected current : List DesktopMonitor}
    (hlength : expected.length = current.length)
    (hexpected : (expected.filter DesktopMonitor.primary).length = 1)
    (hcurrent : (current.filter DesktopMonitor.primary).length = 1) :
    ∃ mapping, monitorMapping expected current = .ok mapping ∧
      MonitorMatching expected current mapping := by
  obtain ⟨sourceFirst, sourceRest, sourcePrimary, hsource, hsourcePerm, hsourceAt, hsourceFlag⟩ :=
    orderedMonitorIndices_of_primary hexpected
  obtain ⟨targetFirst, targetRest, targetPrimary, htarget, htargetPerm, htargetAt, htargetFlag⟩ :=
    orderedMonitorIndices_of_primary hcurrent
  generalize hsourceOrder : sourceFirst :: sourceRest = sourceOrder at *
  generalize htargetOrder : targetFirst :: targetRest = targetOrder at *
  have hsourceLength := hsourcePerm.length_eq
  have htargetLength := htargetPerm.length_eq
  rw [List.length_range] at hsourceLength htargetLength
  have hsame : sourceOrder.length = targetOrder.length := by omega
  have hsourceNodup : sourceOrder.Nodup := hsourcePerm.nodup_iff.mpr List.nodup_range
  have htargetNodup : targetOrder.Nodup := htargetPerm.nodup_iff.mpr List.nodup_range
  have hsourceMem : ∀ index, index ∈ sourceOrder ↔ index < expected.length := by
    intro index
    rw [hsourcePerm.mem_iff, List.mem_range]
  have htargetMem : ∀ index, index ∈ targetOrder ↔ index < current.length := by
    intro index
    rw [htargetPerm.mem_iff, List.mem_range]
  have hlookup := @getElem?_ofList_zip sourceOrder targetOrder hsourceNodup hsame
  refine ⟨Std.HashMap.ofList (sourceOrder.zip targetOrder), ?_, ?_⟩
  · rw [monitorMapping, placing_bind hsource, placing_bind htarget, if_neg (not_not.mpr hsame)]
    rfl
  · constructor
    case total =>
      intro source hlt
      obtain ⟨index, hindex⟩ := List.mem_iff_getElem?.mp ((hsourceMem source).mpr hlt)
      have hbound : index < targetOrder.length := by
        rw [← hsame]
        exact (List.getElem?_eq_some_iff.mp hindex).choose
      exact ⟨targetOrder[index], hlookup.mpr ⟨index, hindex, List.getElem?_eq_getElem hbound⟩⟩
    case bounds =>
      intro source target hfound
      obtain ⟨index, hindex, htargetIndex⟩ := hlookup.mp hfound
      exact ⟨(hsourceMem source).mp (List.mem_of_getElem? hindex),
        (htargetMem target).mp (List.mem_of_getElem? htargetIndex)⟩
    case injective =>
      intro source source' target hfound hfound'
      obtain ⟨index, hindex, htargetIndex⟩ := hlookup.mp hfound
      obtain ⟨index', hindex', htargetIndex'⟩ := hlookup.mp hfound'
      have heq : index = index' := by
        obtain ⟨hbound, _⟩ := List.getElem?_eq_some_iff.mp htargetIndex
        exact (List.getElem?_inj hbound htargetNodup).mp (htargetIndex.trans htargetIndex'.symm)
      subst heq
      exact Option.some.inj (hindex.symm.trans hindex')
    case surjective =>
      intro target hlt
      obtain ⟨index, hindex⟩ := List.mem_iff_getElem?.mp ((htargetMem target).mpr hlt)
      have hbound : index < sourceOrder.length := by
        rw [hsame]
        exact (List.getElem?_eq_some_iff.mp hindex).choose
      exact ⟨sourceOrder[index], hlookup.mpr ⟨index, List.getElem?_eq_getElem hbound, hindex⟩⟩
    case primary =>
      intro source target sourceMonitor targetMonitor hfound hsourceMonitor htargetMonitor
      obtain ⟨index, hindex, htargetIndex⟩ := hlookup.mp hfound
      -- Both orders start at the primary monitor, and no monitor comes twice.
      have hsourceZero : sourceOrder[0]? = some sourceFirst := by rw [← hsourceOrder]; rfl
      have htargetZero : targetOrder[0]? = some targetFirst := by rw [← htargetOrder]; rfl
      constructor
      · intro hflag
        have hfirst := index_eq_of_primary hexpected hsourceMonitor hsourceAt hflag hsourceFlag
        subst hfirst
        obtain ⟨hbound, _⟩ := List.getElem?_eq_some_iff.mp hindex
        have hzero : index = 0 :=
          (List.getElem?_inj hbound hsourceNodup).mp (hindex.trans hsourceZero.symm)
        subst hzero
        have htargetFirst := Option.some.inj (htargetIndex.symm.trans htargetZero)
        subst htargetFirst
        rw [htargetMonitor] at htargetAt
        exact Option.some.inj htargetAt ▸ htargetFlag
      · intro hflag
        have hfirst := index_eq_of_primary hcurrent htargetMonitor htargetAt hflag htargetFlag
        subst hfirst
        obtain ⟨hbound, _⟩ := List.getElem?_eq_some_iff.mp htargetIndex
        have hzero : index = 0 :=
          (List.getElem?_inj hbound htargetNodup).mp (htargetIndex.trans htargetZero.symm)
        subst hzero
        have hsourceFirst := Option.some.inj (hindex.symm.trans hsourceZero)
        subst hsourceFirst
        rw [hsourceMonitor] at hsourceAt
        exact Option.some.inj hsourceAt ▸ hsourceFlag

/-! ## All items -/

/-- An icon at a point of a work area, all of it inside where there is room for it. -/
structure DesktopPoint.InWorkArea (point : DesktopPoint) (work : DesktopRect) (extent : Int) :
    Prop where
  left : work.left ≤ point.x
  right : point.x < work.right
  top : work.top ≤ point.y
  bottom : point.y < work.bottom
  wholeWidth : extent ≤ work.right.toInt - work.left.toInt →
    point.x.toInt + extent ≤ work.right.toInt
  wholeHeight : extent ≤ work.bottom.toInt - work.top.toInt →
    point.y.toInt + extent ≤ work.bottom.toInt

theorem DesktopPoint.PlacedFrom.inWorkArea {mapped point : DesktopPoint}
    {source target : DesktopRect} {extent : Int} (h : mapped.PlacedFrom point source target extent)
    (hview : target.InView) (hextent : 1 ≤ extent) : mapped.InWorkArea target extent := by
  have hx := h.x
  have hy := h.y
  have hleft : target.left.toInt ≤ mapped.x.toInt := by
    rw [hx]
    exact Rescale.le_place _
  have hright : mapped.x.toInt + min extent (target.right.toInt - target.left.toInt) ≤
      target.right.toInt := by
    rw [hx]
    exact Rescale.place_add_le _
  have htop : target.top.toInt ≤ mapped.y.toInt := by
    rw [hy]
    exact Rescale.le_place _
  have hbottom : mapped.y.toInt + min extent (target.bottom.toInt - target.top.toInt) ≤
      target.bottom.toInt := by
    rw [hy]
    exact Rescale.place_add_le _
  have hwidth := hview.width
  have hheight := hview.height
  exact {
    left := Int32.le_iff_toInt_le.mpr hleft
    right := Int32.lt_iff_toInt_lt.mpr (by omega)
    top := Int32.le_iff_toInt_le.mpr htop
    bottom := Int32.lt_iff_toInt_lt.mpr (by omega)
    wholeWidth := fun _ => by omega
    wholeHeight := fun _ => by omega }

/-- Points of one work area keep their order. -/
theorem DesktopPoint.PlacedFrom.mono {mapped mapped' point point' : DesktopPoint}
    {source target : DesktopRect} {extent : Int} (h : mapped.PlacedFrom point source target extent)
    (h' : mapped'.PlacedFrom point' source target extent) :
    (point.x ≤ point'.x → mapped.x ≤ mapped'.x) ∧ (point.y ≤ point'.y → mapped.y ≤ mapped'.y) := by
  constructor
  · intro hle
    rw [Int32.le_iff_toInt_le, h.x, h'.x]
    exact Rescale.place_mono (Int32.le_iff_toInt_le.mp hle)
  · intro hle
    rw [Int32.le_iff_toInt_le, h.y, h'.y]
    exact Rescale.place_mono (Int32.le_iff_toInt_le.mp hle)

/-- Where one item goes. -/
structure PlacedItem (snapshot : DesktopLayoutSnapshot) (current : List DesktopMonitor)
    (mapping : Std.HashMap Nat Nat) (sourceVirtual targetVirtual : DesktopRect)
    (item : DesktopLayoutItem) (position : DesktopPoint) (source target : Nat)
    (sourceWork targetWork : DesktopRect) : Prop where
  sourceIndex : monitorForDesktopPoint item.position snapshot.monitors sourceVirtual = .ok source
  targetIndex : mapping[source]? = some target
  sourceView : ∃ monitor, snapshot.monitors[source]? = some monitor ∧
    translateToViewSpace monitor.workArea sourceVirtual = .ok sourceWork
  targetView : ∃ monitor, current[target]? = some monitor ∧
    translateToViewSpace monitor.workArea targetVirtual = .ok targetWork
  inView : targetWork.InView
  placed : position.PlacedFrom item.position sourceWork targetWork snapshot.iconSize.toNat

/-- Items of one monitor have the same work areas. -/
theorem PlacedItem.mono {snapshot : DesktopLayoutSnapshot} {current : List DesktopMonitor}
    {mapping : Std.HashMap Nat Nat} {item item' : DesktopLayoutItem}
    {position position' : DesktopPoint} {source target target' : Nat}
    {sourceWork targetWork sourceWork' targetWork' : DesktopRect}
    (h : PlacedItem snapshot current mapping sourceVirtual targetVirtual item position source target
      sourceWork targetWork)
    (h' : PlacedItem snapshot current mapping sourceVirtual targetVirtual item' position' source
      target' sourceWork' targetWork') :
    (item.position.x ≤ item'.position.x → position.x ≤ position'.x) ∧
      (item.position.y ≤ item'.position.y → position.y ≤ position'.y) := by
  have htarget : target = target' := Option.some.inj (h.targetIndex.symm.trans h'.targetIndex)
  subst htarget
  obtain ⟨monitor, hmonitor, hwork⟩ := h.sourceView
  obtain ⟨monitor', hmonitor', hwork'⟩ := h'.sourceView
  obtain ⟨targetMonitor, htargetMonitor, htargetWork⟩ := h.targetView
  obtain ⟨targetMonitor', htargetMonitor', htargetWork'⟩ := h'.targetView
  have hsameMonitor : monitor = monitor' := Option.some.inj (hmonitor.symm.trans hmonitor')
  have hsameTarget : targetMonitor = targetMonitor' :=
    Option.some.inj (htargetMonitor.symm.trans htargetMonitor')
  subst hsameMonitor hsameTarget
  have hsameWork : sourceWork = sourceWork' := Except.ok.inj (hwork.symm.trans hwork')
  have hsameTargetWork : targetWork = targetWork' :=
    Except.ok.inj (htargetWork.symm.trans htargetWork')
  subst hsameWork hsameTargetWork
  exact h.placed.mono h'.placed

/-- A loop that enters a value for every item, by distinct names. -/
theorem mapM_entries {place : DesktopLayoutItem → Placing (String × DesktopPoint)}
    {Placed : DesktopLayoutItem → DesktopPoint → Prop} {items : List DesktopLayoutItem}
    (h : ∀ item ∈ items, ∃ position, place item = .ok (item.name, position) ∧
      Placed item position) :
    ∃ entries, items.mapM place = .ok entries ∧
      entries.map Prod.fst = items.map DesktopLayoutItem.name ∧
      ∀ item ∈ items, ∃ position, (item.name, position) ∈ entries ∧ Placed item position := by
  induction items with
  | nil => exact ⟨[], rfl, rfl, by simp⟩
  | cons item rest ih =>
    obtain ⟨⟨position, hplace, hplaced⟩, hrest⟩ := List.forall_mem_cons.mp h
    obtain ⟨entries, hentries, hnames, hall⟩ := ih hrest
    refine ⟨(item.name, position) :: entries, ?_, ?_, ?_⟩
    · rw [List.mapM_cons, placing_bind hplace, placing_bind hentries]
      rfl
    · rw [List.map_cons, List.map_cons, hnames]
    · intro other hmem
      rcases List.mem_cons.mp hmem with rfl | hmem
      · exact ⟨position, List.mem_cons_self, hplaced⟩
      · obtain ⟨found, hfound, hfoundPlaced⟩ := hall other hmem
        exact ⟨found, List.mem_cons_of_mem _ hfound, hfoundPlaced⟩

theorem getElem?_ofList_entries {entries : List (String × DesktopPoint)}
    (hnames : (entries.map Prod.fst).Nodup) {name : String} {position : DesktopPoint}
    (hmem : (name, position) ∈ entries) : (Std.HashMap.ofList entries)[name]? = some position := by
  apply Std.HashMap.getElem?_ofList_of_mem (beq_self_eq_true name) _ hmem
  refine (List.pairwise_map.mp hnames).imp ?_
  intro left right hne
  exact beq_eq_false_iff_ne.mpr hne

theorem placeItem_of_valid {snapshot : DesktopLayoutSnapshot} {current : List DesktopMonitor}
    {mapping : Std.HashMap Nat Nat} (hsnapshot : snapshot.Valid)
    (hcurrent : ∀ monitor ∈ current, monitor.Valid) (hne : snapshot.monitors ≠ [])
    (hmapping : MonitorMatching snapshot.monitors current mapping)
    (hsource : sourceVirtual.CornerInRange) (htarget : targetVirtual.CornerInRange)
    {iconExtent : Int32} (hextent : iconExtent.toInt = snapshot.iconSize.toNat)
    {item : DesktopLayoutItem} (hitem : item ∈ snapshot.items) :
    ∃ position, placeItem snapshot current mapping sourceVirtual targetVirtual iconExtent item =
        .ok (item.name, position) ∧
      ∃ source target sourceWork targetWork, PlacedItem snapshot current mapping sourceVirtual
        targetVirtual item position source target sourceWork targetWork := by
  obtain ⟨hx, hy⟩ := hsnapshot.items item hitem
  obtain ⟨source, hsourceIndex, hsourceLt⟩ :=
    monitorForDesktopPoint_of_valid item.position hsource hsnapshot.monitors hne
  obtain ⟨target, htargetIndex⟩ := hmapping.total source hsourceLt
  obtain ⟨_, htargetLt⟩ := hmapping.bounds source target htargetIndex
  have hsourceAt := List.getElem?_eq_getElem hsourceLt
  have htargetAt := List.getElem?_eq_getElem htargetLt
  have hicon : 1 ≤ iconExtent.toInt ∧ iconExtent.toInt ≤ maxDesktopIconSize := by
    obtain ⟨hlow, hhigh⟩ := hsnapshot.iconSize
    simp only [minDesktopIconSize, maxDesktopIconSize] at hlow hhigh ⊢
    omega
  obtain ⟨mapped, sourceWork, targetWork, hmapped, hsourceWork, htargetWork, hview, hplaced⟩ :=
    mapDesktopPoint_of_valid hx hy (hsnapshot.monitors _ (List.getElem_mem hsourceLt))
      (hcurrent _ (List.getElem_mem htargetLt)) hsource htarget hicon
  rw [hextent] at hplaced
  refine ⟨mapped, ?_, source, target, sourceWork, targetWork, hsourceIndex, htargetIndex,
    ⟨_, hsourceAt, hsourceWork⟩, ⟨_, htargetAt, htargetWork⟩, hview, hplaced⟩
  have hsourceMonitor : atIndex snapshot.monitors source = .ok snapshot.monitors[source] := by
    rw [atIndex, hsourceAt]
  have htargetMonitor : atIndex current target = .ok current[target] := by
    rw [atIndex, htargetAt]
  have htargetFound : orNone mapping[source]? = .ok target := by
    rw [htargetIndex]
    rfl
  rw [placeItem, placing_bind hsourceIndex, placing_bind htargetFound, placing_bind hsourceMonitor,
    placing_bind htargetMonitor, placing_bind hmapped]
  rfl

section

variable {Address : Type} {texts : TextSupport Address}

/-- The icons of a validated snapshot go to other monitors of the same number: every icon gets a
place in the work area that its monitor is mapped to, the icons of a monitor keep their order, and
no step of the computation overflows or clamps to an empty range. -/
theorem planDesktopPositions_places {snapshot : DesktopLayoutSnapshot}
    {current : List DesktopMonitor} (hsnapshot : snapshot.validate texts = .ok ())
    (hcurrent : ∀ monitor ∈ current, monitor.validate = .ok ())
    (hlength : current.length = snapshot.monitors.length)
    (hprimary : (current.filter DesktopMonitor.primary).length = 1)
    (hdifferent : sameMonitorEnvironment snapshot.monitors current = false) :
    ∃ positions mapping sourceVirtual targetVirtual,
      planDesktopPositions snapshot current = .ok positions ∧
      monitorMapping snapshot.monitors current = .ok mapping ∧
      MonitorMatching snapshot.monitors current mapping ∧
      virtualMonitorBounds snapshot.monitors = .ok sourceVirtual ∧
      virtualMonitorBounds current = .ok targetVirtual ∧
      (∀ item ∈ snapshot.items, ∃ (position : DesktopPoint) (source target : Nat)
        (targetMonitor : DesktopMonitor) (work : DesktopRect),
        positions[item.name]? = some position ∧
        monitorForDesktopPoint item.position snapshot.monitors sourceVirtual = .ok source ∧
        mapping[source]? = some target ∧ current[target]? = some targetMonitor ∧
        translateToViewSpace targetMonitor.workArea targetVirtual = .ok work ∧
        position.InWorkArea work snapshot.iconSize.toNat) ∧
      (∀ left ∈ snapshot.items, ∀ right ∈ snapshot.items, ∀ source,
        monitorForDesktopPoint left.position snapshot.monitors sourceVirtual = .ok source →
        monitorForDesktopPoint right.position snapshot.monitors sourceVirtual = .ok source →
        ∃ leftPosition rightPosition : DesktopPoint,
          positions[left.name]? = some leftPosition ∧
          positions[right.name]? = some rightPosition ∧
          (left.position.x ≤ right.position.x → leftPosition.x ≤ rightPosition.x) ∧
          (left.position.y ≤ right.position.y → leftPosition.y ≤ rightPosition.y)) := by
  have hvalid := DesktopLayoutSnapshot.valid_of_validate hsnapshot
  have hcurrentValid : ∀ monitor ∈ current, monitor.Valid :=
    fun monitor hmem => DesktopMonitor.valid_of_validate (hcurrent monitor hmem)
  have hne : snapshot.monitors ≠ [] := by
    intro hnil
    have hone := hvalid.primary
    rw [hnil] at hone
    cases hone
  have hcurrentNe : current ≠ [] := by
    intro hnil
    rw [hnil] at hprimary
    cases hprimary
  obtain ⟨mapping, hmapping, hmatching⟩ :=
    monitorMapping_of_primary hlength.symm hvalid.primary hprimary
  obtain ⟨sourceVirtual, hsourceVirtual, hsourceCorner⟩ :=
    virtualMonitorBounds_of_valid hne hvalid.monitors
  obtain ⟨targetVirtual, htargetVirtual, htargetCorner⟩ :=
    virtualMonitorBounds_of_valid hcurrentNe hcurrentValid
  have hicon := hvalid.iconSize.2
  simp only [maxDesktopIconSize] at hicon
  have hextent : (Int32.ofNat snapshot.iconSize.toNat).toInt = snapshot.iconSize.toNat :=
    Int32.toInt_ofNat_of_lt (by omega)
  obtain ⟨entries, hentries, hnames, hall⟩ := mapM_entries (fun item hitem =>
    placeItem_of_valid hvalid hcurrentValid hne hmatching hsourceCorner htargetCorner hextent hitem)
  have hnodup : (entries.map Prod.fst).Nodup := by
    rw [hnames]
    exact hvalid.names
  have hpositive : (1 : Int) ≤ snapshot.iconSize.toNat := by
    have hlow := hvalid.iconSize.1
    simp only [minDesktopIconSize] at hlow
    omega
  refine ⟨Std.HashMap.ofList entries, mapping, sourceVirtual, targetVirtual, ?_, hmapping,
    hmatching, hsourceVirtual, htargetVirtual, ?_, ?_⟩
  · have hguard : ¬(snapshot.monitors.length ≠ current.length ∨ snapshot.monitors = []) := by
      simp [hlength, hne]
    have hsize : orNone (if snapshot.iconSize.toNat < 2 ^ 31 then
        some (Int32.ofNat snapshot.iconSize.toNat) else none) =
          .ok (Int32.ofNat snapshot.iconSize.toNat) := by
      rw [if_pos (by omega)]
      rfl
    rw [planDesktopPositions, if_neg hguard, if_neg (by simp [hdifferent]), placing_bind hmapping,
      placing_bind hsourceVirtual, placing_bind htargetVirtual, placing_bind hsize,
      placing_bind hentries]
    rfl
  · intro item hitem
    obtain ⟨position, hmem, source, target, sourceWork, targetWork, hplaced⟩ := hall item hitem
    obtain ⟨targetMonitor, htargetMonitor, htargetWork⟩ := hplaced.targetView
    exact ⟨position, source, target, targetMonitor, targetWork,
      getElem?_ofList_entries hnodup hmem, hplaced.sourceIndex, hplaced.targetIndex,
      htargetMonitor, htargetWork, hplaced.placed.inWorkArea hplaced.inView hpositive⟩
  · intro left hleft right hright source hleftSource hrightSource
    obtain ⟨leftPosition, hleftMem, leftSource, _, _, _, hleftPlaced⟩ := hall left hleft
    obtain ⟨rightPosition, hrightMem, rightSource, _, _, _, hrightPlaced⟩ := hall right hright
    have hleftSame := Except.ok.inj (hleftPlaced.sourceIndex.symm.trans hleftSource)
    have hrightSame := Except.ok.inj (hrightPlaced.sourceIndex.symm.trans hrightSource)
    subst hleftSame
    subst hrightSame
    exact ⟨leftPosition, rightPosition, getElem?_ofList_entries hnodup hleftMem,
      getElem?_ofList_entries hnodup hrightMem, hleftPlaced.mono hrightPlaced⟩

end

/-- A larger screen than that of the desktop with one icon. -/
def largerScreen : List DesktopMonitor :=
  [⟨⟨0, 0, 2560, 1440⟩, ⟨0, 0, 2560, 1380⟩, 144, 144, true⟩]

theorem planDesktopPositions_places_oneIcon : ∃ positions position,
    planDesktopPositions oneIconDesktop largerScreen = .ok positions ∧
      positions["middle.txt"]? = some position ∧
      position.InWorkArea ⟨0, 0, 2560, 1380⟩ 48 := by
  have hsnapshot : oneIconDesktop.validate linkLocalTexts = .ok () := by
    decide +kernel
  have hcurrent : ∀ monitor ∈ largerScreen, monitor.validate = .ok () := by
    decide +kernel
  obtain ⟨positions, mapping, sourceVirtual, targetVirtual, hpositions, _, hmatching, _,
    htargetVirtual, hitems, _⟩ := planDesktopPositions_places hsnapshot hcurrent rfl rfl
      (by decide +kernel)
  cases htargetVirtual
  obtain ⟨position, source, target, targetMonitor, work, hposition, _, hmapping, htarget, hwork,
    hinside⟩ := hitems ⟨"middle.txt", .file, ⟨960, 520⟩⟩ List.mem_cons_self
  obtain ⟨_, hlt⟩ := hmatching.bounds source target hmapping
  have hzero : target = 0 := Nat.lt_one_iff.mp hlt
  subst hzero
  cases htarget
  have hview : translateToViewSpace ⟨0, 0, 2560, 1380⟩ ⟨0, 0, 2560, 1440⟩ =
      .ok ⟨0, 0, 2560, 1380⟩ := by
    decide +kernel
  have hsame := Except.ok.inj (hwork.symm.trans hview)
  subst hsame
  exact ⟨positions, position, hpositions, hposition, hinside⟩

end NetworkCopy
