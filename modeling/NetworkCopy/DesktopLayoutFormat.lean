import NetworkCopy.DesktopLayout
import NetworkCopy.Management.Reconnect

/-!
# The desktop layout format

`encode_desktop_layout` and `decode_desktop_layout` go by one layout of bytes and one condition, so
each undoes the other on everything that it accepts.  What `validate` says of a snapshot is read off
once here, for the format and for the placement of the icons.
-/

namespace NetworkCopy

/-! ## Validated values -/

/-- A coordinate in the supported range. -/
def CoordinateInRange (value : Int32) : Prop :=
  -maxDesktopCoordinateAbs ≤ value.toInt ∧ value.toInt ≤ maxDesktopCoordinateAbs

/-- What `DesktopRect::validate` accepts. -/
structure DesktopRect.Valid (rect : DesktopRect) : Prop where
  left : CoordinateInRange rect.left
  top : CoordinateInRange rect.top
  right : CoordinateInRange rect.right
  bottom : CoordinateInRange rect.bottom
  width : rect.left < rect.right
  height : rect.top < rect.bottom

/-- What `DesktopMonitor::validate` accepts. -/
structure DesktopMonitor.Valid (monitor : DesktopMonitor) : Prop where
  bounds : monitor.bounds.Valid
  workArea : monitor.workArea.Valid
  inside : monitor.bounds.contains monitor.workArea = true

theorem DesktopRect.validate_eq_ok {rect : DesktopRect} {description : String} {u : Unit} :
    rect.validate description = .ok u ↔ rect.Valid := by
  unfold DesktopRect.validate validateCoordinate
  simp only [bind_eq_ok, ensure_eq_ok, exists_const]
  constructor
  · intro ⟨hleft, htop, hright, hbottom, hwidth, hheight⟩
    exact ⟨hleft, htop, hright, hbottom, hwidth, hheight⟩
  · intro ⟨hleft, htop, hright, hbottom, hwidth, hheight⟩
    exact ⟨hleft, htop, hright, hbottom, hwidth, hheight⟩

theorem DesktopMonitor.valid_of_validate {monitor : DesktopMonitor} {u : Unit}
    (h : monitor.validate = .ok u) : monitor.Valid := by
  unfold DesktopMonitor.validate at h
  obtain ⟨_, hbounds, h⟩ := bind_eq_ok.mp h
  obtain ⟨_, hworkArea, h⟩ := bind_eq_ok.mp h
  obtain ⟨_, hinside, _⟩ := bind_eq_ok.mp h
  exact ⟨DesktopRect.validate_eq_ok.mp hbounds, DesktopRect.validate_eq_ok.mp hworkArea,
    ensure_eq_ok.mp hinside⟩

/-- The position of an item is in the supported range. -/
def DesktopLayoutItem.Placed (item : DesktopLayoutItem) : Prop :=
  CoordinateInRange item.position.x ∧ CoordinateInRange item.position.y

/-- What `DesktopLayoutSnapshot::validate` accepts. -/
structure DesktopLayoutSnapshot.Valid (snapshot : DesktopLayoutSnapshot) : Prop where
  iconSize : minDesktopIconSize ≤ snapshot.iconSize.toNat ∧
    snapshot.iconSize.toNat ≤ maxDesktopIconSize
  monitors : ∀ monitor ∈ snapshot.monitors, monitor.Valid
  primary : (snapshot.monitors.filter DesktopMonitor.primary).length = 1
  items : ∀ item ∈ snapshot.items, item.Placed
  names : (snapshot.items.map DesktopLayoutItem.name).Nodup

section

variable {Address : Type} {texts : TextSupport Address}

theorem validateItems_eq_ok {items : List DesktopLayoutItem} {names : List String} {u : Unit}
    (h : validateItems texts names items = .ok u) :
    (∀ item ∈ items, item.Placed ∧ item.name ∉ names) ∧
      (items.map DesktopLayoutItem.name).Nodup := by
  induction items generalizing names with
  | nil => simp
  | cons item rest ih =>
    rw [validateItems] at h
    obtain ⟨_, hitem, h⟩ := bind_eq_ok.mp h
    obtain ⟨_, hname, h⟩ := bind_eq_ok.mp h
    obtain ⟨hplaced, hnodup⟩ := ih h
    have hposition : item.Placed := by
      unfold DesktopLayoutItem.validate DesktopPoint.validate validateCoordinate at hitem
      simp only [bind_eq_ok, ensure_eq_ok] at hitem
      obtain ⟨_, _, _, hx, hy⟩ := hitem
      exact ⟨hx, hy⟩
    constructor
    · intro other hmem
      rcases List.mem_cons.mp hmem with rfl | hmem
      · exact ⟨hposition, ensure_eq_ok.mp hname⟩
      · obtain ⟨hother, hfresh⟩ := hplaced other hmem
        exact ⟨hother, fun hseen => hfresh (List.mem_cons_of_mem _ hseen)⟩
    · rw [List.map_cons, List.nodup_cons]
      refine ⟨?_, hnodup⟩
      intro hmem
      obtain ⟨other, hother, hsame⟩ := List.mem_map.mp hmem
      exact (hplaced other hother).2 (hsame ▸ List.mem_cons_self ..)

theorem valid_of_forM_validate {monitors : List DesktopMonitor} {u : Unit}
    (h : monitors.forM DesktopMonitor.validate = .ok u) :
    ∀ monitor ∈ monitors, monitor.Valid := by
  induction monitors with
  | nil => simp
  | cons monitor rest ih =>
    obtain ⟨_, hmonitor, hrest⟩ := bind_eq_ok.mp h
    intro other hmem
    rcases List.mem_cons.mp hmem with rfl | hmem
    · exact DesktopMonitor.valid_of_validate hmonitor
    · exact ih hrest other hmem

/-- What the checks of a snapshot say of it. -/
theorem DesktopLayoutSnapshot.valid_of_validate {snapshot : DesktopLayoutSnapshot} {u : Unit}
    (h : snapshot.validate texts = .ok u) : snapshot.Valid := by
  unfold DesktopLayoutSnapshot.validate at h
  simp only [bind_eq_ok, ensure_eq_ok] at h
  obtain ⟨_, _, _, hicon, _, _, _, _, _, hprimary, _, hmonitors, _, _, hitems⟩ := h
  obtain ⟨hplaced, hnames⟩ := validateItems_eq_ok hitems
  exact ⟨hicon, valid_of_forM_validate hmonitors, hprimary,
    fun item hmem => (hplaced item hmem).1, hnames⟩

/-! ## The format -/

/-- The two directions undo each other on what they accept, and the decoder accepts no layout that
is too long, names an item twice, has a work area outside its monitor or has another number of
primary monitors than one. -/
theorem desktopLayout_codec (texts : TextSupport Address) :
    (∀ snapshot bytes, encodeDesktopLayout texts snapshot = .ok bytes →
      decodeDesktopLayout texts bytes = .ok snapshot) ∧
    (∀ bytes snapshot, decodeDesktopLayout texts bytes = .ok snapshot →
      encodeDesktopLayout texts snapshot = .ok bytes ∧
        bytes.length ≤ maxDesktopLayoutBytes ∧
        (snapshot.items.map DesktopLayoutItem.name).Nodup ∧
        (∀ monitor ∈ snapshot.monitors, monitor.bounds.contains monitor.workArea = true) ∧
        (snapshot.monitors.filter DesktopMonitor.primary).length = 1) := by
  constructor
  · intro snapshot bytes hencode
    exact (decodeDesktopLayout_eq_ok texts).mpr ((encodeDesktopLayout_eq_ok texts).mp hencode)
  · intro bytes snapshot hdecode
    obtain ⟨hfits, hbytes⟩ := (decodeDesktopLayout_eq_ok texts).mp hdecode
    have hvalid := DesktopLayoutSnapshot.valid_of_validate hfits.valid
    refine ⟨(encodeDesktopLayout_eq_ok texts).mpr ⟨hfits, hbytes⟩, ?_, hvalid.names,
      fun monitor hmem => (hvalid.monitors monitor hmem).inside, hvalid.primary⟩
    rw [hbytes]
    exact hfits.limit

end

/-- A desktop with one icon on one monitor. -/
def oneIconDesktop : DesktopLayoutSnapshot where
  version := desktopLayoutFormatVersion
  iconSize := 48
  autoArrange := false
  monitors := [⟨⟨0, 0, 1920, 1080⟩, ⟨0, 0, 1920, 1040⟩, 96, 96, true⟩]
  items := [⟨"middle.txt", .file, ⟨960, 520⟩⟩]

theorem desktopLayout_codec_oneIcon : ∃ bytes,
    encodeDesktopLayout linkLocalTexts oneIconDesktop = .ok bytes ∧
      decodeDesktopLayout linkLocalTexts bytes = .ok oneIconDesktop ∧
      bytes.length ≤ maxDesktopLayoutBytes := by
  obtain ⟨hdecodes, hencodes⟩ := desktopLayout_codec linkLocalTexts
  have hencode : encodeDesktopLayout linkLocalTexts oneIconDesktop = .ok oneIconDesktop.layout := by
    decide +kernel
  have hdecode := hdecodes _ _ hencode
  exact ⟨_, hencode, hdecode, (hencodes _ _ hdecode).2.1⟩

end NetworkCopy
