import NetworkCopy.Lane.Agreement
import NetworkCopy.Lib.RecentlyUsed

/-!
# The basis indexes that the lanes of a sender share

`SenderBasisIndexCache` of `session_cdc_lane.rs`.  A lane looks for an index under the lock, builds
it outside the lock when nobody else does, and otherwise waits for a notification and looks again.
`CacheStep` has one constructor for each way a critical section or a wait can end, so its runs are
all interleavings of any number of calls; what a build yields is left open.

`CacheInvariant` holds in every reachable state.  Calls that run one after another leave the indexes
that were used last.
-/

namespace NetworkCopy

open RecentlyUsed

/-- `MAXIMUM_CACHED_BASIS_INDEXES`. -/
def maximumCachedBasisIndexes : Nat := maximumBasisCandidates

/-- `SenderBasisIndexCacheState`. -/
structure CacheState (ι : Type) where
  entries : List (Nat × ι)
  buildingFileIds : Finset Nat

/-- How the first critical section of a turn of the loop ends. -/
inductive CacheTurn (ι : Type) where
  | hit (index : ι)
  | build
  | wait
  /-- `located CDC basis cache entry disappeared`. -/
  | disappeared

namespace CacheState

variable {ι : Type}
variable (state : CacheState ι)

/-- `SenderBasisIndexCacheState::default`. -/
def empty : CacheState ι := ⟨[], ∅⟩

/-- The first critical section of `get_or_build`. -/
def turn (state : CacheState ι) (basisFileId : Nat) : CacheTurn ι × CacheState ι :=
  match state.entries.findIdx? (fun entry => decide (entry.1 = basisFileId)) with
  | some position =>
      match state.entries[position]? with
      | some entry =>
          (.hit entry.2, { state with entries := state.entries.eraseIdx position ++ [entry] })
      | none => (.disappeared, state)
  | none =>
      if basisFileId ∈ state.buildingFileIds then (.wait, state)
      else (.build, { state with buildingFileIds := insert basisFileId state.buildingFileIds })

/-- The second critical section, after the build. -/
def finishBuild (state : CacheState ι) (basisFileId : Nat) (result : IoResult ι) : CacheState ι where
  entries := match result with
    | .ok index =>
        (if maximumCachedBasisIndexes ≤ state.entries.length then state.entries.drop 1
          else state.entries) ++ [(basisFileId, index)]
    | .error _ => state.entries
  buildingFileIds := state.buildingFileIds.erase basisFileId

/-- No index of the file is cached. -/
def Misses (state : CacheState ι) (basisFileId : Nat) : Prop :=
  ∀ entry ∈ state.entries, entry.1 ≠ basisFileId

/-- A look under the lock finds an entry and moves it to the end, or it finds none. -/
theorem turn_cases (basisFileId : Nat) :
    (∃ left index right, state.entries = left ++ (basisFileId, index) :: right ∧
      state.turn basisFileId =
        (.hit index, { state with entries := left ++ right ++ [(basisFileId, index)] })) ∨
    (state.Misses basisFileId ∧ basisFileId ∉ state.buildingFileIds ∧
      state.turn basisFileId =
        (.build, { state with buildingFileIds := insert basisFileId state.buildingFileIds })) ∨
    (state.Misses basisFileId ∧ basisFileId ∈ state.buildingFileIds ∧
      state.turn basisFileId = (.wait, state)) := by
  cases hfind : state.entries.findIdx? (fun entry => decide (entry.1 = basisFileId)) with
  | some position =>
    left
    obtain ⟨hlt, hfound, _⟩ := List.findIdx?_eq_some_iff_getElem.mp hfind
    have hid : state.entries[position].1 = basisFileId := of_decide_eq_true hfound
    have hentry : state.entries[position] = (basisFileId, state.entries[position].2) := by
      rw [← hid]
    refine ⟨state.entries.take position, state.entries[position].2,
      state.entries.drop (position + 1), ?_, ?_⟩
    · rw [← hentry, List.getElem_cons_drop, List.take_append_drop]
    · unfold turn
      rw [hfind]
      simp only [List.getElem?_eq_getElem hlt]
      rw [List.eraseIdx_eq_take_drop_succ, ← hentry]
  | none =>
    right
    have hmiss : state.Misses basisFileId := by
      intro entry hentry
      have hnone := List.findIdx?_eq_none_iff.mp hfind entry hentry
      exact of_decide_eq_false hnone
    by_cases hbuilding : basisFileId ∈ state.buildingFileIds
    · right
      refine ⟨hmiss, hbuilding, ?_⟩
      unfold turn
      rw [hfind]
      simp only [if_pos hbuilding]
    · left
      refine ⟨hmiss, hbuilding, ?_⟩
      unfold turn
      rw [hfind]
      simp only [if_neg hbuilding]

/-- What is cached after a build was cached before or has just been built. -/
theorem finishBuild_entries (basisFileId : Nat) (result : IoResult ι) :
    ∀ entry ∈ (state.finishBuild basisFileId result).entries,
      entry ∈ state.entries ∨ ∃ index, result = .ok index ∧ entry = (basisFileId, index) := by
  intro entry hentry
  cases result with
  | error error => exact .inl hentry
  | ok index =>
    cases List.mem_append.mp hentry with
    | inr hnew => exact .inr ⟨index, rfl, List.mem_singleton.mp hnew⟩
    | inl hold =>
      left
      split at hold
      · exact List.mem_of_mem_drop hold
      · exact hold

theorem length_finishBuild_le (basisFileId : Nat) (result : IoResult ι)
    (h : state.entries.length ≤ maximumCachedBasisIndexes) :
    (state.finishBuild basisFileId result).entries.length ≤ maximumCachedBasisIndexes := by
  cases result with
  | error error => exact h
  | ok index =>
    have hpos : 0 < maximumCachedBasisIndexes := by decide
    show ((if maximumCachedBasisIndexes ≤ state.entries.length then state.entries.drop 1
      else state.entries) ++ [(basisFileId, index)]).length ≤ _
    rw [List.length_append, List.length_singleton]
    split
    · rw [List.length_drop]
      omega
    · omega

theorem distinct_finishBuild {basisFileId : Nat} (result : IoResult ι)
    (h : (state.entries.map Prod.fst).Nodup) (hmiss : state.Misses basisFileId) :
    ((state.finishBuild basisFileId result).entries.map Prod.fst).Nodup := by
  cases result with
  | error error => exact h
  | ok index =>
    show (((if maximumCachedBasisIndexes ≤ state.entries.length then state.entries.drop 1
      else state.entries) ++ [(basisFileId, index)]).map Prod.fst).Nodup
    have hkept : (if maximumCachedBasisIndexes ≤ state.entries.length then
        state.entries.drop 1 else state.entries).Sublist state.entries := by
      split
      · exact List.drop_sublist _ _
      · exact List.Sublist.refl _
    rw [List.map_append]
    refine List.nodup_append.mpr
      ⟨h.sublist (hkept.map Prod.fst), List.nodup_singleton _, ?_⟩
    intro first hfirst second hsecond hsame
    obtain ⟨entry, hentry, hid⟩ := List.mem_map.mp hfirst
    rw [hsame, List.mem_singleton.mp hsecond] at hid
    exact hmiss entry (hkept.subset hentry) hid

end CacheState

/-- Where a call of `get_or_build` is. -/
inductive CallStage (ι : Type) where
  /-- About to take the lock at the head of the loop. -/
  | locking
  | building
  /-- In `Condvar::wait`. -/
  | waiting
  | returned (result : IoResult (ι × Bool))
  | panicked

/-- A call of `get_or_build`. -/
structure BasisCall (ι : Type) where
  stage : CallStage ι
  /-- Whether `build` is still `Some`. -/
  builder : Bool

/-- `notify_all`. -/
def BasisCall.notified {ι : Type} (call : BasisCall ι) : BasisCall ι :=
  match call.stage with
  | .waiting => { call with stage := .locking }
  | _ => call

/-- The cache and the calls, and the builds that have ended. -/
structure CacheSystem (κ ι : Type) where
  shared : CacheState ι
  calls : κ → BasisCall ι
  builds : List (κ × IoResult ι)

/-- An action of a call. -/
inductive CacheAction (κ ι : Type) where
  | turns (caller : κ)
  | builds (caller : κ) (result : IoResult ι)
  | wakes (caller : κ)

/-- The call that acts. -/
def CacheAction.caller {κ ι : Type} : CacheAction κ ι → κ
  | .turns caller => caller
  | .builds caller _ => caller
  | .wakes caller => caller

section

variable {κ ι : Type} [DecidableEq κ]

/-- A call moves on, and leaves the shared state as it is now. -/
def CacheSystem.move (s : CacheSystem κ ι) (caller : κ) (shared : CacheState ι)
    (call : BasisCall ι) : CacheSystem κ ι where
  shared := shared
  calls := Function.update s.calls caller call
  builds := s.builds

/-- The lock is taken again after the build, the others are notified, and the call returns. -/
def CacheSystem.finish (s : CacheSystem κ ι) (caller : κ) (fileId : Nat) (result : IoResult ι) :
    CacheSystem κ ι where
  shared := s.shared.finishBuild fileId result
  calls := Function.update (fun other => (s.calls other).notified) caller
    ⟨.returned (result.map (fun index => (index, false))), (s.calls caller).builder⟩
  builds := s.builds ++ [(caller, result)]

variable (basisFileId : κ → Nat)

/-- One action of one call.  The calls are for the files of `basisFileId`. -/
inductive CacheStep : CacheSystem κ ι → CacheAction κ ι → CacheSystem κ ι → Prop
  | hits (s : CacheSystem κ ι) (caller : κ) (index : ι) (shared : CacheState ι)
      (hstage : (s.calls caller).stage = .locking)
      (hturn : s.shared.turn (basisFileId caller) = (.hit index, shared)) :
      CacheStep s (.turns caller)
        (s.move caller shared ⟨.returned (.ok (index, true)), (s.calls caller).builder⟩)
  | disappears (s : CacheSystem κ ι) (caller : κ) (shared : CacheState ι)
      (hstage : (s.calls caller).stage = .locking)
      (hturn : s.shared.turn (basisFileId caller) = (.disappeared, shared)) :
      CacheStep s (.turns caller) (s.move caller shared ⟨.panicked, (s.calls caller).builder⟩)
  | takes (s : CacheSystem κ ι) (caller : κ) (shared : CacheState ι)
      (hstage : (s.calls caller).stage = .locking)
      (hturn : s.shared.turn (basisFileId caller) = (.build, shared))
      (hbuilder : (s.calls caller).builder = true) :
      CacheStep s (.turns caller) (s.move caller shared ⟨.building, false⟩)
  /-- `CDC basis builder closure was already consumed`. -/
  | consumed (s : CacheSystem κ ι) (caller : κ) (shared : CacheState ι)
      (hstage : (s.calls caller).stage = .locking)
      (hturn : s.shared.turn (basisFileId caller) = (.build, shared))
      (hbuilder : (s.calls caller).builder = false) :
      CacheStep s (.turns caller) (s.move caller shared ⟨.panicked, false⟩)
  | waits (s : CacheSystem κ ι) (caller : κ) (shared : CacheState ι)
      (hstage : (s.calls caller).stage = .locking)
      (hturn : s.shared.turn (basisFileId caller) = (.wait, shared)) :
      CacheStep s (.turns caller) (s.move caller shared ⟨.waiting, (s.calls caller).builder⟩)
  | builds (s : CacheSystem κ ι) (caller : κ) (result : IoResult ι)
      (hstage : (s.calls caller).stage = .building) :
      CacheStep s (.builds caller result) (s.finish caller (basisFileId caller) result)
  /-- A wait may end without a notification. -/
  | wakes (s : CacheSystem κ ι) (caller : κ) (hstage : (s.calls caller).stage = .waiting) :
      CacheStep s (.wakes caller)
        (s.move caller s.shared ⟨.locking, (s.calls caller).builder⟩)

/-- No call has begun. -/
def CacheSystem.start : CacheSystem κ ι where
  shared := .empty
  calls _ := ⟨.locking, true⟩
  builds := []

/-- The states that some interleaving reaches. -/
inductive CacheReachable : CacheSystem κ ι → Prop
  | start : CacheReachable .start
  | step {s s' : CacheSystem κ ι} {action : CacheAction κ ι} (h : CacheReachable s)
      (hstep : CacheStep basisFileId s action s') : CacheReachable s'

/-- What holds of the cache and the calls together. -/
structure CacheInvariant (s : CacheSystem κ ι) : Prop where
  bounded : s.shared.entries.length ≤ maximumCachedBasisIndexes
  distinct : (s.shared.entries.map Prod.fst).Nodup
  apart : ∀ entry ∈ s.shared.entries, entry.1 ∉ s.shared.buildingFileIds
  /-- A call that builds is registered, and only one is for a file. -/
  registered : ∀ caller, (s.calls caller).stage = .building →
    basisFileId caller ∈ s.shared.buildingFileIds
  single : ∀ caller caller', (s.calls caller).stage = .building →
    (s.calls caller').stage = .building → basisFileId caller = basisFileId caller' →
    caller = caller'
  /-- A registered file is being built, so a call that waits will be notified. -/
  owned : ∀ fileId ∈ s.shared.buildingFileIds, ∃ caller,
    (s.calls caller).stage = .building ∧ basisFileId caller = fileId
  waiting : ∀ caller, (s.calls caller).stage = .waiting →
    basisFileId caller ∈ s.shared.buildingFileIds
  /-- A call that can come back to the loop has its builder. -/
  unused : ∀ caller, (s.calls caller).stage = .locking ∨ (s.calls caller).stage = .waiting →
    (s.calls caller).builder = true ∧ caller ∉ s.builds.map Prod.fst
  pending : ∀ caller, (s.calls caller).stage = .building → caller ∉ s.builds.map Prod.fst
  once : (s.builds.map Prod.fst).Nodup
  cached : ∀ entry ∈ s.shared.entries, ∃ builder, basisFileId builder = entry.1 ∧
    (builder, .ok entry.2) ∈ s.builds
  returned : ∀ caller index hit, (s.calls caller).stage = .returned (.ok (index, hit)) →
    ∃ builder, basisFileId builder = basisFileId caller ∧ (builder, .ok index) ∈ s.builds
  calm : ∀ caller, (s.calls caller).stage ≠ .panicked

/-! ## Every interleaving -/

variable {basisFileId} {s s' : CacheSystem κ ι}

/-- The stage of a call after another or the same call has moved on. -/
theorem CacheSystem.move_stage (s : CacheSystem κ ι) (caller other : κ) (shared : CacheState ι)
    (call : BasisCall ι) :
    ((s.move caller shared call).calls other).stage =
      if other = caller then call.stage else (s.calls other).stage := by
  show (Function.update s.calls caller call other).stage = _
  rw [Function.update_apply]
  split <;> rfl

theorem CacheSystem.finish_self (s : CacheSystem κ ι) (caller : κ) (fileId : Nat)
    (result : IoResult ι) :
    ((s.finish caller fileId result).calls caller).stage =
      .returned (result.map (fun index => (index, false))) := by
  unfold finish
  simp only [Function.update_self]

theorem CacheSystem.finish_other (s : CacheSystem κ ι) {caller other : κ} (fileId : Nat)
    (result : IoResult ι) (h : other ≠ caller) :
    (s.finish caller fileId result).calls other = (s.calls other).notified := by
  unfold finish
  simp only [Function.update_of_ne h]

theorem BasisCall.notified_stage (call : BasisCall ι) :
    (call.stage = .waiting ∧ call.notified.stage = .locking) ∨
      (call.stage ≠ .waiting ∧ call.notified.stage = call.stage) := by
  unfold notified
  cases hstage : call.stage with
  | waiting => exact .inl ⟨rfl, rfl⟩
  | locking => exact .inr ⟨by simp, hstage⟩
  | building => exact .inr ⟨by simp, hstage⟩
  | returned result => exact .inr ⟨by simp, hstage⟩
  | panicked => exact .inr ⟨by simp, hstage⟩

@[simp] theorem BasisCall.notified_builder (call : BasisCall ι) :
    call.notified.builder = call.builder := by
  unfold notified
  split <;> rfl

namespace CacheInvariant

omit [DecidableEq κ] in
theorem start (basisFileId : κ → Nat) :
    CacheInvariant basisFileId (CacheSystem.start : CacheSystem κ ι) where
  bounded := Nat.zero_le _
  distinct := List.nodup_nil
  apart := by intro entry hentry; cases hentry
  registered := by intro caller hstage; cases hstage
  single := by intro caller caller' hstage; cases hstage
  owned := by intro fileId hfile; cases hfile
  waiting := by intro caller hstage; cases hstage
  unused := by intro caller _; exact ⟨rfl, List.not_mem_nil⟩
  pending := by intro caller hstage; cases hstage
  once := List.nodup_nil
  cached := by intro entry hentry; cases hentry
  returned := by intro caller index hit hstage; cases hstage
  calm := by intro caller hstage; cases hstage

/-- A call that does not build moves on without touching the files that are built. -/
theorem moved (h : CacheInvariant basisFileId s) {caller : κ} {shared : CacheState ι}
    {call : BasisCall ι} (hbefore : (s.calls caller).stage ≠ .building)
    (hbuilding : shared.buildingFileIds = s.shared.buildingFileIds)
    (hentries : shared.entries.Perm s.shared.entries)
    (hnotBuilding : call.stage ≠ .building) (hcalm : call.stage ≠ .panicked)
    (hwaits : call.stage = .waiting → basisFileId caller ∈ s.shared.buildingFileIds)
    (hunused : call.stage = .locking ∨ call.stage = .waiting →
      call.builder = true ∧ caller ∉ s.builds.map Prod.fst)
    (hreturned : ∀ index hit, call.stage = .returned (.ok (index, hit)) →
      ∃ builder, basisFileId builder = basisFileId caller ∧ (builder, .ok index) ∈ s.builds) :
    CacheInvariant basisFileId (s.move caller shared call) := by
  have hsame : ∀ other, ((s.move caller shared call).calls other).stage = .building →
      (s.calls other).stage = .building := by
    intro other hstage
    rw [s.move_stage] at hstage
    split at hstage
    · exact absurd hstage hnotBuilding
    · exact hstage
  exact {
    bounded := hentries.length_eq ▸ h.bounded
    distinct := (hentries.map Prod.fst).nodup_iff.mpr h.distinct
    apart := by
      intro entry hentry
      show entry.1 ∉ shared.buildingFileIds
      rw [hbuilding]
      exact h.apart entry (hentries.mem_iff.mp hentry)
    registered := by
      intro other hstage
      show basisFileId other ∈ shared.buildingFileIds
      rw [hbuilding]
      exact h.registered other (hsame other hstage)
    single := fun other other' hstage hstage' =>
      h.single other other' (hsame other hstage) (hsame other' hstage')
    owned := by
      intro fileId hfile
      change fileId ∈ shared.buildingFileIds at hfile
      rw [hbuilding] at hfile
      obtain ⟨owner, howner, hid⟩ := h.owned fileId hfile
      refine ⟨owner, ?_, hid⟩
      have hother : owner ≠ caller := fun hcaller => hbefore (hcaller ▸ howner)
      rw [s.move_stage, if_neg hother]
      exact howner
    waiting := by
      intro other hstage
      show basisFileId other ∈ shared.buildingFileIds
      rw [hbuilding]
      rw [s.move_stage] at hstage
      by_cases hcaller : other = caller
      · rw [if_pos hcaller] at hstage
        rw [hcaller]
        exact hwaits hstage
      · rw [if_neg hcaller] at hstage
        exact h.waiting other hstage
    unused := by
      intro other hstage
      rw [s.move_stage] at hstage
      show (Function.update s.calls caller call other).builder = true ∧ _
      by_cases hcaller : other = caller
      · rw [if_pos hcaller] at hstage
        rw [hcaller, Function.update_self]
        exact hunused hstage
      · rw [if_neg hcaller] at hstage
        rw [Function.update_of_ne hcaller]
        exact h.unused other hstage
    pending := fun other hstage => h.pending other (hsame other hstage)
    once := h.once
    cached := fun entry hentry => h.cached entry (hentries.mem_iff.mp hentry)
    returned := by
      intro other index hit hstage
      rw [s.move_stage] at hstage
      by_cases hcaller : other = caller
      · rw [if_pos hcaller] at hstage
        rw [hcaller]
        exact hreturned index hit hstage
      · rw [if_neg hcaller] at hstage
        exact h.returned other index hit hstage
    calm := by
      intro other hstage
      rw [s.move_stage] at hstage
      by_cases hcaller : other = caller
      · rw [if_pos hcaller] at hstage
        exact hcalm hstage
      · rw [if_neg hcaller] at hstage
        exact h.calm other hstage }

/-- A call registers its file and takes its builder. -/
theorem taken (h : CacheInvariant basisFileId s) {caller : κ}
    (hstage : (s.calls caller).stage = .locking) (hmiss : s.shared.Misses (basisFileId caller))
    (hnotBuilding : basisFileId caller ∉ s.shared.buildingFileIds) :
    CacheInvariant basisFileId (s.move caller
      { s.shared with
        buildingFileIds := insert (basisFileId caller) s.shared.buildingFileIds }
      ⟨.building, false⟩) := by
  have hother : ∀ other, other ≠ caller → ∀ stage,
      ((s.move caller { s.shared with
        buildingFileIds := insert (basisFileId caller) s.shared.buildingFileIds }
        ⟨.building, false⟩).calls other).stage = stage → (s.calls other).stage = stage := by
    intro other hne stage hsame
    rwa [s.move_stage, if_neg hne] at hsame
  have hself : ∀ stage, ((s.move caller { s.shared with
        buildingFileIds := insert (basisFileId caller) s.shared.buildingFileIds }
        ⟨.building, false⟩).calls caller).stage = stage → CallStage.building = stage := by
    intro stage hsame
    rwa [s.move_stage, if_pos rfl] at hsame
  exact {
    bounded := h.bounded
    distinct := h.distinct
    apart := by
      intro entry hentry hmem
      cases Finset.mem_insert.mp hmem with
      | inl hsame => exact hmiss entry hentry hsame
      | inr hold => exact h.apart entry hentry hold
    registered := by
      intro other hbuilding
      by_cases hcaller : other = caller
      · rw [hcaller]
        exact Finset.mem_insert_self _ _
      · exact Finset.mem_insert_of_mem (h.registered other (hother other hcaller _ hbuilding))
    single := by
      intro other other' hbuilding hbuilding' hsame
      by_cases hcaller : other = caller
      · by_cases hcaller' : other' = caller
        · rw [hcaller, hcaller']
        · have hold := h.registered other' (hother other' hcaller' _ hbuilding')
          rw [← hsame, hcaller] at hold
          exact absurd hold hnotBuilding
      · have hold := h.registered other (hother other hcaller _ hbuilding)
        by_cases hcaller' : other' = caller
        · rw [hsame, hcaller'] at hold
          exact absurd hold hnotBuilding
        · exact h.single other other' (hother other hcaller _ hbuilding)
            (hother other' hcaller' _ hbuilding') hsame
    owned := by
      intro fileId hfile
      cases Finset.mem_insert.mp hfile with
      | inl hsame =>
        refine ⟨caller, ?_, hsame.symm⟩
        rw [s.move_stage, if_pos rfl]
      | inr hold =>
        obtain ⟨owner, howner, hid⟩ := h.owned fileId hold
        refine ⟨owner, ?_, hid⟩
        rw [s.move_stage]
        split
        · rfl
        · exact howner
    waiting := by
      intro other hwaits
      by_cases hcaller : other = caller
      · rw [hcaller] at hwaits
        cases hself _ hwaits
      · exact Finset.mem_insert_of_mem (h.waiting other (hother other hcaller _ hwaits))
    unused := by
      intro other hfree
      by_cases hcaller : other = caller
      · rw [hcaller] at hfree
        cases hfree with
        | inl hlocking => cases hself _ hlocking
        | inr hwaits => cases hself _ hwaits
      · show (Function.update s.calls caller _ other).builder = true ∧ _
        rw [Function.update_of_ne hcaller]
        exact h.unused other (hfree.imp (hother other hcaller _) (hother other hcaller _))
    pending := by
      intro other hbuilding
      by_cases hcaller : other = caller
      · rw [hcaller]
        exact (h.unused caller (.inl hstage)).2
      · exact h.pending other (hother other hcaller _ hbuilding)
    once := h.once
    cached := h.cached
    returned := by
      intro other index hit hreturned
      by_cases hcaller : other = caller
      · rw [hcaller] at hreturned
        cases hself _ hreturned
      · exact h.returned other index hit (hother other hcaller _ hreturned)
    calm := by
      intro other hpanicked
      by_cases hcaller : other = caller
      · rw [hcaller] at hpanicked
        cases hself _ hpanicked
      · exact h.calm other (hother other hcaller _ hpanicked) }

/-- A build ends, and the calls that wait are notified. -/
theorem finished (h : CacheInvariant basisFileId s) {caller : κ} (result : IoResult ι)
    (hstage : (s.calls caller).stage = .building) :
    CacheInvariant basisFileId (s.finish caller (basisFileId caller) result) := by
  have hfile := h.registered caller hstage
  -- What another call is after the notification.
  have hother : ∀ other, other ≠ caller → ∀ stage,
      ((s.finish caller (basisFileId caller) result).calls other).stage = stage →
      (s.calls other).stage = stage ∨ (s.calls other).stage = .waiting ∧ stage = .locking := by
    intro other hne stage hsame
    rw [s.finish_other _ _ hne] at hsame
    obtain ⟨hwaits, hnotified⟩ | ⟨_, hnotified⟩ := (s.calls other).notified_stage
    · exact .inr ⟨hwaits, by rw [← hsame, hnotified]⟩
    · exact .inl (by rw [← hsame, hnotified])
  have hself := s.finish_self caller (basisFileId caller) result
  have hbuilding : ∀ other,
      ((s.finish caller (basisFileId caller) result).calls other).stage = .building →
      other ≠ caller ∧ (s.calls other).stage = .building := by
    intro other hsame
    by_cases hcaller : other = caller
    · rw [hcaller, hself] at hsame
      cases hsame
    · obtain hold | ⟨_, habsurd⟩ := hother other hcaller _ hsame
      · exact ⟨hcaller, hold⟩
      · cases habsurd
  have hkept : ∀ other, other ≠ caller → (s.calls other).stage = .building →
      basisFileId other ≠ basisFileId caller :=
    fun other hne hold hsame => hne (h.single other caller hold hstage hsame)
  have hbuilds : (s.finish caller (basisFileId caller) result).builds =
      s.builds ++ [(caller, result)] := rfl
  have hentries := s.shared.finishBuild_entries (basisFileId caller) result
  have hmiss : s.shared.Misses (basisFileId caller) := by
    intro entry hentry hsame
    exact h.apart entry hentry (hsame ▸ hfile)
  exact {
    bounded := s.shared.length_finishBuild_le (basisFileId caller) result h.bounded
    distinct := s.shared.distinct_finishBuild result h.distinct hmiss
    apart := by
      intro entry hentry hmem
      obtain ⟨hne, hold⟩ := Finset.mem_erase.mp hmem
      obtain hentry | ⟨index, _, hsame⟩ := hentries entry hentry
      · exact h.apart entry hentry hold
      · rw [hsame] at hne
        exact hne rfl
    registered := by
      intro other hstage'
      obtain ⟨hne, hold⟩ := hbuilding other hstage'
      exact Finset.mem_erase.mpr ⟨hkept other hne hold, h.registered other hold⟩
    single := fun other other' hstage' hstage'' =>
      h.single other other' (hbuilding other hstage').2 (hbuilding other' hstage'').2
    owned := by
      intro fileId hmem
      obtain ⟨hne, hold⟩ := Finset.mem_erase.mp hmem
      obtain ⟨owner, howner, hid⟩ := h.owned fileId hold
      have hcaller : owner ≠ caller := by
        intro hsame
        rw [hsame] at hid
        exact hne hid.symm
      refine ⟨owner, ?_, hid⟩
      rw [s.finish_other _ _ hcaller]
      obtain ⟨hwaits, _⟩ | ⟨_, hnotified⟩ := (s.calls owner).notified_stage
      · rw [howner] at hwaits
        cases hwaits
      · rw [hnotified, howner]
    waiting := by
      intro other hwaits
      -- Nobody waits after the notification.
      exfalso
      by_cases hcaller : other = caller
      · rw [hcaller, hself] at hwaits
        cases hwaits
      · rw [s.finish_other _ _ hcaller] at hwaits
        obtain ⟨_, hnotified⟩ | ⟨hnot, hnotified⟩ := (s.calls other).notified_stage
        · rw [hnotified] at hwaits
          cases hwaits
        · rw [hnotified] at hwaits
          exact hnot hwaits
    unused := by
      intro other hfree
      by_cases hcaller : other = caller
      · rw [hcaller, hself] at hfree
        cases hfree with
        | inl hlocking => cases hlocking
        | inr hwaits => cases hwaits
      · have hbefore : (s.calls other).stage = .locking ∨ (s.calls other).stage = .waiting := by
          cases hfree with
          | inl hlocking => exact (hother other hcaller _ hlocking).imp id And.left
          | inr hwaits => exact .inr ((hother other hcaller _ hwaits).elim id And.left)
        obtain ⟨hbuilder, hunlogged⟩ := h.unused other hbefore
        constructor
        · rw [s.finish_other _ _ hcaller, BasisCall.notified_builder]
          exact hbuilder
        · rw [hbuilds, List.map_append, List.mem_append]
          simpa [hcaller] using hunlogged
    pending := by
      intro other hstage'
      obtain ⟨hne, hold⟩ := hbuilding other hstage'
      rw [hbuilds, List.map_append, List.mem_append]
      simpa [hne] using h.pending other hold
    once := by
      rw [hbuilds, List.map_append]
      refine List.nodup_append.mpr ⟨h.once, List.nodup_singleton _, ?_⟩
      intro first hfirst second hsecond hsame
      rw [hsame, List.mem_singleton.mp hsecond] at hfirst
      exact h.pending caller hstage hfirst
    cached := by
      intro entry hentry
      rw [hbuilds]
      obtain hentry | ⟨index, hresult, hsame⟩ := hentries entry hentry
      · obtain ⟨builder, hid, hbuilt⟩ := h.cached entry hentry
        exact ⟨builder, hid, List.mem_append_left _ hbuilt⟩
      · rw [hsame]
        exact ⟨caller, rfl, List.mem_append_right _ (by simp [hresult])⟩
    returned := by
      intro other index hit hreturned
      rw [hbuilds]
      by_cases hcaller : other = caller
      · rw [hcaller, hself] at hreturned
        refine ⟨caller, by rw [hcaller], List.mem_append_right _ ?_⟩
        cases result with
        | ok found =>
          cases hreturned
          exact List.mem_singleton_self _
        | error error => cases hreturned
      · obtain hold | ⟨_, habsurd⟩ := hother other hcaller _ hreturned
        · obtain ⟨builder, hid, hbuilt⟩ := h.returned other index hit hold
          exact ⟨builder, hid, List.mem_append_left _ hbuilt⟩
        · cases habsurd
    calm := by
      intro other hpanicked
      by_cases hcaller : other = caller
      · rw [hcaller, hself] at hpanicked
        cases hpanicked
      · obtain hold | ⟨_, habsurd⟩ := hother other hcaller _ hpanicked
        · exact h.calm other hold
        · cases habsurd }

theorem step {action : CacheAction κ ι} (h : CacheInvariant basisFileId s)
    (hstep : CacheStep basisFileId s action s') : CacheInvariant basisFileId s' := by
  cases hstep with
  | hits caller index shared hstage hturn =>
    have hcases := s.shared.turn_cases (basisFileId caller)
    rw [hturn] at hcases
    obtain ⟨left, found, right, hentries, hsame⟩ | ⟨_, _, habsurd⟩ | ⟨_, _, habsurd⟩ := hcases
    · cases hsame
      have hperm : (left ++ right ++ [(basisFileId caller, index)]).Perm
          s.shared.entries := by
        rw [hentries]
        exact (List.perm_append_singleton _ _).trans List.perm_middle.symm
      refine h.moved ?_ rfl hperm ?_ ?_ ?_ ?_ ?_
      · rw [hstage]
        simp
      · simp
      · simp
      · intro hwaits
        cases hwaits
      · intro hunused
        cases hunused with
        | inl hlocking => cases hlocking
        | inr hwaits => cases hwaits
      · intro other hit hreturned
        cases hreturned
        have hmem : (basisFileId caller, index) ∈ s.shared.entries := by
          rw [hentries]
          simp
        exact h.cached _ hmem
    · cases habsurd
    · cases habsurd
  | disappears caller shared hstage hturn =>
    exfalso
    have hcases := s.shared.turn_cases (basisFileId caller)
    rw [hturn] at hcases
    obtain ⟨_, _, _, _, habsurd⟩ | ⟨_, _, habsurd⟩ | ⟨_, _, habsurd⟩ := hcases <;> cases habsurd
  | takes caller shared hstage hturn hbuilder =>
    have hcases := s.shared.turn_cases (basisFileId caller)
    rw [hturn] at hcases
    obtain ⟨_, _, _, _, habsurd⟩ | ⟨hmiss, hfree, hsame⟩ | ⟨_, _, habsurd⟩ := hcases
    · cases habsurd
    · cases hsame
      exact h.taken hstage hmiss hfree
    · cases habsurd
  | consumed caller shared hstage hturn hbuilder =>
    exfalso
    rw [(h.unused caller (.inl hstage)).1] at hbuilder
    cases hbuilder
  | waits caller shared hstage hturn =>
    have hcases := s.shared.turn_cases (basisFileId caller)
    rw [hturn] at hcases
    obtain ⟨_, _, _, _, habsurd⟩ | ⟨_, _, habsurd⟩ | ⟨_, hbuilding, hsame⟩ := hcases
    · cases habsurd
    · cases habsurd
    · cases hsame
      refine h.moved ?_ rfl (List.Perm.refl _) (by simp) (by simp) (fun _ => hbuilding)
        (fun _ => h.unused caller (.inl hstage)) ?_
      · rw [hstage]
        simp
      · intro index hit hreturned
        cases hreturned
  | builds caller result hstage => exact h.finished result hstage
  | wakes caller hstage =>
    refine h.moved ?_ rfl (List.Perm.refl _) (by simp) (by simp) ?_
      (fun _ => h.unused caller (.inr hstage)) ?_
    · rw [hstage]
      simp
    · intro hwaits
      cases hwaits
    · intro index hit hreturned
      cases hreturned

theorem reachable (h : CacheReachable basisFileId s) : CacheInvariant basisFileId s := by
  induction h with
  | start => exact .start basisFileId
  | step _ hstep ih => exact ih.step hstep

end CacheInvariant

/-! ## One call after another -/

/-- The call has returned an index. -/
def CallStage.succeeded : CallStage ι → Bool
  | .returned (.ok _) => true
  | _ => false

variable (basisFileId) in
/-- Actions of one call while the others rest. -/
def RunsAlone (caller : κ) : CacheSystem κ ι → CacheSystem κ ι → Prop :=
  Relation.ReflTransGen
    (fun s s' => ∃ action, action.caller = caller ∧ CacheStep basisFileId s action s')

variable (basisFileId) in
/-- Each of these calls returned before the next one began, and there were no others. -/
inductive Sequential : List κ → CacheSystem κ ι → Prop
  | start : Sequential [] .start
  | call {callers : List κ} {s s' : CacheSystem κ ι} {caller : κ} {result : IoResult (ι × Bool)}
      (h : Sequential callers s) (hidle : (s.calls caller).stage = .locking)
      (hrun : RunsAlone basisFileId caller s s')
      (hreturned : (s'.calls caller).stage = .returned result) :
      Sequential (callers ++ [caller]) s'

variable (basisFileId) in
/-- The files whose index these calls returned. -/
def CacheSystem.used (s : CacheSystem κ ι) (callers : List κ) : List Nat :=
  (callers.filter (fun caller => (s.calls caller).stage.succeeded)).map basisFileId

/-- The files of the cached indexes. -/
def CacheState.fileIds (state : CacheState ι) : List Nat := state.entries.map Prod.fst

/-- A call acts only while it has not returned. -/
theorem CacheStep.stage {action : CacheAction κ ι} (h : CacheStep basisFileId s action s')
    (result : IoResult (ι × Bool)) : (s.calls action.caller).stage ≠ .returned result := by
  intro hreturned
  cases h with
  | hits _ _ _ hstage => cases hstage.symm.trans hreturned
  | disappears _ _ hstage => cases hstage.symm.trans hreturned
  | takes _ _ hstage => cases hstage.symm.trans hreturned
  | consumed _ _ hstage => cases hstage.symm.trans hreturned
  | waits _ _ hstage => cases hstage.symm.trans hreturned
  | builds _ _ hstage => cases hstage.symm.trans hreturned
  | wakes _ hstage => cases hstage.symm.trans hreturned

/-- A call that builds can only end its build. -/
theorem CacheStep.of_building {action : CacheAction κ ι} (h : CacheStep basisFileId s action s')
    (hbuilding : (s.calls action.caller).stage = .building) :
    ∃ result, s' = s.finish action.caller (basisFileId action.caller) result := by
  cases h with
  | hits _ _ _ hstage => cases hstage.symm.trans hbuilding
  | disappears _ _ hstage => cases hstage.symm.trans hbuilding
  | takes _ _ hstage => cases hstage.symm.trans hbuilding
  | consumed _ _ hstage => cases hstage.symm.trans hbuilding
  | waits _ _ hstage => cases hstage.symm.trans hbuilding
  | wakes _ hstage => cases hstage.symm.trans hbuilding
  | builds caller result => exact ⟨result, rfl⟩

/-- What a call that ran alone has done, when the cache held the files that were used last. -/
structure ReturnedAlone (basisFileId : κ → Nat) (caller : κ) (uses : List Nat)
    (s s' : CacheSystem κ ι) : Prop where
  idle : s'.shared.buildingFileIds = ∅
  others : ∀ other, other ≠ caller → (s'.calls other).stage = (s.calls other).stage
  recency : s'.shared.fileIds = recent maximumCachedBasisIndexes
    (uses ++ if (s'.calls caller).stage.succeeded then [basisFileId caller] else [])

section

variable {caller : κ} {uses : List Nat} (h : CacheInvariant basisFileId s)
  (hidle : s.shared.buildingFileIds = ∅)
  (hrecent : s.shared.fileIds = recent maximumCachedBasisIndexes uses)

include h hidle hrecent

/-- A hit. -/
theorem returnedAlone_hit {index : ι} {shared : CacheState ι} {builder : Bool}
    (hturn : s.shared.turn (basisFileId caller) = (.hit index, shared)) :
    ReturnedAlone basisFileId caller uses s
      (s.move caller shared ⟨.returned (.ok (index, true)), builder⟩) := by
  have hcases := s.shared.turn_cases (basisFileId caller)
  rw [hturn] at hcases
  obtain ⟨left, found, right, hentries, hsame⟩ | ⟨_, _, habsurd⟩ | ⟨_, _, habsurd⟩ := hcases
  · cases hsame
    have hids : s.shared.fileIds = left.map Prod.fst ++ basisFileId caller ::
        right.map Prod.fst := by
      unfold CacheState.fileIds
      rw [hentries, List.map_append, List.map_cons]
    have hnotLeft : basisFileId caller ∉ left.map Prod.fst := by
      have hnodup : s.shared.fileIds.Nodup := h.distinct
      rw [hids] at hnodup
      exact fun hleft => (List.nodup_append.mp hnodup).2.2 _ hleft _ List.mem_cons_self rfl
    refine ⟨hidle, fun other hother => ?_, ?_⟩
    · rw [s.move_stage, if_neg hother]
    · rw [s.move_stage, if_pos rfl]
      show (left ++ right ++ [(basisFileId caller, index)]).map Prod.fst =
        recent _ (uses ++ [basisFileId caller])
      rw [recent_of_mem (by rw [← hrecent, hids]; simp), ← hrecent, hids,
        List.erase_append_right _ hnotLeft, List.erase_cons_head, List.map_append,
        List.map_append]
      rfl
  · cases habsurd
  · cases habsurd

/-- A build. -/
theorem returnedAlone_build (hmiss : s.shared.Misses (basisFileId caller))
    (result : IoResult ι) :
    ReturnedAlone basisFileId caller uses s
      ((s.move caller { s.shared with buildingFileIds := {basisFileId caller} }
        ⟨.building, false⟩).finish caller (basisFileId caller) result) := by
  have hnotRecent : basisFileId caller ∉ recent maximumCachedBasisIndexes uses := by
    rw [← hrecent]
    intro hmem
    obtain ⟨entry, hentry, hid⟩ := List.mem_map.mp hmem
    exact hmiss entry hentry hid
  constructor
  · show ({basisFileId caller} : Finset Nat).erase (basisFileId caller) = ∅
    simp
  · intro other hother
    have hnotWaiting : (s.calls other).stage ≠ .waiting := by
      intro hwaits
      have hmem := h.waiting other hwaits
      rw [hidle] at hmem
      exact absurd hmem (Finset.notMem_empty _)
    have hmoved : ((s.move caller { s.shared with buildingFileIds := {basisFileId caller} }
        ⟨.building, false⟩).calls other).stage = (s.calls other).stage := by
      rw [s.move_stage, if_neg hother]
    rw [CacheSystem.finish_other _ _ _ hother]
    obtain ⟨hwaits, _⟩ | ⟨_, hnotified⟩ := BasisCall.notified_stage
      ((s.move caller { s.shared with buildingFileIds := {basisFileId caller} }
        ⟨.building, false⟩).calls other)
    · rw [hmoved] at hwaits
      exact absurd hwaits hnotWaiting
    · rw [hnotified, hmoved]
  · rw [CacheSystem.finish_self]
    cases result with
    | error error =>
      show s.shared.fileIds = recent _ (uses ++ [])
      rw [List.append_nil, hrecent]
    | ok index =>
      have hlength : s.shared.entries.length =
          (recent maximumCachedBasisIndexes uses).length := by
        rw [← hrecent]
        exact (List.length_map _).symm
      show ((if maximumCachedBasisIndexes ≤ s.shared.entries.length then
        s.shared.entries.drop 1 else s.shared.entries) ++ [(basisFileId caller, index)]).map
        Prod.fst = recent _ (uses ++ [basisFileId caller])
      rw [recent_of_notMem (by decide) hnotRecent, hlength, ← hrecent, List.map_append]
      unfold CacheState.fileIds
      split
      · rw [List.map_drop]
        rfl
      · rfl

/-- A call that runs alone does not wait.  It has not begun, builds, or has returned. -/
theorem runsAlone_cases (hlocking : (s.calls caller).stage = .locking)
    (hrun : RunsAlone basisFileId caller s s') :
    s' = s ∨
    (s.shared.Misses (basisFileId caller) ∧
      s' = s.move caller { s.shared with buildingFileIds := {basisFileId caller} }
        ⟨.building, false⟩) ∨
    ((∃ result, (s'.calls caller).stage = .returned result) ∧
      ReturnedAlone basisFileId caller uses s s') := by
  induction hrun with
  | refl => exact .inl rfl
  | tail _ hstep ih =>
    obtain ⟨action, hcaller, hstep⟩ := hstep
    obtain hsame | ⟨hmiss, hsame⟩ | ⟨⟨result, hreturned⟩, _⟩ := ih
    · rw [hsame] at hstep
      cases hstep with
      | hits first index shared hstage hturn =>
        change first = caller at hcaller
        rw [hcaller] at hturn ⊢
        refine .inr (.inr ⟨⟨.ok (index, true), ?_⟩,
          returnedAlone_hit h hidle hrecent hturn⟩)
        rw [s.move_stage, if_pos rfl]
      | disappears first shared hstage hturn =>
        exfalso
        have hcases := s.shared.turn_cases (basisFileId first)
        rw [hturn] at hcases
        obtain ⟨_, _, _, _, habsurd⟩ | ⟨_, _, habsurd⟩ | ⟨_, _, habsurd⟩ := hcases <;>
          cases habsurd
      | takes first shared hstage hturn hbuilder =>
        change first = caller at hcaller
        rw [hcaller] at hturn ⊢
        have hcases := s.shared.turn_cases (basisFileId caller)
        rw [hturn] at hcases
        obtain ⟨_, _, _, _, habsurd⟩ | ⟨hmiss, _, hshared⟩ | ⟨_, _, habsurd⟩ := hcases
        · cases habsurd
        · cases hshared
          refine .inr (.inl ⟨hmiss, ?_⟩)
          rw [hidle, insert_empty_eq]
        · cases habsurd
      | consumed first shared hstage hturn hbuilder =>
        rw [(h.unused first (.inl hstage)).1] at hbuilder
        cases hbuilder
      | waits first shared hstage hturn =>
        exfalso
        have hcases := s.shared.turn_cases (basisFileId first)
        rw [hturn, hidle] at hcases
        obtain ⟨_, _, _, _, habsurd⟩ | ⟨_, _, habsurd⟩ | ⟨_, hmem, _⟩ := hcases
        · cases habsurd
        · cases habsurd
        · exact absurd hmem (Finset.notMem_empty _)
      | builds first result hstage =>
        change first = caller at hcaller
        rw [hcaller, hlocking] at hstage
        cases hstage
      | wakes first hstage =>
        change first = caller at hcaller
        rw [hcaller, hlocking] at hstage
        cases hstage
    · have hbuilding : ((s.move caller
          { s.shared with buildingFileIds := {basisFileId caller} }
          ⟨.building, false⟩).calls action.caller).stage = .building := by
        rw [hcaller, s.move_stage, if_pos rfl]
      rw [hsame] at hstep
      obtain ⟨result, hfinish⟩ := hstep.of_building hbuilding
      rw [hfinish, hcaller]
      exact .inr (.inr ⟨⟨_, CacheSystem.finish_self _ _ _ _⟩,
        returnedAlone_build h hidle hrecent hmiss result⟩)
    · rw [← hcaller] at hreturned
      exact absurd hreturned (hstep.stage result)

end

theorem RunsAlone.reachable {caller : κ} (hrun : RunsAlone basisFileId caller s s')
    (h : CacheReachable basisFileId s) : CacheReachable basisFileId s' := by
  induction hrun with
  | refl => exact h
  | tail _ hstep ih =>
    obtain ⟨_, _, hstep⟩ := hstep
    exact ih.step hstep

theorem Sequential.reachable {callers : List κ} (h : Sequential basisFileId callers s) :
    CacheReachable basisFileId s := by
  induction h with
  | start => exact .start
  | call _ _ hrun _ ih => exact hrun.reachable ih

/-- After calls one after another the cache holds the indexes that were used last. -/
theorem Sequential.recency {callers : List κ} (h : Sequential basisFileId callers s) :
    s.shared.buildingFileIds = ∅ ∧
    (∀ caller ∈ callers, ∃ result, (s.calls caller).stage = .returned result) ∧
    s.shared.fileIds = recent maximumCachedBasisIndexes (s.used basisFileId callers) := by
  induction h with
  | start =>
    refine ⟨rfl, ?_, rfl⟩
    intro caller hcaller
    cases hcaller
  | @call callers before after caller result hbefore hidle hrun hreturned ih =>
    obtain ⟨hempty, hdone, hrecent⟩ := ih
    obtain hsame | ⟨_, hsame⟩ | ⟨_, halone⟩ := runsAlone_cases
      (.reachable hbefore.reachable) hempty hrecent hidle hrun
    · rw [hsame, hidle] at hreturned
      cases hreturned
    · rw [hsame, CacheSystem.move_stage, if_pos rfl] at hreturned
      cases hreturned
    · have hfresh : ∀ other ∈ callers, other ≠ caller := by
        intro other hother hsame
        obtain ⟨_, hstage⟩ := hdone other hother
        rw [hsame, hidle] at hstage
        cases hstage
      refine ⟨halone.idle, ?_, ?_⟩
      · intro other hother
        cases List.mem_append.mp hother with
        | inl hold =>
          rw [halone.others other (hfresh other hold)]
          exact hdone other hold
        | inr hnew =>
          rw [List.mem_singleton.mp hnew]
          exact ⟨result, hreturned⟩
      · rw [halone.recency]
        have hold : callers.filter (fun other => (after.calls other).stage.succeeded) =
            callers.filter (fun other => (before.calls other).stage.succeeded) := by
          apply List.filter_congr
          intro other hother
          rw [halone.others other (hfresh other hother)]
        congr 1
        unfold CacheSystem.used
        rw [List.filter_append, List.map_append, hold]
        congr 1
        rw [List.filter_singleton]
        split <;> simp_all

variable (basisFileId) in
/-- In every interleaving the cache is bounded, no file has two indexes or two builds, an index that
is returned was built for the file, and every builder is used at most once.  A failed build leaves
the indexes alone, and calls one after another evict the index that was used least recently. -/
theorem basisIndexCache_interleavings :
    (∀ s : CacheSystem κ ι, CacheReachable basisFileId s → CacheInvariant basisFileId s) ∧
    (∀ (s s' : CacheSystem κ ι) (caller : κ) (error : IoError),
      CacheStep basisFileId s (.builds caller (.error error)) s' →
      s'.shared.entries = s.shared.entries) ∧
    ∀ (callers : List κ) (s : CacheSystem κ ι), Sequential basisFileId callers s →
      s.shared.fileIds = recent maximumCachedBasisIndexes (s.used basisFileId callers) := by
  refine ⟨fun s h => .reachable h, ?_, fun callers s h => h.recency.2.2⟩
  intro s s' caller error hstep
  cases hstep
  rfl

/-- However the calls of the lanes interleave, an index that a call returns was built from the
source's file of the ID that was asked for, when the builds read the files of the source. -/
theorem cacheSound_of_returned {env : LaneEnv} {source : FileTree} {manifest : Manifest}
    {s : CacheSystem κ BasisFileIndex} (h : CacheReachable basisFileId s)
    (hbuilds : ∀ caller index, (caller, .ok index) ∈ s.builds → ∃ entry,
      manifest[basisFileId caller]? = some entry ∧
        buildIndex env source entry.relativePath = .ok index)
    {cached : Nat → Option BasisFileIndex} (hcached : ∀ fileId index,
      cached fileId = some index → ∃ caller hit, basisFileId caller = fileId ∧
        (s.calls caller).stage = .returned (.ok (index, hit))) :
    CacheSound env source manifest cached := by
  intro fileId index hfound
  obtain ⟨caller, hit, rfl, hstage⟩ := hcached fileId index hfound
  obtain ⟨builder, hbuilder, hbuilt⟩ :=
    (CacheInvariant.reachable h).returned caller index hit hstage
  rw [← hbuilder]
  exact hbuilds builder index hbuilt

/-! ## Every run ends -/

/-- Whether a wait ends without a notification. -/
def CacheAction.spurious : CacheAction κ ι → Bool
  | .wakes _ => true
  | _ => false

variable (basisFileId) in
/-- The runs from the start, with their actions in order. -/
inductive CacheRun : List (CacheAction κ ι) → CacheSystem κ ι → Prop
  | start : CacheRun [] .start
  | step {actions : List (CacheAction κ ι)} {s s' : CacheSystem κ ι} {action : CacheAction κ ι}
      (h : CacheRun actions s) (hstep : CacheStep basisFileId s action s') :
      CacheRun (actions ++ [action]) s'

theorem CacheRun.reachable {actions : List (CacheAction κ ι)}
    (h : CacheRun basisFileId actions s) : CacheReachable basisFileId s := by
  induction h with
  | start => exact .start
  | step _ hstep ih => exact ih.step hstep

/-- A call that has not returned can act, or the call that builds its file can. -/
theorem CacheInvariant.progress (h : CacheInvariant basisFileId s) {caller : κ}
    (hstage : ∀ result, (s.calls caller).stage ≠ .returned result) :
    ∃ action s', CacheStep basisFileId s action s' ∧ action.spurious = false := by
  have hbuilds : ∀ builder, (s.calls builder).stage = .building →
      ∃ action s', CacheStep basisFileId s action s' ∧ action.spurious = false := fun builder hb =>
    ⟨_, _, .builds s builder (.error ⟨.other, "", none⟩) hb, rfl⟩
  cases hcaller : (s.calls caller).stage with
  | returned result => exact absurd hcaller (hstage result)
  | panicked => exact absurd hcaller (h.calm caller)
  | building => exact hbuilds caller hcaller
  | waiting =>
    obtain ⟨builder, hbuilding, -⟩ := h.owned _ (h.waiting caller hcaller)
    exact hbuilds builder hbuilding
  | locking =>
    obtain ⟨_, _, _, _, hturn⟩ | ⟨_, _, hturn⟩ | ⟨_, _, hturn⟩ :=
      s.shared.turn_cases (basisFileId caller)
    · exact ⟨_, _, .hits s caller _ _ hcaller hturn, rfl⟩
    · exact ⟨_, _, .takes s caller _ hcaller hturn (h.unused caller (.inl hcaller)).1, rfl⟩
    · exact ⟨_, _, .waits s caller _ hcaller hturn, rfl⟩

/-- What is left to do of a call at a stage, when a build may notify `others` calls. -/
def CallStage.work (others : Nat) : CallStage ι → Nat
  | .locking => 2 * others + 2
  | .building => 2 * others + 1
  | .waiting => 2 * others
  | .returned _ => 0
  | .panicked => 0

theorem BasisCall.work_notified (call : BasisCall ι) (others : Nat) :
    call.notified.stage.work others ≤ call.stage.work others + 2 := by
  obtain ⟨hwaits, hlocking⟩ | ⟨_, hsame⟩ := call.notified_stage
  · rw [hwaits, hlocking]
    exact Nat.le_refl _
  · rw [hsame]
    exact Nat.le_add_right _ _

section

variable [Fintype κ]

/-- What is left to do of all calls. -/
def CacheSystem.work (s : CacheSystem κ ι) : Nat :=
  ∑ caller, (s.calls caller).stage.work (Fintype.card κ)

omit [DecidableEq κ] in
theorem CacheSystem.work_start :
    (CacheSystem.start : CacheSystem κ ι).work = Fintype.card κ * (2 * Fintype.card κ + 2) := by
  unfold work
  exact (Finset.sum_const _).trans (smul_eq_mul _ _)

theorem CacheSystem.work_move (caller : κ) (shared : CacheState ι) (call : BasisCall ι) :
    (s.move caller shared call).work + (s.calls caller).stage.work (Fintype.card κ) =
      s.work + call.stage.work (Fintype.card κ) := by
  unfold work
  rw [← Finset.add_sum_erase _ _ (Finset.mem_univ caller),
    ← Finset.add_sum_erase (a := caller) Finset.univ
      (fun other => (s.calls other).stage.work (Fintype.card κ)) (Finset.mem_univ caller)]
  have hothers : ∑ other ∈ Finset.univ.erase caller,
      ((s.move caller shared call).calls other).stage.work (Fintype.card κ) =
      ∑ other ∈ Finset.univ.erase caller, (s.calls other).stage.work (Fintype.card κ) := by
    refine Finset.sum_congr rfl fun other hother => ?_
    rw [s.move_stage, if_neg (Finset.ne_of_mem_erase hother)]
  rw [hothers, s.move_stage, if_pos rfl]
  omega

/-- A build that ends takes its own work away and gives at most two to each call it notifies. -/
theorem CacheSystem.work_finish {caller : κ} (fileId : Nat) (result : IoResult ι)
    (hstage : (s.calls caller).stage = .building) :
    (s.finish caller fileId result).work + 1 ≤ s.work := by
  unfold work
  rw [← Finset.add_sum_erase _ _ (Finset.mem_univ caller),
    ← Finset.add_sum_erase (a := caller) Finset.univ
      (fun other => (s.calls other).stage.work (Fintype.card κ)) (Finset.mem_univ caller)]
  have hothers : ∑ other ∈ Finset.univ.erase caller,
      ((s.finish caller fileId result).calls other).stage.work (Fintype.card κ) ≤
      ∑ other ∈ Finset.univ.erase caller,
        ((s.calls other).stage.work (Fintype.card κ) + 2) := by
    refine Finset.sum_le_sum fun other hother => ?_
    rw [s.finish_other fileId result (Finset.ne_of_mem_erase hother)]
    exact BasisCall.work_notified _ _
  have hgiven : ∑ other ∈ Finset.univ.erase caller,
      ((s.calls other).stage.work (Fintype.card κ) + 2) =
      ∑ other ∈ Finset.univ.erase caller, (s.calls other).stage.work (Fintype.card κ) +
        (Fintype.card κ - 1) * 2 := by
    rw [Finset.sum_add_distrib, Finset.sum_const, smul_eq_mul,
      Finset.card_erase_of_mem (Finset.mem_univ caller), Finset.card_univ]
  rw [s.finish_self, hstage]
  have hmoved := hgiven ▸ hothers
  show 0 + _ + 1 ≤ 2 * Fintype.card κ + 1 + _
  omega

/-- Every action but a spurious end of a wait takes work away. -/
theorem CacheStep.work {action : CacheAction κ ι} (hstep : CacheStep basisFileId s action s') :
    s'.work + 1 ≤ s.work + 3 * [action].countP CacheAction.spurious := by
  cases hstep with
  | hits caller index shared hstage hturn =>
    have hwork := s.work_move caller shared
      ⟨.returned (.ok (index, true)), (s.calls caller).builder⟩
    rw [hstage] at hwork
    change _ + (2 * Fintype.card κ + 2) = _ + 0 at hwork
    omega
  | disappears caller shared hstage hturn =>
    have hwork := s.work_move caller shared ⟨.panicked, (s.calls caller).builder⟩
    rw [hstage] at hwork
    change _ + (2 * Fintype.card κ + 2) = _ + 0 at hwork
    omega
  | takes caller shared hstage hturn hbuilder =>
    have hwork := s.work_move caller shared ⟨.building, false⟩
    rw [hstage] at hwork
    change _ + (2 * Fintype.card κ + 2) = _ + (2 * Fintype.card κ + 1) at hwork
    omega
  | consumed caller shared hstage hturn hbuilder =>
    have hwork := s.work_move caller shared ⟨.panicked, false⟩
    rw [hstage] at hwork
    change _ + (2 * Fintype.card κ + 2) = _ + 0 at hwork
    omega
  | waits caller shared hstage hturn =>
    have hwork := s.work_move caller shared ⟨.waiting, (s.calls caller).builder⟩
    rw [hstage] at hwork
    change _ + (2 * Fintype.card κ + 2) = _ + 2 * Fintype.card κ at hwork
    omega
  | builds caller result hstage =>
    have hwork := s.work_finish (basisFileId caller) result hstage
    omega
  | wakes caller hstage =>
    have hwork := s.work_move caller s.shared ⟨.locking, (s.calls caller).builder⟩
    rw [hstage] at hwork
    change _ + 2 * Fintype.card κ = _ + (2 * Fintype.card κ + 2) at hwork
    change _ ≤ _ + 3 * 1
    omega

theorem CacheRun.length_le {actions : List (CacheAction κ ι)}
    (h : CacheRun basisFileId actions s) :
    actions.length + s.work ≤ Fintype.card κ * (2 * Fintype.card κ + 2) +
      3 * actions.countP CacheAction.spurious := by
  induction h with
  | start =>
    rw [CacheSystem.work_start]
    exact Nat.le_of_eq (Nat.add_comm _ _)
  | step _ hstep ih =>
    have hwork := hstep.work
    rw [List.length_append, List.length_singleton, List.countP_append]
    omega

/-- A run is as long as the number of calls and of the waits that end without a notification
allows, and where nothing but such an end can follow, every call has returned. -/
theorem basisIndexCache_completes {actions : List (CacheAction κ ι)}
    (h : CacheRun basisFileId actions s) :
    actions.length ≤ Fintype.card κ * (2 * Fintype.card κ + 2) +
      3 * actions.countP CacheAction.spurious ∧
    ((∀ action s', CacheStep basisFileId s action s' → action.spurious = true) →
      ∀ caller, ∃ result, (s.calls caller).stage = .returned result) := by
  constructor
  · have hlength := h.length_le
    omega
  · intro hstuck caller
    by_contra hopen
    obtain ⟨action, s', hstep, hspurious⟩ :=
      (CacheInvariant.reachable h.reachable).progress fun result hstage => hopen ⟨result, hstage⟩
    rw [hstuck action s' hstep] at hspurious
    cases hspurious

end

end

/-- The second of two calls for one file waits for the build of the first and finds its index. -/
theorem basisIndexCache_twoCalls : ∃ s : CacheSystem Bool Nat,
    CacheReachable (fun _ => 7) s ∧ (s.calls true).stage = .returned (.ok (5, true)) ∧
      CacheInvariant (fun _ => 7) s := by
  have hrun : ∃ s : CacheSystem Bool Nat,
      CacheReachable (fun _ => 7) s ∧ (s.calls true).stage = .returned (.ok (5, true)) := by
    have hstart : CacheReachable (fun _ => 7) (.start : CacheSystem Bool Nat) := .start
    have htakes := hstart.step (CacheStep.takes _ false _ rfl rfl rfl)
    have hwaits := htakes.step (CacheStep.waits _ true _ rfl rfl)
    have hbuilds := hwaits.step (CacheStep.builds _ false (.ok 5) rfl)
    exact ⟨_, hbuilds.step (CacheStep.hits _ true 5 _ rfl rfl), rfl⟩
  obtain ⟨s, hreachable, hstage⟩ := hrun
  exact ⟨s, hreachable, hstage, (basisIndexCache_interleavings _).1 s hreachable⟩

/-- The second of two calls waits, is notified, and returns what the first has built. -/
theorem basisIndexCache_completes_two :
    ∃ actions : List (CacheAction Bool Nat), ∃ s : CacheSystem Bool Nat,
    (s.calls true).stage = .returned (.ok (5, true)) ∧
    actions.length ≤ 2 * (2 * 2 + 2) + 3 * actions.countP CacheAction.spurious ∧
    ((∀ action s', CacheStep (fun _ => 7) s action s' → action.spurious = true) →
      ∀ caller, ∃ result, (s.calls caller).stage = .returned result) := by
  have hstart : CacheRun (fun _ => 7) [] (.start : CacheSystem Bool Nat) := .start
  have htakes := hstart.step (CacheStep.takes _ false _ rfl rfl rfl)
  have hwaits := htakes.step (CacheStep.waits _ true _ rfl rfl)
  have hbuilds := hwaits.step (CacheStep.builds _ false (.ok 5) rfl)
  have hhits := hbuilds.step (CacheStep.hits _ true 5 _ rfl rfl)
  exact ⟨_, _, by rfl, basisIndexCache_completes hhits⟩

/-- A call takes the build of `a`, builds it, and returns its index. -/
theorem cacheSound_of_returned_abc : ∃ index,
    CacheSound storingEnv abcSource [abcEntry 0x61]
      (fun fileId => if fileId = 0 then some index else none) := by
  have hbuilt : (buildIndex storingEnv abcSource (abcEntry 0x61).relativePath).isOk = true := by
    decide +kernel
  cases hindex : buildIndex storingEnv abcSource (abcEntry 0x61).relativePath with
  | error error =>
    rw [hindex] at hbuilt
    cases hbuilt
  | ok index =>
    have hstart : CacheReachable (fun _ => 0) (.start : CacheSystem Unit BasisFileIndex) := .start
    have htakes := hstart.step (CacheStep.takes _ () _ rfl rfl rfl)
    have hbuilds := htakes.step (CacheStep.builds _ () (.ok index) rfl)
    refine ⟨index, cacheSound_of_returned hbuilds ?_ ?_⟩
    · intro caller found hmem
      obtain ⟨-, hsame⟩ := Prod.mk.inj (List.mem_singleton.mp hmem)
      cases hsame
      exact ⟨_, rfl, hindex⟩
    · intro fileId found hfound
      split at hfound
      · rename_i hid
        cases hfound
        exact ⟨(), false, hid.symm, rfl⟩
      · cases hfound

end NetworkCopy
