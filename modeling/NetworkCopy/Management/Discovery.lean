import Mathlib.Data.Prod.Lex
import NetworkCopy.Lib.Grouping
import NetworkCopy.Management.ControlCodecs
import NetworkCopy.Management.Reconnect

/-!
# One agent of each identity

The same agent can answer a discovery on several addresses.
`deduplicate_resolved_agents_with_local_interface_ranks` keeps one of them, by the score of its
address, which also looks at the addresses of the other agents.  Neither the score nor the choice
depends on the order in which the answers came.
-/

namespace NetworkCopy

/-! ## Agents -/

/-- `DiscoveredAgent`. -/
structure DiscoveredAgent where
  hostname : String
  endpoint : SocketAddr
  protocolVersion : UInt16
  state : AgentState
  capabilities : AgentCapabilities
  deriving DecidableEq

/-- `DiscoveredAgentIdentity`.  An `AgentInstanceId` is a `u128`. -/
inductive DiscoveredAgentIdentity where
  | byInstance (id : BitVec 128)
  | byEndpoint (hostname : String) (endpoint : SocketAddr)
  deriving DecidableEq

/-- `ResolvedDiscoveredAgent`. -/
structure ResolvedDiscoveredAgent where
  agent : DiscoveredAgent
  identity : DiscoveredAgentIdentity
  deriving DecidableEq

/-- The derived order of `SocketAddr`: an IPv4 address comes first, then the fields count in
turn. -/
def SocketAddr.orderKey : SocketAddr → Nat ×ₗ Nat ×ₗ Nat ×ₗ Nat ×ₗ Nat
  | .v4 ip port => toLex (0, toLex (ip.toNat, toLex (port.toNat, toLex (0, 0))))
  | .v6 ip port flowinfo scopeId => toLex (1, toLex (ip.toNat, toLex (port.toNat,
      toLex (flowinfo.toNat, scopeId.toNat))))

/-- The derived order of `DiscoveredAgentIdentity`. -/
def DiscoveredAgentIdentity.orderKey :
    DiscoveredAgentIdentity → Nat ×ₗ Nat ×ₗ String ×ₗ Nat ×ₗ Nat ×ₗ Nat ×ₗ Nat ×ₗ Nat
  | .byInstance id => toLex (0, toLex (id.toNat, toLex ("", (SocketAddr.v4 0 0).orderKey)))
  | .byEndpoint hostname endpoint => toLex (1, toLex (0, toLex (hostname, endpoint.orderKey)))

theorem SocketAddr.orderKey_injective : Function.Injective SocketAddr.orderKey := by
  intro left right h
  cases left <;> cases right <;>
    simp only [orderKey, EmbeddingLike.apply_eq_iff_eq, Prod.mk.injEq, BitVec.toNat_inj,
      UInt16.toNat_inj, UInt32.toNat_inj] at h <;> grind

theorem DiscoveredAgentIdentity.orderKey_injective :
    Function.Injective DiscoveredAgentIdentity.orderKey := by
  intro left right h
  cases left <;> cases right <;>
    simp only [orderKey, EmbeddingLike.apply_eq_iff_eq, Prod.mk.injEq, BitVec.toNat_inj,
      SocketAddr.orderKey_injective.eq_iff] at h <;> grind

instance : LinearOrder DiscoveredAgentIdentity :=
  LinearOrder.lift' DiscoveredAgentIdentity.orderKey DiscoveredAgentIdentity.orderKey_injective

/-! ## Scores -/

/-- `MIN_LOCAL_AFFINITY_PREFIX_BITS`. -/
def minLocalAffinityPrefixBits : Nat := 8

/-- The catalog of the endpoints of all agents. -/
abbrev RouteCatalog := List (DiscoveredAgentIdentity × SocketAddr)

/-- `BTreeMap<Ipv4Addr, u8>`, entry by entry. -/
abbrev InterfaceRanks := List (BitVec 32 × UInt8)

/-- A score, compared field by field. -/
abbrev PreferenceScore := Nat ×ₗ Nat ×ₗ Nat ×ₗ Nat ×ₗ Nat

/-- `common_ipv4_prefix_bits`. -/
def commonIpv4PrefixBits (left right : BitVec 32) : Nat := (left ^^^ right).clz.toNat

/-- `automatic_lan_address_rank`. -/
def automaticLanAddressRank (address : BitVec 32) : Nat :=
  let first := (address >>> 24).toNat
  if address = 0 ∨ first = 127 ∨ (224 ≤ first ∧ first ≤ 239) ∨ address = BitVec.allOnes 32 then 0
  else if (address >>> 16).toNat = 169 * 256 + 254 then 1
  else 2

/-- `local_network_affinity_score`. -/
def localNetworkAffinityScore (candidate : BitVec 32) (localInterfaceRanks : InterfaceRanks) :
    Nat × Nat :=
  let (bestPrefix, bestInterfaceRank) := localInterfaceRanks.foldl
    (fun (best : Nat × Nat) (entry : BitVec 32 × UInt8) =>
      let prefixBits := commonIpv4PrefixBits candidate entry.1
      let interfaceRank := entry.2.toNat
      if best.1 < prefixBits ∨ (prefixBits = best.1 ∧ best.2 < interfaceRank) then
        (prefixBits, interfaceRank)
      else best) (0, 0)
  if bestPrefix < minLocalAffinityPrefixBits then (0, 0) else (bestInterfaceRank, bestPrefix)

/-- The loop body of `route_affinity_score`. -/
def routeAffinityStep (identity : DiscoveredAgentIdentity) (candidate : BitVec 32)
    (best : Nat × Nat) (entry : DiscoveredAgentIdentity × SocketAddr) : Nat × Nat :=
  if entry.1 = identity then best
  else match entry.2 with
    | .v4 other _ =>
        let prefixBits := commonIpv4PrefixBits candidate other
        (max best.1 prefixBits, min (best.2 + prefixBits) (2 ^ 32 - 1))
    | .v6 _ _ _ _ => best

/-- `route_affinity_score`. -/
def routeAffinityScore (identity : DiscoveredAgentIdentity) (endpoint : SocketAddr)
    (routeCatalog : RouteCatalog) : Nat × Nat :=
  match endpoint with
  | .v4 candidate _ => routeCatalog.foldl (routeAffinityStep identity candidate) (0, 0)
  | .v6 _ _ _ _ => (0, 0)

/-- `candidate_preference_score`. -/
def candidatePreferenceScore (identity : DiscoveredAgentIdentity) (endpoint : SocketAddr)
    (routeCatalog : RouteCatalog) (localInterfaceRanks : InterfaceRanks) : PreferenceScore :=
  match endpoint with
  | .v4 address port =>
      let addressRank := automaticLanAddressRank address
      let (localInterfaceRank, localPrefix) := localNetworkAffinityScore address localInterfaceRanks
      let (remoteMaximumPrefix, remoteTotalPrefix) :=
        routeAffinityScore identity (.v4 address port) routeCatalog
      toLex (addressRank, toLex (localInterfaceRank, toLex (localPrefix,
        toLex (remoteMaximumPrefix, remoteTotalPrefix))))
  | .v6 _ _ _ _ => toLex (0, toLex (0, toLex (0, toLex (0, 0))))

/-! ## The choice -/

/-- The loop of `preferred_candidate_index`, from the candidate `index` on. -/
def preferLoop {α : Type} (score : α → PreferenceScore) :
    Nat → Nat → PreferenceScore → List α → Nat
  | _, preferredIndex, _, [] => preferredIndex
  | index, preferredIndex, preferredScore, candidate :: rest =>
      if preferredScore < score candidate then
        preferLoop score (index + 1) index (score candidate) rest
      else preferLoop score (index + 1) preferredIndex preferredScore rest

/-- `preferred_candidate_index`; it reads the first candidate. -/
def preferredCandidateIndex (identity : DiscoveredAgentIdentity)
    (candidates : List ResolvedDiscoveredAgent) (routeCatalog : RouteCatalog)
    (localInterfaceRanks : InterfaceRanks) : Option Nat :=
  let score := fun candidate : ResolvedDiscoveredAgent =>
    candidatePreferenceScore identity candidate.agent.endpoint routeCatalog localInterfaceRanks
  match candidates with
  | [] => none
  | first :: rest => some (preferLoop score 1 0 (score first) rest)

section

-- `SocketAddr::to_string`.
variable (display : SocketAddr → String)

/-- The candidate of one identity that is kept; `swap_remove` returns the one at the index. -/
def preferredCandidate (routeCatalog : RouteCatalog) (localInterfaceRanks : InterfaceRanks)
    (identity : DiscoveredAgentIdentity) (candidates : List ResolvedDiscoveredAgent) :
    Option ResolvedDiscoveredAgent := do
  let candidates := candidates.mergeSort (fun left right =>
    display left.agent.endpoint ≤ display right.agent.endpoint)
  let preferredIndex ←
    preferredCandidateIndex identity candidates routeCatalog localInterfaceRanks
  candidates[preferredIndex]?

/-- The order of the result. -/
def DiscoveredAgent.sortKey (agent : DiscoveredAgent) : String ×ₗ String :=
  toLex (agent.hostname, display agent.endpoint)

/-- `deduplicate_resolved_agents_with_local_interface_ranks`; `none` is a panic. -/
def deduplicateResolvedAgentsWithLocalInterfaceRanks (agents : List ResolvedDiscoveredAgent)
    (localInterfaceRanks : InterfaceRanks) : Option (List DiscoveredAgent) := do
  let routeCatalog := agents.map (fun resolved => (resolved.identity, resolved.agent.endpoint))
  let groups := Grouping.groups ResolvedDiscoveredAgent.identity agents
  let preferred ← groups.mapM (fun (identity, candidates) =>
    preferredCandidate display routeCatalog localInterfaceRanks identity candidates)
  return (preferred.map ResolvedDiscoveredAgent.agent).mergeSort
    (fun left right => left.sortKey display ≤ right.sortKey display)

end

/-! ## The order of the answers -/

theorem routeAffinityStep_comm (identity : DiscoveredAgentIdentity) (candidate : BitVec 32)
    (best : Nat × Nat) (left right : DiscoveredAgentIdentity × SocketAddr) :
    routeAffinityStep identity candidate (routeAffinityStep identity candidate best left) right =
      routeAffinityStep identity candidate (routeAffinityStep identity candidate best right)
        left := by
  obtain ⟨leftIdentity, leftEndpoint⟩ := left
  obtain ⟨rightIdentity, rightEndpoint⟩ := right
  unfold routeAffinityStep
  dsimp only
  by_cases hleft : leftIdentity = identity
  · rw [if_pos hleft, if_pos hleft]
  · rw [if_neg hleft, if_neg hleft]
    by_cases hright : rightIdentity = identity
    · rw [if_pos hright, if_pos hright]
    · rw [if_neg hright, if_neg hright]
      cases leftEndpoint with
      | v6 => rfl
      | v4 leftIp =>
        cases rightEndpoint with
        | v6 => rfl
        | v4 rightIp =>
          dsimp only
          ext
          · dsimp only
            omega
          · -- Saturation cuts the sum once, wherever it happens.
            dsimp only
            omega

theorem candidatePreferenceScore_perm {routeCatalog routeCatalog' : RouteCatalog}
    (h : routeCatalog.Perm routeCatalog') (identity : DiscoveredAgentIdentity)
    (endpoint : SocketAddr) (localInterfaceRanks : InterfaceRanks) :
    candidatePreferenceScore identity endpoint routeCatalog localInterfaceRanks =
      candidatePreferenceScore identity endpoint routeCatalog' localInterfaceRanks := by
  cases endpoint with
  | v6 => rfl
  | v4 address port =>
    have hcomm : RightCommutative (routeAffinityStep identity address) :=
      ⟨routeAffinityStep_comm identity address⟩
    have hroute : routeAffinityScore identity (.v4 address port) routeCatalog =
        routeAffinityScore identity (.v4 address port) routeCatalog' :=
      h.foldl_eq (0, 0)
    rw [candidatePreferenceScore, candidatePreferenceScore, hroute]

/-! ## The best candidate -/

/-- The loop keeps a candidate with the best score so far. -/
theorem preferLoop_spec {α : Type} (score : α → PreferenceScore) {all rest : List α} {index : Nat}
    (hrest : all.drop index = rest) {preferredIndex : Nat} {preferred : α}
    (hpreferred : all[preferredIndex]? = some preferred)
    (hbest : ∀ candidate ∈ all.take index, score candidate ≤ score preferred) :
    ∃ chosen, all[preferLoop score index preferredIndex (score preferred) rest]? = some chosen ∧
      ∀ candidate ∈ all, score candidate ≤ score chosen := by
  induction rest generalizing index preferredIndex preferred with
  | nil =>
    rw [List.drop_eq_nil_iff] at hrest
    rw [List.take_of_length_le hrest] at hbest
    exact ⟨preferred, hpreferred, hbest⟩
  | cons candidate rest ih =>
    have hat : all[index]? = some candidate := by
      rw [← List.head?_drop, hrest]
      rfl
    have hnext : all.drop (index + 1) = rest := by
      rw [← List.tail_drop, hrest]
      rfl
    have htake : all.take (index + 1) = all.take index ++ [candidate] := by
      rw [List.take_add_one, hat]
      rfl
    rw [preferLoop]
    split
    · rename_i hbetter
      apply ih hnext hat
      intro other hother
      rw [htake] at hother
      rcases List.mem_append.mp hother with hother | hother
      · exact (hbest other hother).trans hbetter.le
      · rw [List.mem_singleton.mp hother]
    · rename_i hworse
      apply ih hnext hpreferred
      intro other hother
      rw [htake] at hother
      rcases List.mem_append.mp hother with hother | hother
      · exact hbest other hother
      · rw [List.mem_singleton.mp hother]
        exact not_lt.mp hworse

section

variable {display : SocketAddr → String} {localInterfaceRanks : InterfaceRanks}

theorem preferredCandidate_spec (display : SocketAddr → String)
    (localInterfaceRanks : InterfaceRanks) (routeCatalog : RouteCatalog)
    (identity : DiscoveredAgentIdentity) {candidates : List ResolvedDiscoveredAgent} (hne : candidates ≠ []) :
    ∃ chosen,
      preferredCandidate display routeCatalog localInterfaceRanks identity candidates =
        some chosen ∧ chosen ∈ candidates ∧
      ∀ candidate ∈ candidates,
        candidatePreferenceScore identity candidate.agent.endpoint routeCatalog
            localInterfaceRanks ≤
          candidatePreferenceScore identity chosen.agent.endpoint routeCatalog
            localInterfaceRanks := by
  unfold preferredCandidate preferredCandidateIndex
  have hperm := List.mergeSort_perm candidates (fun left right =>
    decide (display left.agent.endpoint ≤ display right.agent.endpoint))
  generalize candidates.mergeSort (fun left right =>
    decide (display left.agent.endpoint ≤ display right.agent.endpoint)) = sorted at hperm
  cases sorted with
  | nil => exact absurd hperm.symm.eq_nil hne
  | cons first rest =>
    have hrest : (first :: rest).drop 1 = rest := rfl
    have hfirst : (first :: rest)[0]? = some first := rfl
    obtain ⟨chosen, hchosen, hmax⟩ := preferLoop_spec
      (fun candidate : ResolvedDiscoveredAgent => candidatePreferenceScore identity
        candidate.agent.endpoint routeCatalog localInterfaceRanks) hrest hfirst (by simp)
    refine ⟨chosen, hchosen, hperm.mem_iff.mp (List.mem_of_getElem? hchosen), ?_⟩
    intro candidate hmem
    exact hmax candidate (hperm.mem_iff.mpr hmem)

/-- The choice is the same for candidates and a catalog in another order, when the endpoints of the
candidates have texts of their own. -/
theorem preferredCandidate_perm {routeCatalog routeCatalog' : RouteCatalog}
    (hcatalog : routeCatalog.Perm routeCatalog') (identity : DiscoveredAgentIdentity)
    {candidates candidates' : List ResolvedDiscoveredAgent}
    (hcandidates : candidates.Perm candidates')
    (hdistinct : candidates.Pairwise (fun left right =>
      display left.agent.endpoint ≠ display right.agent.endpoint)) :
    preferredCandidate display routeCatalog localInterfaceRanks identity candidates =
      preferredCandidate display routeCatalog' localInterfaceRanks identity candidates' := by
  have hinjective : ∀ left ∈ candidates, ∀ right ∈ candidates,
      display left.agent.endpoint = display right.agent.endpoint → left = right := by
    have hnodup : (candidates.map (fun candidate => display candidate.agent.endpoint)).Nodup :=
      List.pairwise_map.mpr hdistinct
    exact fun left hleft right hright => List.inj_on_of_nodup_map hnodup hleft hright
  have hsorted : ∀ items : List ResolvedDiscoveredAgent,
      (items.mergeSort (fun left right =>
        decide (display left.agent.endpoint ≤ display right.agent.endpoint))).Pairwise
        (fun left right => display left.agent.endpoint ≤ display right.agent.endpoint) := by
    intro items
    refine (List.pairwise_mergeSort ?_ ?_ items).imp (fun h => of_decide_eq_true h)
    · intro a b c hab hbc
      exact decide_eq_true ((of_decide_eq_true hab).trans (of_decide_eq_true hbc))
    · intro a b
      rcases le_total (display a.agent.endpoint) (display b.agent.endpoint) with h | h <;> simp [h]
  have hsame : candidates.mergeSort (fun left right =>
        decide (display left.agent.endpoint ≤ display right.agent.endpoint)) =
      candidates'.mergeSort (fun left right =>
        decide (display left.agent.endpoint ≤ display right.agent.endpoint)) := by
    apply List.Perm.eq_of_pairwise _ (hsorted candidates) (hsorted candidates')
    · exact (List.mergeSort_perm _ _).trans (hcandidates.trans (List.mergeSort_perm _ _).symm)
    · intro left right hleft hright hle hge
      have hright := hcandidates.mem_iff.mpr ((List.mergeSort_perm _ _).mem_iff.mp hright)
      exact hinjective left ((List.mergeSort_perm _ _).mem_iff.mp hleft) right hright
        (le_antisymm hle hge)
  have hscore : (fun candidate : ResolvedDiscoveredAgent => candidatePreferenceScore identity
        candidate.agent.endpoint routeCatalog localInterfaceRanks) =
      fun candidate : ResolvedDiscoveredAgent => candidatePreferenceScore identity
        candidate.agent.endpoint routeCatalog' localInterfaceRanks := by
    funext candidate
    exact candidatePreferenceScore_perm hcatalog identity _ _
  unfold preferredCandidate preferredCandidateIndex
  rw [hsame, hscore]

/-! ## The result -/

/-- A loop over entries that finds something for each. -/
theorem mapM_some {β γ : Type} (f : β → Option γ) (Found : β → γ → Prop) {entries : List β}
    (h : ∀ entry ∈ entries, ∃ found, f entry = some found ∧ Found entry found) :
    ∃ founds, entries.mapM f = some founds ∧ List.Forall₂ Found entries founds := by
  induction entries with
  | nil => exact ⟨[], rfl, .nil⟩
  | cons entry rest ih =>
    obtain ⟨⟨found, hfound, hspec⟩, hrest⟩ := List.forall_mem_cons.mp h
    obtain ⟨founds, hfounds, hall⟩ := ih hrest
    refine ⟨found :: founds, ?_, .cons hspec hall⟩
    rw [List.mapM_cons, hfound, hfounds]
    rfl

/-- Two loops over the same keys that find the same. -/
theorem mapM_map_congr {κ β γ : Type} (f g : β → Option γ) (left right : κ → β) {keys : List κ}
    (h : ∀ key ∈ keys, f (left key) = g (right key)) :
    (keys.map left).mapM f = (keys.map right).mapM g := by
  induction keys with
  | nil => rfl
  | cons key rest ih =>
    obtain ⟨hkey, hrest⟩ := List.forall_mem_cons.mp h
    rw [List.map_cons, List.map_cons, List.mapM_cons, List.mapM_cons, hkey, ih hrest]

/-- The catalog that the scores look at. -/
def routeCatalogOf (agents : List ResolvedDiscoveredAgent) : RouteCatalog :=
  agents.map (fun resolved => (resolved.identity, resolved.agent.endpoint))

/-- The endpoints of one identity have texts of their own. -/
def DistinctTexts (display : SocketAddr → String) (agents : List ResolvedDiscoveredAgent) : Prop :=
  agents.Pairwise (fun left right => left.identity = right.identity →
    display left.agent.endpoint ≠ display right.agent.endpoint)

theorem DistinctTexts.members {agents : List ResolvedDiscoveredAgent}
    (h : DistinctTexts display agents) (identity : DiscoveredAgentIdentity) :
    (Grouping.members ResolvedDiscoveredAgent.identity agents identity).Pairwise
      (fun left right => display left.agent.endpoint ≠ display right.agent.endpoint) := by
  have hmembers : (Grouping.members ResolvedDiscoveredAgent.identity agents identity).Pairwise
      (fun left right => left.identity = right.identity →
        display left.agent.endpoint ≠ display right.agent.endpoint) := List.Pairwise.filter _ h
  refine hmembers.imp_of_mem ?_
  intro left right hleft hright hne
  obtain ⟨_, hleft⟩ := Grouping.mem_members.mp hleft
  obtain ⟨_, hright⟩ := Grouping.mem_members.mp hright
  exact hne (hleft.trans hright.symm)

theorem deduplicate_perm {agents agents' : List ResolvedDiscoveredAgent}
    (hperm : agents'.Perm agents) (hdistinct : DistinctTexts display agents) :
    deduplicateResolvedAgentsWithLocalInterfaceRanks display agents' localInterfaceRanks =
      deduplicateResolvedAgentsWithLocalInterfaceRanks display agents localInterfaceRanks := by
  unfold deduplicateResolvedAgentsWithLocalInterfaceRanks
  rw [Grouping.groups_eq agents', Grouping.groups_eq agents, Grouping.keys_perm hperm]
  have hmapM := mapM_map_congr
    (fun (entry : DiscoveredAgentIdentity × List ResolvedDiscoveredAgent) =>
      preferredCandidate display (routeCatalogOf agents') localInterfaceRanks entry.1 entry.2)
    (fun (entry : DiscoveredAgentIdentity × List ResolvedDiscoveredAgent) =>
      preferredCandidate display (routeCatalogOf agents) localInterfaceRanks entry.1 entry.2)
    (fun identity =>
      (identity, Grouping.members ResolvedDiscoveredAgent.identity agents' identity))
    (fun identity =>
      (identity, Grouping.members ResolvedDiscoveredAgent.identity agents identity))
    (fun identity (_ : identity ∈ (Grouping.groups ResolvedDiscoveredAgent.identity agents).map
      Prod.fst) => (preferredCandidate_perm (hperm.map _).symm identity
      (Grouping.members_perm hperm identity).symm (hdistinct.members identity)).symm)
  exact congrArg (fun preferred : Option (List ResolvedDiscoveredAgent) => preferred >>=
    fun preferred => some ((preferred.map ResolvedDiscoveredAgent.agent).mergeSort
      (fun left right => left.sortKey display ≤ right.sortKey display))) hmapM

/-- One agent of each identity is kept, one with the best score; the result is in the order of
host names and endpoints and does not depend on the order of the list. -/
theorem deduplicate_preferred {agents : List ResolvedDiscoveredAgent}
    (hdistinct : DistinctTexts display agents) :
    ∃ (chosen : List ResolvedDiscoveredAgent) (result : List DiscoveredAgent),
      deduplicateResolvedAgentsWithLocalInterfaceRanks display agents localInterfaceRanks =
        some result ∧
      result.Perm (chosen.map ResolvedDiscoveredAgent.agent) ∧
      (chosen.map ResolvedDiscoveredAgent.identity).Nodup ∧
      (∀ identity, identity ∈ chosen.map ResolvedDiscoveredAgent.identity ↔
        ∃ resolved ∈ agents, resolved.identity = identity) ∧
      (∀ kept ∈ chosen, kept ∈ agents ∧
        ∀ resolved ∈ agents, resolved.identity = kept.identity →
          candidatePreferenceScore kept.identity resolved.agent.endpoint (routeCatalogOf agents)
              localInterfaceRanks ≤
            candidatePreferenceScore kept.identity kept.agent.endpoint (routeCatalogOf agents)
              localInterfaceRanks) ∧
      result.Pairwise (fun left right => left.sortKey display ≤ right.sortKey display) ∧
      (∀ agents' : List ResolvedDiscoveredAgent, agents'.Perm agents →
        deduplicateResolvedAgentsWithLocalInterfaceRanks display agents' localInterfaceRanks =
          some result) := by
  have hgrouped : Grouping.Grouped ResolvedDiscoveredAgent.identity agents
      (Grouping.groups ResolvedDiscoveredAgent.identity agents) := Grouping.grouped_groups agents
  obtain ⟨chosen, hchosen, hall⟩ := mapM_some
    (fun (entry : DiscoveredAgentIdentity × List ResolvedDiscoveredAgent) =>
      preferredCandidate display (routeCatalogOf agents) localInterfaceRanks entry.1 entry.2)
    (fun entry kept => kept.identity = entry.1 ∧ kept ∈ agents ∧
      ∀ resolved ∈ agents, resolved.identity = entry.1 →
        candidatePreferenceScore entry.1 resolved.agent.endpoint (routeCatalogOf agents)
            localInterfaceRanks ≤
          candidatePreferenceScore entry.1 kept.agent.endpoint (routeCatalogOf agents)
            localInterfaceRanks) (by
    intro entry hentry
    have hmembers := hgrouped.groups entry hentry
    obtain ⟨resolved, hresolved, hidentity⟩ :=
      (hgrouped.keys entry.1).mp (List.mem_map_of_mem hentry)
    have hne : entry.2 ≠ [] := by
      rw [hmembers]
      exact List.ne_nil_of_mem (Grouping.mem_members.mpr ⟨hresolved, hidentity⟩)
    obtain ⟨kept, hkept, hmem, hmax⟩ := preferredCandidate_spec
      display localInterfaceRanks (routeCatalogOf agents) entry.1 hne
    rw [hmembers] at hmem hmax
    obtain ⟨hkeptMem, hkeptIdentity⟩ := Grouping.mem_members.mp hmem
    refine ⟨kept, hkept, hkeptIdentity, hkeptMem, ?_⟩
    intro other hother hsame
    exact hmax other (Grouping.mem_members.mpr ⟨hother, hsame⟩))
  have hidentities : chosen.map ResolvedDiscoveredAgent.identity =
      (Grouping.groups ResolvedDiscoveredAgent.identity agents).map Prod.fst := by
    generalize Grouping.groups ResolvedDiscoveredAgent.identity agents = entries at hall
    clear hchosen
    induction hall with
    | nil => rfl
    | cons hfound _ ih => rw [List.map_cons, List.map_cons, hfound.1, ih]
  have hkept : ∀ kept ∈ chosen, kept ∈ agents ∧
      ∀ resolved ∈ agents, resolved.identity = kept.identity →
        candidatePreferenceScore kept.identity resolved.agent.endpoint (routeCatalogOf agents)
            localInterfaceRanks ≤
          candidatePreferenceScore kept.identity kept.agent.endpoint (routeCatalogOf agents)
            localInterfaceRanks := by
    generalize Grouping.groups ResolvedDiscoveredAgent.identity agents = entries at hall
    clear hchosen hidentities
    induction hall with
    | nil => simp
    | cons hfound _ ih =>
        obtain ⟨hidentity, hmem, hmax⟩ := hfound
        exact List.forall_mem_cons.mpr ⟨hidentity ▸ ⟨hmem, hmax⟩, ih⟩
  have hresult : deduplicateResolvedAgentsWithLocalInterfaceRanks display agents
      localInterfaceRanks = some ((chosen.map ResolvedDiscoveredAgent.agent).mergeSort
        (fun left right => left.sortKey display ≤ right.sortKey display)) :=
    congrArg (fun preferred : Option (List ResolvedDiscoveredAgent) => preferred >>=
      fun preferred => some ((preferred.map ResolvedDiscoveredAgent.agent).mergeSort
        (fun left right => left.sortKey display ≤ right.sortKey display))) hchosen
  refine ⟨chosen, _, hresult, List.mergeSort_perm _ _, ?_, ?_, hkept, ?_, ?_⟩
  · rw [hidentities]
    exact Grouping.nodup_keys agents
  · intro identity
    rw [hidentities]
    exact hgrouped.keys identity
  · refine (List.pairwise_mergeSort ?_ ?_ _).imp (fun h => of_decide_eq_true h)
    · intro a b c hab hbc
      exact decide_eq_true ((of_decide_eq_true hab).trans (of_decide_eq_true hbc))
    · intro a b
      rcases le_total (a.sortKey display) (b.sortKey display) with h | h <;> simp [h]
  · intro agents' hperm
    rw [deduplicate_perm hperm hdistinct, hresult]

end

/-- An agent of the instance 1 at a link-local address with flow info. -/
def linkLocalAgent (flowinfo : UInt32) : ResolvedDiscoveredAgent where
  agent := ⟨"PC", linkLocal 50000 flowinfo, 1, .idle,
    ⟨3, AgentCapabilities.three_pos, AgentCapabilities.three_lt⟩⟩
  identity := .byInstance 1

theorem deduplicate_linkLocal (first second : UInt32) :
    deduplicateResolvedAgentsWithLocalInterfaceRanks linkLocalTexts.display
      [linkLocalAgent first, linkLocalAgent second] [] = some [(linkLocalAgent first).agent] := by
  have hgroups : Grouping.groups ResolvedDiscoveredAgent.identity
      [linkLocalAgent first, linkLocalAgent second] =
        [(.byInstance 1, [linkLocalAgent first, linkLocalAgent second])] := by
    simp [Grouping.groups, Grouping.push, linkLocalAgent]
  have hsorted : [linkLocalAgent first, linkLocalAgent second].mergeSort (fun left right =>
      decide (linkLocalTexts.display left.agent.endpoint ≤
        linkLocalTexts.display right.agent.endpoint)) =
      [linkLocalAgent first, linkLocalAgent second] := by
    apply List.mergeSort_of_pairwise
    simp [linkLocalTexts]
  have hpreferred : ∀ catalog, preferredCandidate linkLocalTexts.display catalog [] (.byInstance 1)
      [linkLocalAgent first, linkLocalAgent second] = some (linkLocalAgent first) := by
    intro catalog
    unfold preferredCandidate
    dsimp only
    rw [hsorted]
    rfl
  unfold deduplicateResolvedAgentsWithLocalInterfaceRanks
  dsimp only
  rw [hgroups, List.mapM_cons, hpreferred]
  show some ([(linkLocalAgent first).agent].mergeSort _) = _
  rw [List.mergeSort_singleton]

/-- The text of an endpoint leaves flow info out, and which of two such endpoints is kept depends on
their order. -/
theorem deduplicate_depends_on_order :
    [linkLocalAgent 1, linkLocalAgent 2].Pairwise (fun left right =>
        left.identity = right.identity → left.agent.endpoint ≠ right.agent.endpoint) ∧
      [linkLocalAgent 2, linkLocalAgent 1].Perm [linkLocalAgent 1, linkLocalAgent 2] ∧
      deduplicateResolvedAgentsWithLocalInterfaceRanks linkLocalTexts.display
          [linkLocalAgent 2, linkLocalAgent 1] [] ≠
        deduplicateResolvedAgentsWithLocalInterfaceRanks linkLocalTexts.display
          [linkLocalAgent 1, linkLocalAgent 2] [] := by
  refine ⟨by decide, List.Perm.swap _ _ _, ?_⟩
  rw [deduplicate_linkLocal, deduplicate_linkLocal]
  decide

/-- The texts of IPv4 endpoints. -/
def ipv4Text : SocketAddr → String
  | .v4 ip port =>
      let octet := fun shift : Nat => toString ((ip >>> shift).toNat % 256)
      octet 24 ++ "." ++ octet 16 ++ "." ++ octet 8 ++ "." ++ octet 0 ++ ":" ++ toString port.toNat
  | address => linkLocalTexts.display address

/-- An agent of an instance on the local network. -/
def lanAgent (id : BitVec 128) (ip : BitVec 32) : ResolvedDiscoveredAgent where
  agent := ⟨"PC", .v4 ip 49421, 1, .idle, ⟨3, by decide, by decide⟩⟩
  identity := .byInstance id

/-- Two addresses of one agent and one of another. -/
theorem deduplicate_preferred_lan : ∃ result,
    deduplicateResolvedAgentsWithLocalInterfaceRanks ipv4Text
        [lanAgent 1 0xAC14E001, lanAgent 1 0xC0A802C8, lanAgent 2 0xC0A80267] [] = some result ∧
      deduplicateResolvedAgentsWithLocalInterfaceRanks ipv4Text
        [lanAgent 2 0xC0A80267, lanAgent 1 0xC0A802C8, lanAgent 1 0xAC14E001] [] = some result := by
  have hdistinct : DistinctTexts ipv4Text
      [lanAgent 1 0xAC14E001, lanAgent 1 0xC0A802C8, lanAgent 2 0xC0A80267] := by
    unfold DistinctTexts
    decide +kernel
  obtain ⟨chosen, result, hresult, _, _, _, _, _, hperm⟩ :=
    @deduplicate_preferred ipv4Text [] _ hdistinct
  exact ⟨result, hresult, hperm _ (List.reverse_perm
    [lanAgent 1 0xAC14E001, lanAgent 1 0xC0A802C8, lanAgent 2 0xC0A80267])⟩

end NetworkCopy
