import SectorSync.Base.Stamps
import SectorSync.Runtime.DeploymentRun

/-!
# What deployment epochs identify

Routes of nodes and of stations carry an epoch, so that caches can compare epochs instead of routes.

**Nodes.**  A node is never removed and its epoch never goes down; the one operation that changes
its state under a kept epoch is a registration that brings it back online with the capacity it has
(`Revival`), and `node_epochs_identify_iff` says that these are the steps that break the reading.

**Stations.**  The epoch counts the nodes that a station has been on since it was assigned, and an
unassigned station starts again at one.  `placement_epochs_identify_iff` says that epochs identify
nodes exactly when a station that is assigned again goes through the nodes of its earlier lives.
-/

namespace SectorSync

open Machine

namespace DeploymentRouteTable

variable {t : DeploymentRouteTable} {op : DeploymentOp}

/-! ## Node epochs -/

lemma nodeRoute_eq_ok {nodeId : NodeId} {route : DeploymentNodeRoute} :
    t.nodeRoute nodeId = .ok route
      ↔ ∃ node, t.nodes.lookup nodeId = some node ∧ node.route = route := by
  rw [nodeRoute]
  cases t.nodes.lookup nodeId with
  | none => simp
  | some node => simp

/-- The route of a node that is registered. -/
def routeOfNode (t : DeploymentRouteTable) (nodeId : NodeId) : Option DeploymentNodeRoute :=
  (t.nodeRoute nodeId).toOption

lemma routeOfNode_eq_some {nodeId : NodeId} {route : DeploymentNodeRoute} :
    t.routeOfNode nodeId = some route
      ↔ ∃ node, t.nodes.lookup nodeId = some node ∧ node.route = route := by
  rw [← nodeRoute_eq_ok, routeOfNode]
  cases t.nodeRoute nodeId <;> simp [Except.toOption]

/-- The operation brings a node whose epoch can still rise back online with its capacity. -/
def Revival (t : DeploymentRouteTable) (op : DeploymentOp) : Prop :=
  ∃ nodeId node, t.nodes.lookup nodeId = some node ∧ node.route.routeEpoch < UInt64.maxValue
    ∧ t.Revives op nodeId

lemma RouteChange.refl (nodeId : NodeId) (route : DeploymentNodeRoute) :
    RouteChange t op nodeId route route := .kept rfl rfl rfl

lemma lookup_joinNode {nodeId : NodeId} {node : DeploymentNodeRecord} (stationId : StationId)
    (other : NodeId) :
    (t.joinNode nodeId node stationId).nodes.lookup other
      = if other = nodeId then
          some { node with stations := insert stationId node.stations }.refreshAssignedCount
        else t.nodes.lookup other := by
  rw [joinNode, putNode, Finmap.lookup_insert_eq]

/-- A station that leaves a node changes no route but for its count. -/
lemma routeChange_leaveNode (op : DeploymentOp) (nodeId : NodeId) (stationId : StationId)
    {other : NodeId} {node : DeploymentNodeRecord} (hnode : t.nodes.lookup other = some node) :
    ∃ node', (t.leaveNode nodeId stationId).nodes.lookup other = some node'
      ∧ RouteChange t op other node.route node'.route := by
  rw [leaveNode, Finmap.lookup_modify]
  split_ifs with hsame
  · rw [hsame] at hnode
    rw [hnode]
    refine ⟨_, rfl, .kept ?_ ?_ ?_⟩
    · rfl
    · rfl
    · rfl
  · exact ⟨node, hnode, .refl _ _⟩

/-- A station that joins a node changes no route but for its count. -/
lemma routeChange_joinNode {x : DeploymentRouteTable} {nodeId : NodeId}
    {joined : DeploymentNodeRecord} (hjoined : t.nodes.lookup nodeId = some joined)
    (stationId : StationId) {other : NodeId} {node node' : DeploymentNodeRecord}
    (hnode : t.nodes.lookup other = some node) (hnode' : x.nodes.lookup other = some node')
    (hchange : RouteChange t op other node.route node'.route) :
    ∃ node', (x.joinNode nodeId joined stationId).nodes.lookup other = some node'
      ∧ RouteChange t op other node.route node'.route := by
  rw [lookup_joinNode]
  split_ifs with hsame
  · rw [hsame, hjoined, Option.some.injEq] at hnode
    refine ⟨_, rfl, ?_⟩
    rw [← hnode]
    exact .kept rfl rfl rfl
  · exact ⟨node', hnode', hchange⟩

/-- A registered node stays registered, and its route changes as `RouteChange` says. -/
lemma routeChange_step (op : DeploymentOp) {nodeId : NodeId} {node : DeploymentNodeRecord}
    (hnode : t.nodes.lookup nodeId = some node) :
    ∃ node', (t.step op).nodes.lookup nodeId = some node'
      ∧ RouteChange t op nodeId node.route node'.route := by
  have hperforms := performs t op
  rw [step]
  generalize (t.perform op).1 = outcome at hperforms
  generalize (t.perform op).2 = t' at *
  cases hperforms with
  | refused => exact ⟨node, hnode, .refl _ _⟩
  | rejected => exact ⟨node, hnode, .refl _ _⟩
  | answered => exact ⟨node, hnode, .refl _ _⟩
  | @registered other stationCapacity now stats hnone hroom hassigned hunassigned reply =>
      have hne : nodeId ≠ other := by
        rintro rfl
        rw [hnone] at hnode
        cases hnode
      exact ⟨node, (Finmap.lookup_insert_of_ne _ hne).trans hnode, .refl _ _⟩
  | @node other changed route stats hchanged hid hcount hchange hassigned hunassigned reply =>
      rw [withRoutes, putNode]
      simp only [Finmap.lookup_insert_eq]
      split_ifs with hsame
      · subst hsame
        rw [hnode, Option.some.injEq] at hchanged
        exact ⟨_, rfl, hchanged ▸ hchange⟩
      · exact ⟨node, hnode, .refl _ _⟩
  | @placed stationId other now joined hop hnew hjoined honline hroom reply =>
      exact routeChange_joinNode hjoined stationId hnode hnode (.refl _ _)
  | @moved stationId other now joined previous stats hprevious hne hjoined honline hroom hassigned
      hunassigned reply =>
      obtain ⟨node', hnode', hchange⟩ :=
        routeChange_leaveNode op previous.nodeId stationId hnode
      exact routeChange_joinNode hjoined stationId hnode hnode' hchange
  | @unassigned stationId route hop hroute reply =>
      exact routeChange_leaveNode op route.nodeId stationId hnode
  | stale now reply =>
      rw [markStaleOffline, Finmap.lookup_mapValues, hnode]
      refine ⟨_, rfl, ?_⟩
      rw [markStale]
      split_ifs
      · exact .bumped rfl
      · exact .refl _ _

/-- A registration that revives a node leaves it online under its epoch. -/
lemma Revives.lookup_step {nodeId : NodeId} {node : DeploymentNodeRecord}
    (h : t.Revives op nodeId) (hnode : t.nodes.lookup nodeId = some node) :
    node.route.state ≠ .online
      ∧ ∃ node', (t.step op).nodes.lookup nodeId = some node' ∧ node'.route.state = .online
        ∧ node'.route.routeEpoch = node.route.routeEpoch := by
  obtain ⟨stationCapacity, now, found, rfl, hfound, hstate, hcapacity⟩ := h
  rw [hnode, Option.some.injEq] at hfound
  subst hfound
  simp only [step, perform, registerNode, hnode, hcapacity, ne_eq, not_true_eq_false, if_false]
  exact ⟨hstate, _, Finmap.lookup_insert _, rfl, rfl⟩

/-- Two routes of a node in a run that carry one epoch show one state and one capacity. -/
def NodeEpochsIdentify (config : DeploymentConfig) (ops : List DeploymentOp) : Prop :=
  ∀ pre mid, pre ++ mid <+: ops → ∀ nodeId a b, (run config pre).nodeRoute nodeId = .ok a →
    (run config (pre ++ mid)).nodeRoute nodeId = .ok b → a.routeEpoch = b.routeEpoch →
    a.routeEpoch < UInt64.maxValue →
    a.state = b.state ∧ a.stationCapacity = b.stationCapacity

/-- Node epochs never go down. -/
lemma nodeEpoch_mono {nodeId : NodeId} {a b : DeploymentNodeRoute}
    (ha : t.routeOfNode nodeId = some a) (hb : (t.step op).routeOfNode nodeId = some b) :
    a.routeEpoch ≤ b.routeEpoch := by
  obtain ⟨node, hnode, rfl⟩ := routeOfNode_eq_some.mp ha
  obtain ⟨node', hnode', rfl⟩ := routeOfNode_eq_some.mp hb
  obtain ⟨found, hfound, hchange⟩ := routeChange_step op hnode
  rw [hnode', Option.some.injEq] at hfound
  subst hfound
  cases hchange with
  | kept hstate hcapacity hepoch => exact hepoch.ge
  | bumped hepoch =>
      rw [hepoch]
      exact UInt64.le_saturatingAdd _ _
  | revived hrevives hepoch => exact hepoch.ge

/-- What the state and the capacity of a node keep. -/
abbrev KeepsNodes (t t' : DeploymentRouteTable) : Prop :=
  ∀ nodeId, KeepsValue (routeOfNode · nodeId) DeploymentNodeRoute.routeEpoch
    (fun route => (route.state, route.stationCapacity)) (· < UInt64.maxValue) t t'

/-- The steps that keep state and capacity under an epoch are those that revive no node. -/
lemma keepsNodes_step_iff (t : DeploymentRouteTable) (op : DeploymentOp) :
    t.KeepsNodes (t.step op) ↔ ¬ t.Revival op := by
  constructor
  · rintro h ⟨nodeId, node, hnode, hlive, hrevives⟩
    obtain ⟨hoffline, node', hnode', honline, hepoch⟩ := hrevives.lookup_step hnode
    have hkept := h nodeId node.route node'.route (routeOfNode_eq_some.mpr ⟨node, hnode, rfl⟩)
      (routeOfNode_eq_some.mpr ⟨node', hnode', rfl⟩) hepoch.symm hlive
    exact hoffline ((Prod.mk.inj hkept).1.trans honline)
  · intro h nodeId a b ha hb hepochs hlive
    obtain ⟨node, hnode, rfl⟩ := routeOfNode_eq_some.mp ha
    obtain ⟨node', hnode', rfl⟩ := routeOfNode_eq_some.mp hb
    obtain ⟨found, hfound, hchange⟩ := routeChange_step op hnode
    rw [hnode', Option.some.injEq] at hfound
    subst hfound
    cases hchange with
    | kept hstate hcapacity hepoch => exact Prod.ext hstate.symm hcapacity.symm
    | bumped hepoch =>
        rw [hepoch, eq_comm, UInt64.saturatingAdd_one_eq_self] at hepochs
        exact absurd (hepochs ▸ hlive) (lt_irrefl _)
    | revived hrevives hepoch => exact absurd ⟨nodeId, node, hnode, hlive, hrevives⟩ h

/-- A node that is registered stays so. -/
lemma tracked_routeOfNode {nodeId : NodeId} {node : DeploymentNodeRecord}
    (hnode : t.nodes.lookup nodeId = some node) (ops : List DeploymentOp) :
    Tracked step (routeOfNode · nodeId) t ops := by
  induction ops generalizing t node with
  | nil =>
      rw [tracked_nil, routeOfNode_eq_some.mpr ⟨node, hnode, rfl⟩]
      rfl
  | cons op ops ih =>
      obtain ⟨node', hnode', -⟩ := routeChange_step op hnode
      refine tracked_cons.mpr ⟨?_, ih hnode'⟩
      rw [routeOfNode_eq_some.mpr ⟨node, hnode, rfl⟩]
      rfl

lemma routeOfNode_eq_some_iff_ok {nodeId : NodeId} {route : DeploymentNodeRoute} :
    t.routeOfNode nodeId = some route ↔ t.nodeRoute nodeId = .ok route :=
  routeOfNode_eq_some.trans nodeRoute_eq_ok.symm

/-- **Node epochs identify state and capacity exactly in the runs that revive no node.** -/
theorem node_epochs_identify_iff (config : DeploymentConfig) (ops : List DeploymentOp) :
    NodeEpochsIdentify config ops
      ↔ AllSteps step (fun t op => ¬ t.Revival op) (new config) ops := by
  have hnodes : NodeEpochsIdentify config ops
      ↔ ∀ nodeId, StampsIdentify (routeOfNode · nodeId) DeploymentNodeRoute.routeEpoch
        (fun route => (route.state, route.stationCapacity)) (· < UInt64.maxValue) step
        (new config) ops := by
    constructor
    · intro h nodeId pre mid hpre htracked a b ha hb hepoch hlive
      have hsame := h pre mid hpre nodeId a b (routeOfNode_eq_some_iff_ok.mp ha)
        (routeOfNode_eq_some_iff_ok.mp hb) hepoch hlive
      exact Prod.ext hsame.1 hsame.2
    · intro h pre mid hpre nodeId a b ha hb hepoch hlive
      obtain ⟨node, hnode, -⟩ := nodeRoute_eq_ok.mp ha
      have hsame := h nodeId pre mid hpre (tracked_routeOfNode hnode mid) a b
        (routeOfNode_eq_some_iff_ok.mpr ha) (routeOfNode_eq_some_iff_ok.mpr hb) hepoch hlive
      exact Prod.mk.inj hsame
  rw [hnodes, ← allSteps_congr keepsNodes_step_iff, ← allSteps_forall]
  refine forall_congr' fun nodeId => ?_
  have hmono : ∀ t op a b, routeOfNode t nodeId = some a → routeOfNode (step t op) nodeId = some b →
      a.routeEpoch ≤ b.routeEpoch := fun t op a b => nodeEpoch_mono
  exact stampsIdentify_iff hmono (new config) ops

/-- A node that drains is registered again with its capacity. -/
def drainAndReturn : List DeploymentOp :=
  [.registerNode ⟨1⟩ 4 ⟨10⟩, .markDraining ⟨1⟩, .registerNode ⟨1⟩ 4 ⟨12⟩]

/-- Its routes carry epoch two as a draining and as an online node. -/
theorem drained_node_returns_unnoticed : ¬ NodeEpochsIdentify ⟨8, 16, 5⟩ drainAndReturn := by
  intro h
  have hsame := h [.registerNode ⟨1⟩ 4 ⟨10⟩, .markDraining ⟨1⟩] [.registerNode ⟨1⟩ 4 ⟨12⟩]
    List.prefix_rfl ⟨1⟩ ⟨⟨1⟩, .draining, ⟨10⟩, 4, 0, 2⟩ ⟨⟨1⟩, .online, ⟨12⟩, 4, 0, 2⟩ (by decide)
    (by decide) rfl (by decide)
  exact absurd hsame.1 (by decide)

/-! ## Placement epochs -/

lemma stationRoute_eq_ok {stationId : StationId} {route : DeploymentStationRoute} :
    t.stationRoute stationId = .ok route ↔ t.stations.lookup stationId = some route := by
  rw [stationRoute]
  cases t.stations.lookup stationId with
  | none => simp
  | some found => simp

/-- What an operation does to the route of a station. -/
inductive PlacementChange (op : DeploymentOp) (stationId : StationId) :
    Option DeploymentStationRoute → Option DeploymentStationRoute → Prop where
  | kept (route : Option DeploymentStationRoute) : PlacementChange op stationId route route
  | assigned {nodeId : NodeId} {now : Tick} (hop : op = .assignStation stationId nodeId now) :
      PlacementChange op stationId none (some ⟨stationId, nodeId, 1, now⟩)
  | moved {previous : DeploymentStationRoute} {nodeId : NodeId} {now : Tick}
      (hne : previous.nodeId ≠ nodeId) :
      PlacementChange op stationId (some previous)
        (some ⟨stationId, nodeId, previous.routeEpoch.saturatingAdd 1, now⟩)
  | unassigned {route : DeploymentStationRoute} (hop : op = .unassignStation stationId) :
      PlacementChange op stationId (some route) none

lemma placementChange_step (t : DeploymentRouteTable) (op : DeploymentOp) (stationId : StationId) :
    PlacementChange op stationId (t.stations.lookup stationId)
      ((t.step op).stations.lookup stationId) := by
  have hperforms := performs t op
  rw [step]
  generalize (t.perform op).1 = outcome at hperforms
  generalize (t.perform op).2 = t' at *
  cases hperforms with
  | refused => exact .kept _
  | rejected => exact .kept _
  | answered => exact .kept _
  | registered => exact .kept _
  | node => exact .kept _
  | @placed placed nodeId now node hop hnew hnode honline hroom reply =>
      rw [withRoutes]
      simp only [Finmap.lookup_insert_eq]
      split_ifs with hsame
      · subst hsame
        rw [hnew]
        exact .assigned hop
      · exact .kept _
  | @moved moved nodeId now node previous stats hprevious hne hnode honline hroom hassigned
      hunassigned reply =>
      rw [withRoutes]
      simp only [Finmap.lookup_insert_eq]
      split_ifs with hsame
      · subst hsame
        rw [hprevious]
        exact .moved hne
      · exact .kept _
  | @unassigned gone route hop hroute reply =>
      rw [withRoutes]
      simp only [Finmap.lookup_erase_eq]
      split_ifs with hsame
      · subst hsame
        rw [hroute]
        exact .unassigned hop
      · exact .kept _
  | stale => exact .kept _

/-- The largest epoch. -/
def epochLimit : ℕ := UInt64.maxValue.toNat

/-- The epoch of a station counts its nodes since it was assigned. -/
lemma counts_step (stationId : StationId) (t : DeploymentRouteTable) (op : DeploymentOp) :
    Counts (·.routeEpoch.toNat) DeploymentStationRoute.nodeId epochLimit
      (t.stations.lookup stationId) ((t.step op).stations.lookup stationId) := by
  have hchange := placementChange_step t op stationId
  generalize t.stations.lookup stationId = before at hchange
  generalize (t.step op).stations.lookup stationId = after at hchange
  cases hchange with
  | kept =>
      cases before with
      | none => exact .gone
      | some route => exact .kept rfl rfl
  | assigned hop => exact .created rfl
  | moved hne =>
      refine .changed hne.symm ?_
      rw [UInt64.toNat_saturatingAdd, epochLimit, UInt64.toNat_maxValue]
      rfl
  | unassigned hop => exact .gone

/-- The nodes that a station is on in turn, one list for each time it is assigned anew. -/
def placements (config : DeploymentConfig) (ops : List DeploymentOp) (stationId : StationId) :
    List (List NodeId) :=
  lives (fun t : DeploymentRouteTable => t.stations.lookup stationId) DeploymentStationRoute.nodeId
    step (new config) ops

/-- A station that is assigned again goes through the nodes of its earlier lives. -/
def PlacementsAgree (config : DeploymentConfig) (ops : List DeploymentOp) : Prop :=
  ∀ stationId, LivesAgree epochLimit (placements config ops stationId)

/-- Two routes of a station in a run that carry one epoch name one node. -/
def PlacementEpochsIdentify (config : DeploymentConfig) (ops : List DeploymentOp) : Prop :=
  ∀ pre pre', pre <+: ops → pre' <+: ops → ∀ stationId a b,
    (run config pre).stationRoute stationId = .ok a →
    (run config pre').stationRoute stationId = .ok b → a.routeEpoch = b.routeEpoch →
    a.routeEpoch < UInt64.maxValue → a.nodeId = b.nodeId

/-- No station is assigned after it was unassigned. -/
def AssignedOnce (ops : List DeploymentOp) : Prop :=
  ∀ pre stationId nodeId now, pre ++ [.assignStation stationId nodeId now] <+: ops →
    .unassignStation stationId ∉ pre

/-- The lives of a station that is not assigned after it was unassigned. -/
structure OneLife (stationId : StationId) (ops : List DeploymentOp)
    (state : DeploymentRouteTable × List (List NodeId)) : Prop where
  single : state.2.length ≤ 1
  unborn : .unassignStation stationId ∉ ops → state.1.stations.lookup stationId = none →
    state.2 = []

lemma AssignedOnce.of_concat {ops : List DeploymentOp} (h : AssignedOnce (ops ++ [op])) :
    AssignedOnce ops :=
  fun pre stationId nodeId now hpre =>
    h pre stationId nodeId now (hpre.trans (ops.prefix_append [op]))

lemma OneLife.step {stationId : StationId} {ops : List DeploymentOp}
    {state : DeploymentRouteTable × List (List NodeId)} (h : OneLife stationId ops state)
    (honce : AssignedOnce (ops ++ [op])) :
    OneLife stationId (ops ++ [op]) (livesStep (fun t => t.stations.lookup stationId)
      DeploymentStationRoute.nodeId DeploymentRouteTable.step state op) := by
  have hchange := placementChange_step state.1 op stationId
  have hearlier : .unassignStation stationId ∉ ops ++ [op] → .unassignStation stationId ∉ ops :=
    fun hnot hmem => hnot (List.mem_append_left [op] hmem)
  generalize hbefore : state.1.stations.lookup stationId = before at hchange
  generalize hafter : (state.1.step op).stations.lookup stationId = after at hchange
  refine ⟨?_, fun hnot hnone => ?_⟩
  · simp only [livesStep, hbefore, hafter]
    cases hchange with
    | kept =>
        cases before with
        | none => exact h.single
        | some route =>
            rw [nextLives, if_pos rfl]
            exact h.single
    | assigned hop =>
        -- a station without a route that was never unassigned has had no life
        have hnot : .unassignStation stationId ∉ ops :=
          honce ops stationId _ _ (by rw [hop])
        rw [nextLives, h.unborn hnot hbefore]
        exact le_refl _
    | moved hne =>
        rw [nextLives, if_neg hne.symm, List.length_modifyHead]
        exact h.single
    | unassigned hop => exact h.single
  · simp only [livesStep, hbefore, hafter] at hnone ⊢
    cases hchange with
    | kept =>
        subst hnone
        exact h.unborn (hearlier hnot) hbefore
    | assigned hop => cases hnone
    | moved hne => cases hnone
    | unassigned hop => exact absurd (by rw [hop]; simp) hnot

lemma placementsAgree_of_assignedOnce (config : DeploymentConfig) {ops : List DeploymentOp}
    (honce : AssignedOnce ops) : PlacementsAgree config ops := by
  intro stationId
  have hnew : OneLife stationId [] (new config, []) := ⟨Nat.zero_le 1, fun _ _ => rfl⟩
  have hlife : AssignedOnce ops → OneLife stationId ops
      (execute (livesStep (fun t => t.stations.lookup stationId) DeploymentStationRoute.nodeId step)
        (new config, []) ops) :=
    execute_history (I := fun ops state => AssignedOnce ops → OneLife stationId ops state)
      (fun _ => hnew) (fun ops state op h hnext => (h hnext.of_concat).step hnext) ops
  exact livesAgree_of_length_le_one (hlife honce).single

/-- **Placement epochs identify nodes exactly when a station that is assigned again goes through
the nodes of its earlier lives**; so they do in every run that assigns no station after it was
unassigned. -/
theorem placement_epochs_identify_iff (config : DeploymentConfig) (ops : List DeploymentOp) :
    (PlacementEpochsIdentify config ops ↔ PlacementsAgree config ops)
      ∧ (AssignedOnce ops → PlacementEpochsIdentify config ops) := by
  have hiff : PlacementEpochsIdentify config ops ↔ PlacementsAgree config ops := by
    have hstation : ∀ stationId, _ ↔ LivesAgree epochLimit (placements config ops stationId) :=
      fun stationId => stamps_identify_iff_livesAgree (s := new config) (by decide)
        (counts_step stationId) rfl ops
    rw [PlacementsAgree, ← forall_congr' hstation]
    simp only [PlacementEpochsIdentify, stationRoute_eq_ok, epochLimit, UInt64.toNat_inj,
      ← UInt64.lt_iff_toNat_lt, run]
    constructor
    · intro h stationId pre pre' hpre hpre' a b ha hb hepoch hlive
      exact h pre pre' hpre hpre' stationId a b ha hb hepoch hlive
    · intro h pre pre' hpre hpre' stationId a b ha hb hepoch hlive
      exact h stationId pre pre' hpre hpre' a b ha hb hepoch hlive
  exact ⟨hiff, fun honce => hiff.mpr (placementsAgree_of_assignedOnce config honce)⟩

/-- A station is unassigned from node 1 and assigned to node 2. -/
def assignElsewhere : List DeploymentOp :=
  [.registerNode ⟨1⟩ 4 ⟨10⟩, .registerNode ⟨2⟩ 4 ⟨10⟩, .assignStation ⟨7⟩ ⟨1⟩ ⟨11⟩,
    .unassignStation ⟨7⟩, .assignStation ⟨7⟩ ⟨2⟩ ⟨13⟩]

/-- Its routes carry epoch one and name both nodes. -/
theorem assigned_elsewhere_reuses_epoch : ¬ PlacementEpochsIdentify ⟨8, 16, 5⟩ assignElsewhere := by
  intro h
  have hnode := h [.registerNode ⟨1⟩ 4 ⟨10⟩, .registerNode ⟨2⟩ 4 ⟨10⟩,
    .assignStation ⟨7⟩ ⟨1⟩ ⟨11⟩] assignElsewhere ⟨_, rfl⟩ List.prefix_rfl ⟨7⟩
    ⟨⟨7⟩, ⟨1⟩, 1, ⟨11⟩⟩ ⟨⟨7⟩, ⟨2⟩, 1, ⟨13⟩⟩ (by decide) (by decide) rfl (by decide)
  exact absurd hnode (by decide)

end DeploymentRouteTable

end SectorSync
