import SectorSync.Base.Run
import SectorSync.Runtime.Deployment

/-!
# Runs of the deployment table

Any operations of the route table with any ticks.  `Performs` lists what one operation can do to a
table, and `performs` says that it does no more.  `Consistent` is what holds in every table of a
run, and `deployment_consistent` is the result.
-/

namespace SectorSync

open Machine

/-- An operation of the deployment table. -/
inductive DeploymentOp where
  | registerNode (nodeId : NodeId) (stationCapacity : ℕ) (now : Tick)
  | heartbeat (nodeId : NodeId) (now : Tick)
  | markDraining (nodeId : NodeId)
  | markOffline (nodeId : NodeId)
  | assignStation (stationId : StationId) (nodeId : NodeId) (now : Tick)
  | moveStation (stationId : StationId) (targetNode : NodeId) (now : Tick)
  | unassignStation (stationId : StationId)
  | markStaleOffline (now : Tick)

/-- What an operation returns. -/
inductive DeploymentReply where
  | node (route : DeploymentNodeRoute)
  | station (route : DeploymentStationRoute)
  | moved (move : DeploymentStationMove)
  | stale (count : ℕ)

namespace DeploymentRouteTable

/-- Performs an operation. -/
def perform (t : DeploymentRouteTable) :
    DeploymentOp → Except DeploymentError DeploymentReply × DeploymentRouteTable
  | .registerNode nodeId stationCapacity now =>
      ((t.registerNode nodeId stationCapacity now).1.map .node,
        (t.registerNode nodeId stationCapacity now).2)
  | .heartbeat nodeId now => ((t.heartbeat nodeId now).1.map .node, (t.heartbeat nodeId now).2)
  | .markDraining nodeId => ((t.markDraining nodeId).1.map .node, (t.markDraining nodeId).2)
  | .markOffline nodeId => ((t.markOffline nodeId).1.map .node, (t.markOffline nodeId).2)
  | .assignStation stationId nodeId now =>
      ((t.assignStation stationId nodeId now).1.map .station,
        (t.assignStation stationId nodeId now).2)
  | .moveStation stationId targetNode now =>
      ((t.moveStation stationId targetNode now).1.map .moved,
        (t.moveStation stationId targetNode now).2)
  | .unassignStation stationId =>
      ((t.unassignStation stationId).1.map .station, (t.unassignStation stationId).2)
  | .markStaleOffline now => (.ok (.stale (t.markStaleOffline now).1), (t.markStaleOffline now).2)

/-- The table after an operation. -/
def step (t : DeploymentRouteTable) (op : DeploymentOp) : DeploymentRouteTable := (t.perform op).2

/-! ## What one operation can do -/

/-- The operation registers a node that is not online again, with the capacity that it has. -/
def Revives (t : DeploymentRouteTable) (op : DeploymentOp) (nodeId : NodeId) : Prop :=
  ∃ stationCapacity now node, op = .registerNode nodeId stationCapacity now
    ∧ t.nodes.lookup nodeId = some node ∧ node.route.state ≠ .online
    ∧ node.route.stationCapacity = min stationCapacity t.config.maxStationsPerNode

/-- What an operation can do to the route of a node. -/
inductive RouteChange (t : DeploymentRouteTable) (op : DeploymentOp) (nodeId : NodeId)
    (a b : DeploymentNodeRoute) : Prop where
  | kept (hstate : b.state = a.state) (hcapacity : b.stationCapacity = a.stationCapacity)
      (hepoch : b.routeEpoch = a.routeEpoch)
  | bumped (hepoch : b.routeEpoch = a.routeEpoch.saturatingAdd 1)
  | revived (hrevives : t.Revives op nodeId) (hepoch : b.routeEpoch = a.routeEpoch)

/-- The table with other station routes and statistics. -/
def withRoutes (t : DeploymentRouteTable) (stations : BTreeMap StationId DeploymentStationRoute)
    (stats : DeploymentStats) : DeploymentRouteTable :=
  { t with stations := stations, stats := stats }

/-- What an operation can do to a table. -/
inductive Performs (t : DeploymentRouteTable) (op : DeploymentOp) :
    Except DeploymentError DeploymentReply → DeploymentRouteTable → Prop where
  | refused (error : DeploymentError) : Performs t op (.error error) t
  | rejected (error : DeploymentError) : Performs t op (.error error) t.rejectPlacement
  | answered (reply : DeploymentReply) : Performs t op (.ok reply) t
  | registered {nodeId : NodeId} {stationCapacity : ℕ} {now : Tick} {stats : DeploymentStats}
      (hnone : t.nodes.lookup nodeId = none) (hroom : t.nodes.size < t.config.maxNodes)
      (hassigned : stats.stationsAssigned = t.stats.stationsAssigned)
      (hunassigned : stats.stationsUnassigned = t.stats.stationsUnassigned)
      (reply : DeploymentReply) :
      Performs t op (.ok reply)
        ((t.putNode nodeId (.new nodeId stationCapacity now)).withRoutes t.stations stats)
  | node {nodeId : NodeId} {node : DeploymentNodeRecord} {route : DeploymentNodeRoute}
      {stats : DeploymentStats} (hnode : t.nodes.lookup nodeId = some node)
      (hid : route.nodeId = node.route.nodeId)
      (hcount : route.assignedStations = node.route.assignedStations
        ∨ route.assignedStations = node.stations.card)
      (hchange : RouteChange t op nodeId node.route route)
      (hassigned : stats.stationsAssigned = t.stats.stationsAssigned)
      (hunassigned : stats.stationsUnassigned = t.stats.stationsUnassigned)
      (reply : DeploymentReply) :
      Performs t op (.ok reply)
        ((t.putNode nodeId { node with route := route }).withRoutes t.stations stats)
  | placed {stationId : StationId} {nodeId : NodeId} {now : Tick} {node : DeploymentNodeRecord}
      (hop : op = .assignStation stationId nodeId now)
      (hnew : t.stations.lookup stationId = none) (hnode : t.nodes.lookup nodeId = some node)
      (honline : node.route.state = .online)
      (hroom : usizeSaturatingAdd node.stations.card 1 ≤ node.route.stationCapacity)
      (reply : DeploymentReply) :
      Performs t op (.ok reply)
        ((t.joinNode nodeId node stationId).withRoutes
          (t.stations.insert stationId ⟨stationId, nodeId, 1, now⟩)
          { t.stats with
            stationsAssigned := usizeSaturatingAdd t.stats.stationsAssigned 1 })
  | moved {stationId : StationId} {nodeId : NodeId} {now : Tick} {node : DeploymentNodeRecord}
      {previous : DeploymentStationRoute} {stats : DeploymentStats}
      (hprevious : t.stations.lookup stationId = some previous) (hne : previous.nodeId ≠ nodeId)
      (hnode : t.nodes.lookup nodeId = some node) (honline : node.route.state = .online)
      (hroom : usizeSaturatingAdd node.stations.card 1 ≤ node.route.stationCapacity)
      (hassigned : stats.stationsAssigned = t.stats.stationsAssigned)
      (hunassigned : stats.stationsUnassigned = t.stats.stationsUnassigned)
      (reply : DeploymentReply) :
      Performs t op (.ok reply)
        (((t.leaveNode previous.nodeId stationId).joinNode nodeId node stationId).withRoutes
          (t.stations.insert stationId
            ⟨stationId, nodeId, previous.routeEpoch.saturatingAdd 1, now⟩) stats)
  | unassigned {stationId : StationId} {route : DeploymentStationRoute}
      (hop : op = .unassignStation stationId) (hroute : t.stations.lookup stationId = some route)
      (reply : DeploymentReply) :
      Performs t op (.ok reply)
        ((t.leaveNode route.nodeId stationId).withRoutes (t.stations.erase stationId)
          { t.stats with
            stationsUnassigned := usizeSaturatingAdd t.stats.stationsUnassigned 1 })
  | stale (now : Tick) (reply : DeploymentReply) :
      Performs t op (.ok reply) (t.markStaleOffline now).2

lemma performs_registerNode (t : DeploymentRouteTable) (nodeId : NodeId) (stationCapacity : ℕ)
    (now : Tick) : Performs t (.registerNode nodeId stationCapacity now)
      (t.perform (.registerNode nodeId stationCapacity now)).1
      (t.perform (.registerNode nodeId stationCapacity now)).2 := by
  simp only [perform, registerNode]
  cases hnode : t.nodes.lookup nodeId with
  | none =>
      dsimp only
      split_ifs with hfull
      · exact .refused _
      · refine .registered hnode (Nat.lt_of_not_ge hfull) ?_ ?_ _
        · rfl
        · rfl
  | some node =>
      dsimp only
      split_ifs with hcapacity
      · refine .node hnode ?_ ?_ ?_ ?_ ?_ _
        · rfl
        · exact .inr rfl
        · exact .bumped rfl
        · rfl
        · rfl
      · refine .node hnode ?_ ?_ ?_ ?_ ?_ _
        · rfl
        · exact .inr rfl
        · rw [not_not] at hcapacity
          by_cases honline : node.route.state = .online
          · exact .kept honline.symm rfl rfl
          · exact .revived ⟨stationCapacity, now, node, rfl, hnode, honline, hcapacity⟩ rfl
        · rfl
        · rfl

lemma performs_heartbeat (t : DeploymentRouteTable) (nodeId : NodeId) (now : Tick) :
    Performs t (.heartbeat nodeId now) (t.perform (.heartbeat nodeId now)).1
      (t.perform (.heartbeat nodeId now)).2 := by
  simp only [perform, heartbeat]
  cases hnode : t.nodes.lookup nodeId with
  | none => exact .refused _
  | some node =>
      refine .node hnode ?_ ?_ ?_ ?_ ?_ _
      · rfl
      · exact .inl rfl
      · exact .kept rfl rfl rfl
      · rfl
      · rfl

lemma performs_markState (t : DeploymentRouteTable) (op : DeploymentOp)
    (state : DeploymentNodeState) {count : DeploymentStats → DeploymentStats}
    (hassigned : ∀ stats, (count stats).stationsAssigned = stats.stationsAssigned)
    (hunassigned : ∀ stats, (count stats).stationsUnassigned = stats.stationsUnassigned)
    (nodeId : NodeId) :
    Performs t op ((t.markState state count nodeId).1.map .node)
      (t.markState state count nodeId).2 := by
  rw [markState]
  cases hnode : t.nodes.lookup nodeId with
  | none => exact .refused _
  | some node =>
      dsimp only
      split_ifs with hstate
      · refine .node hnode ?_ ?_ ?_ ?_ ?_ _
        · rfl
        · exact .inl rfl
        · exact .bumped rfl
        · exact hassigned _
        · exact hunassigned _
      · exact .answered _

/-- A node that can accept is registered and online. -/
lemma ensureNodeCanAccept_eq_ok {nodeId : NodeId} (t : DeploymentRouteTable) :
    t.ensureNodeCanAccept nodeId = .ok ()
      ↔ ∃ node, t.nodes.lookup nodeId = some node ∧ node.route.state = .online := by
  rw [ensureNodeCanAccept]
  cases t.nodes.lookup nodeId with
  | none => simp
  | some node => cases hstate : node.route.state <;> simp [hstate]

lemma lookup_leaveNode_of_ne (t : DeploymentRouteTable) {nodeId other : NodeId}
    (stationId : StationId) (hne : nodeId ≠ other) :
    (t.leaveNode nodeId stationId).nodes.lookup other = t.nodes.lookup other := by
  rw [leaveNode, Finmap.lookup_modify, if_neg hne.symm]

lemma performs_moveStation (t : DeploymentRouteTable) (op : DeploymentOp) {Reply : Type}
    (reply : DeploymentStationMove → Reply) (answer : Reply → DeploymentReply)
    (stationId : StationId) (targetNode : NodeId) (now : Tick) :
    Performs t op (((t.moveStation stationId targetNode now).1.map reply).map answer)
      (t.moveStation stationId targetNode now).2 := by
  rw [moveStation]
  cases haccept : t.ensureNodeCanAccept targetNode with
  | error error => exact .refused _
  | ok _ =>
      obtain ⟨node, hnode, honline⟩ := t.ensureNodeCanAccept_eq_ok.mp haccept
      cases hprevious : t.stations.lookup stationId with
      | none => exact .refused _
      | some previous =>
          dsimp only
          split_ifs with hsame
          · exact .answered _
          · simp only [hnode]
            split_ifs with hfull
            · exact .rejected _
            · rw [lookup_leaveNode_of_ne t stationId hsame, hnode]
              refine .moved hprevious hsame hnode honline (Nat.le_of_not_gt hfull) ?_ ?_ _
              · rfl
              · rfl

lemma performs_assignStation (t : DeploymentRouteTable) (stationId : StationId) (nodeId : NodeId)
    (now : Tick) : Performs t (.assignStation stationId nodeId now)
      (t.perform (.assignStation stationId nodeId now)).1
      (t.perform (.assignStation stationId nodeId now)).2 := by
  simp only [perform, assignStation]
  cases haccept : t.ensureNodeCanAccept nodeId with
  | error error => exact .refused _
  | ok _ =>
      obtain ⟨node, hnode, honline⟩ := t.ensureNodeCanAccept_eq_ok.mp haccept
      cases hexisting : t.stations.lookup stationId with
      | some existing =>
          dsimp only
          split_ifs with hsame
          · exact .answered _
          · exact performs_moveStation t _ (·.current) .station stationId nodeId now
      | none =>
          simp only [hnode]
          split_ifs with hfull
          · exact .rejected _
          · exact .placed rfl hexisting hnode honline (Nat.le_of_not_gt hfull) _

/-- **What an operation does.** -/
theorem performs (t : DeploymentRouteTable) (op : DeploymentOp) :
    Performs t op (t.perform op).1 (t.perform op).2 := by
  cases op with
  | registerNode nodeId stationCapacity now => exact performs_registerNode t _ _ _
  | heartbeat nodeId now => exact performs_heartbeat t _ _
  | markDraining nodeId =>
      refine performs_markState t _ _ ?_ ?_ nodeId
      · exact fun _ => rfl
      · exact fun _ => rfl
  | markOffline nodeId =>
      refine performs_markState t _ _ ?_ ?_ nodeId
      · exact fun _ => rfl
      · exact fun _ => rfl
  | assignStation stationId nodeId now => exact performs_assignStation t _ _ _
  | moveStation stationId targetNode now =>
      have hmoved := performs_moveStation t (.moveStation stationId targetNode now) id .moved
        stationId targetNode now
      rwa [Except.map_id, id_eq] at hmoved
  | unassignStation stationId =>
      simp only [perform, unassignStation]
      cases hroute : t.stations.lookup stationId with
      | none => exact .refused _
      | some route => exact .unassigned rfl hroute _
  | markStaleOffline now => exact .stale now _

/-! ## Nodes and routes agree -/

/-- The set of a node has a station. -/
def OnNode (t : DeploymentRouteTable) (stationId : StationId) (nodeId : NodeId) : Prop :=
  ∃ node, t.nodes.lookup nodeId = some node ∧ stationId ∈ node.stations

/-- The route of a station names a node. -/
def RoutedTo (t : DeploymentRouteTable) (stationId : StationId) (nodeId : NodeId) : Prop :=
  ∃ route, t.stations.lookup stationId = some route ∧ route.nodeId = nodeId

/-- What holds in every table of a run. -/
structure Consistent (config : DeploymentConfig) (t : DeploymentRouteTable) : Prop where
  hconfig : t.config = config
  agree : ∀ stationId nodeId, t.OnNode stationId nodeId ↔ t.RoutedTo stationId nodeId
  counted : ∀ nodeId node, t.nodes.lookup nodeId = some node →
    node.route.assignedStations = node.stations.card
  bounded : t.nodes.size ≤ config.maxNodes
  /-- The counters are the numbers of placements made and undone, up to saturation. -/
  accounted : ∃ assigned unassigned, t.stats.stationsAssigned = min assigned usizeMax
    ∧ t.stats.stationsUnassigned = min unassigned usizeMax
    ∧ assigned = unassigned + t.stations.size

variable {t : DeploymentRouteTable} {config : DeploymentConfig}

lemma consistent_new (config : DeploymentConfig) : Consistent config (new config) where
  hconfig := rfl
  agree stationId nodeId := by simp [OnNode, RoutedTo, new]
  counted nodeId node hnode := by simp [new] at hnode
  bounded := by simp [new]
  accounted := ⟨0, 0, rfl, rfl, by simp [new]⟩

lemma onNode_iff {stationId : StationId} {nodeId : NodeId} :
    t.OnNode stationId nodeId ↔ stationId ∈ (t.nodes.lookup nodeId).elim ∅ (·.stations) := by
  rw [OnNode]
  cases t.nodes.lookup nodeId with
  | none => simp
  | some node => simp

/-- A record with the same stations is no change. -/
lemma onNode_putNode {nodeId : NodeId} {node : DeploymentNodeRecord}
    (hsame : node.stations = (t.nodes.lookup nodeId).elim ∅ (·.stations))
    (stationId : StationId) (other : NodeId) :
    (t.putNode nodeId node).OnNode stationId other ↔ t.OnNode stationId other := by
  rw [onNode_iff, onNode_iff, putNode, Finmap.lookup_insert_eq]
  split_ifs with hother
  · rw [hother, ← hsame, Option.elim_some]
  · exact Iff.rfl

/-- A station that leaves a node leaves no other. -/
lemma onNode_leaveNode (nodeId : NodeId) (stationId other : StationId) (otherNode : NodeId) :
    (t.leaveNode nodeId stationId).OnNode other otherNode
      ↔ t.OnNode other otherNode ∧ ¬ (other = stationId ∧ otherNode = nodeId) := by
  rw [OnNode, OnNode, leaveNode]
  simp only [Finmap.lookup_modify]
  split_ifs with hnode
  · subst hnode
    cases t.nodes.lookup otherNode with
    | none => simp
    | some node => simp [DeploymentNodeRecord.refreshAssignedCount, and_comm]
  · simp [hnode]

/-- A station that joins a node joins no other. -/
lemma onNode_joinNode {nodeId : NodeId} {node : DeploymentNodeRecord}
    (hnode : t.nodes.lookup nodeId = some node) (stationId other : StationId)
    (otherNode : NodeId) :
    (t.joinNode nodeId node stationId).OnNode other otherNode
      ↔ t.OnNode other otherNode ∨ other = stationId ∧ otherNode = nodeId := by
  rw [OnNode, OnNode, joinNode, putNode]
  simp only [Finmap.lookup_insert_eq]
  split_ifs with hsame
  · subst hsame
    simp [hnode, DeploymentNodeRecord.refreshAssignedCount, or_comm]
  · simp [hsame]

lemma onNode_markStaleOffline (now : Tick) (stationId : StationId) (nodeId : NodeId) :
    (t.markStaleOffline now).2.OnNode stationId nodeId ↔ t.OnNode stationId nodeId := by
  rw [OnNode, OnNode, markStaleOffline]
  simp only [Finmap.lookup_mapValues]
  cases t.nodes.lookup nodeId with
  | none => simp
  | some node =>
      simp only [Option.map_some, Option.some.injEq, exists_eq_left', markStale]
      split_ifs
      · exact Iff.rfl
      · exact Iff.rfl

/-! ## One step keeps them so -/

/-- The count of a record that an operation writes. -/
lemma counted_putNode {nodeId : NodeId} {node : DeploymentNodeRecord}
    (hcounted : ∀ nodeId node, t.nodes.lookup nodeId = some node →
      node.route.assignedStations = node.stations.card)
    (hnode : node.route.assignedStations = node.stations.card) (other : NodeId)
    (record : DeploymentNodeRecord)
    (hrecord : (t.putNode nodeId node).nodes.lookup other = some record) :
    record.route.assignedStations = record.stations.card := by
  rcases Finmap.lookup_insert_cases hrecord with ⟨-, rfl⟩ | ⟨-, hold⟩
  · exact hnode
  · exact hcounted other record hold

lemma counted_leaveNode {nodeId : NodeId} {stationId : StationId}
    (hcounted : ∀ nodeId node, t.nodes.lookup nodeId = some node →
      node.route.assignedStations = node.stations.card) (other : NodeId)
    (record : DeploymentNodeRecord)
    (hrecord : (t.leaveNode nodeId stationId).nodes.lookup other = some record) :
    record.route.assignedStations = record.stations.card := by
  rw [leaveNode, Finmap.lookup_modify] at hrecord
  split_ifs at hrecord
  · obtain ⟨node, -, rfl⟩ := Option.map_eq_some_iff.mp hrecord
    rfl
  · exact hcounted other record hrecord

lemma size_putNode_of_mem {nodeId : NodeId} {old : DeploymentNodeRecord}
    (hold : t.nodes.lookup nodeId = some old) (node : DeploymentNodeRecord) :
    (t.putNode nodeId node).nodes.size = t.nodes.size := by
  rw [putNode, Finmap.size, Finmap.keys_insert,
    Finset.insert_eq_of_mem (Finmap.mem_keys_iff_lookup.mpr ⟨old, hold⟩), Finmap.size]

lemma size_leaveNode (nodeId : NodeId) (stationId : StationId) :
    (t.leaveNode nodeId stationId).nodes.size = t.nodes.size := by
  rw [leaveNode, Finmap.size, Finmap.keys_modify, Finmap.size]

lemma size_insert_of_lookup {stationId : StationId} {old : DeploymentStationRoute}
    (hold : t.stations.lookup stationId = some old) (route : DeploymentStationRoute) :
    (t.stations.insert stationId route).size = t.stations.size := by
  rw [Finmap.size, Finmap.keys_insert,
    Finset.insert_eq_of_mem (Finmap.mem_keys_iff_lookup.mpr ⟨old, hold⟩), Finmap.size]

/-- A route written for a station. -/
lemma routedTo_insert (x : DeploymentRouteTable) {stationId : StationId}
    {route : DeploymentStationRoute} {stats : DeploymentStats} (other : StationId)
    (nodeId : NodeId) :
    (x.withRoutes (t.stations.insert stationId route) stats).RoutedTo other nodeId
      ↔ if other = stationId then route.nodeId = nodeId else t.RoutedTo other nodeId := by
  rw [RoutedTo, RoutedTo, withRoutes]
  simp only [Finmap.lookup_insert_eq]
  split_ifs
  · simp
  · exact Iff.rfl

lemma routedTo_erase (x : DeploymentRouteTable) {stationId : StationId} {stats : DeploymentStats}
    (other : StationId) (nodeId : NodeId) :
    (x.withRoutes (t.stations.erase stationId) stats).RoutedTo other nodeId
      ↔ t.RoutedTo other nodeId ∧ other ≠ stationId := by
  rw [RoutedTo, RoutedTo, withRoutes]
  simp only [Finmap.lookup_erase_eq]
  split_ifs with hother
  · simp [hother]
  · simp [hother]

lemma RoutedTo.unique {stationId : StationId} {a b : NodeId} (ha : t.RoutedTo stationId a)
    (hb : t.RoutedTo stationId b) : a = b := by
  obtain ⟨route, hroute, rfl⟩ := ha
  obtain ⟨route', hroute', rfl⟩ := hb
  rw [hroute, Option.some.injEq] at hroute'
  rw [hroute']

section Step

variable {op : DeploymentOp} {outcome : Except DeploymentError DeploymentReply}
  {t' : DeploymentRouteTable}

lemma Performs.agree (hperforms : Performs t op outcome t')
    (hagree : ∀ stationId nodeId, t.OnNode stationId nodeId ↔ t.RoutedTo stationId nodeId)
    (other : StationId) (otherNode : NodeId) :
    t'.OnNode other otherNode ↔ t'.RoutedTo other otherNode := by
  cases hperforms with
  | refused error => exact hagree other otherNode
  | rejected error => exact hagree other otherNode
  | answered reply => exact hagree other otherNode
  | registered hnone =>
      exact (onNode_putNode (by rw [hnone]; rfl) other otherNode).trans (hagree other otherNode)
  | node hnode =>
      exact (onNode_putNode (by rw [hnode]; rfl) other otherNode).trans (hagree other otherNode)
  | @placed stationId nodeId now node hop hnew hnode honline hroom reply =>
      have hfree : ∀ other, ¬ t.RoutedTo stationId other := by
        rintro other ⟨route, hroute, -⟩
        simp [hnew] at hroute
      refine (onNode_joinNode hnode stationId other otherNode).trans ?_
      rw [routedTo_insert, hagree]
      split_ifs with hother
      · simp [hother, hfree, eq_comm]
      · simp [hother]
  | @moved stationId nodeId now node previous stats hprevious hne hnode =>
      have hnode' : (t.leaveNode previous.nodeId stationId).nodes.lookup nodeId = some node :=
        (lookup_leaveNode_of_ne t stationId hne).trans hnode
      have hcurrent : ∀ other, t.RoutedTo stationId other ↔ other = previous.nodeId := by
        intro other
        constructor
        · exact fun hrouted => hrouted.unique ⟨previous, hprevious, rfl⟩
        · rintro rfl
          exact ⟨previous, hprevious, rfl⟩
      refine (onNode_joinNode hnode' stationId other otherNode).trans ?_
      rw [onNode_leaveNode, routedTo_insert, hagree]
      split_ifs with hother
      · simp [hother, hcurrent, eq_comm]
      · simp [hother]
  | @unassigned stationId route hop hroute reply =>
      have hcurrent : t.RoutedTo stationId route.nodeId := ⟨route, hroute, rfl⟩
      refine (onNode_leaveNode route.nodeId stationId other otherNode).trans ?_
      rw [routedTo_erase, hagree]
      refine and_congr_right fun hrouted => ⟨fun hnot hother => ?_, fun hother hand => ?_⟩
      · exact hnot ⟨hother, (hother ▸ hrouted).unique hcurrent⟩
      · exact hother hand.1
  | stale now reply =>
      exact (onNode_markStaleOffline now other otherNode).trans (hagree other otherNode)

lemma Performs.counted (hperforms : Performs t op outcome t')
    (hcounted : ∀ nodeId node, t.nodes.lookup nodeId = some node →
      node.route.assignedStations = node.stations.card) (other : NodeId)
    (record : DeploymentNodeRecord) (hrecord : t'.nodes.lookup other = some record) :
    record.route.assignedStations = record.stations.card := by
  cases hperforms with
  | refused error => exact hcounted other record hrecord
  | rejected error => exact hcounted other record hrecord
  | answered reply => exact hcounted other record hrecord
  | registered => exact counted_putNode hcounted rfl other record hrecord
  | @node nodeId node route stats hnode hid hcount =>
      refine counted_putNode hcounted ?_ other record hrecord
      rcases hcount with hcount | hcount
      · exact hcount.trans (hcounted nodeId node hnode)
      · exact hcount
  | placed => exact counted_putNode hcounted rfl other record hrecord
  | moved =>
      exact counted_putNode (fun _ _ => counted_leaveNode hcounted _ _) rfl other record hrecord
  | unassigned => exact counted_leaveNode hcounted other record hrecord
  | stale now reply =>
      rw [markStaleOffline, Finmap.lookup_mapValues] at hrecord
      obtain ⟨node, hnode, rfl⟩ := Option.map_eq_some_iff.mp hrecord
      have hcount := hcounted other node hnode
      rw [markStale]
      split_ifs
      · exact hcount
      · exact hcount

lemma Performs.bounded (hperforms : Performs t op outcome t')
    (hbounded : t.nodes.size ≤ t.config.maxNodes) : t'.nodes.size ≤ t.config.maxNodes := by
  cases hperforms with
  | refused error => exact hbounded
  | rejected error => exact hbounded
  | answered reply => exact hbounded
  | registered hnone hroom =>
      show Finmap.size (t.nodes.insert _ _) ≤ _
      rw [Finmap.size_insert_of_notMem _ (Finmap.lookup_eq_none.mp hnone)]
      exact hroom
  | node hnode => exact (size_putNode_of_mem hnode _).trans_le hbounded
  | placed hop hnew hnode => exact (size_putNode_of_mem hnode _).trans_le hbounded
  | @moved stationId nodeId now node previous stats hprevious hne hnode =>
      have hnode' : (t.leaveNode previous.nodeId stationId).nodes.lookup nodeId = some node :=
        (lookup_leaveNode_of_ne t stationId hne).trans hnode
      refine (size_putNode_of_mem hnode' _).trans_le ?_
      rw [size_leaveNode]
      exact hbounded
  | unassigned => exact (size_leaveNode _ _).trans_le hbounded
  | stale now reply => exact (Finmap.size_mapValues _ _).trans_le hbounded

/-- The counters are the numbers of placements made and undone, up to saturation. -/
lemma Performs.accounted (hperforms : Performs t op outcome t') {assigned unassigned : ℕ}
    (hassigned₀ : t.stats.stationsAssigned = min assigned usizeMax)
    (hunassigned₀ : t.stats.stationsUnassigned = min unassigned usizeMax)
    (hsize : assigned = unassigned + t.stations.size) :
    ∃ assigned unassigned, t'.stats.stationsAssigned = min assigned usizeMax
      ∧ t'.stats.stationsUnassigned = min unassigned usizeMax
      ∧ assigned = unassigned + t'.stations.size := by
  cases hperforms with
  | refused error => exact ⟨assigned, unassigned, hassigned₀, hunassigned₀, hsize⟩
  | rejected error => exact ⟨assigned, unassigned, hassigned₀, hunassigned₀, hsize⟩
  | answered reply => exact ⟨assigned, unassigned, hassigned₀, hunassigned₀, hsize⟩
  | registered hnone hroom hassigned hunassigned =>
      exact ⟨assigned, unassigned, hassigned.trans hassigned₀, hunassigned.trans hunassigned₀,
        hsize⟩
  | node hnode hid hcount hchange hassigned hunassigned =>
      exact ⟨assigned, unassigned, hassigned.trans hassigned₀, hunassigned.trans hunassigned₀,
        hsize⟩
  | placed hop hnew =>
      refine ⟨assigned + 1, unassigned, ?_, hunassigned₀, ?_⟩
      · show usizeSaturatingAdd t.stats.stationsAssigned 1 = _
        rw [hassigned₀, usizeSaturatingAdd_min]
      · show _ = _ + Finmap.size (t.stations.insert _ _)
        rw [Finmap.size_insert_of_notMem _ (Finmap.lookup_eq_none.mp hnew), hsize]
        omega
  | moved hprevious hne hnode honline hroom hassigned hunassigned =>
      refine ⟨assigned, unassigned, hassigned.trans hassigned₀, hunassigned.trans hunassigned₀, ?_⟩
      show _ = _ + Finmap.size (t.stations.insert _ _)
      rw [size_insert_of_lookup hprevious, hsize]
  | @unassigned stationId route hop hroute reply =>
      refine ⟨assigned, unassigned + 1, hassigned₀, ?_, ?_⟩
      · show usizeSaturatingAdd t.stats.stationsUnassigned 1 = _
        rw [hunassigned₀, usizeSaturatingAdd_min]
      · have herase : (t.stations.erase stationId).size + 1 = t.stations.size :=
          Finmap.size_erase_of_mem (Finmap.mem_iff.mpr ⟨route, hroute⟩)
        show _ = _ + Finmap.size (t.stations.erase _)
        omega
  | stale now reply => exact ⟨assigned, unassigned, hassigned₀, hunassigned₀, hsize⟩

lemma Performs.config_eq (hperforms : Performs t op outcome t') : t'.config = t.config := by
  cases hperforms with
  | _ => rfl

/-- **The step lemma.** -/
lemma Consistent.performs (h : Consistent config t) (hperforms : Performs t op outcome t') :
    Consistent config t' where
  hconfig := hperforms.config_eq.trans h.hconfig
  agree := hperforms.agree h.agree
  counted := hperforms.counted h.counted
  bounded := h.hconfig ▸ hperforms.bounded (h.hconfig ▸ h.bounded)
  accounted := by
    obtain ⟨assigned, unassigned, hassigned, hunassigned, hsize⟩ := h.accounted
    exact hperforms.accounted hassigned hunassigned hsize

end Step

/-! ## Whole runs -/

/-- The table after a run. -/
def run (config : DeploymentConfig) (ops : List DeploymentOp) : DeploymentRouteTable :=
  execute step (new config) ops

/-- Nothing but the counter of rejected placements differs. -/
def Unchanged (t t' : DeploymentRouteTable) : Prop :=
  t'.config = t.config ∧ t'.nodes = t.nodes ∧ t'.stations = t.stations
    ∧ { t'.stats with placementsRejectedCapacity := t.stats.placementsRejectedCapacity } = t.stats

lemma unchanged_of_error {op : DeploymentOp} {error : DeploymentError}
    (herror : (t.perform op).1 = .error error) : t.Unchanged (t.perform op).2 := by
  have hperforms := performs t op
  rw [herror] at hperforms
  generalize (t.perform op).2 = t' at *
  cases hperforms with
  | refused => exact ⟨rfl, rfl, rfl, rfl⟩
  | rejected => exact ⟨rfl, rfl, rfl, rfl⟩

/-- There are fewer stations than a counter can count. -/
lemma card_lt_usizeMax (stations : Finset StationId) : stations.card < usizeMax := by
  have hinjective : Set.InjOn (fun id : StationId => id.get.toNat) stations := by
    rintro ⟨a⟩ - ⟨b⟩ - hab
    exact congrArg TypedId.mk (UInt32.toNat_inj.mp hab)
  have hle := Finset.card_le_card_of_injOn (t := Finset.range (2 ^ 32))
    (fun id : StationId => id.get.toNat)
    (fun id _ => Finset.mem_coe.mpr (Finset.mem_range.mpr id.get.toNat_lt)) hinjective
  rw [Finset.card_range] at hle
  exact lt_of_le_of_lt hle (by decide)

/-- The node is online and holds no more stations than its capacity. -/
def Accepting (t : DeploymentRouteTable) (nodeId : NodeId) : Prop :=
  ∃ node, t.nodes.lookup nodeId = some node ∧ node.route.state = .online
    ∧ node.stations.card ≤ node.route.stationCapacity

lemma accepting_joinNode {nodeId : NodeId} {node : DeploymentNodeRecord}
    (honline : node.route.state = .online)
    (hroom : usizeSaturatingAdd node.stations.card 1 ≤ node.route.stationCapacity)
    (stationId : StationId) : (t.joinNode nodeId node stationId).Accepting nodeId := by
  refine ⟨_, Finmap.lookup_insert _, honline, (Finset.card_insert_le _ _).trans ?_⟩
  have hcard := card_lt_usizeMax node.stations
  rwa [usizeSaturatingAdd, Nat.min_eq_left hcard] at hroom

/-- A station newly placed on a node. -/
lemma accepting_of_placed {op : DeploymentOp} {stationId : StationId} {nodeId : NodeId}
    (hbefore : ¬ t.RoutedTo stationId nodeId) (hafter : (t.step op).RoutedTo stationId nodeId) :
    (∃ node, t.nodes.lookup nodeId = some node ∧ node.route.state = .online)
      ∧ (t.step op).Accepting nodeId := by
  have hperforms := performs t op
  rw [step] at hafter ⊢
  generalize (t.perform op).1 = outcome at hperforms
  generalize (t.perform op).2 = t' at *
  cases hperforms with
  | @placed other otherNode now node hop hnew hnode honline hroom reply =>
      rw [routedTo_insert] at hafter
      split_ifs at hafter
      · obtain rfl : otherNode = nodeId := hafter
        exact ⟨⟨node, hnode, honline⟩, accepting_joinNode honline hroom other⟩
      · exact absurd hafter hbefore
  | @moved other otherNode now node previous stats hprevious hne hnode honline hroom hassigned
      hunassigned reply =>
      rw [routedTo_insert] at hafter
      split_ifs at hafter
      · obtain rfl : otherNode = nodeId := hafter
        exact ⟨⟨node, hnode, honline⟩, accepting_joinNode honline hroom other⟩
      · exact absurd hafter hbefore
  | unassigned hop hroute reply =>
      rw [routedTo_erase] at hafter
      exact absurd hafter.1 hbefore
  | refused => exact absurd hafter hbefore
  | rejected => exact absurd hafter hbefore
  | answered => exact absurd hafter hbefore
  | registered => exact absurd hafter hbefore
  | node => exact absurd hafter hbefore
  | stale => exact absurd hafter hbefore

/-- **The deployment table is consistent.**  In every run the sets of the nodes and the routes of
the stations agree and no station is on two nodes, the counts are those of the sets, and the node
table is bounded.  A station is newly placed only on an online node and within its capacity, an
operation that fails changes nothing but a counter, and the counters differ by the number of
routes. -/
theorem deployment_consistent (config : DeploymentConfig) (ops : List DeploymentOp) :
    (∀ stationId nodeId,
      (run config ops).OnNode stationId nodeId ↔ (run config ops).RoutedTo stationId nodeId)
      ∧ (∀ stationId nodeId nodeId', (run config ops).OnNode stationId nodeId →
        (run config ops).OnNode stationId nodeId' → nodeId = nodeId')
      ∧ (∀ nodeId node, (run config ops).nodes.lookup nodeId = some node →
        node.route.assignedStations = node.stations.card)
      ∧ (run config ops).nodeLen ≤ config.maxNodes
      ∧ (∀ op stationId nodeId, ¬ (run config ops).RoutedTo stationId nodeId →
        ((run config ops).step op).RoutedTo stationId nodeId →
        (∃ node, (run config ops).nodes.lookup nodeId = some node ∧ node.route.state = .online)
          ∧ ((run config ops).step op).Accepting nodeId)
      ∧ (∀ op error, ((run config ops).perform op).1 = .error error →
        (run config ops).Unchanged ((run config ops).perform op).2)
      ∧ ((run config ops).stats.stationsAssigned < usizeMax →
        (run config ops).stats.stationsAssigned
          = (run config ops).stats.stationsUnassigned + (run config ops).stationLen) := by
  have h : Consistent config (run config ops) :=
    execute_preserves (fun t op h => h.performs (performs t op)) (consistent_new config) ops
  generalize run config ops = t at *
  refine ⟨h.agree, fun stationId nodeId nodeId' ha hb => ?_, h.counted, h.bounded,
    fun op stationId nodeId => accepting_of_placed, fun op error => unchanged_of_error,
    fun hunsaturated => ?_⟩
  · exact ((h.agree stationId nodeId).mp ha).unique ((h.agree stationId nodeId').mp hb)
  · obtain ⟨assigned, unassigned, hassigned, hunassigned, hsize⟩ := h.accounted
    rw [stationLen]
    generalize usizeMax = limit at *
    omega

end DeploymentRouteTable

end SectorSync
