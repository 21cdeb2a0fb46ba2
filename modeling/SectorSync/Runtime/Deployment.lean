import SectorSync.Core.Command
import SectorSync.Core.Gateway

/-!
# The deployment route table

`deployment.rs` of the runtime crate: nodes with a state and a station capacity, stations with the
node that hosts them, and for each node the set of its stations.  The set, the cached count and the
two maps are edited together.
-/

namespace SectorSync

/-- Deployment route table configuration. -/
structure DeploymentConfig where
  maxNodes : ℕ
  /-- Maximum stations accepted by one node unless the node advertises a lower capacity. -/
  maxStationsPerNode : ℕ
  /-- Ticks without heartbeat before a node is considered stale. -/
  staleAfterTicks : UInt64
  deriving DecidableEq

/-- Node availability state for placement decisions. -/
inductive DeploymentNodeState where
  /-- Node may receive new station placements. -/
  | online
  /-- Node keeps existing station placements but should not receive new ones. -/
  | draining
  /-- Node is unavailable for station routes. -/
  | offline
  deriving DecidableEq

/-- Route metadata for one node. -/
structure DeploymentNodeRoute where
  nodeId : NodeId
  state : DeploymentNodeState
  lastHeartbeat : Tick
  /-- Station capacity advertised for this node. -/
  stationCapacity : ℕ
  /-- Current assigned station count. -/
  assignedStations : ℕ
  /-- Route epoch incremented when node state/capacity changes. -/
  routeEpoch : UInt64
  deriving DecidableEq

/-- Route metadata for one station. -/
structure DeploymentStationRoute where
  stationId : StationId
  /-- Node currently hosting the station. -/
  nodeId : NodeId
  /-- Route epoch incremented on station placement changes. -/
  routeEpoch : UInt64
  /-- Tick at which this placement was last assigned. -/
  assignedAt : Tick
  deriving DecidableEq

/-- Result of moving a station route. -/
structure DeploymentStationMove where
  previous : DeploymentStationRoute
  current : DeploymentStationRoute
  deriving DecidableEq

/-- Resolved gateway command delivery route. -/
structure GatewayDeliveryRoute where
  clientId : ClientId
  stationId : StationId
  nodeId : NodeId
  /-- Gateway session generation observed during route resolution. -/
  gatewayGeneration : UInt64
  gatewayRouteEpoch : UInt64
  /-- Deployment station route epoch observed during route resolution. -/
  stationRouteEpoch : UInt64
  nodeRouteEpoch : UInt64
  nodeState : DeploymentNodeState
  assignedAt : Tick
  deriving DecidableEq

/-- Deployment route table statistics. -/
structure DeploymentStats where
  nodesRegistered : ℕ
  nodesDraining : ℕ
  nodesOffline : ℕ
  /-- Station assignments created. -/
  stationsAssigned : ℕ
  /-- Station routes moved. -/
  stationsMoved : ℕ
  /-- Station routes removed. -/
  stationsUnassigned : ℕ
  /-- Placement attempts rejected by capacity. -/
  placementsRejectedCapacity : ℕ
  staleNodesDetected : ℕ
  deriving DecidableEq

/-- All counters zero. -/
def DeploymentStats.default : DeploymentStats := ⟨0, 0, 0, 0, 0, 0, 0, 0⟩

/-- Deployment route error. -/
inductive DeploymentError where
  /-- Node table is full. -/
  | nodeCapacityFull (capacity : ℕ)
  | missingNode (nodeId : NodeId)
  | missingStation (stationId : StationId)
  /-- Node cannot accept new placements in its current state. -/
  | nodeUnavailable (nodeId : NodeId) (state : DeploymentNodeState)
  /-- Node station capacity would be exceeded. -/
  | nodeStationCapacity (nodeId : NodeId) (capacity attempted : ℕ)
  deriving DecidableEq

/-- Error while resolving a gateway client through deployment metadata. -/
inductive GatewayDeliveryError where
  | gateway (error : GatewayError)
  | deployment (error : DeploymentError)

/-- A node with the stations on it. -/
structure DeploymentNodeRecord where
  route : DeploymentNodeRoute
  stations : Finset StationId

namespace DeploymentNodeRecord

def new (nodeId : NodeId) (stationCapacity : ℕ) (now : Tick) : DeploymentNodeRecord where
  route := ⟨nodeId, .online, now, stationCapacity, 0, 1⟩
  stations := ∅

def refreshAssignedCount (node : DeploymentNodeRecord) : DeploymentNodeRecord :=
  { node with route := { node.route with assignedStations := node.stations.card } }

end DeploymentNodeRecord

/-- Bounded station-to-node deployment route table. -/
structure DeploymentRouteTable where
  config : DeploymentConfig
  nodes : BTreeMap NodeId DeploymentNodeRecord
  stations : BTreeMap StationId DeploymentStationRoute
  stats : DeploymentStats

namespace DeploymentRouteTable

/-- Creates an empty deployment route table. -/
def new (config : DeploymentConfig) : DeploymentRouteTable := ⟨config, ∅, ∅, .default⟩

/-- Returns registered node count. -/
def nodeLen (t : DeploymentRouteTable) : ℕ := t.nodes.size

/-- Returns station route count. -/
def stationLen (t : DeploymentRouteTable) : ℕ := t.stations.size

/-- Writes the record of a node. -/
def putNode (t : DeploymentRouteTable) (nodeId : NodeId) (node : DeploymentNodeRecord) :
    DeploymentRouteTable :=
  { t with nodes := t.nodes.insert nodeId node }

/-- Registers or refreshes a node. -/
def registerNode (t : DeploymentRouteTable) (nodeId : NodeId) (stationCapacity : ℕ) (now : Tick) :
    Except DeploymentError DeploymentNodeRoute × DeploymentRouteTable :=
  let stationCapacity := min stationCapacity t.config.maxStationsPerNode
  match t.nodes.lookup nodeId with
  | some node =>
      let route := { node.route with lastHeartbeat := now, state := .online }
      let route :=
        if route.stationCapacity ≠ stationCapacity then
          { route with
            stationCapacity := stationCapacity
            routeEpoch := route.routeEpoch.saturatingAdd 1 }
        else route
      let node := { node with route := route }.refreshAssignedCount
      (.ok node.route, t.putNode nodeId node)
  | none =>
      if t.nodes.size ≥ t.config.maxNodes then
        (.error (.nodeCapacityFull t.config.maxNodes), t)
      else
        let node := DeploymentNodeRecord.new nodeId stationCapacity now
        (.ok node.route, { t.putNode nodeId node with
          stats := { t.stats with
            nodesRegistered := usizeSaturatingAdd t.stats.nodesRegistered 1 } })

/-- Updates a node heartbeat. -/
def heartbeat (t : DeploymentRouteTable) (nodeId : NodeId) (now : Tick) :
    Except DeploymentError DeploymentNodeRoute × DeploymentRouteTable :=
  match t.nodes.lookup nodeId with
  | none => (.error (.missingNode nodeId), t)
  | some node =>
      let node := { node with route := { node.route with lastHeartbeat := now } }
      (.ok node.route, t.putNode nodeId node)

/-- Brings a node into a state that it is not in, counted in the statistics. -/
def markState (t : DeploymentRouteTable) (state : DeploymentNodeState)
    (count : DeploymentStats → DeploymentStats) (nodeId : NodeId) :
    Except DeploymentError DeploymentNodeRoute × DeploymentRouteTable :=
  match t.nodes.lookup nodeId with
  | none => (.error (.missingNode nodeId), t)
  | some node =>
      if node.route.state ≠ state then
        let node := { node with route := { node.route with
          state := state
          routeEpoch := node.route.routeEpoch.saturatingAdd 1 } }
        (.ok node.route, { t.putNode nodeId node with stats := count t.stats })
      else (.ok node.route, t)

/-- Marks a node draining. Existing station routes remain valid. -/
def markDraining (t : DeploymentRouteTable) (nodeId : NodeId) :
    Except DeploymentError DeploymentNodeRoute × DeploymentRouteTable :=
  t.markState .draining
    (fun stats => { stats with nodesDraining := usizeSaturatingAdd stats.nodesDraining 1 }) nodeId

/-- Marks a node offline. Station routes are retained for explicit remediation. -/
def markOffline (t : DeploymentRouteTable) (nodeId : NodeId) :
    Except DeploymentError DeploymentNodeRoute × DeploymentRouteTable :=
  t.markState .offline
    (fun stats => { stats with nodesOffline := usizeSaturatingAdd stats.nodesOffline 1 }) nodeId

def ensureNodeCanAccept (t : DeploymentRouteTable) (nodeId : NodeId) :
    Except DeploymentError Unit :=
  match t.nodes.lookup nodeId with
  | none => .error (.missingNode nodeId)
  | some node =>
      match node.route.state with
      | .online => .ok ()
      | .draining | .offline => .error (.nodeUnavailable nodeId node.route.state)

/-- Counts a placement rejected by capacity. -/
def rejectPlacement (t : DeploymentRouteTable) : DeploymentRouteTable :=
  { t with stats := { t.stats with
    placementsRejectedCapacity := usizeSaturatingAdd t.stats.placementsRejectedCapacity 1 } }

/-- Takes a station off a node. -/
def leaveNode (t : DeploymentRouteTable) (nodeId : NodeId) (stationId : StationId) :
    DeploymentRouteTable :=
  { t with nodes := t.nodes.modify nodeId fun node =>
    { node with stations := node.stations.erase stationId }.refreshAssignedCount }

/-- Puts a station on a node with the given record. -/
def joinNode (t : DeploymentRouteTable) (nodeId : NodeId) (node : DeploymentNodeRecord)
    (stationId : StationId) : DeploymentRouteTable :=
  t.putNode nodeId { node with stations := insert stationId node.stations }.refreshAssignedCount

/-- Moves an existing station route to another online node. -/
def moveStation (t : DeploymentRouteTable) (stationId : StationId) (targetNode : NodeId)
    (now : Tick) : Except DeploymentError DeploymentStationMove × DeploymentRouteTable :=
  match t.ensureNodeCanAccept targetNode with
  | .error error => (.error error, t)
  | .ok () =>
      match t.stations.lookup stationId with
      | none => (.error (.missingStation stationId), t)
      | some previous =>
          if previous.nodeId = targetNode then (.ok ⟨previous, previous⟩, t)
          else
            match t.nodes.lookup targetNode with
            | none => (.error (.missingNode targetNode), t)
            | some target =>
                let attempted := usizeSaturatingAdd target.stations.card 1
                if attempted > target.route.stationCapacity then
                  (.error (.nodeStationCapacity targetNode target.route.stationCapacity attempted),
                    t.rejectPlacement)
                else
                  let t := t.leaveNode previous.nodeId stationId
                  match t.nodes.lookup targetNode with
                  | none => (.error (.missingNode targetNode), t)
                  | some target =>
                      let t := t.joinNode targetNode target stationId
                      let current : DeploymentStationRoute :=
                        ⟨stationId, targetNode, previous.routeEpoch.saturatingAdd 1, now⟩
                      (.ok ⟨previous, current⟩, { t with
                        stations := t.stations.insert stationId current
                        stats := { t.stats with
                          stationsMoved := usizeSaturatingAdd t.stats.stationsMoved 1 } })

/-- Assigns a station to an online node. -/
def assignStation (t : DeploymentRouteTable) (stationId : StationId) (nodeId : NodeId)
    (now : Tick) : Except DeploymentError DeploymentStationRoute × DeploymentRouteTable :=
  match t.ensureNodeCanAccept nodeId with
  | .error error => (.error error, t)
  | .ok () =>
      match t.stations.lookup stationId with
      | some existing =>
          if existing.nodeId = nodeId then (.ok existing, t)
          else
            let (result, t) := t.moveStation stationId nodeId now
            (result.map (·.current), t)
      | none =>
          match t.nodes.lookup nodeId with
          | none => (.error (.missingNode nodeId), t)
          | some node =>
              let attempted := usizeSaturatingAdd node.stations.card 1
              if attempted > node.route.stationCapacity then
                (.error (.nodeStationCapacity nodeId node.route.stationCapacity attempted),
                  t.rejectPlacement)
              else
                let t := t.joinNode nodeId node stationId
                let route : DeploymentStationRoute := ⟨stationId, nodeId, 1, now⟩
                (.ok route, { t with
                  stations := t.stations.insert stationId route
                  stats := { t.stats with
                    stationsAssigned := usizeSaturatingAdd t.stats.stationsAssigned 1 } })

/-- Removes one station route. -/
def unassignStation (t : DeploymentRouteTable) (stationId : StationId) :
    Except DeploymentError DeploymentStationRoute × DeploymentRouteTable :=
  match t.stations.lookup stationId with
  | none => (.error (.missingStation stationId), t)
  | some route =>
      let t := { t with stations := t.stations.erase stationId }.leaveNode route.nodeId stationId
      (.ok route, { t with stats := { t.stats with
        stationsUnassigned := usizeSaturatingAdd t.stats.stationsUnassigned 1 } })

/-- Returns a node route. -/
def nodeRoute (t : DeploymentRouteTable) (nodeId : NodeId) :
    Except DeploymentError DeploymentNodeRoute :=
  match t.nodes.lookup nodeId with
  | none => .error (.missingNode nodeId)
  | some node => .ok node.route

/-- Returns a station route. -/
def stationRoute (t : DeploymentRouteTable) (stationId : StationId) :
    Except DeploymentError DeploymentStationRoute :=
  match t.stations.lookup stationId with
  | none => .error (.missingStation stationId)
  | some route => .ok route

/-- Resolves a gateway route to deployment node/station metadata. Draining nodes remain valid for
existing station routes; offline nodes are rejected. -/
def resolveGatewayRoute (t : DeploymentRouteTable) (route : GatewayRoute) :
    Except DeploymentError GatewayDeliveryRoute := do
  let stationRoute ← t.stationRoute route.stationId
  let nodeRoute ← t.nodeRoute stationRoute.nodeId
  if nodeRoute.state = .offline then .error (.nodeUnavailable nodeRoute.nodeId nodeRoute.state)
  else .ok {
    clientId := route.clientId
    stationId := route.stationId
    nodeId := nodeRoute.nodeId
    gatewayGeneration := route.generation
    gatewayRouteEpoch := route.routeEpoch
    stationRouteEpoch := stationRoute.routeEpoch
    nodeRouteEpoch := nodeRoute.routeEpoch
    nodeState := nodeRoute.state
    assignedAt := stationRoute.assignedAt }

/-- Resolves a connected gateway client to deployment node/station metadata. -/
def resolveGatewayClient (t : DeploymentRouteTable) (gateway : GatewaySessionTable)
    (clientId : ClientId) : Except GatewayDeliveryError GatewayDeliveryRoute :=
  match gateway.route clientId with
  | .error error => .error (.gateway error)
  | .ok route => (t.resolveGatewayRoute route).mapError .deployment

/-- Whether a node has missed its heartbeats. -/
def isStale (staleAfter : UInt64) (now : Tick) (node : DeploymentNodeRecord) : Bool :=
  node.route.state ≠ .offline
    ∧ now.get.saturatingSub node.route.lastHeartbeat.get > staleAfter

/-- Returns stale node ids without mutating node state. -/
def staleNodes (t : DeploymentRouteTable) (now : Tick) : List NodeId :=
  t.nodes.sortedKeys.filter fun nodeId =>
    (t.nodes.lookup nodeId).any (isStale t.config.staleAfterTicks now)

/-- A stale node becomes offline. -/
def markStale (staleAfter : UInt64) (now : Tick) (node : DeploymentNodeRecord) :
    DeploymentNodeRecord :=
  if isStale staleAfter now node then
    { node with route := { node.route with
      state := .offline
      routeEpoch := node.route.routeEpoch.saturatingAdd 1 } }
  else node

/-- Marks stale nodes offline. -/
def markStaleOffline (t : DeploymentRouteTable) (now : Tick) : ℕ × DeploymentRouteTable :=
  let staleAfter := t.config.staleAfterTicks
  let stale := min (t.nodes.total fun node => if isStale staleAfter now node then 1 else 0) usizeMax
  (stale, { t with
    nodes := t.nodes.mapValues (markStale staleAfter now)
    stats := { t.stats with
      staleNodesDetected := usizeSaturatingAdd t.stats.staleNodesDetected stale
      nodesOffline := usizeSaturatingAdd t.stats.nodesOffline stale } })

end DeploymentRouteTable

end SectorSync
