import SectorSync.Base.Heap
import SectorSync.Core.AdaptiveMap

/-!
# The gateway session table

`GatewaySessionTable` of `gateway.rs`: which station each client's commands go to, across
disconnects and reconnects.  A session carries a generation, replaced when the client comes back
too late, and a route epoch.  Expiry is driven by a heap of deadlines that is never corrected:
a reconnect leaves its deadline behind, and `compactExpiryDeadlinesIfNeeded` rebuilds the heap
from the sessions when it grows too long.

Operations return their result and the table they leave behind; the updates the source makes
before it rejects a command stay in the table.
-/

namespace SectorSync

/-- Gateway/session table configuration. -/
structure GatewayConfig where
  /-- Maximum tracked client sessions. -/
  maxSessions : ℕ
  /-- Number of ticks a disconnected session may reconnect with its current generation. -/
  reconnectGraceTicks : UInt64
  /-- Maximum admitted commands per client per tick. -/
  maxCommandsPerTick : ℕ
  deriving DecidableEq

/-- The default configuration. -/
def GatewayConfig.default : GatewayConfig := ⟨65536, 20 * 60, 64⟩

/-- Gateway route snapshot for a client. -/
structure GatewayRoute where
  clientId : ClientId
  stationId : StationId
  generation : UInt64
  /-- Route epoch incremented every time a client changes station route. -/
  routeEpoch : UInt64
  deriving DecidableEq

/-- Session connection state. -/
inductive GatewaySessionState where
  | connected
  | disconnected (since : Tick)
  deriving DecidableEq

/-- Tracked client gateway session. -/
structure GatewaySession where
  clientId : ClientId
  stationId : StationId
  /-- Tick at which this generation was first connected. -/
  connectedAt : Tick
  lastSeen : Tick
  /-- Reconnect generation. -/
  generation : UInt64
  routeEpoch : UInt64
  state : GatewaySessionState
  lastSequence : Option UInt64
  commandTick : Tick
  commandsThisTick : ℕ
  deriving DecidableEq

/-- Returns a route snapshot. -/
def GatewaySession.route (session : GatewaySession) : GatewayRoute where
  clientId := session.clientId
  stationId := session.stationId
  generation := session.generation
  routeEpoch := session.routeEpoch

/-- Result of connecting or reconnecting a client. -/
inductive GatewayConnectOutcome where
  | created
  | alreadyConnected
  | reconnected (disconnectedFor : UInt64)
  | replacedExpired (disconnectedFor : UInt64)
  deriving DecidableEq

/-- Connection report. -/
structure GatewayConnectReport where
  outcome : GatewayConnectOutcome
  route : GatewayRoute
  deriving DecidableEq

/-- Result of admitting a command through gateway metadata checks. -/
structure GatewayCommandAdmission where
  route : GatewayRoute
  sequence : UInt64
  commandsThisTick : ℕ
  deriving DecidableEq

/-- Gateway session table statistics: counted in ℕ here, where the source saturates at
`usize::MAX`. -/
structure GatewayStats where
  sessionsCreated : ℕ
  sessionsReconnected : ℕ
  sessionsExpired : ℕ
  routesChanged : ℕ
  commandsAdmitted : ℕ
  commandsRejectedReplay : ℕ
  commandsRejectedRateLimit : ℕ
  expiryDeadlinesPopped : ℕ
  staleExpiryDeadlines : ℕ
  expiryDeadlineCompactions : ℕ
  deriving DecidableEq

/-- All counters zero. -/
def GatewayStats.default : GatewayStats := ⟨0, 0, 0, 0, 0, 0, 0, 0, 0, 0⟩

/-- Gateway/session error. -/
inductive GatewayError where
  | capacityFull (capacity : ℕ)
  | missingSession (clientId : ClientId)
  | sessionDisconnected (clientId : ClientId) (since : Tick)
  | badGeneration (expected actual : UInt64)
  | replayOrStale (lastSequence : Option UInt64) (sequence : UInt64)
  | rateLimited (limit attempted : ℕ)
  deriving DecidableEq

/-- When a disconnected session is due for removal. -/
structure ExpiryDeadline where
  deadline : UInt64
  clientId : ClientId
  since : UInt64
  deriving DecidableEq

namespace ExpiryDeadline

/-- The order of the source's tuple. -/
def key (d : ExpiryDeadline) : UInt64 ×ₗ ClientId ×ₗ UInt64 :=
  toLex (d.deadline, toLex (d.clientId, d.since))

lemma key_injective : Function.Injective key := by
  rintro ⟨d, c, s⟩ ⟨d', c', s'⟩ h
  simpa [key] using h

instance : LinearOrder ExpiryDeadline := LinearOrder.ofKey key key_injective

end ExpiryDeadline

/-- The number of sessions at which the table moves to hashed storage. -/
def hashedGatewaySessionMinEntries : ℕ := 1024

/-- The storage of the sessions. -/
abbrev AdaptiveSessionMap : Type :=
  AdaptiveMap hashedGatewaySessionMinEntries ClientId GatewaySession

/-- Bounded in-memory gateway session and route table. -/
structure GatewaySessionTable where
  config : GatewayConfig
  sessions : AdaptiveSessionMap
  expiryDeadlines : MinHeap ExpiryDeadline
  stats : GatewayStats

/-- The tick after which a session disconnected at `since` is due. -/
def expiryDeadline (since : Tick) (grace : UInt64) : UInt64 :=
  (since.get.saturatingAdd grace).saturatingAdd 1

namespace GatewaySessionTable

/-- Creates an empty gateway session table. -/
def new (config : GatewayConfig) : GatewaySessionTable := ⟨config, .new, .empty, .default⟩

/-- Returns a session by client id. -/
def session (t : GatewaySessionTable) (clientId : ClientId) : Option GatewaySession :=
  t.sessions.get clientId

/-- Returns tracked session count. -/
def len (t : GatewaySessionTable) : ℕ := t.sessions.len

/-- Returns a connected route by client id. -/
def route (t : GatewaySessionTable) (clientId : ClientId) : Except GatewayError GatewayRoute :=
  match t.session clientId with
  | none => .error (.missingSession clientId)
  | some session =>
      match session.state with
      | .connected => .ok session.route
      | .disconnected since => .error (.sessionDisconnected clientId since)

/-- Writes the session of a client that has one. -/
def putSession (t : GatewaySessionTable) (clientId : ClientId) (session : GatewaySession) :
    GatewaySessionTable :=
  { t with sessions := t.sessions.modify clientId fun _ => session }

/-! ## Connecting -/

/-- A session after its grace window: the next generation, with nothing admitted yet. -/
def replaceExpired (session : GatewaySession) (now : Tick) : GatewaySession :=
  { session with
    connectedAt := now
    lastSeen := now
    generation := session.generation.saturatingAdd 1
    routeEpoch := session.routeEpoch.saturatingAdd 1
    state := .connected
    lastSequence := none
    commandTick := now
    commandsThisTick := 0 }

/-- Points a connected session at a station. -/
def rerouteSession (session : GatewaySession) (stationId : StationId) (now : Tick)
    (stats : GatewayStats) : GatewaySession × GatewayStats :=
  let session := { session with lastSeen := now }
  if session.stationId ≠ stationId then
    ({ session with
        stationId := stationId
        routeEpoch := session.routeEpoch.saturatingAdd 1 },
      { stats with routesChanged := stats.routesChanged + 1 })
  else (session, stats)

/-- Connects a client that has a session. -/
def connectExisting (session : GatewaySession) (stationId : StationId) (now : Tick)
    (reconnectGraceTicks : UInt64) (stats : GatewayStats) :
    GatewayConnectReport × GatewaySession × GatewayStats :=
  match session.state with
  | .connected =>
      let (session, stats) := rerouteSession session stationId now stats
      (⟨.alreadyConnected, session.route⟩, session, stats)
  | .disconnected since =>
      let disconnectedFor := now.get.saturatingSub since.get
      if disconnectedFor > reconnectGraceTicks then
        let session := replaceExpired { session with stationId := stationId } now
        let stats := { stats with sessionsExpired := stats.sessionsExpired + 1 }
        (⟨.replacedExpired disconnectedFor, session.route⟩, session, stats)
      else
        -- the route epoch is left as it is, whatever the station was
        let session :=
          { session with stationId := stationId, lastSeen := now, state := .connected }
        let stats := { stats with sessionsReconnected := stats.sessionsReconnected + 1 }
        (⟨.reconnected disconnectedFor, session.route⟩, session, stats)

/-- The session of a client that had none. -/
def createSession (clientId : ClientId) (stationId : StationId) (now : Tick) : GatewaySession where
  clientId := clientId
  stationId := stationId
  connectedAt := now
  lastSeen := now
  generation := 1
  routeEpoch := 1
  state := .connected
  lastSequence := none
  commandTick := now
  commandsThisTick := 0

/-- Connects a client, reconnecting within grace or replacing stale sessions. -/
def connect (t : GatewaySessionTable) (clientId : ClientId) (stationId : StationId) (now : Tick) :
    Except GatewayError GatewayConnectReport × GatewaySessionTable :=
  match t.session clientId with
  | some session =>
      let (report, session, stats) :=
        connectExisting session stationId now t.config.reconnectGraceTicks t.stats
      (.ok report, { t.putSession clientId session with stats := stats })
  | none =>
      if t.len ≥ t.config.maxSessions then (.error (.capacityFull t.config.maxSessions), t)
      else
        let session := createSession clientId stationId now
        (.ok ⟨.created, session.route⟩,
          { t with
            sessions := t.sessions.insert clientId session
            stats := { t.stats with sessionsCreated := t.stats.sessionsCreated + 1 } })

/-- Reconnects a disconnected client by generation. -/
def reconnect (t : GatewaySessionTable) (clientId : ClientId) (generation : UInt64) (now : Tick) :
    Except GatewayError GatewayConnectReport × GatewaySessionTable :=
  match t.session clientId with
  | none => (.error (.missingSession clientId), t)
  | some session =>
      if session.generation ≠ generation then
        (.error (.badGeneration session.generation generation), t)
      else
        match session.state with
        | .connected =>
            let session := { session with lastSeen := now }
            (.ok ⟨.alreadyConnected, session.route⟩, t.putSession clientId session)
        | .disconnected since =>
            let disconnectedFor := now.get.saturatingSub since.get
            if disconnectedFor > t.config.reconnectGraceTicks then
              let session := replaceExpired session now
              (.ok ⟨.replacedExpired disconnectedFor, session.route⟩,
                { t.putSession clientId session with
                  stats := { t.stats with sessionsExpired := t.stats.sessionsExpired + 1 } })
            else
              let session := { session with lastSeen := now, state := .connected }
              (.ok ⟨.reconnected disconnectedFor, session.route⟩,
                { t.putSession clientId session with
                  stats := { t.stats with
                    sessionsReconnected := t.stats.sessionsReconnected + 1 } })

/-! ## Disconnecting and expiry -/

/-- The deadline of a session, if it is disconnected. -/
def sessionDeadline (grace : UInt64) (clientId : ClientId) (session : GatewaySession) :
    Option ExpiryDeadline :=
  match session.state with
  | .connected => none
  | .disconnected since => some ⟨expiryDeadline since grace, clientId, since.get⟩

/-- Rebuilds the deadline heap from the sessions once it holds more than twice as many entries
as the table may hold sessions. -/
def compactExpiryDeadlinesIfNeeded (t : GatewaySessionTable) : GatewaySessionTable :=
  let limit := max t.config.maxSessions 1 * 2
  if t.expiryDeadlines.len ≤ limit then t
  else
    let deadlines := t.sessions.iter.filterMap fun entry =>
      sessionDeadline t.config.reconnectGraceTicks entry.1 entry.2
    { t with
      expiryDeadlines := .collect deadlines
      stats := { t.stats with
        expiryDeadlineCompactions := t.stats.expiryDeadlineCompactions + 1 } }

/-- Marks a connected session disconnected. -/
def disconnect (t : GatewaySessionTable) (clientId : ClientId) (now : Tick) :
    Except GatewayError Unit × GatewaySessionTable :=
  match t.session clientId with
  | none => (.error (.missingSession clientId), t)
  | some session =>
      let session := { session with lastSeen := now, state := .disconnected now }
      let t := t.putSession clientId session
      let t := { t with
        expiryDeadlines := t.expiryDeadlines.push
          ⟨expiryDeadline now t.config.reconnectGraceTicks, clientId, now.get⟩ }
      (.ok (), t.compactExpiryDeadlinesIfNeeded)

/-- Whether a due deadline still describes the session of its client. -/
def currentMatches (t : GatewaySessionTable) (now : Tick) (due : ExpiryDeadline) : Bool :=
  match t.session due.clientId with
  | none => false
  | some session =>
      match session.state with
      | .connected => false
      | .disconnected since =>
          decide (since.get = due.since
            ∧ now.get.saturatingSub since.get > t.config.reconnectGraceTicks)

/-- Handles one due deadline, counting the sessions it removes. -/
def expireDue (now : Tick) : ℕ × GatewaySessionTable → ExpiryDeadline → ℕ × GatewaySessionTable
  | (expired, t), due =>
      let t := { t with stats := { t.stats with
        expiryDeadlinesPopped := t.stats.expiryDeadlinesPopped + 1 } }
      if t.currentMatches now due then
        (expired + 1, { t with sessions := t.sessions.remove due.clientId })
      else
        (expired, { t with stats := { t.stats with
          staleExpiryDeadlines := t.stats.staleExpiryDeadlines + 1 } })

/-- Removes disconnected sessions whose grace window has expired.  Handling a deadline leaves
the heap alone, so the loop pops the due deadlines and handles them in their order. -/
def expireDisconnected (t : GatewaySessionTable) (now : Tick) : ℕ × GatewaySessionTable :=
  let (due, rest) := t.expiryDeadlines.popWhile fun d => decide (d.deadline ≤ now.get)
  let (expired, t) := due.foldl (expireDue now) (0, { t with expiryDeadlines := rest })
  (expired, { t with stats := { t.stats with
    sessionsExpired := t.stats.sessionsExpired + expired } })

/-! ## Routing and admission -/

/-- Changes the target station for a connected client. -/
def reroute (t : GatewaySessionTable) (clientId : ClientId) (stationId : StationId) (now : Tick) :
    Except GatewayError GatewayRoute × GatewaySessionTable :=
  match t.session clientId with
  | none => (.error (.missingSession clientId), t)
  | some session =>
      match session.state with
      | .connected =>
          let (session, stats) := rerouteSession session stationId now t.stats
          (.ok session.route, { t.putSession clientId session with stats := stats })
      | .disconnected since => (.error (.sessionDisconnected clientId since), t)

/-- The session with the command window of the tick. -/
def openWindow (session : GatewaySession) (now : Tick) : GatewaySession :=
  if session.commandTick ≠ now then { session with commandTick := now, commandsThisTick := 0 }
  else session

/-- Applies session metadata checks to a client command sequence.  `attempted` is a sum in ℕ; the
source's saturates, which differs only where the limit is `usize::MAX` and one tick admits all
`2 ^ 64` sequences. -/
def admitSequence (t : GatewaySessionTable) (clientId : ClientId) (sequence : UInt64)
    (now : Tick) : Except GatewayError GatewayCommandAdmission × GatewaySessionTable :=
  match t.session clientId with
  | none => (.error (.missingSession clientId), t)
  | some session =>
      match session.state with
      | .disconnected since => (.error (.sessionDisconnected clientId since), t)
      | .connected =>
          if session.lastSequence.any fun last => decide (sequence ≤ last) then
            (.error (.replayOrStale session.lastSequence sequence),
              { t with stats := { t.stats with
                commandsRejectedReplay := t.stats.commandsRejectedReplay + 1 } })
          else
            let session := openWindow session now
            let attempted := session.commandsThisTick + 1
            if attempted > t.config.maxCommandsPerTick then
              -- the new window stays
              (.error (.rateLimited t.config.maxCommandsPerTick attempted),
                { t.putSession clientId session with
                  stats := { t.stats with
                    commandsRejectedRateLimit := t.stats.commandsRejectedRateLimit + 1 } })
            else
              let session :=
                { session with
                  commandsThisTick := attempted, lastSequence := some sequence, lastSeen := now }
              (.ok ⟨session.route, sequence, attempted⟩,
                { t.putSession clientId session with
                  stats := { t.stats with
                    commandsAdmitted := t.stats.commandsAdmitted + 1 } })

end GatewaySessionTable

end SectorSync
