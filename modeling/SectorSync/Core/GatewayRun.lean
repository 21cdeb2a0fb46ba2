import SectorSync.Base.Stamps
import SectorSync.Core.Gateway

/-!
# Runs of the gateway, and what route epochs identify

A run performs any operations of the session table with any ticks.  An operation of a client
rewrites the session of that client by `stepSession`, a function of the session alone, and leaves
all other sessions; only `connect` creates sessions and only expiry removes them.

**Route epochs.**  A consumer of routes keeps snapshots and compares their generation and route
epoch; two snapshots of one session that agree in both should name one station.
`route_stepSession` is all that an operation can do to a route: nothing, a bump of the route
epoch, or, in a connect within the grace window, a new station under the old epoch.  The last case
is the only one that breaks this reading, and `route_epochs_identify_iff` says that it does so in
every run in which it moves a session.
-/

namespace SectorSync

open Machine

/-- An operation of the session table. -/
inductive GatewayOp where
  | connect (clientId : ClientId) (stationId : StationId) (now : Tick)
  | reconnect (clientId : ClientId) (generation : UInt64) (now : Tick)
  | disconnect (clientId : ClientId) (now : Tick)
  | reroute (clientId : ClientId) (stationId : StationId) (now : Tick)
  | expireDisconnected (now : Tick)
  | admitSequence (clientId : ClientId) (sequence : UInt64) (now : Tick)

/-- The client that an operation names. -/
def GatewayOp.client : GatewayOp → Option ClientId
  | .connect clientId _ _ => some clientId
  | .reconnect clientId _ _ => some clientId
  | .disconnect clientId _ => some clientId
  | .reroute clientId _ _ => some clientId
  | .expireDisconnected _ => none
  | .admitSequence clientId _ _ => some clientId

namespace GatewaySessionTable

/-- The table an operation leaves behind. -/
def step (t : GatewaySessionTable) : GatewayOp → GatewaySessionTable
  | .connect clientId stationId now => (t.connect clientId stationId now).2
  | .reconnect clientId generation now => (t.reconnect clientId generation now).2
  | .disconnect clientId now => (t.disconnect clientId now).2
  | .reroute clientId stationId now => (t.reroute clientId stationId now).2
  | .expireDisconnected now => (t.expireDisconnected now).2
  | .admitSequence clientId sequence now => (t.admitSequence clientId sequence now).2

/-- What an operation of its client makes of a session. -/
def stepSession (config : GatewayConfig) (session : GatewaySession) : GatewayOp → GatewaySession
  | .connect _ stationId now =>
      (connectExisting session stationId now config.reconnectGraceTicks .default).2.1
  | .reconnect _ generation now =>
      if session.generation ≠ generation then session
      else match session.state with
        | .connected => { session with lastSeen := now }
        | .disconnected since =>
            if now.get.saturatingSub since.get > config.reconnectGraceTicks then
              replaceExpired session now
            else { session with lastSeen := now, state := .connected }
  | .disconnect _ now => { session with lastSeen := now, state := .disconnected now }
  | .reroute _ stationId now =>
      match session.state with
      | .connected => (rerouteSession session stationId now .default).1
      | .disconnected _ => session
  | .expireDisconnected _ => session
  | .admitSequence _ sequence now =>
      match session.state with
      | .disconnected _ => session
      | .connected =>
          if session.lastSequence.any fun last => decide (sequence ≤ last) then session
          else
            let session := openWindow session now
            if session.commandsThisTick + 1 > config.maxCommandsPerTick then session
            else
              { session with
                commandsThisTick := session.commandsThisTick + 1
                lastSequence := some sequence
                lastSeen := now }

variable {t : GatewaySessionTable} {c : ClientId}

/-! ## The session of a client after an operation -/

lemma session_putSession (t : GatewaySessionTable) (clientId : ClientId)
    (session : GatewaySession) (c : ClientId) :
    (t.putSession clientId session).session c
      = if c = clientId then (t.session clientId).map fun _ => session else t.session c :=
  t.sessions.get_modify clientId c fun _ => session

lemma session_putSession_self {a : GatewaySession} (ha : t.session c = some a)
    (session : GatewaySession) : (t.putSession c session).session c = some session := by
  rw [session_putSession, if_pos rfl, ha, Option.map_some]

lemma session_putSession_ne {clientId : ClientId} (hne : c ≠ clientId)
    (session : GatewaySession) : (t.putSession clientId session).session c = t.session c := by
  rw [session_putSession, if_neg hne]

@[simp] lemma session_compact (t : GatewaySessionTable) (c : ClientId) :
    t.compactExpiryDeadlinesIfNeeded.session c = t.session c := by
  simp only [compactExpiryDeadlinesIfNeeded]
  split <;> rfl

lemma rerouteSession_stats (session : GatewaySession) (stationId : StationId) (now : Tick)
    (stats : GatewayStats) :
    (rerouteSession session stationId now stats).1
      = (rerouteSession session stationId now .default).1 := by
  simp only [rerouteSession]
  split <;> rfl

lemma connectExisting_stats (session : GatewaySession) (stationId : StationId) (now : Tick)
    (grace : UInt64) (stats : GatewayStats) :
    (connectExisting session stationId now grace stats).2.1
      = (connectExisting session stationId now grace .default).2.1 := by
  simp only [connectExisting]
  split
  · exact rerouteSession_stats session stationId now stats
  · split <;> rfl

/-- **An operation of a client rewrites its session by `stepSession`.** -/
theorem session_step_of_client {op : GatewayOp} {a : GatewaySession} (hop : op.client = some c)
    (ha : t.session c = some a) :
    (t.step op).session c = some (stepSession t.config a op) := by
  cases op with
  | connect clientId stationId now =>
      obtain rfl : clientId = c := Option.some.inj hop
      simp only [step, connect, ha, stepSession]
      rw [← connectExisting_stats a stationId now t.config.reconnectGraceTicks t.stats]
      exact session_putSession_self ha _
  | reconnect clientId generation now =>
      obtain rfl : clientId = c := Option.some.inj hop
      simp only [step, reconnect, ha, stepSession]
      split
      · exact ha
      · cases a.state with
        | connected => exact session_putSession_self ha _
        | disconnected since =>
            simp only []
            split <;> exact session_putSession_self ha _
  | disconnect clientId now =>
      obtain rfl : clientId = c := Option.some.inj hop
      simp only [step, disconnect, ha, stepSession, session_compact]
      exact session_putSession_self ha _
  | reroute clientId stationId now =>
      obtain rfl : clientId = c := Option.some.inj hop
      cases hstate : a.state with
      | connected =>
          simp only [step, reroute, ha, stepSession, hstate]
          rw [← rerouteSession_stats a stationId now t.stats]
          exact session_putSession_self ha _
      | disconnected since =>
          simp only [step, reroute, ha, stepSession, hstate]
  | expireDisconnected now => exact absurd hop (by simp [GatewayOp.client])
  | admitSequence clientId sequence now =>
      obtain rfl : clientId = c := Option.some.inj hop
      cases hstate : a.state with
      | connected =>
          simp only [step, admitSequence, ha, stepSession, hstate]
          split
          · exact ha
          · split <;> exact session_putSession_self ha _
      | disconnected since =>
          simp only [step, admitSequence, ha, stepSession, hstate]

lemma session_expireDue {now : Tick} {due : ExpiryDeadline} {acc : ℕ × GatewaySessionTable}
    {b : GatewaySession} (h : (expireDue now acc due).2.session c = some b) :
    acc.2.session c = some b := by
  simp only [expireDue] at h
  split at h
  · have hremove := acc.2.sessions.get_remove due.clientId c
    simp only [session] at h ⊢
    rw [hremove] at h
    split_ifs at h
    exact h
  · exact h

/-- Expiry changes no session that it keeps. -/
lemma session_expireDisconnected {now : Tick} {b : GatewaySession}
    (h : (t.expireDisconnected now).2.session c = some b) : t.session c = some b := by
  have hfold : ∀ (due : List ExpiryDeadline) (acc : ℕ × GatewaySessionTable),
      (due.foldl (expireDue now) acc).2.session c = some b → acc.2.session c = some b := by
    intro due
    induction due with
    | nil => exact fun _ h => h
    | cons d due ih => exact fun acc h => session_expireDue (ih _ h)
  simp only [expireDisconnected] at h
  exact hfold _ _ h

/-- An operation changes no session of a client it does not name, if it keeps it. -/
lemma session_step_of_ne {op : GatewayOp} {b : GatewaySession} (hop : op.client ≠ some c)
    (hb : (t.step op).session c = some b) : t.session c = some b := by
  have hne : ∀ {clientId : ClientId}, some clientId ≠ some c → c ≠ clientId :=
    fun h hc => h (congrArg some hc.symm)
  cases op with
  | connect clientId stationId now =>
      simp only [step, connect] at hb
      split at hb
      · exact (session_putSession_ne (hne hop) _).symm.trans hb
      · split at hb
        · exact hb
        · have hget := t.sessions.get_insert clientId c (createSession clientId stationId now)
          rw [if_neg (hne hop)] at hget
          exact hget.symm.trans hb
  | reconnect clientId generation now =>
      simp only [step, reconnect] at hb
      split at hb
      · exact hb
      · split at hb
        · exact hb
        · split at hb
          · exact (session_putSession_ne (hne hop) _).symm.trans hb
          · split at hb <;> exact (session_putSession_ne (hne hop) _).symm.trans hb
  | disconnect clientId now =>
      simp only [step, disconnect] at hb
      split at hb
      · exact hb
      · rw [session_compact] at hb
        exact (session_putSession_ne (hne hop) _).symm.trans hb
  | reroute clientId stationId now =>
      simp only [step, reroute] at hb
      split at hb
      · exact hb
      · split at hb
        · exact (session_putSession_ne (hne hop) _).symm.trans hb
        · exact hb
  | expireDisconnected now => exact session_expireDisconnected hb
  | admitSequence clientId sequence now =>
      simp only [step, admitSequence] at hb
      split at hb
      · exact hb
      · split at hb
        · exact hb
        · split at hb
          · exact hb
          · split at hb <;> exact (session_putSession_ne (hne hop) _).symm.trans hb

/-! ## What an operation does to a route -/

/-- The route epoch is bumped, in the same or in a later generation. -/
def Bumped (a b : GatewayRoute) : Prop :=
  a.generation ≤ b.generation ∧ b.routeEpoch = a.routeEpoch.saturatingAdd 1

/-- The operation connects the session within its grace window. -/
def ConnectsInGrace (config : GatewayConfig) (session : GatewaySession) : GatewayOp → Prop
  | .connect _ _ now => ∃ since, session.state = .disconnected since
      ∧ now.get.saturatingSub since.get ≤ config.reconnectGraceTicks
  | _ => False

/-- The station an operation asks for. -/
def requestedStation (session : GatewaySession) : GatewayOp → StationId
  | .connect _ stationId _ => stationId
  | _ => session.stationId

lemma bumped_replaceExpired (session : GatewaySession) (stationId : StationId) (now : Tick) :
    Bumped session.route (replaceExpired { session with stationId := stationId } now).route :=
  ⟨session.generation.le_saturatingAdd 1, rfl⟩

lemma route_rerouteSession (session : GatewaySession) (stationId : StationId) (now : Tick)
    (stats : GatewayStats) :
    (rerouteSession session stationId now stats).1.route = session.route
      ∨ Bumped session.route (rerouteSession session stationId now stats).1.route := by
  simp only [rerouteSession]
  split
  · exact Or.inr ⟨UInt64.le_refl _, rfl⟩
  · exact Or.inl rfl

lemma route_openWindow (session : GatewaySession) (now : Tick) :
    (openWindow session now).route = session.route := by
  simp only [openWindow]
  split <;> rfl

/-- **What an operation does to a route.**  A connect within the grace window takes the requested
station under the old epoch; every other operation leaves the route or bumps its epoch. -/
theorem route_stepSession (config : GatewayConfig) (a : GatewaySession) (op : GatewayOp) :
    (ConnectsInGrace config a op → (stepSession config a op).route
        = { a.route with stationId := requestedStation a op })
      ∧ (¬ ConnectsInGrace config a op → (stepSession config a op).route = a.route
        ∨ Bumped a.route (stepSession config a op).route) := by
  cases op with
  | connect clientId stationId now =>
      cases hstate : a.state with
      | connected =>
          simp only [stepSession, connectExisting, hstate, ConnectsInGrace]
          refine ⟨fun ⟨since, h, _⟩ => ?_, fun _ => route_rerouteSession a stationId now _⟩
          exact absurd h (by simp)
      | disconnected since =>
          have hgrace : ConnectsInGrace config a (.connect clientId stationId now)
              ↔ ¬ now.get.saturatingSub since.get > config.reconnectGraceTicks := by
            simp [ConnectsInGrace, hstate]
          simp only [hgrace, stepSession, connectExisting, hstate]
          split
          · rename_i hlate
            exact ⟨absurd hlate, fun _ => Or.inr (bumped_replaceExpired a stationId now)⟩
          · rename_i hlate
            exact ⟨fun _ => rfl, absurd hlate⟩
  | reconnect clientId generation now =>
      refine ⟨False.elim, fun _ => ?_⟩
      simp only [stepSession]
      split
      · exact Or.inl rfl
      · cases a.state with
        | connected => exact Or.inl rfl
        | disconnected since =>
            simp only []
            split
            · exact Or.inr (bumped_replaceExpired a a.stationId now)
            · exact Or.inl rfl
  | disconnect clientId now => exact ⟨False.elim, fun _ => Or.inl rfl⟩
  | reroute clientId stationId now =>
      refine ⟨False.elim, fun _ => ?_⟩
      simp only [stepSession]
      split
      · exact route_rerouteSession a stationId now _
      · exact Or.inl rfl
  | expireDisconnected now => exact ⟨False.elim, fun _ => Or.inl rfl⟩
  | admitSequence clientId sequence now =>
      refine ⟨False.elim, fun _ => Or.inl ?_⟩
      simp only [stepSession]
      split
      · rfl
      · split
        · rfl
        · split
          · exact route_openWindow a now
          · exact route_openWindow a now

/-! ## Snapshots of routes -/

/-- The route snapshot of a client's session. -/
def sessionRoute (t : GatewaySessionTable) (clientId : ClientId) : Option GatewayRoute :=
  (t.session clientId).map GatewaySession.route

/-- What consumers compare of two snapshots. -/
def routeStamp (route : GatewayRoute) : UInt64 × UInt64 := (route.generation, route.routeEpoch)

/-- Two snapshots of one session in a run, with the session tracked all along between them, name
one station when they carry one generation and one route epoch below saturation. -/
def RoutesIdentified (t : GatewaySessionTable) (ops : List GatewayOp) : Prop :=
  ∀ clientId pre mid, pre ++ mid <+: ops →
    Tracked step (sessionRoute · clientId) (execute step t pre) mid →
    ∀ a b, (execute step t pre).sessionRoute clientId = some a →
      (execute step t (pre ++ mid)).sessionRoute clientId = some b →
      a.generation = b.generation → a.routeEpoch = b.routeEpoch →
      a.routeEpoch ≠ UInt64.maxValue → a.stationId = b.stationId

/-- Every change of a session's station in the run raises its route epoch, below saturation. -/
def ChangesRaiseEpoch (t : GatewaySessionTable) (ops : List GatewayOp) : Prop :=
  AllSteps step (fun t op => ∀ clientId a b, t.sessionRoute clientId = some a →
    (t.step op).sessionRoute clientId = some b → a.stationId ≠ b.stationId →
    a.routeEpoch ≠ UInt64.maxValue → a.routeEpoch < b.routeEpoch) t ops

/-- The operation gives a client that is back within its grace window another station than its
session has. -/
def MovesInGrace (t : GatewaySessionTable) (op : GatewayOp) : Prop :=
  ∃ clientId session, op.client = some clientId ∧ t.session clientId = some session
    ∧ ConnectsInGrace t.config session op ∧ requestedStation session op ≠ session.stationId
    ∧ session.routeEpoch ≠ UInt64.maxValue

/-- The routes of a session before and after a step. -/
lemma sessionRoute_step {op : GatewayOp} {a b : GatewayRoute} (ha : t.sessionRoute c = some a)
    (hb : (t.step op).sessionRoute c = some b) :
    b = a ∨ Bumped a b ∨ ∃ session, op.client = some c ∧ t.session c = some session
      ∧ ConnectsInGrace t.config session op
      ∧ a = session.route ∧ b = { a with stationId := requestedStation session op } := by
  obtain ⟨session, hs, rfl⟩ := Option.map_eq_some_iff.mp ha
  obtain ⟨session', hs', rfl⟩ := Option.map_eq_some_iff.mp hb
  by_cases hop : op.client = some c
  · rw [session_step_of_client hop hs, Option.some.injEq] at hs'
    subst hs'
    have hroute := route_stepSession t.config session op
    by_cases hgrace : ConnectsInGrace t.config session op
    · exact Or.inr (Or.inr ⟨session, hop, hs, hgrace, rfl, hroute.1 hgrace⟩)
    · exact (hroute.2 hgrace).imp_right Or.inl
  · rw [session_step_of_ne hop hs', Option.some.injEq] at hs
    exact Or.inl (congrArg GatewaySession.route hs)

/-- Generations and route epochs never go down. -/
lemma routeStamp_mono (op : GatewayOp) (a b : GatewayRoute) (ha : t.sessionRoute c = some a)
    (hb : (t.step op).sessionRoute c = some b) : routeStamp a ≤ routeStamp b := by
  rcases sessionRoute_step ha hb with rfl | ⟨hgen, hepoch⟩ | ⟨session, _, _, _, _, rfl⟩
  · exact le_refl _
  · refine ⟨hgen, ?_⟩
    show a.routeEpoch ≤ b.routeEpoch
    rw [hepoch]
    exact a.routeEpoch.le_saturatingAdd 1
  · exact le_refl (routeStamp a)

/-- A step that moves no session in its grace window changes stations under larger epochs only. -/
lemma routeEpoch_lt {op : GatewayOp} (hok : ¬ t.MovesInGrace op) {a b : GatewayRoute}
    (ha : t.sessionRoute c = some a) (hb : (t.step op).sessionRoute c = some b)
    (hne : a.stationId ≠ b.stationId) (hmax : a.routeEpoch ≠ UInt64.maxValue) :
    a.routeEpoch < b.routeEpoch := by
  rcases sessionRoute_step ha hb with rfl | ⟨_, hepoch⟩ | ⟨session, hop, hs, hgrace, rfl, rfl⟩
  · exact absurd rfl hne
  · rw [hepoch]
    refine lt_of_le_of_ne (a.routeEpoch.le_saturatingAdd 1) fun h => hmax ?_
    exact UInt64.saturatingAdd_one_eq_self.mp h.symm
  · exact absurd ⟨c, session, hop, hs, hgrace, Ne.symm hne, hmax⟩ hok

/-- A step that moves a session in its grace window changes a station under its epoch. -/
lemma MovesInGrace.exists_change {op : GatewayOp} (h : t.MovesInGrace op) :
    ∃ clientId a b, t.sessionRoute clientId = some a
      ∧ (t.step op).sessionRoute clientId = some b ∧ a.stationId ≠ b.stationId
      ∧ routeStamp a = routeStamp b ∧ a.routeEpoch ≠ UInt64.maxValue := by
  obtain ⟨c, session, hop, hs, hgrace, hne, hmax⟩ := h
  refine ⟨c, session.route, (stepSession t.config session op).route, ?_, ?_, ?_, ?_, hmax⟩
  · rw [sessionRoute, hs, Option.map_some]
  · rw [sessionRoute, session_step_of_client hop hs, Option.map_some]
  · rw [(route_stepSession t.config session op).1 hgrace]
    exact Ne.symm hne
  · rw [(route_stepSession t.config session op).1 hgrace]
    rfl

lemma changesRaiseEpoch_iff (t : GatewaySessionTable) (ops : List GatewayOp) :
    ChangesRaiseEpoch t ops ↔ AllSteps step (fun t op => ¬ t.MovesInGrace op) t ops := by
  refine allSteps_congr (fun t op => ?_) t ops
  constructor
  · intro h hmove
    obtain ⟨c, a, b, ha, hb, hne, hstamp, hmax⟩ := hmove.exists_change
    exact absurd (h c a b ha hb hne hmax) (by rw [(Prod.mk.inj hstamp).2]; exact lt_irrefl _)
  · intro hok c a b ha hb hne hmax
    exact routeEpoch_lt hok ha hb hne hmax

lemma routesIdentified_iff (t : GatewaySessionTable) (ops : List GatewayOp) :
    RoutesIdentified t ops ↔ AllSteps step (fun t op => ¬ t.MovesInGrace op) t ops := by
  have hclient : ∀ clientId, StampsIdentify (sessionRoute · clientId) routeStamp
      GatewayRoute.stationId (fun stamp => stamp.2 ≠ UInt64.maxValue) step t ops
      ↔ AllSteps step (fun t op => KeepsValue (sessionRoute · clientId) routeStamp
        GatewayRoute.stationId (fun stamp => stamp.2 ≠ UInt64.maxValue) t (t.step op)) t ops :=
    fun clientId => stampsIdentify_iff (fun t op a b => routeStamp_mono op a b) t ops
  have hroutes : RoutesIdentified t ops ↔ ∀ clientId, StampsIdentify (sessionRoute · clientId)
      routeStamp GatewayRoute.stationId (fun stamp => stamp.2 ≠ UInt64.maxValue) step t ops := by
    simp only [RoutesIdentified, StampsIdentify, KeepsValue, routeStamp, Prod.mk.injEq, and_imp]
  rw [hroutes]
  simp only [hclient, allSteps_forall]
  refine allSteps_congr (fun t op => ?_) t ops
  constructor
  · intro h hmove
    obtain ⟨c, a, b, ha, hb, hne, hstamp, hmax⟩ := hmove.exists_change
    exact hne (h c a b ha hb hstamp hmax)
  · intro hok c a b ha hb hstamp hmax
    by_contra hne
    have hlt := routeEpoch_lt hok ha hb hne hmax
    rw [(Prod.mk.inj hstamp).2] at hlt
    exact lt_irrefl _ hlt

/-- **Route epochs identify routes exactly in the runs that move no session in its grace
window.** -/
theorem route_epochs_identify_iff (config : GatewayConfig) (ops : List GatewayOp) :
    (RoutesIdentified (new config) ops
        ↔ AllSteps step (fun t op => ¬ t.MovesInGrace op) (new config) ops)
      ∧ (ChangesRaiseEpoch (new config) ops
        ↔ AllSteps step (fun t op => ¬ t.MovesInGrace op) (new config) ops) :=
  ⟨routesIdentified_iff _ ops, changesRaiseEpoch_iff _ ops⟩

/-- Client 7 leaves station 1 and is back two ticks later at station 2. -/
def returnElsewhere : List GatewayOp :=
  [.connect ⟨7⟩ ⟨1⟩ ⟨10⟩, .disconnect ⟨7⟩ ⟨12⟩, .connect ⟨7⟩ ⟨2⟩ ⟨14⟩]

/-- Its two routes carry one generation and one route epoch, and name two stations. -/
theorem return_elsewhere_reuses_epoch : ¬ RoutesIdentified (new .default) returnElsewhere := by
  intro h
  have htracked : Tracked step (sessionRoute · ⟨7⟩)
      (execute step (new .default) [.connect ⟨7⟩ ⟨1⟩ ⟨10⟩])
      [.disconnect ⟨7⟩ ⟨12⟩, .connect ⟨7⟩ ⟨2⟩ ⟨14⟩] := by
    rw [tracked_cons, tracked_cons, tracked_nil]
    decide
  have hstation := h ⟨7⟩ [.connect ⟨7⟩ ⟨1⟩ ⟨10⟩] [.disconnect ⟨7⟩ ⟨12⟩, .connect ⟨7⟩ ⟨2⟩ ⟨14⟩]
    List.prefix_rfl htracked ⟨⟨7⟩, ⟨1⟩, 1, 1⟩ ⟨⟨7⟩, ⟨2⟩, 1, 1⟩ (by decide) (by decide) rfl rfl
    (by decide)
  exact absurd hstation (by decide)

end GatewaySessionTable

end SectorSync
