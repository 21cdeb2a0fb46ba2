import SectorSync.Core.GatewayExpiry

/-!
# Command admission

A session admits a command when its sequence is newer than the last admitted one and the window
of the tick is not used up.  Both are kept in the session, which disconnects, reconnects,
expiries and replacements rewrite; a run of the table keeps beside it the log of what it reported,
and the laws of admission are about this log.

`Changes` is what an operation can do to the session of its client.  The window of a session only
counts the tick that it was opened for.  `Coupled` is why this is enough: in a run whose ticks do
not go back, nothing was admitted for a tick after the window of the session, and a session is
removed or replaced only in a tick after the one in which it was disconnected.
-/

namespace SectorSync

open Machine

/-- The tick of an operation. -/
def GatewayOp.tick : GatewayOp → Tick
  | .connect _ _ now => now
  | .reconnect _ _ now => now
  | .disconnect _ now => now
  | .reroute _ _ now => now
  | .expireDisconnected now => now
  | .admitSequence _ _ now => now

/-- What an operation reports about admission. -/
inductive GatewayEvent where
  /-- The session of the client was created, or replaced by a new generation. -/
  | reset (clientId : ClientId)
  /-- A command was admitted. -/
  | admitted (clientId : ClientId) (sequence : UInt64) (now : Tick)
  | other
  deriving DecidableEq

/-- The session starts anew. -/
def GatewayConnectOutcome.isReset : GatewayConnectOutcome → Bool
  | .created => true
  | .alreadyConnected => false
  | .reconnected _ => false
  | .replacedExpired _ => true

/-- What a connect or a reconnect reports. -/
def connectEvent (clientId : ClientId) : Except GatewayError GatewayConnectReport → GatewayEvent
  | .ok report => if report.outcome.isReset then .reset clientId else .other
  | .error _ => .other

/-- What an admission reports. -/
def admissionEvent (clientId : ClientId) (sequence : UInt64) (now : Tick) :
    Except GatewayError GatewayCommandAdmission → GatewayEvent
  | .ok _ => .admitted clientId sequence now
  | .error _ => .other

/-- What a table reports in an operation. -/
def GatewaySessionTable.event (t : GatewaySessionTable) : GatewayOp → GatewayEvent
  | .connect clientId stationId now => connectEvent clientId (t.connect clientId stationId now).1
  | .reconnect clientId generation now =>
      connectEvent clientId (t.reconnect clientId generation now).1
  | .admitSequence clientId sequence now =>
      admissionEvent clientId sequence now (t.admitSequence clientId sequence now).1
  | .disconnect _ _ | .reroute _ _ _ | .expireDisconnected _ => .other

/-! ## Logs -/

namespace GatewayEvent

/-- The sequences admitted for a client, with one more event. -/
def extendSequences (c : ClientId) (sequences : List UInt64) : GatewayEvent → List UInt64
  | .reset clientId => if clientId = c then [] else sequences
  | .admitted clientId sequence _ =>
      if clientId = c then sequences ++ [sequence] else sequences
  | .other => sequences

/-- The sequences admitted for a client since the last reset of its session. -/
def sinceReset (c : ClientId) (log : List GatewayEvent) : List UInt64 :=
  log.foldl (extendSequences c) []

/-- The event is an admission for the client in the tick. -/
def isAdmission (c : ClientId) (tick : Tick) : GatewayEvent → Bool
  | .admitted clientId _ now => decide (clientId = c ∧ now = tick)
  | _ => false

/-- The number of commands admitted for a client in a tick. -/
def admittedAt (c : ClientId) (tick : Tick) (log : List GatewayEvent) : ℕ :=
  log.countP (isAdmission c tick)

@[simp] lemma sinceReset_concat (c : ClientId) (log : List GatewayEvent) (event : GatewayEvent) :
    sinceReset c (log ++ [event]) = extendSequences c (sinceReset c log) event := by
  simp [sinceReset]

@[simp] lemma admittedAt_concat (c : ClientId) (tick : Tick) (log : List GatewayEvent)
    (event : GatewayEvent) :
    admittedAt c tick (log ++ [event])
      = admittedAt c tick log + if isAdmission c tick event then 1 else 0 := by
  simp [admittedAt, List.countP_singleton]

end GatewayEvent

open GatewayEvent

namespace GatewaySessionTable

variable {t : GatewaySessionTable} {c : ClientId} {config : GatewayConfig}

/-! ## What operations do to a session -/

/-- The number of commands that the window of a session counts for a tick. -/
def windowCount (session : GatewaySession) (now : Tick) : ℕ :=
  (openWindow session now).commandsThisTick

lemma commandTick_openWindow (session : GatewaySession) (now : Tick) :
    (openWindow session now).commandTick = now := by
  simp only [openWindow]
  split
  · rfl
  · rename_i h
    exact not_not.mp h

lemma lastSequence_openWindow (session : GatewaySession) (now : Tick) :
    (openWindow session now).lastSequence = session.lastSequence := by
  simp only [openWindow]
  split <;> rfl

/-- The session admits a command with the sequence. -/
def Admits (config : GatewayConfig) (session : GatewaySession) (sequence : UInt64) (now : Tick) :
    Prop :=
  session.state = .connected ∧ (∀ last ∈ session.lastSequence, last < sequence)
    ∧ windowCount session now < config.maxCommandsPerTick

/-- The session after an admission. -/
def withAdmission (session : GatewaySession) (sequence : UInt64) (now : Tick) : GatewaySession :=
  { openWindow session now with
    commandsThisTick := windowCount session now + 1
    lastSequence := some sequence
    lastSeen := now }

/-- **What an admission does.**  It admits the command, or rejects it; a rejection opens the window
of the tick at most. -/
lemma admitSequence_cases (t : GatewaySessionTable) (c : ClientId) (sequence : UInt64)
    (now : Tick) :
    (∃ a stats, t.session c = some a ∧ Admits t.config a sequence now
        ∧ t.admitSequence c sequence now = (.ok ⟨a.route, sequence, windowCount a now + 1⟩,
          { t.putSession c (withAdmission a sequence now) with stats := stats }))
      ∨ ((∀ a, t.session c = some a → ¬ Admits t.config a sequence now)
        ∧ ∃ error stats,
          t.admitSequence c sequence now = (.error error, { t with stats := stats })
          ∨ ∃ a, t.session c = some a ∧ a.state = .connected
            ∧ t.admitSequence c sequence now = (.error error,
              { t.putSession c (openWindow a now) with stats := stats })) := by
  cases ha : t.session c with
  | none =>
      refine Or.inr ⟨fun _ h => absurd h (by simp), .missingSession c, t.stats, Or.inl ?_⟩
      simp only [admitSequence, ha]
  | some a =>
      have hroute : (openWindow a now).route = a.route := route_openWindow a now
      cases hstate : a.state with
      | disconnected since =>
          refine Or.inr ⟨fun a' h hadmits => ?_, .sessionDisconnected c since, t.stats,
            Or.inl (by simp only [admitSequence, ha, hstate])⟩
          rw [← Option.some.inj h, Admits, hstate] at hadmits
          cases hadmits.1
      | connected =>
          cases hstale : a.lastSequence.any fun last => decide (sequence ≤ last) with
          | true =>
              refine Or.inr ⟨fun a' h hadmits => ?_, .replayOrStale a.lastSequence sequence, _,
                Or.inl (by simp only [admitSequence, ha, hstate, hstale, if_true]; rfl)⟩
              obtain rfl := Option.some.inj h
              cases hlast : a.lastSequence with
              | none => simp [hlast] at hstale
              | some last =>
                  have hle : sequence ≤ last := by simpa [hlast] using hstale
                  exact not_lt.mpr hle (hadmits.2.1 last hlast)
          | false =>
              by_cases hroom : windowCount a now < t.config.maxCommandsPerTick
              · have hnot : ¬ (openWindow a now).commandsThisTick + 1
                    > t.config.maxCommandsPerTick := by
                  simp only [windowCount] at hroom
                  omega
                refine Or.inl ⟨a, { t.stats with commandsAdmitted := t.stats.commandsAdmitted + 1 },
                  rfl, ⟨hstate, fun last hlast => ?_, hroom⟩, ?_⟩
                · rw [Option.mem_def] at hlast
                  simpa [hlast] using hstale
                · simp only [admitSequence, ha, hstate, hstale, hnot, if_false,
                    Bool.false_eq_true]
                  rw [← hroute]
                  rfl
              · have hfull : (openWindow a now).commandsThisTick + 1
                    > t.config.maxCommandsPerTick := by
                  simp only [windowCount] at hroom
                  omega
                refine Or.inr ⟨fun a' h hadmits => ?_, _, _, Or.inr ⟨a, rfl, hstate, by
                  simp only [admitSequence, ha, hstate, hstale, hfull, if_false, if_true,
                    Bool.false_eq_true]; rfl⟩⟩
                obtain rfl := Option.some.inj h
                exact hroom hadmits.2.2

/-- What an operation can do to the session of its client, and what it reports then. -/
inductive Changes (config : GatewayConfig) (c : ClientId) (now : Tick) (a : GatewaySession) :
    GatewaySession → GatewayEvent → Prop where
  /-- The window and the last sequence stay. -/
  | kept {b : GatewaySession} (htick : b.commandTick = a.commandTick)
      (hcount : b.commandsThisTick = a.commandsThisTick)
      (hlast : b.lastSequence = a.lastSequence)
      (hstate : b.state = a.state ∨ b.state = .connected ∨ b.state = .disconnected now) :
      Changes config c now a b .other
  /-- A new generation replaces a session past its grace window. -/
  | replaced (stationId : StationId) (hexpired : a.isExpired config now = true) :
      Changes config c now a (replaceExpired { a with stationId := stationId } now) (.reset c)
  /-- The window of the tick is opened. -/
  | opened (hstate : a.state = .connected) : Changes config c now a (openWindow a now) .other
  | admitted {sequence : UInt64} (hadmits : Admits config a sequence now) :
      Changes config c now a (withAdmission a sequence now) (.admitted c sequence now)

lemma isExpired_iff {a : GatewaySession} {since now : Tick}
    (hstate : a.state = .disconnected since) :
    a.isExpired config now = true
      ↔ now.get.saturatingSub since.get > config.reconnectGraceTicks := by
  simp [GatewaySession.isExpired, hstate, UInt64.lt_iff_toNat_lt, UInt64.toNat_saturatingSub]

lemma kept_rerouteSession (a : GatewaySession) (stationId : StationId) (now : Tick)
    (stats : GatewayStats) :
    Changes config c now a (rerouteSession a stationId now stats).1 .other := by
  simp only [rerouteSession]
  split <;> exact .kept rfl rfl rfl (Or.inl rfl)

lemma Changes.of_connectExisting (config : GatewayConfig) (c : ClientId) (a : GatewaySession)
    (stationId : StationId) (now : Tick) (stats : GatewayStats) :
    Changes config c now a
      (connectExisting a stationId now config.reconnectGraceTicks stats).2.1
      (connectEvent c
        (.ok (connectExisting a stationId now config.reconnectGraceTicks stats).1)) := by
  cases hstate : a.state with
  | connected =>
      simp only [connectExisting, hstate, connectEvent, GatewayConnectOutcome.isReset, if_false,
        Bool.false_eq_true]
      exact kept_rerouteSession a stationId now stats
  | disconnected since =>
      simp only [connectExisting, hstate]
      split
      · rename_i hlate
        exact .replaced stationId ((isExpired_iff hstate).mpr hlate)
      · exact .kept rfl rfl rfl (Or.inr (Or.inl rfl))

/-- **What an operation does to the session of its client.** -/
theorem changes_step {op : GatewayOp} {a : GatewaySession} (hop : op.client = some c)
    (ha : t.session c = some a) :
    ∃ b, (t.step op).session c = some b ∧ Changes t.config c op.tick a b (t.event op) := by
  refine ⟨_, session_step_of_client hop ha, ?_⟩
  cases op with
  | connect clientId stationId now =>
      obtain rfl : clientId = c := Option.some.inj hop
      have hchanges := Changes.of_connectExisting t.config clientId a stationId now
        t.stats
      rw [connectExisting_stats] at hchanges
      simpa only [event, connect, ha, stepSession, GatewayOp.tick] using hchanges
  | reconnect clientId generation now =>
      obtain rfl : clientId = c := Option.some.inj hop
      simp only [event, reconnect, ha, stepSession, GatewayOp.tick]
      split
      · exact .kept rfl rfl rfl (Or.inl rfl)
      · cases hstate : a.state with
        | connected => exact .kept rfl rfl rfl (Or.inl hstate.symm)
        | disconnected since =>
            simp only []
            split
            · rename_i hlate
              exact .replaced a.stationId ((isExpired_iff hstate).mpr hlate)
            · exact .kept rfl rfl rfl (Or.inr (Or.inl rfl))
  | disconnect clientId now => exact .kept rfl rfl rfl (Or.inr (Or.inr rfl))
  | reroute clientId stationId now =>
      simp only [event, stepSession]
      split
      · exact kept_rerouteSession a stationId now _
      · exact .kept rfl rfl rfl (Or.inl rfl)
  | expireDisconnected now => exact absurd hop (by simp [GatewayOp.client])
  | admitSequence clientId sequence now =>
      obtain rfl : clientId = c := Option.some.inj hop
      have hsession := session_step_of_client hop ha
      simp only [step] at hsession
      simp only [event, GatewayOp.tick]
      rcases t.admitSequence_cases clientId sequence now with
        ⟨a', stats, ha', hadmits, h⟩ | ⟨-, error, stats, h | ⟨a', ha', hstate, h⟩⟩
      · obtain rfl := Option.some.inj (ha.symm.trans ha')
        rw [h] at hsession ⊢
        have hput := session_putSession_self ha (withAdmission a sequence now)
        rw [← Option.some.inj (hput.symm.trans hsession)]
        exact .admitted hadmits
      · rw [h] at hsession ⊢
        rw [← Option.some.inj (ha.symm.trans hsession)]
        exact .kept rfl rfl rfl (Or.inl rfl)
      · obtain rfl := Option.some.inj (ha.symm.trans ha')
        rw [h] at hsession ⊢
        have hput := session_putSession_self ha (openWindow a now)
        rw [← Option.some.inj (hput.symm.trans hsession)]
        exact .opened hstate

/-- What an operation does for a client that has no session. -/
lemma absent_step {op : GatewayOp} (hop : op.client = some c) (ha : t.session c = none) :
    ((t.step op).session c = none ∧ t.event op = .other)
      ∨ ∃ stationId, (t.step op).session c = some (createSession c stationId op.tick)
        ∧ t.event op = .reset c := by
  cases op with
  | connect clientId stationId now =>
      obtain rfl : clientId = c := Option.some.inj hop
      by_cases hfull : t.len ≥ t.config.maxSessions
      · left
        simp [step, event, connect, ha, hfull, connectEvent]
      · right
        refine ⟨stationId, ?_, by simp [event, connect, ha, hfull, connectEvent,
          GatewayConnectOutcome.isReset]⟩
        have hget := t.sessions.get_insert clientId clientId (createSession clientId stationId now)
        rw [if_pos rfl] at hget
        simp only [step, connect, ha, hfull, if_false]
        exact hget
  | reconnect clientId generation now =>
      obtain rfl : clientId = c := Option.some.inj hop
      exact Or.inl (by simp [step, event, reconnect, ha, connectEvent])
  | disconnect clientId now =>
      obtain rfl : clientId = c := Option.some.inj hop
      exact Or.inl (by simp [step, event, disconnect, ha])
  | reroute clientId stationId now =>
      obtain rfl : clientId = c := Option.some.inj hop
      exact Or.inl (by simp [step, event, reroute, ha])
  | expireDisconnected now => exact absurd hop (by simp [GatewayOp.client])
  | admitSequence clientId sequence now =>
      obtain rfl : clientId = c := Option.some.inj hop
      exact Or.inl (by simp [step, event, admitSequence, ha, admissionEvent])

/-- What an operation does for the clients that it does not name. -/
lemma other_step {op : GatewayOp} (hop : op.client ≠ some c) :
    (t.step op).session c = t.session c
      ∨ ((t.step op).session c = none
        ∧ ∃ session, t.session c = some session
          ∧ session.isExpired t.config op.tick = true) := by
  have hstep := t.performs_step op
  generalize t.step op = t' at hstep
  cases hstep with
  | counted op stats => exact Or.inl rfl
  | @rewritten _ clientId _ b stats hclient ha hb =>
      have hne : c ≠ clientId := fun hc => hop (hclient.trans (congrArg some hc.symm))
      exact Or.inl (session_putSession_ne hne b)
  | @created clientId stationId now stats hnone hroom =>
      have hne : c ≠ clientId := fun hc => hop (congrArg some hc.symm)
      have hget := t.sessions.get_insert clientId c (createSession clientId stationId now)
      rw [if_neg hne] at hget
      exact Or.inl hget
  | @disconnected clientId a now ha =>
      have hne : c ≠ clientId := fun hc => hop (congrArg some hc.symm)
      rw [session_compact]
      exact Or.inl (session_putSession_ne hne _)
  | expired now => exact t.session_expireDisconnected_cases now c

/-- What is reported about other clients does not count. -/
lemma other_event {op : GatewayOp} (hop : op.client ≠ some c) :
    (∀ sequences, extendSequences c sequences (t.event op) = sequences)
      ∧ ∀ tick, isAdmission c tick (t.event op) = false := by
  have hne : ∀ {clientId : ClientId}, some clientId ≠ some c → clientId ≠ c :=
    fun h hc => h (congrArg some hc)
  cases op with
  | connect clientId stationId now =>
      simp only [event, connectEvent]
      split
      · split <;> simp [extendSequences, isAdmission, hne hop]
      · simp [extendSequences, isAdmission]
  | reconnect clientId generation now =>
      simp only [event, connectEvent]
      split
      · split <;> simp [extendSequences, isAdmission, hne hop]
      · simp [extendSequences, isAdmission]
  | admitSequence clientId sequence now =>
      simp only [event, admissionEvent]
      split <;> simp [extendSequences, isAdmission, hne hop]
  | disconnect clientId now => simp [event, extendSequences, isAdmission]
  | reroute clientId stationId now => simp [event, extendSequences, isAdmission]
  | expireDisconnected now => simp [event, extendSequences, isAdmission]

/-! ## Admission in a run -/

/-- What the window and the last sequence of a session say about the log, at the tick `latest`. -/
structure Coupled (latest : Tick) (log : List GatewayEvent) (c : ClientId) (a : GatewaySession) :
    Prop where
  window : a.commandTick ≤ latest
  later : ∀ tick, a.commandTick < tick → admittedAt c tick log = 0
  counted : admittedAt c a.commandTick log ≤ a.commandsThisTick
  newest : ∀ sequence ∈ sinceReset c log, ∃ last, a.lastSequence = some last ∧ sequence ≤ last
  since : ∀ since, a.state = .disconnected since → a.commandTick ≤ since ∧ since ≤ latest

/-- What holds of a client in a run, at the tick `latest`. -/
structure ClientLaw (config : GatewayConfig) (latest : Tick) (log : List GatewayEvent)
    (c : ClientId) (session : Option GatewaySession) : Prop where
  within : ∀ tick, admittedAt c tick log ≤ config.maxCommandsPerTick
  increasing : (sinceReset c log).Pairwise (· < ·)
  coupled : ∀ a, session = some a → Coupled latest log c a
  /-- Without a session nothing was admitted for the ticks to come. -/
  absent : session = none → ∀ tick, latest ≤ tick → admittedAt c tick log = 0

variable {latest now : Tick} {log : List GatewayEvent} {a b : GatewaySession}

lemma Coupled.mono (h : Coupled latest log c a) (hnow : latest ≤ now) : Coupled now log c a where
  window := le_trans h.window hnow
  later := h.later
  counted := h.counted
  newest := h.newest
  since since hstate := ⟨(h.since since hstate).1, le_trans (h.since since hstate).2 hnow⟩

/-- A session past its grace window was disconnected in an earlier tick. -/
lemma Coupled.commandTick_lt (h : Coupled latest log c a)
    (hexpired : a.isExpired config now = true) : a.commandTick < now := by
  cases hstate : a.state with
  | connected => simp [GatewaySession.isExpired, hstate] at hexpired
  | disconnected since =>
      have hsince : since < now := by
        rw [TypedId.lt_iff_get_lt, UInt64.lt_iff_toNat_lt]
        simp only [GatewaySession.isExpired, hstate, decide_eq_true_eq] at hexpired
        omega
      exact lt_of_le_of_lt (h.since since hstate).1 hsince

/-- The window of a tick counts what was admitted in it. -/
lemma Coupled.admittedAt_le (h : Coupled latest log c a) (hnow : latest ≤ now) :
    admittedAt c now log ≤ windowCount a now := by
  simp only [windowCount, openWindow]
  split
  · rename_i hne
    have hlt : a.commandTick < now := lt_of_le_of_ne (le_trans h.window hnow) hne
    exact (h.later now hlt).le
  · rename_i heq
    rw [not_not] at heq
    exact heq ▸ h.counted

lemma later_openWindow (h : Coupled latest log c a) (hnow : latest ≤ now) {tick : Tick}
    (htick : now < tick) : admittedAt c tick log = 0 :=
  h.later tick (lt_of_le_of_lt (le_trans h.window hnow) htick)

/-- The window and the last sequence of the session follow the log. -/
lemma Changes.coupled {event : GatewayEvent} (hchanges : Changes config c now a b event)
    (h : Coupled latest log c a) (hnow : latest ≤ now) : Coupled now (log ++ [event]) c b := by
  cases hchanges with
  | kept htick hcount hlast hstate =>
      refine ⟨htick ▸ le_trans h.window hnow, fun tick hlt => ?_, ?_, ?_, fun since hsince => ?_⟩
      · simpa [isAdmission] using h.later tick (htick ▸ hlt)
      · rw [htick, hcount]
        simpa [isAdmission] using h.counted
      · rw [hlast]
        simpa [extendSequences] using h.newest
      · rw [htick]
        rcases hstate with hsame | hconnected | hdisconnected
        · obtain ⟨hle, hlatest⟩ := h.since since (hsame ▸ hsince)
          exact ⟨hle, le_trans hlatest hnow⟩
        · rw [hconnected] at hsince
          cases hsince
        · rw [hdisconnected] at hsince
          cases hsince
          exact ⟨le_trans h.window hnow, le_refl _⟩
  | replaced stationId hexpired =>
      have hlt : a.commandTick < now := h.commandTick_lt hexpired
      refine ⟨le_refl _, fun tick htick => ?_, ?_, by simp [extendSequences],
        fun since hsince => absurd hsince (by simp [replaceExpired])⟩
      · simpa [isAdmission] using h.later tick (lt_trans hlt htick)
      · simpa [isAdmission, replaceExpired] using h.later now hlt
  | opened hstate =>
      refine ⟨(commandTick_openWindow a now).le, fun tick hlt => ?_, ?_, ?_, fun since hsince => ?_⟩
      · rw [commandTick_openWindow] at hlt
        simpa [isAdmission] using later_openWindow h hnow hlt
      · rw [commandTick_openWindow]
        simpa [isAdmission, windowCount] using h.admittedAt_le hnow
      · rw [lastSequence_openWindow]
        simpa [extendSequences] using h.newest
      · rw [state_openWindow, hstate] at hsince
        cases hsince
  | @admitted sequence hadmits =>
      obtain ⟨hstate, hnewer, -⟩ := hadmits
      have hcount := h.admittedAt_le hnow
      refine ⟨(commandTick_openWindow a now).le, fun tick hlt => ?_, ?_, ?_,
        fun since hsince => ?_⟩
      · have hlt : now < tick := by simpa [withAdmission, commandTick_openWindow] using hlt
        simpa [isAdmission, hlt.ne] using later_openWindow h hnow hlt
      · simp only [withAdmission, commandTick_openWindow, admittedAt_concat, isAdmission,
          decide_true, and_self, if_true]
        omega
      · simp only [sinceReset_concat, extendSequences, if_true, withAdmission]
        intro earlier hearlier
        rcases List.mem_append.mp hearlier with hmem | hmem
        · obtain ⟨last, hlast, hle⟩ := h.newest earlier hmem
          exact ⟨sequence, rfl, hle.trans (hnewer last hlast).le⟩
        · exact ⟨sequence, rfl, (List.mem_singleton.mp hmem).le⟩
      · have hopen : (openWindow a now).state = .disconnected since := hsince
        rw [state_openWindow, hstate] at hopen
        cases hopen

/-- The quota of a tick is checked against the window, which counts what was admitted in it. -/
lemma Changes.within {event : GatewayEvent} (hchanges : Changes config c now a b event)
    (h : Coupled latest log c a) (hnow : latest ≤ now)
    (hwithin : ∀ tick, admittedAt c tick log ≤ config.maxCommandsPerTick) (tick : Tick) :
    admittedAt c tick (log ++ [event]) ≤ config.maxCommandsPerTick := by
  cases hchanges with
  | kept => simpa [isAdmission] using hwithin tick
  | replaced => simpa [isAdmission] using hwithin tick
  | opened => simpa [isAdmission] using hwithin tick
  | @admitted sequence hadmits =>
      have hcount := h.admittedAt_le hnow
      have hroom := hadmits.2.2
      rw [admittedAt_concat]
      by_cases htick : now = tick
      · subst htick
        simp only [isAdmission, decide_true, and_self, if_true]
        omega
      · simpa [isAdmission, htick] using hwithin tick

/-- An admitted sequence is above the last one, and that above all since the reset. -/
lemma Changes.increasing {event : GatewayEvent} (hchanges : Changes config c now a b event)
    (h : Coupled latest log c a) (hincreasing : (sinceReset c log).Pairwise (· < ·)) :
    (sinceReset c (log ++ [event])).Pairwise (· < ·) := by
  cases hchanges with
  | kept => simpa [extendSequences] using hincreasing
  | replaced => simp [extendSequences]
  | opened => simpa [extendSequences] using hincreasing
  | @admitted sequence hadmits =>
      simp only [sinceReset_concat, extendSequences, if_true]
      refine List.pairwise_append.mpr ⟨hincreasing, List.pairwise_singleton _ _,
        fun earlier hearlier new hnew => ?_⟩
      obtain ⟨last, hlast, hle⟩ := h.newest earlier hearlier
      rw [List.mem_singleton.mp hnew]
      exact lt_of_le_of_lt hle (hadmits.2.1 last hlast)

/-- **What an operation keeps for its client.** -/
lemma Changes.clientLaw {event : GatewayEvent} (hchanges : Changes config c now a b event)
    (h : ClientLaw config latest log c (some a)) (hnow : latest ≤ now) :
    ClientLaw config now (log ++ [event]) c (some b) where
  within := hchanges.within (h.coupled a rfl) hnow h.within
  increasing := hchanges.increasing (h.coupled a rfl) h.increasing
  coupled b' hb' := Option.some.inj hb' ▸ hchanges.coupled (h.coupled a rfl) hnow
  absent hnone := by simp at hnone

/-- **What an operation keeps for every client.** -/
lemma ClientLaw.step {op : GatewayOp} (h : ClientLaw t.config latest log c (t.session c))
    (hnow : latest ≤ op.tick) :
    ClientLaw t.config op.tick (log ++ [t.event op]) c ((t.step op).session c) := by
  by_cases hop : op.client = some c
  · cases ha : t.session c with
    | some a =>
        obtain ⟨b, hb, hchanges⟩ := changes_step hop ha
        rw [ha] at h
        rw [hb]
        exact hchanges.clientLaw h hnow
    | none =>
        have habsent := h.absent ha
        rcases absent_step hop ha with ⟨hnone, hevent⟩ | ⟨stationId, hsome, hevent⟩
        · rw [hnone, hevent]
          refine ⟨fun tick => by simpa [isAdmission] using h.within tick,
            by simpa [extendSequences] using h.increasing, by simp, fun _ tick htick => ?_⟩
          simpa [isAdmission] using habsent tick (le_trans hnow htick)
        · rw [hsome, hevent]
          refine ⟨fun tick => by simpa [isAdmission] using h.within tick,
            by simp [extendSequences], fun a hcreated => ?_, by simp⟩
          obtain rfl := Option.some.inj hcreated
          refine ⟨le_refl _, fun tick htick => ?_, ?_, by simp [extendSequences],
            fun since hsince => absurd hsince (by simp [createSession])⟩
          · simpa [isAdmission] using habsent tick (le_trans hnow htick.le)
          · simpa [isAdmission, createSession] using habsent op.tick hnow
  · obtain ⟨hsequences, hadmission⟩ := other_event (t := t) hop
    have hlog : ∀ tick, admittedAt c tick (log ++ [t.event op]) = admittedAt c tick log :=
      fun tick => by simp [hadmission]
    have hreset : sinceReset c (log ++ [t.event op]) = sinceReset c log := by simp [hsequences]
    rcases other_step (t := t) hop with hsame | ⟨hnone, a, ha, hexpired⟩
    · rw [hsame]
      refine ⟨fun tick => by rw [hlog]; exact h.within tick, by rw [hreset]; exact h.increasing,
        fun a ha => ?_, fun ha tick htick => ?_⟩
      · have hmono := (h.coupled a ha).mono hnow
        exact ⟨hmono.window, fun tick hlt => by rw [hlog]; exact hmono.later tick hlt,
          by rw [hlog]; exact hmono.counted, by rw [hreset]; exact hmono.newest, hmono.since⟩
      · rw [hlog]
        exact h.absent ha tick (le_trans hnow htick)
    · rw [hnone]
      refine ⟨fun tick => by rw [hlog]; exact h.within tick, by rw [hreset]; exact h.increasing,
        by simp, fun _ tick htick => ?_⟩
      have hcoupled := h.coupled a ha
      rw [hlog]
      exact hcoupled.later tick (lt_of_lt_of_le (hcoupled.commandTick_lt hexpired) htick)

end GatewaySessionTable

/-! ## The law -/

/-- A table and the log of what it reported. -/
structure GatewayLog where
  table : GatewaySessionTable
  log : List GatewayEvent

namespace GatewayLog

open GatewaySessionTable

/-- An empty table. -/
def new (config : GatewayConfig) : GatewayLog := ⟨.new config, []⟩

/-- One operation. -/
def step (run : GatewayLog) (op : GatewayOp) : GatewayLog where
  table := run.table.step op
  log := run.log ++ [run.table.event op]

/-- The tables of a run. -/
lemma table_execute (run : GatewayLog) (ops : List GatewayOp) :
    (execute step run ops).table = execute GatewaySessionTable.step run.table ops := by
  induction ops generalizing run with
  | nil => rfl
  | cons op ops ih => exact ih (run.step op)

/-- A run whose ticks do not go back keeps the law of every client. -/
lemma clientLaw_execute (run : GatewayLog) {latest : Tick} {ops : List GatewayOp}
    (hticks : ops.Pairwise fun a b => a.tick ≤ b.tick) (hlatest : ∀ op ∈ ops, latest ≤ op.tick)
    (h : ∀ c, ClientLaw run.table.config latest run.log c (run.table.session c)) :
    ∃ latest, ∀ c, ClientLaw run.table.config latest (execute step run ops).log c
      ((execute step run ops).table.session c) := by
  induction ops generalizing run latest with
  | nil => exact ⟨latest, h⟩
  | cons op ops ih =>
      obtain ⟨hop, hrest⟩ := List.pairwise_cons.mp hticks
      have hstep : ∀ c, ClientLaw (run.step op).table.config op.tick (run.step op).log c
          ((run.step op).table.session c) := by
        intro c
        show ClientLaw (run.table.step op).config _ _ _ _
        rw [config_step]
        exact (h c).step (hlatest op List.mem_cons_self)
      have hconfig : (run.step op).table.config = run.table.config := config_step run.table op
      rw [← hconfig]
      exact ih _ hrest hop hstep

/-- A rejected command leaves the last sequence and the route of every session. -/
lemma rejected_keeps {t : GatewaySessionTable} {c : ClientId} {sequence : UInt64} {now : Tick}
    {error : GatewayError} (h : (t.admitSequence c sequence now).1 = .error error) (c' : ClientId) :
    ((t.admitSequence c sequence now).2.session c').map (fun a => (a.lastSequence, a.route))
      = (t.session c').map fun a => (a.lastSequence, a.route) := by
  rcases t.admitSequence_cases c sequence now with
    ⟨a, stats, -, -, hok⟩ | ⟨-, error', stats, hrejected | ⟨a, ha, -, hrejected⟩⟩
  · rw [hok] at h
    cases h
  · rw [hrejected]
    rfl
  · rw [hrejected]
    show ((t.putSession c (openWindow a now)).session c').map _ = _
    by_cases hc : c' = c
    · subst hc
      rw [session_putSession_self ha, ha]
      simp [lastSequence_openWindow, route_openWindow]
    · rw [session_putSession_ne hc]

/-- **The admission law.**  In every run whose ticks do not go back, the sequences admitted for a
client between two resets of its session increase, no tick admits more commands of a client than the
configuration allows, the table holds no more sessions than it may, and a rejected command leaves
the last sequence and the route of every session. -/
theorem admission_law (config : GatewayConfig) (ops : List GatewayOp)
    (hticks : ops.Pairwise fun a b => a.tick ≤ b.tick) :
    let run := execute step (new config) ops
    (∀ c, (sinceReset c run.log).Pairwise (· < ·))
      ∧ (∀ c tick, admittedAt c tick run.log ≤ config.maxCommandsPerTick)
      ∧ run.table.len ≤ config.maxSessions
      ∧ ∀ c sequence now error, (run.table.admitSequence c sequence now).1 = .error error →
        ∀ c', ((run.table.admitSequence c sequence now).2.session c').map
            (fun a => (a.lastSequence, a.route))
          = (run.table.session c').map fun a => (a.lastSequence, a.route) := by
  intro run
  have hnew : ∀ c, ClientLaw config ⟨0⟩ [] c ((GatewaySessionTable.new config).session c) := by
    intro c
    refine ⟨fun tick => Nat.zero_le _, List.Pairwise.nil, fun a ha => ?_, fun _ tick _ => rfl⟩
    simp [GatewaySessionTable.session, GatewaySessionTable.new, AdaptiveMap.get_eq] at ha
  obtain ⟨latest, hlaw⟩ := clientLaw_execute (new config) hticks
    (fun op _ => (UInt64.zero_le : (0 : UInt64) ≤ op.tick.get)) hnew
  refine ⟨fun c => (hlaw c).increasing, fun c => (hlaw c).within, ?_,
    fun c sequence now error h c' => rejected_keeps h c'⟩
  have hinv : run.table.ExpiryInv := by
    rw [table_execute]
    exact execute_preserves (fun _ op h => h.step op) (expiryInv_new config) ops
  have hconfig : run.table.config = config := by
    rw [table_execute]
    exact execute_preserves (fun t op h => (config_step t op).trans h) rfl ops
  exact hconfig ▸ hinv.capacity

/-- One client, disconnected and back in the tick in which it sends, and removed later. -/
theorem admission_law_reconnecting :
    let ops : List GatewayOp := [.connect ⟨7⟩ ⟨1⟩ ⟨5⟩, .admitSequence ⟨7⟩ 1 ⟨5⟩,
      .disconnect ⟨7⟩ ⟨5⟩, .reconnect ⟨7⟩ 1 ⟨5⟩, .admitSequence ⟨7⟩ 2 ⟨5⟩,
      .admitSequence ⟨7⟩ 3 ⟨5⟩, .disconnect ⟨7⟩ ⟨6⟩, .expireDisconnected ⟨20⟩]
    let run := execute step (new ⟨4, 3, 2⟩) ops
    (∀ c, (sinceReset c run.log).Pairwise (· < ·))
      ∧ (∀ c tick, admittedAt c tick run.log ≤ 2)
      ∧ run.table.len ≤ 4
      ∧ ∀ c sequence now error, (run.table.admitSequence c sequence now).1 = .error error →
        ∀ c', ((run.table.admitSequence c sequence now).2.session c').map
            (fun a => (a.lastSequence, a.route))
          = (run.table.session c').map fun a => (a.lastSequence, a.route) :=
  admission_law ⟨4, 3, 2⟩ _ (by decide)

end GatewayLog

end SectorSync
