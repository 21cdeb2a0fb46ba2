import Mathlib.Data.List.TakeWhile
import SectorSync.Core.GatewayRun

/-!
# Session expiry

The deadline heap of the session table is never corrected: reconnects and repeated disconnects
leave entries behind that no longer describe their session, and each is recognised as stale when
it comes up.  What has to hold is the other direction, that no disconnected session is without its
entry; `ExpiryInv` says so, and that the heap stays short.

`Performs` is what an operation can do to the table.  `expireDisconnected_spec` is what a pass of
expiry does to any table: it removes the sessions of the due entries that are not stale.
With the invariant these are exactly the sessions past their grace window (`expiry_exact`).
-/

namespace SectorSync

open Machine

/-- The session has been disconnected for longer than the grace window. -/
def GatewaySession.isExpired (config : GatewayConfig) (now : Tick) (session : GatewaySession) :
    Bool :=
  match session.state with
  | .connected => false
  | .disconnected since =>
      decide (config.reconnectGraceTicks.toNat < now.get.toNat - since.get.toNat)

/-- Entries come up in the order of their due times. -/
lemma ExpiryDeadline.deadline_mono {a b : ExpiryDeadline} (h : a ≤ b) :
    a.deadline ≤ b.deadline := by
  have hkey : a.key ≤ b.key := h
  rcases (Prod.Lex.le_iff).mp hkey with hlt | ⟨heq, -⟩
  · exact le_of_lt hlt
  · exact le_of_eq heq

namespace GatewaySessionTable

variable {t : GatewaySessionTable} {c : ClientId}

/-! ## What operations do -/

/-- What an operation can do to the table. -/
inductive Performs (t : GatewaySessionTable) : GatewayOp → GatewaySessionTable → Prop where
  /-- It changes the statistics at most. -/
  | counted (op : GatewayOp) (stats : GatewayStats) : Performs t op { t with stats := stats }
  /-- It writes a session that is connected then. -/
  | rewritten {op : GatewayOp} {c : ClientId} {a : GatewaySession} (b : GatewaySession)
      (stats : GatewayStats) (hop : op.client = some c) (ha : t.session c = some a)
      (hb : b.state = .connected) : Performs t op { t.putSession c b with stats := stats }
  | created {c : ClientId} {stationId : StationId} {now : Tick} (stats : GatewayStats)
      (hnone : t.session c = none) (hroom : t.len < t.config.maxSessions) :
      Performs t (.connect c stationId now)
        { t with sessions := t.sessions.insert c (createSession c stationId now), stats := stats }
  | disconnected {c : ClientId} {a : GatewaySession} (now : Tick) (ha : t.session c = some a) :
      Performs t (.disconnect c now)
        { t.putSession c { a with lastSeen := now, state := .disconnected now } with
          expiryDeadlines := t.expiryDeadlines.push
            ⟨expiryDeadline now t.config.reconnectGraceTicks, c, now.get⟩
          }.compactExpiryDeadlinesIfNeeded
  | expired (now : Tick) : Performs t (.expireDisconnected now) (t.expireDisconnected now).2

lemma state_rerouteSession (session : GatewaySession) (stationId : StationId) (now : Tick)
    (stats : GatewayStats) :
    (rerouteSession session stationId now stats).1.state = session.state := by
  simp only [rerouteSession]
  split <;> rfl

lemma state_connectExisting (session : GatewaySession) (stationId : StationId) (now : Tick)
    (grace : UInt64) (stats : GatewayStats) :
    (connectExisting session stationId now grace stats).2.1.state = .connected := by
  simp only [connectExisting]
  split
  · rename_i hstate
    exact (state_rerouteSession session stationId now stats).trans hstate
  · split <;> rfl

lemma state_openWindow (session : GatewaySession) (now : Tick) :
    (openWindow session now).state = session.state := by
  simp only [openWindow]
  split <;> rfl

/-- **What an operation does to the table.** -/
theorem performs_step (t : GatewaySessionTable) (op : GatewayOp) : Performs t op (t.step op) := by
  cases op with
  | connect clientId stationId now =>
      cases ha : t.session clientId with
      | some a =>
          simp only [step, connect, ha]
          exact .rewritten _ _ rfl ha (state_connectExisting a stationId now _ _)
      | none =>
          simp only [step, connect, ha]
          split
          · exact .counted _ _
          · rename_i hroom
            exact .created _ ha (not_le.mp hroom)
  | reconnect clientId generation now =>
      cases ha : t.session clientId with
      | none =>
          simp only [step, reconnect, ha]
          exact .counted _ _
      | some a =>
          simp only [step, reconnect, ha]
          split
          · exact .counted _ _
          · cases hstate : a.state with
            | connected => exact .rewritten _ t.stats rfl ha (by rfl)
            | disconnected since =>
                simp only []
                split
                · exact .rewritten _ _ rfl ha rfl
                · exact .rewritten _ _ rfl ha rfl
  | disconnect clientId now =>
      cases ha : t.session clientId with
      | none =>
          simp only [step, disconnect, ha]
          exact .counted _ _
      | some a =>
          simp only [step, disconnect, ha]
          exact .disconnected now ha
  | reroute clientId stationId now =>
      cases ha : t.session clientId with
      | none =>
          simp only [step, reroute, ha]
          exact .counted _ _
      | some a =>
          cases hstate : a.state with
          | connected =>
              simp only [step, reroute, ha, hstate]
              exact .rewritten _ _ rfl ha
                ((state_rerouteSession a stationId now _).trans hstate)
          | disconnected since =>
              simp only [step, reroute, ha, hstate]
              exact .counted _ _
  | expireDisconnected now => exact .expired now
  | admitSequence clientId sequence now =>
      cases ha : t.session clientId with
      | none =>
          simp only [step, admitSequence, ha]
          exact .counted _ _
      | some a =>
          cases hstate : a.state with
          | disconnected since =>
              simp only [step, admitSequence, ha, hstate]
              exact .counted _ _
          | connected =>
              have hwindow : (openWindow a now).state = .connected :=
                (state_openWindow a now).trans hstate
              simp only [step, admitSequence, ha, hstate]
              split
              · exact .counted _ _
              · split
                · exact .rewritten _ _ rfl ha hwindow
                · exact .rewritten _ _ rfl ha hwindow

lemma config_compact (t : GatewaySessionTable) :
    t.compactExpiryDeadlinesIfNeeded.config = t.config := by
  rw [compactExpiryDeadlinesIfNeeded]
  split_ifs <;> rfl

/-! ## A pass of expiry -/

/-- The entry is due and describes the session. -/
def isCurrent (config : GatewayConfig) (now : Tick) (due : ExpiryDeadline)
    (session : GatewaySession) : Bool :=
  match session.state with
  | .connected => false
  | .disconnected since =>
      decide (since.get = due.since
        ∧ now.get.saturatingSub since.get > config.reconnectGraceTicks)

lemma currentMatches_eq (t : GatewaySessionTable) (now : Tick) (due : ExpiryDeadline) :
    t.currentMatches now due = (t.session due.clientId).any (isCurrent t.config now due) := by
  rw [currentMatches]
  cases hs : t.session due.clientId with
  | none => rfl
  | some session => cases hstate : session.state <;> simp [isCurrent, hstate]

/-- **What a due entry does.**  It removes the session that it describes, or is stale. -/
lemma expireDue_cases (now : Tick) (acc : ℕ × GatewaySessionTable) (due : ExpiryDeadline) :
    (∃ session stats, acc.2.session due.clientId = some session
        ∧ isCurrent acc.2.config now due session = true
        ∧ expireDue now acc due = (acc.1 + 1,
          { acc.2 with sessions := acc.2.sessions.remove due.clientId, stats := stats }))
      ∨ ∃ stats, (∀ session, acc.2.session due.clientId = some session →
          isCurrent acc.2.config now due session = false)
        ∧ expireDue now acc due = (acc.1, { acc.2 with stats := stats }) := by
  have hmatches : ∀ stats, ({ acc.2 with stats := stats } : GatewaySessionTable).currentMatches
      now due = (acc.2.session due.clientId).any (isCurrent acc.2.config now due) :=
    fun stats => currentMatches_eq { acc.2 with stats := stats } now due
  simp only [expireDue, hmatches]
  cases hs : acc.2.session due.clientId with
  | none => exact Or.inr ⟨_, fun _ h => absurd h (by simp), rfl⟩
  | some session =>
      rw [Option.any_some]
      cases hcurrent : isCurrent acc.2.config now due session with
      | true => exact Or.inl ⟨session, _, rfl, hcurrent, rfl⟩
      | false =>
          refine Or.inr ⟨_, fun session' h => ?_, rfl⟩
          rwa [← Option.some.inj h]

lemma session_expireDue_eq (now : Tick) (acc : ℕ × GatewaySessionTable) (due : ExpiryDeadline)
    (c : ClientId) :
    (expireDue now acc due).2.session c = (acc.2.session c).filter fun session =>
      !(decide (due.clientId = c) && isCurrent acc.2.config now due session) := by
  rcases expireDue_cases now acc due with ⟨session, stats, hs, hcurrent, h⟩ | ⟨stats, hstale, h⟩
  · have hremove : (expireDue now acc due).2.session c
        = if c = due.clientId then none else acc.2.session c := by
      rw [h]
      exact acc.2.sessions.get_remove due.clientId c
    rw [hremove]
    split_ifs with hc
    · rw [hc, hs, Option.filter_some, hcurrent]
      simp
    · cases acc.2.session c with
      | none => rfl
      | some session => simp [Option.filter_some, Ne.symm hc]
  · have hkeep : (expireDue now acc due).2.session c = acc.2.session c := by
      rw [h]
      rfl
    rw [hkeep]
    cases hs : acc.2.session c with
    | none => rfl
    | some session =>
        have hfalse : due.clientId = c → isCurrent acc.2.config now due session = false :=
          fun hc => hstale session (by rw [hc, hs])
        rw [Option.filter_some, if_pos]
        simpa [← imp_iff_not_or] using hfalse

lemma config_expireDue (now : Tick) (acc : ℕ × GatewaySessionTable) (due : ExpiryDeadline) :
    (expireDue now acc due).2.config = acc.2.config := by
  rcases expireDue_cases now acc due with ⟨_, _, -, -, h⟩ | ⟨_, -, h⟩ <;> rw [h]

lemma expiryDeadlines_expireDue (now : Tick) (acc : ℕ × GatewaySessionTable)
    (due : ExpiryDeadline) :
    (expireDue now acc due).2.expiryDeadlines = acc.2.expiryDeadlines := by
  rcases expireDue_cases now acc due with ⟨_, _, -, -, h⟩ | ⟨_, -, h⟩ <;> rw [h]

/-- What is counted as expired is removed. -/
lemma len_expireDue (now : Tick) (acc : ℕ × GatewaySessionTable) (due : ExpiryDeadline) :
    (expireDue now acc due).1 + (expireDue now acc due).2.len = acc.1 + acc.2.len := by
  rcases expireDue_cases now acc due with ⟨session, stats, hs, -, h⟩ | ⟨stats, -, h⟩
  · have hremove := acc.2.sessions.len_remove_of_some hs
    rw [h]
    simp only [len]
    omega
  · rw [h]
    rfl

/-- What a pass over due entries does. -/
lemma foldl_expireDue (now : Tick) (due : List ExpiryDeadline) (acc : ℕ × GatewaySessionTable) :
    (due.foldl (expireDue now) acc).2.config = acc.2.config
      ∧ (due.foldl (expireDue now) acc).2.expiryDeadlines = acc.2.expiryDeadlines
      ∧ (due.foldl (expireDue now) acc).1 + (due.foldl (expireDue now) acc).2.len
        = acc.1 + acc.2.len
      ∧ ∀ c, (due.foldl (expireDue now) acc).2.session c
        = (acc.2.session c).filter fun session =>
          !due.any fun d => decide (d.clientId = c) && isCurrent acc.2.config now d session := by
  induction due generalizing acc with
  | nil =>
      refine ⟨rfl, rfl, rfl, fun c => ?_⟩
      cases hs : acc.2.session c <;> simp [hs, Option.filter_some]
  | cons d due ih =>
      obtain ⟨hconfig, hdeadlines, hlen, hsession⟩ := ih (expireDue now acc d)
      rw [config_expireDue] at hconfig
      rw [expiryDeadlines_expireDue] at hdeadlines
      rw [len_expireDue] at hlen
      refine ⟨hconfig, hdeadlines, hlen, fun c => ?_⟩
      rw [List.foldl_cons, hsession c, session_expireDue_eq, config_expireDue,
        Option.filter_filter]
      simp only [List.any_cons, Bool.not_or]

/-- The entries that a pass takes from the heap. -/
def due (t : GatewaySessionTable) (now : Tick) : List ExpiryDeadline :=
  (t.expiryDeadlines.popWhile fun d => decide (d.deadline ≤ now.get)).1

/-- **What a pass of expiry does.**  It removes the sessions that a due entry describes, and counts
them. -/
theorem expireDisconnected_spec (t : GatewaySessionTable) (now : Tick) :
    (t.expireDisconnected now).2.config = t.config
      ∧ (t.expireDisconnected now).2.expiryDeadlines
        = (t.expiryDeadlines.popWhile fun d => decide (d.deadline ≤ now.get)).2
      ∧ (t.expireDisconnected now).1 + (t.expireDisconnected now).2.len = t.len
      ∧ ∀ c, (t.expireDisconnected now).2.session c = (t.session c).filter fun session =>
        !(t.due now).any fun d => decide (d.clientId = c) && isCurrent t.config now d session := by
  obtain ⟨hconfig, hdeadlines, hlen, hsession⟩ := foldl_expireDue now (t.due now) (0, { t with
    expiryDeadlines := (t.expiryDeadlines.popWhile fun d => decide (d.deadline ≤ now.get)).2 })
  exact ⟨hconfig, hdeadlines, hlen.trans (Nat.zero_add _), hsession⟩

lemma config_step (t : GatewaySessionTable) (op : GatewayOp) : (t.step op).config = t.config := by
  have hstep := t.performs_step op
  generalize t.step op = t' at hstep
  cases hstep with
  | counted op stats => rfl
  | rewritten b stats hop ha hb => rfl
  | created stats hnone hroom => rfl
  | disconnected now ha => exact config_compact _
  | expired now => exact (t.expireDisconnected_spec now).1

lemma isExpired_of_isCurrent {config : GatewayConfig} {now : Tick} {d : ExpiryDeadline}
    {session : GatewaySession} (h : isCurrent config now d session = true) :
    session.isExpired config now = true := by
  cases hstate : session.state with
  | connected => simp [isCurrent, hstate] at h
  | disconnected since =>
      simp only [isCurrent, hstate, decide_eq_true_eq, gt_iff_lt, UInt64.lt_iff_toNat_lt,
        UInt64.toNat_saturatingSub] at h
      simpa [GatewaySession.isExpired, hstate] using h.2

/-- A session is kept as it is by a pass of expiry, or was past its grace window. -/
lemma session_expireDisconnected_cases (t : GatewaySessionTable) (now : Tick) (c : ClientId) :
    (t.expireDisconnected now).2.session c = t.session c
      ∨ ((t.expireDisconnected now).2.session c = none
        ∧ ∃ session, t.session c = some session
          ∧ session.isExpired t.config now = true) := by
  rw [(t.expireDisconnected_spec now).2.2.2 c]
  cases hs : t.session c with
  | none => exact Or.inl rfl
  | some session =>
      rw [Option.filter_some]
      split
      · exact Or.inl rfl
      · rename_i hgone
        obtain ⟨d, -, hd⟩ : ∃ d ∈ t.due now, d.clientId = c
            ∧ isCurrent t.config now d session = true := by simpa using hgone
        exact Or.inr ⟨rfl, session, rfl, isExpired_of_isCurrent hd.2⟩

/-! ## The invariant -/

/-- The due time of a session that is disconnected since `since`, when it is a machine word. -/
lemma deadline_le_iff {since now : Tick} {grace : UInt64}
    (hfits : since.get.toNat + grace.toNat + 1 < UInt64.size) :
    expiryDeadline since grace ≤ now.get ↔ grace.toNat < now.get.toNat - since.get.toNat := by
  have hone : (1 : UInt64).toNat = 1 := rfl
  rw [UInt64.le_iff_toNat_le, expiryDeadline, UInt64.toNat_saturatingAdd,
    UInt64.toNat_saturatingAdd, hone]
  omega

/-- Every disconnected session has its entry, unless the due time is past the last tick, and
neither the table nor the heap is too long. -/
structure ExpiryInv (t : GatewaySessionTable) : Prop where
  scheduled : ∀ c session since, t.session c = some session →
    session.state = .disconnected since →
    since.get.toNat + t.config.reconnectGraceTicks.toNat + 1 < UInt64.size →
    ⟨expiryDeadline since t.config.reconnectGraceTicks, c, since.get⟩ ∈ t.expiryDeadlines
  capacity : t.len ≤ t.config.maxSessions
  short : t.expiryDeadlines.len ≤ max t.config.maxSessions 1 * 2

lemma expiryInv_new (config : GatewayConfig) : (new config).ExpiryInv where
  scheduled c session since h := by simp [GatewaySessionTable.session, new, AdaptiveMap.get_eq] at h
  capacity := by simp [len, new, AdaptiveMap.len_eq]
  short := Nat.zero_le _

lemma len_putSession (t : GatewaySessionTable) (c : ClientId) (b : GatewaySession) :
    (t.putSession c b).len = t.len := t.sessions.len_modify c _

/-- The heap that is rebuilt has an entry for every disconnected session, and no other. -/
lemma mem_filterMap_sessionDeadline {c : ClientId} {session : GatewaySession} {since : Tick}
    (hs : t.session c = some session) (hstate : session.state = .disconnected since) :
    ⟨expiryDeadline since t.config.reconnectGraceTicks, c, since.get⟩
      ∈ t.sessions.iter.filterMap fun entry =>
        sessionDeadline t.config.reconnectGraceTicks entry.1 entry.2 :=
  List.mem_filterMap.mpr
    ⟨(c, session), AdaptiveMap.mem_iter.mpr hs, by simp [sessionDeadline, hstate]⟩

/-- Compaction keeps the entries that are needed and shortens the heap. -/
lemma ExpiryInv.compact
    (hscheduled : ∀ c session since, t.session c = some session →
      session.state = .disconnected since →
      since.get.toNat + t.config.reconnectGraceTicks.toNat + 1 < UInt64.size →
      ⟨expiryDeadline since t.config.reconnectGraceTicks, c, since.get⟩ ∈ t.expiryDeadlines)
    (hcapacity : t.len ≤ t.config.maxSessions) : t.compactExpiryDeadlinesIfNeeded.ExpiryInv := by
  rw [compactExpiryDeadlinesIfNeeded]
  split_ifs with hlen
  · exact ⟨hscheduled, hcapacity, hlen⟩
  · refine ⟨fun c session since hs hstate _ => ?_, hcapacity, ?_⟩
    · exact MinHeap.mem_collect.mpr (mem_filterMap_sessionDeadline hs hstate)
    · have hiter := AdaptiveMap.length_iter_le t.sessions
      have hdeadlines := List.length_filterMap_le (fun entry : ClientId × GatewaySession =>
        sessionDeadline t.config.reconnectGraceTicks entry.1 entry.2) t.sessions.iter
      simp only [len] at hcapacity
      simp only [MinHeap.len_collect]
      omega

/-- A session that is written keeps the table as long as it was. -/
lemma ExpiryInv.putSession (h : t.ExpiryInv) {c : ClientId} {a : GatewaySession}
    (ha : t.session c = some a) {b : GatewaySession} (hb : b.state = .connected)
    (stats : GatewayStats) : ({ t.putSession c b with stats := stats }).ExpiryInv where
  scheduled c' session since hs hstate hfits := by
    have hput : (t.putSession c b).session c' = some session := hs
    by_cases hc : c' = c
    · subst hc
      rw [session_putSession_self ha, Option.some.injEq] at hput
      rw [← hput, hb] at hstate
      cases hstate
    · rw [session_putSession_ne hc] at hput
      exact h.scheduled c' session since hput hstate hfits
  capacity := (len_putSession t c b).trans_le h.capacity
  short := h.short

lemma ExpiryInv.created (h : t.ExpiryInv) {c : ClientId} (hnone : t.session c = none)
    (hroom : t.len < t.config.maxSessions) (stationId : StationId) (now : Tick)
    (stats : GatewayStats) :
    ({ t with
      sessions := t.sessions.insert c (createSession c stationId now)
      stats := stats }).ExpiryInv where
  scheduled c' session since hs hstate hfits := by
    have hget := t.sessions.get_insert c c' (createSession c stationId now)
    by_cases hc : c' = c
    · rw [if_pos hc] at hget
      cases hget.symm.trans hs
      cases hstate
    · rw [if_neg hc] at hget
      exact h.scheduled c' session since (hget.symm.trans hs) hstate hfits
  capacity := by
    have hlen := t.sessions.len_insert_of_none hnone (createSession c stationId now)
    simp only [len] at hroom ⊢
    omega
  short := h.short

lemma ExpiryInv.disconnected (h : t.ExpiryInv) {c : ClientId} {a : GatewaySession}
    (ha : t.session c = some a) (now : Tick) :
    ({ t.putSession c { a with lastSeen := now, state := .disconnected now } with
      expiryDeadlines := t.expiryDeadlines.push
        ⟨expiryDeadline now t.config.reconnectGraceTicks, c, now.get⟩
      }.compactExpiryDeadlinesIfNeeded).ExpiryInv := by
  refine ExpiryInv.compact (fun c' session since hs hstate hfits => ?_)
    ((len_putSession t c _).trans_le h.capacity)
  rw [MinHeap.mem_push]
  have hput : (t.putSession c { a with lastSeen := now, state := .disconnected now }).session c'
      = some session := hs
  by_cases hc : c' = c
  · subst hc
    rw [session_putSession_self ha, Option.some.injEq] at hput
    subst hput
    cases hstate
    exact Or.inl rfl
  · rw [session_putSession_ne hc] at hput
    exact Or.inr (h.scheduled c' session since hput hstate hfits)

/-- **With the invariant, a pass of expiry removes exactly the sessions past their grace window.**
-/
theorem ExpiryInv.session_expireDisconnected_iff (h : t.ExpiryInv) (now : Tick) (c : ClientId) :
    (t.expireDisconnected now).2.session c
      = (t.session c).filter fun session => !session.isExpired t.config now := by
  rw [(t.expireDisconnected_spec now).2.2.2 c]
  cases hs : t.session c with
  | none => rfl
  | some session =>
      have hiff : ((t.due now).any fun d =>
          decide (d.clientId = c) && isCurrent t.config now d session)
          = session.isExpired t.config now := by
        rw [Bool.eq_iff_iff]
        constructor
        · intro hany
          obtain ⟨d, -, -, hd⟩ : ∃ d ∈ t.due now, d.clientId = c
            ∧ isCurrent t.config now d session = true := by simpa using hany
          exact isExpired_of_isCurrent hd
        · intro hexpired
          cases hstate : session.state with
          | connected => simp [GatewaySession.isExpired, hstate] at hexpired
          | disconnected since =>
              simp only [GatewaySession.isExpired, hstate, decide_eq_true_eq] at hexpired
              have hfits : since.get.toNat + t.config.reconnectGraceTicks.toNat + 1
                  < UInt64.size := by
                have := now.get.toNat_lt_size
                omega
              -- the entry of the session is in the heap, and it is due
              have hmem := h.scheduled c session since hs hstate hfits
              have hdue : (⟨expiryDeadline since t.config.reconnectGraceTicks, c, since.get⟩ :
                  ExpiryDeadline) ∈ t.due now := by
                refine (MinHeap.mem_popWhile_fst fun a b hab hb => ?_).mpr
                  ⟨hmem, by simpa using (deadline_le_iff hfits).mpr hexpired⟩
                rw [decide_eq_true_eq] at hb ⊢
                exact le_trans (ExpiryDeadline.deadline_mono hab) hb
              refine List.any_eq_true.mpr ⟨_, hdue, ?_⟩
              simp only [decide_true, Bool.true_and, isCurrent, hstate, decide_eq_true_eq,
                true_and, gt_iff_lt, UInt64.lt_iff_toNat_lt, UInt64.toNat_saturatingSub]
              exact hexpired
      rw [Option.filter_some, Option.filter_some, hiff]

lemma ExpiryInv.expired (h : t.ExpiryInv) (now : Tick) :
    (t.expireDisconnected now).2.ExpiryInv := by
  obtain ⟨hconfig, hheap, hlen, -⟩ := t.expireDisconnected_spec now
  refine ⟨fun c session since hs hstate hfits => ?_, ?_, ?_⟩
  · rw [hconfig] at hfits ⊢
    rw [h.session_expireDisconnected_iff, Option.filter_eq_some_iff] at hs
    obtain ⟨hs, hkept⟩ := hs
    have hmem := h.scheduled c session since hs hstate hfits
    rw [hheap]
    -- the session is kept, so its entry was not due
    refine ((MinHeap.mem_popWhile _).mp hmem).resolve_left fun hdue => ?_
    have hle := List.mem_takeWhile_imp hdue
    rw [decide_eq_true_eq, deadline_le_iff hfits] at hle
    simp [GatewaySession.isExpired, hstate, hle] at hkept
  · rw [hconfig]
    have := h.capacity
    omega
  · rw [hconfig, hheap]
    have hdrop := (List.dropWhile_sublist (l := t.expiryDeadlines.entries)
      fun d => decide (d.deadline ≤ now.get)).length_le
    exact hdrop.trans h.short

lemma ExpiryInv.step (h : t.ExpiryInv) (op : GatewayOp) : (t.step op).ExpiryInv := by
  have hstep := t.performs_step op
  generalize t.step op = t' at hstep
  cases hstep with
  | counted op stats => exact ⟨h.scheduled, h.capacity, h.short⟩
  | rewritten b stats hop ha hb => exact h.putSession ha hb stats
  | created stats hnone hroom => exact h.created hnone hroom _ _ stats
  | disconnected now ha => exact h.disconnected ha now
  | expired now => exact h.expired now

/-- **Expiry is exact.**  In every run, with any ticks, a pass of expiry removes exactly the
sessions past their grace window and counts them, every disconnected session has its entry in the
heap unless its due time saturates, and the heap is short after every disconnect. -/
theorem expiry_exact (config : GatewayConfig) (ops : List GatewayOp) :
    let t := execute step (new config) ops
    (∀ now, (∀ c, (t.expireDisconnected now).2.session c
          = (t.session c).filter fun session => !session.isExpired config now)
        ∧ (t.expireDisconnected now).1 + (t.expireDisconnected now).2.len = t.len)
      ∧ (∀ c session since, t.session c = some session → session.state = .disconnected since →
        since.get.toNat + config.reconnectGraceTicks.toNat + 1 < UInt64.size →
        ⟨expiryDeadline since config.reconnectGraceTicks, c, since.get⟩ ∈ t.expiryDeadlines)
      ∧ ∀ c now, (t.disconnect c now).2.expiryDeadlines.len ≤ 2 * max 1 config.maxSessions := by
  intro t
  have hinv : t.ExpiryInv :=
    execute_preserves (fun _ op h => h.step op) (expiryInv_new config) ops
  have hconfig : ∀ ops, (execute step (new config) ops).config = config :=
    fun ops => execute_preserves (fun t op h => (config_step t op).trans h) rfl ops
  refine ⟨fun now => ⟨fun c => ?_, (t.expireDisconnected_spec now).2.2.1⟩,
    fun c session since hs hstate hfits => ?_, fun c now => ?_⟩
  · rw [hinv.session_expireDisconnected_iff now c, hconfig ops]
  · have hmem := hinv.scheduled c session since hs hstate (by rwa [hconfig ops])
    rwa [hconfig ops] at hmem
  · have hshort := (hinv.step (.disconnect c now)).short
    rw [config_step, hconfig ops] at hshort
    rw [Nat.mul_comm, max_comm]
    exact hshort

end GatewaySessionTable

end SectorSync
