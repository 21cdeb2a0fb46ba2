import SectorSync.Core.GatewayExpiry

/-!
# Reconnect tokens

A client proves that a session is its own by naming the generation of the session.  The pair of the
client and the generation is retired when the session is removed, or replaced by a new generation,
and a retired pair should be refused from then on.

A replacement counts the generation on, and nothing counts it back.  A removal forgets it: the next
session of the client starts at generation one again, and with it the pair that its first session
had.  `tokens_stay_retired_iff`: retired pairs are refused as long as no client whose session was
removed opens another, and only as long.
-/

namespace SectorSync

open Machine

namespace GatewaySessionTable

variable {t : GatewaySessionTable} {c : ClientId}

/-- The tokens that identified a session before the operation and do not after it. -/
def retiredBy (t : GatewaySessionTable) (op : GatewayOp) : List (ClientId × UInt64) :=
  t.sessions.iter.filterMap fun entry =>
    if ((t.step op).session entry.1).any fun b => decide (b.generation = entry.2.generation) then
      none
    else some (entry.1, entry.2.generation)

lemma mem_retiredBy {op : GatewayOp} {generation : UInt64} :
    (c, generation) ∈ t.retiredBy op ↔ ∃ a, t.session c = some a ∧ a.generation = generation
      ∧ ∀ b, (t.step op).session c = some b → b.generation ≠ generation := by
  have hiter : ∀ entry : ClientId × GatewaySession,
      entry ∈ t.sessions.iter ↔ t.session entry.1 = some entry.2 :=
    fun entry => AdaptiveMap.mem_iter
  simp only [retiredBy, List.mem_filterMap, hiter]
  constructor
  · rintro ⟨⟨c', a⟩, ha, hentry⟩
    split_ifs at hentry with hany
    obtain ⟨rfl, rfl⟩ := Prod.mk.inj (Option.some.inj hentry)
    refine ⟨a, ha, rfl, fun b hb heq => hany ?_⟩
    rw [hb, Option.any_some, decide_eq_true_eq]
    exact heq
  · rintro ⟨a, ha, rfl, hgone⟩
    refine ⟨(c, a), ha, ?_⟩
    rw [if_neg]
    intro hany
    cases hb : (t.step op).session c with
    | none => simp [hb] at hany
    | some b =>
        rw [hb, Option.any_some, decide_eq_true_eq] at hany
        exact hgone b hb hany

/-- A reconnect is refused unless it names the generation of the session. -/
lemma reconnect_refused_iff {generation : UInt64} {now : Tick} :
    (∃ error, (t.reconnect c generation now).1 = .error error)
      ↔ ∀ a, t.session c = some a → a.generation ≠ generation := by
  cases ha : t.session c with
  | none => simp [reconnect, ha]
  | some a =>
      by_cases hgeneration : a.generation = generation
      · refine iff_of_false ?_ fun h => h a rfl hgeneration
        rintro ⟨error, h⟩
        cases hstate : a.state with
        | connected => simp [reconnect, ha, hgeneration, hstate] at h
        | disconnected since =>
            simp only [reconnect, ha, hgeneration, hstate, ne_eq, not_true_eq_false,
              if_false] at h
            split at h <;> cases h
      · refine iff_of_true ⟨.badGeneration a.generation generation, ?_⟩ fun a' ha' => ?_
        · simp [reconnect, ha, hgeneration]
        · rwa [← Option.some.inj ha']

/-- Only a connect with room in the table creates a session. -/
lemma created_of_none {op : GatewayOp} {b : GatewaySession} (hnone : t.session c = none)
    (hb : (t.step op).session c = some b) :
    b.generation = 1 ∧ ∃ stationId now, op = .connect c stationId now
      ∧ t.len < t.config.maxSessions := by
  have hput : ∀ {clientId : ClientId} {a b' : GatewaySession}, t.session clientId = some a →
      (t.putSession clientId b').session c ≠ some b := by
    intro clientId a b' ha hsome
    have hne : c ≠ clientId := fun hc => by simp [← hc, hnone] at ha
    rw [session_putSession_ne hne, hnone] at hsome
    cases hsome
  have hstep := t.performs_step op
  generalize t.step op = t' at hstep hb
  cases hstep with
  | counted op stats => exact absurd (hnone.symm.trans hb) (by simp)
  | rewritten b' stats hop ha hstate => exact absurd hb (hput ha)
  | @created clientId stationId now stats _ hroom =>
      have hget := t.sessions.get_insert clientId c (createSession clientId stationId now)
      by_cases hc : c = clientId
      · rw [if_pos hc] at hget
        obtain rfl := Option.some.inj (hget.symm.trans hb)
        exact ⟨rfl, stationId, now, by rw [hc], hroom⟩
      · rw [if_neg hc] at hget
        exact absurd ((hnone.symm.trans hget.symm).trans hb) (by simp)
  | disconnected now ha =>
      rw [session_compact] at hb
      exact absurd hb (hput ha)
  | expired now => exact absurd (hnone.symm.trans (session_expireDisconnected hb)) (by simp)

/-- The generation of a session that stays never goes down. -/
lemma generation_le_step {op : GatewayOp} {a b : GatewaySession} (ha : t.session c = some a)
    (hb : (t.step op).session c = some b) : a.generation ≤ b.generation := by
  have hmono := routeStamp_mono (t := t) (c := c) op a.route b.route
    (by rw [sessionRoute, ha, Option.map_some]) (by rw [sessionRoute, hb, Option.map_some])
  exact hmono.1

end GatewaySessionTable

/-! ## Runs -/

/-- A table and the tokens that were retired so far. -/
structure TokenRun where
  table : GatewaySessionTable
  retired : List (ClientId × UInt64)

namespace TokenRun

open GatewaySessionTable

/-- An empty table. -/
def new (config : GatewayConfig) : TokenRun := ⟨.new config, []⟩

/-- One operation. -/
def step (run : TokenRun) (op : GatewayOp) : TokenRun where
  table := run.table.step op
  retired := run.retired ++ run.table.retiredBy op

/-- Retired tokens are refused, at any tick; the last generation cannot be counted on. -/
def RefusesRetired (run : TokenRun) : Prop :=
  ∀ c generation, (c, generation) ∈ run.retired → generation ≠ UInt64.maxValue →
    ∀ now, ∃ error, (run.table.reconnect c generation now).1 = .error error

/-- The operation opens a session for a client that had one before. -/
def Reopens (run : TokenRun) (op : GatewayOp) : Prop :=
  ∃ c stationId now generation, op = .connect c stationId now ∧ run.table.session c = none
    ∧ run.table.len < run.table.config.maxSessions ∧ (c, generation) ∈ run.retired

/-- What runs keep. -/
structure Kept (run : TokenRun) : Prop where
  older : ∀ c generation a, (c, generation) ∈ run.retired → run.table.session c = some a →
    generation ≠ UInt64.maxValue → generation < a.generation
  first : ∀ c generation, (c, generation) ∈ run.retired → (c, 1) ∈ run.retired
  counted : ∀ c a, run.table.session c = some a → a.generation = 1 ∨ (c, 1) ∈ run.retired

lemma kept_new (config : GatewayConfig) : Kept (new config) where
  older _ _ _ h := absurd h List.not_mem_nil
  first _ _ h := absurd h List.not_mem_nil
  counted c a h := by
    simp [new, GatewaySessionTable.session, GatewaySessionTable.new, AdaptiveMap.get_eq] at h

variable {run : TokenRun}

lemma Kept.refusesRetired (h : Kept run) : run.RefusesRetired := by
  intro c generation hmem hmax now
  refine reconnect_refused_iff.mpr fun a ha heq => ?_
  exact absurd (h.older c generation a hmem ha hmax) (by rw [heq]; exact lt_irrefl _)

/-- The first token of a client is among its retired ones. -/
lemma Kept.first_step (h : Kept run) {op : GatewayOp} {c : ClientId} {generation : UInt64}
    (hmem : (c, generation) ∈ (run.step op).retired) : (c, 1) ∈ (run.step op).retired := by
  rcases List.mem_append.mp hmem with hold | hnew
  · exact List.mem_append_left _ (h.first c generation hold)
  · obtain ⟨a, ha, rfl, -⟩ := mem_retiredBy.mp hnew
    rcases h.counted c a ha with hone | hfirst
    · exact hone ▸ hmem
    · exact List.mem_append_left _ hfirst

/-- An operation that reopens no session keeps retired generations below the current one. -/
lemma Kept.step (h : Kept run) {op : GatewayOp} (hok : ¬ run.Reopens op) :
    Kept (run.step op) := by
  refine ⟨fun c generation b hmem hb hmax => ?_, fun c generation hmem => h.first_step hmem,
    fun c b hb => ?_⟩
  · have hb : (run.table.step op).session c = some b := hb
    rcases List.mem_append.mp hmem with hold | hnew
    · cases ha : run.table.session c with
      | some a =>
          exact lt_of_lt_of_le (h.older c generation a hold ha hmax) (generation_le_step ha hb)
      | none =>
          obtain ⟨-, stationId, now, rfl, hroom⟩ := created_of_none ha hb
          exact absurd ⟨c, stationId, now, generation, rfl, ha, hroom, hold⟩ hok
    · obtain ⟨a, ha, rfl, hgone⟩ := mem_retiredBy.mp hnew
      exact lt_of_le_of_ne (generation_le_step ha hb) (Ne.symm (hgone b hb))
  · have hb : (run.table.step op).session c = some b := hb
    cases ha : run.table.session c with
    | none => exact Or.inl (created_of_none ha hb).1
    | some a =>
        by_cases hsame : b.generation = a.generation
        · rw [hsame]
          exact (h.counted c a ha).imp_right fun hfirst => List.mem_append_left _ hfirst
        · -- the generation was counted on, so the old token was retired
          have hretired : (c, a.generation) ∈ (run.step op).retired :=
            List.mem_append_right _ (mem_retiredBy.mpr ⟨a, ha, rfl, fun b' hb' => by
              rwa [← Option.some.inj (hb.symm.trans hb')]⟩)
          exact Or.inr (h.first_step hretired)

/-- An operation that reopens a session makes the first token of its client good again. -/
lemma Kept.not_reopens (h : Kept run) {op : GatewayOp} (hrefuses : (run.step op).RefusesRetired) :
    ¬ run.Reopens op := by
  rintro ⟨c, stationId, now, generation, rfl, hnone, hroom, hmem⟩
  have hfirst : (c, 1) ∈ (run.step (.connect c stationId now)).retired :=
    h.first_step (List.mem_append_left _ hmem)
  have hsession : (run.table.step (.connect c stationId now)).session c
      = some (createSession c stationId now) := by
    have hget := run.table.sessions.get_insert c c (createSession c stationId now)
    rw [if_pos rfl] at hget
    simp only [GatewaySessionTable.step, connect, hnone, not_le.mpr hroom, if_false]
    exact hget
  have hrefused := reconnect_refused_iff.mp (hrefuses c 1 hfirst (by decide) now)
  exact hrefused _ hsession rfl

/-- **When retired tokens stay retired.**  In every state of a run retired tokens are refused
exactly when no operation of the run opens a session for a client that had one before. -/
theorem tokens_stay_retired_iff (config : GatewayConfig) (ops : List GatewayOp) :
    (∀ pre, pre <+: ops → (execute step (new config) pre).RefusesRetired)
      ↔ AllSteps step (fun run op => ¬ run.Reopens op) (new config) ops :=
  forall_prefix_iff_allSteps (I := Kept) (P := fun _ => True) (fun _ h => h.refusesRetired)
    (fun _ _ h _ => ⟨h.step, h.not_reopens⟩) (kept_new config) fun _ _ => trivial

/-- Client 7 leaves, is forgotten, and comes back. -/
def returnAfterExpiry : List GatewayOp :=
  [.connect ⟨7⟩ ⟨1⟩ ⟨10⟩, .disconnect ⟨7⟩ ⟨11⟩, .expireDisconnected ⟨20⟩, .connect ⟨7⟩ ⟨1⟩ ⟨21⟩]

/-- The token of its first session is good again. -/
theorem reopened_session_accepts_retired_token :
    ¬ ∀ (config : GatewayConfig) (ops : List GatewayOp),
      (execute step (new config) ops).RefusesRetired := by
  intro h
  have haccepted : ((execute step (new ⟨4, 3, 2⟩) returnAfterExpiry).table.reconnect ⟨7⟩ 1
      ⟨22⟩).1 = .ok ⟨.alreadyConnected, ⟨⟨7⟩, ⟨1⟩, 1, 1⟩⟩ := by decide
  obtain ⟨error, hrefused⟩ :=
    h ⟨4, 3, 2⟩ returnAfterExpiry ⟨7⟩ 1 (by decide) (by decide) ⟨22⟩
  rw [haccepted] at hrefused
  cases hrefused

end TokenRun

end SectorSync
