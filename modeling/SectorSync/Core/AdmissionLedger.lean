import SectorSync.Core.GatewayAdmission

/-!
# The ledger of admissions

A session that is removed or replaced forgets the sequences that it admitted, and the generation of
a session that is created anew is 1 again.  What identifies an admitted command over a whole run is
therefore the number of sessions that its client has started, and its sequence.

The ledger of a run files every admission under this key.  `Follows` is what every operation keeps,
whatever its tick: the admissions of a client are strictly increasing, by session and then by
sequence.
-/

namespace SectorSync

/-- What identifies an admitted command. -/
structure Admission where
  clientId : ClientId
  /-- The number of sessions that the client had started. -/
  session : ℕ
  sequence : UInt64
  deriving DecidableEq

namespace Admission

/-- An admission of a later session, or with a later sequence of the same session. -/
def Before (a b : Admission) : Prop :=
  a.session < b.session ∨ a.session = b.session ∧ a.sequence < b.sequence

lemma Before.ne {a b : Admission} (h : a.Before b) : a ≠ b := by
  rintro rfl
  rcases h with h | ⟨-, h⟩
  · exact lt_irrefl _ h
  · exact lt_irrefl _ h

/-- The admissions of every client increase. -/
def Increasing (admissions : List Admission) : Prop :=
  admissions.Pairwise fun a b => a.clientId = b.clientId → a.Before b

lemma Increasing.nodup {admissions : List Admission} (h : Increasing admissions) :
    admissions.Nodup := by
  refine List.Pairwise.imp (fun {a b} hab => ?_) h
  rintro rfl
  exact (hab rfl).ne rfl

end Admission

/-- The sessions that clients have started, and what was admitted, the oldest first. -/
structure AdmissionLedger where
  starts : ClientId → ℕ
  admitted : List Admission

namespace AdmissionLedger

/-- Nothing was admitted. -/
def empty : AdmissionLedger := ⟨fun _ => 0, []⟩

/-- The key of the next command of a client. -/
def key (ledger : AdmissionLedger) (clientId : ClientId) (sequence : UInt64) : Admission :=
  ⟨clientId, ledger.starts clientId, sequence⟩

/-- Files what an operation reports. -/
def record (ledger : AdmissionLedger) : GatewayEvent → AdmissionLedger
  | .reset clientId =>
      { ledger with
        starts := Function.update ledger.starts clientId (ledger.starts clientId + 1) }
  | .admitted clientId sequence _ =>
      { ledger with admitted := ledger.admitted ++ [ledger.key clientId sequence] }
  | .other => ledger

/-- Nothing is struck from the ledger. -/
lemma admitted_record (ledger : AdmissionLedger) (event : GatewayEvent) :
    ledger.admitted.Sublist (ledger.record event).admitted := by
  cases event with
  | admitted => exact List.sublist_append_left _ _
  | reset | other => exact List.Sublist.refl _

/-- What the ledger says about the session of a client. -/
structure Follows (ledger : AdmissionLedger) (c : ClientId) (session : Option GatewaySession) :
    Prop where
  increasing : (ledger.admitted.filter fun a => a.clientId = c).Pairwise Admission.Before
  started : ∀ a ∈ ledger.admitted, a.clientId = c → a.session ≤ ledger.starts c
  /-- The session remembers the last sequence that was admitted since it started. -/
  newest : ∀ current, session = some current → ∀ a ∈ ledger.admitted, a.clientId = c →
    a.session = ledger.starts c → ∃ last, current.lastSequence = some last ∧ a.sequence ≤ last

variable {ledger : AdmissionLedger} {c : ClientId} {session session' : Option GatewaySession}

lemma follows_empty (c : ClientId) : empty.Follows c none where
  increasing := List.Pairwise.nil
  started a ha := by simp [empty] at ha
  newest current h := by cases h

/-- The session goes, or remembers the same. -/
lemma Follows.kept (h : ledger.Follows c session)
    (hlast : ∀ b, session' = some b → ∃ a, session = some a ∧ b.lastSequence = a.lastSequence) :
    ledger.Follows c session' where
  increasing := h.increasing
  started := h.started
  newest b hb := by
    obtain ⟨a, ha, hsame⟩ := hlast b hb
    rw [hsame]
    exact h.newest a ha

/-- A new session has admitted nothing. -/
lemma Follows.reset (h : ledger.Follows c session) (session' : Option GatewaySession) :
    (ledger.record (.reset c)).Follows c session' where
  increasing := h.increasing
  started a ha hc := by
    have hle := h.started a ha hc
    simp only [record, Function.update_self]
    omega
  newest b hb a ha hc hsession := by
    have hle := h.started a ha hc
    simp only [record, Function.update_self] at hsession
    omega

/-- **Admission step.**  A sequence that is later than the last one of the session. -/
lemma Follows.admit {a b : GatewaySession} (h : ledger.Follows c (some a)) {sequence : UInt64}
    (hlater : ∀ last ∈ a.lastSequence, last < sequence) (hlast : b.lastSequence = some sequence)
    (now : Tick) : (ledger.record (.admitted c sequence now)).Follows c (some b) := by
  have hbefore : ∀ x ∈ ledger.admitted, x.clientId = c → x.Before (ledger.key c sequence) := by
    intro x hx hc
    rcases Nat.lt_or_eq_of_le (h.started x hx hc) with hlt | hsame
    · exact .inl hlt
    · obtain ⟨last, hlast, hle⟩ := h.newest a rfl x hx hc hsame
      exact .inr ⟨hsame, lt_of_le_of_lt hle (hlater last hlast)⟩
  refine ⟨?_, ?_, ?_⟩
  · simp only [record, List.filter_append]
    rw [List.filter_cons_of_pos (by simp [key]), List.filter_nil]
    refine List.pairwise_append.mpr ⟨h.increasing, List.pairwise_singleton _ _, ?_⟩
    rintro x hx y hy
    obtain ⟨hmem, hc⟩ := List.mem_filter.mp hx
    rw [List.mem_singleton.mp hy]
    exact hbefore x hmem (of_decide_eq_true hc)
  · intro x hx hc
    rcases List.mem_append.mp hx with hx | hx
    · exact h.started x hx hc
    · rw [List.mem_singleton.mp hx]
      exact le_rfl
  · rintro _ ⟨⟩ x hx hc hsession
    refine ⟨sequence, hlast, ?_⟩
    rcases List.mem_append.mp hx with hx | hx
    · rcases hbefore x hx hc with hlt | ⟨-, hlt⟩
      · exact absurd hsession (ne_of_lt hlt)
      · exact le_of_lt hlt
    · rw [List.mem_singleton.mp hx]
      exact le_rfl

/-- What is reported about other clients does not count. -/
lemma Follows.other (h : ledger.Follows c session) {event : GatewayEvent}
    (hevent : ∀ sequences, GatewayEvent.extendSequences c sequences event = sequences) :
    (ledger.record event).Follows c session := by
  cases event with
  | other => exact h
  | reset clientId =>
      have hne : clientId ≠ c := by
        rintro rfl
        have hcons := hevent [0]
        rw [GatewayEvent.extendSequences, if_pos rfl] at hcons
        cases hcons
      have hstarts : (ledger.record (.reset clientId)).starts c = ledger.starts c :=
        Function.update_of_ne (Ne.symm hne) _ _
      refine ⟨h.increasing, fun a ha hc => ?_, fun b hb a ha hc hsession => ?_⟩
      · exact (h.started a ha hc).trans_eq hstarts.symm
      · exact h.newest b hb a ha hc (hsession.trans hstarts)
  | admitted clientId sequence now =>
      have hne : clientId ≠ c := by
        rintro rfl
        have hnil := hevent []
        rw [GatewayEvent.extendSequences, if_pos rfl] at hnil
        cases hnil
      have hmem : ∀ a ∈ (ledger.record (.admitted clientId sequence now)).admitted,
          a.clientId = c → a ∈ ledger.admitted := by
        intro a ha hc
        rcases List.mem_append.mp ha with ha | ha
        · exact ha
        · rw [List.mem_singleton.mp ha] at hc
          exact absurd hc hne
      refine ⟨?_, fun a ha hc => h.started a (hmem a ha hc) hc, fun b hb a ha hc => ?_⟩
      · simp only [record, List.filter_append]
        rw [List.filter_cons_of_neg (by simp [key, hne]), List.filter_nil, List.append_nil]
        exact h.increasing
      · exact h.newest b hb a (hmem a ha hc) hc

end AdmissionLedger

/-- A table with the ledger of its admissions. -/
structure AdmissionRun where
  table : GatewaySessionTable
  ledger : AdmissionLedger

namespace AdmissionRun

open GatewaySessionTable Machine

def new (config : GatewayConfig) : AdmissionRun := ⟨.new config, .empty⟩

/-- One operation. -/
def step (run : AdmissionRun) (op : GatewayOp) : AdmissionRun where
  table := run.table.step op
  ledger := run.ledger.record (run.table.event op)

/-- The ledger follows the sessions of all clients. -/
def Files (run : AdmissionRun) : Prop := ∀ c, run.ledger.Follows c (run.table.session c)

lemma files_new (config : GatewayConfig) : (new config).Files := by
  intro c
  have hnone : (GatewaySessionTable.new config).session c = none := by
    simp [GatewaySessionTable.session, GatewaySessionTable.new, AdaptiveMap.get_eq]
  show AdmissionLedger.empty.Follows c ((GatewaySessionTable.new config).session c)
  rw [hnone]
  exact AdmissionLedger.follows_empty c

/-- **The step rule.**  An operation files what it admits, whatever its tick. -/
lemma Files.step {run : AdmissionRun} (h : run.Files) (op : GatewayOp) : (run.step op).Files := by
  intro c
  have hc := h c
  show (run.ledger.record (run.table.event op)).Follows c ((run.table.step op).session c)
  by_cases hop : op.client = some c
  · cases ha : run.table.session c with
    | none =>
        rw [ha] at hc
        rcases absent_step hop ha with ⟨hnone, hevent⟩ | ⟨stationId, hcreated, hevent⟩
        · rw [hnone, hevent]
          exact hc
        · rw [hcreated, hevent]
          exact hc.reset _
    | some a =>
        rw [ha] at hc
        obtain ⟨b, hb, hchanges⟩ := changes_step hop ha
        rw [hb]
        generalize run.table.event op = event at hchanges
        cases hchanges with
        | kept htick hcount hlast hstate =>
            refine hc.kept ?_
            rintro _ ⟨⟩
            exact ⟨a, rfl, hlast⟩
        | replaced stationId hexpired => exact hc.reset _
        | opened hstate =>
            refine hc.kept ?_
            rintro _ ⟨⟩
            exact ⟨a, rfl, lastSequence_openWindow a op.tick⟩
        | admitted hadmits => exact hc.admit hadmits.2.1 rfl op.tick
  · have hother := hc.other (other_event (t := run.table) hop).1
    rcases other_step (t := run.table) hop with hsame | ⟨hnone, -⟩
    · rw [hsame]
      exact hother
    · rw [hnone]
      refine hother.kept ?_
      rintro _ ⟨⟩

/-- The admissions of a run increase. -/
lemma Files.increasing {run : AdmissionRun} (h : run.Files) :
    Admission.Increasing run.ledger.admitted := by
  have hclient := fun c => (h c).increasing
  generalize run.ledger.admitted = admitted at hclient
  induction admitted with
  | nil => exact List.Pairwise.nil
  | cons a rest ih =>
      refine List.pairwise_cons.mpr ⟨fun b hb hab => ?_, ih fun c => ?_⟩
      · have hfilter := hclient a.clientId
        rw [List.filter_cons_of_pos (by simp)] at hfilter
        exact (List.pairwise_cons.mp hfilter).1 b
          (List.mem_filter.mpr ⟨hb, decide_eq_true hab.symm⟩)
      · refine List.Pairwise.sublist ?_ (hclient c)
        exact (List.sublist_cons_self a rest).filter _

end AdmissionRun

end SectorSync
