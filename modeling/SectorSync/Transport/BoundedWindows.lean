import SectorSync.Transport.PacketReplay

/-!
# Bounded windows are exact

The replay window and the delivered history of the receivers keep a queue next to a lookup set, and
evict the oldest keys of both.  Along every run of offered keys they are `Exact`: the set has the
entries of the queue, which are the last `max` distinct keys that were accepted, and a key is
refused exactly when it is one of these.
-/

namespace SectorSync

open Machine Window

/-- The retained keys. -/
def BoundedLookupSet.len {K : Type} (set : BoundedLookupSet K) : ℕ := set.entries.card

/-- A set and a queue that hold the last `max` distinct keys of a log, and refuse just these. -/
structure ExactWindow {K : Type} [DecidableEq K] (max : ℕ) (accepted : List K)
    (set : BoundedLookupSet K) (order : List K) (refuses : K → Prop) : Prop where
  contains : ∀ key, set.contains key = true ↔ key ∈ order
  nodup : order.Nodup
  len : set.len = order.length
  bounded : set.len ≤ max
  order : order = recent max accepted.dedup
  refuses : ∀ key, refuses key ↔ key ∈ recent max accepted.dedup

section ExactWindow

variable {K : Type} [DecidableEq K] {max : ℕ} {accepted order : List K} {set : BoundedLookupSet K}
  {refuses : K → Prop}

/-- A window over a spaced log is exact. -/
lemma exactWindow_of_spaced (hspaced : Spaced max accepted) (horder : order = recent max accepted)
    (hentries : ∀ key, key ∈ set.entries ↔ key ∈ order)
    (hrefuses : ∀ key, refuses key ↔ key ∈ recent max accepted) :
    ExactWindow max accepted set order refuses := by
  have hnodup : order.Nodup := by
    rw [horder]
    exact hspaced.nodup_recent
  have hlen : set.len = order.length := by
    have hset : set.entries = order.toFinset := Finset.ext fun key => by
      rw [hentries, List.mem_toFinset]
    rw [BoundedLookupSet.len, hset, List.toFinset_card_of_nodup hnodup]
  exact {
    contains := fun key => by rw [BoundedLookupSet.contains, decide_eq_true_iff, hentries]
    nodup := hnodup
    len := hlen
    bounded := by
      rw [hlen, horder, length_recent]
      exact min_le_left max accepted.length
    order := by rw [hspaced.recent_dedup, horder]
    refuses := fun key => by rw [hspaced.recent_dedup, hrefuses] }

end ExactWindow

/-! ## The replay window -/

namespace PacketReplayWindow

/-- Retained nonce count. -/
def len (window : PacketReplayWindow) : ℕ := window.seen.len

/-- `accept` on a pair of key id and nonce. -/
def acceptKey (window : PacketReplayWindow) (key : PacketKey UInt32) : Bool × PacketReplayWindow :=
  window.accept key.peer key.sequence

variable {max : ℕ} {log : List (PacketKey UInt32)} {window : PacketReplayWindow}

/-- A window for no pairs accepts every pair and keeps none. -/
lemma Remembers.accept_of_zero (h : Remembers 0 log window) (key : PacketKey UInt32) :
    window.acceptKey key = (true, window) ∧ Remembers 0 (log ++ [key]) window := by
  have hnone : ∀ log : List (PacketKey UInt32), recent 0 log = [] := fun log => by
    rw [recent, Nat.sub_zero, List.drop_length]
  have hnot : key ∉ recent 0 log := by
    rw [hnone]
    exact List.not_mem_nil
  refine ⟨by rw [acceptKey, accept, if_pos h.maxSeen], h.maxSeen, ?_, h.entries,
    h.spaced.concat hnot⟩
  rw [h.order, hnone, hnone]

/-- **Accepting.**  A pair is refused when it is in the window, and enters it otherwise. -/
lemma Remembers.acceptKey_spec (h : Remembers max log window) (key : PacketKey UInt32) :
    (key ∈ recent max log ∧ window.acceptKey key = (false, window))
      ∨ (key ∉ recent max log ∧ (window.acceptKey key).1 = true
        ∧ Remembers max (log ++ [key]) (window.acceptKey key).2) := by
  rcases Nat.eq_zero_or_pos max with rfl | hmax
  · obtain ⟨haccept, hremembers⟩ := h.accept_of_zero key
    refine .inr ⟨?_, by rw [haccept], by rw [haccept]; exact hremembers⟩
    rw [recent, Nat.sub_zero, List.drop_length]
    exact List.not_mem_nil
  · by_cases hmem : key ∈ recent max log
    · exact .inl ⟨hmem, h.accept_of_mem hmax hmem⟩
    · obtain ⟨window', haccept, hremembers⟩ := h.accept_of_notMem hmax hmem
      refine .inr ⟨hmem, ?_, ?_⟩
      · rw [acceptKey, haccept]
      · rw [acceptKey, haccept]
        exact hremembers

lemma Remembers.refuses_iff (h : Remembers max log window) (key : PacketKey UInt32) :
    (window.acceptKey key).1 = false ↔ key ∈ recent max log := by
  rcases h.acceptKey_spec key with ⟨hmem, haccept⟩ | ⟨hnot, haccept, -⟩
  · rw [haccept]
    exact iff_of_true rfl hmem
  · rw [haccept]
    exact iff_of_false Bool.true_eq_false_eq_False hnot

/-- The pairs a new window accepted, and what it holds of them, after any offers. -/
lemma remembers_execute (max : ℕ) (keys : List (PacketKey UInt32)) :
    Remembers max (execute (Offers.offer acceptKey) ⟨new max, []⟩ keys).accepted
      (execute (Offers.offer acceptKey) ⟨new max, []⟩ keys).window := by
  refine Offers.execute_offer (fun log window key h => ?_) (remembers_new max) keys
  rcases h.acceptKey_spec key with ⟨-, haccept⟩ | ⟨-, hresult, hnext⟩
  · rw [haccept]
    exact .inl ⟨rfl, h⟩
  · exact .inr ⟨hresult, hnext⟩

end PacketReplayWindow

/-! ## The delivered history -/

namespace ReliableReceiver

variable {P : Type} [LinearOrder P]

/-- `record_unique` on a key. -/
def recordKey (r : ReliableReceiver P) (key : PacketKey P) : Bool × ReliableReceiver P :=
  r.recordUnique key.peer key.sequence

variable {log : List (PacketKey P)} {r : ReliableReceiver P}

lemma Remembers.refuses_iff (h : Remembers log r) (key : PacketKey P) :
    (r.recordKey key).1 = false ↔ key ∈ recent r.config.maxDeliveredHistory log := by
  rcases recordUnique_spec h key.peer key.sequence with ⟨hmem, hrecord⟩ | ⟨hnot, hrecord, -⟩
  · rw [recordKey, hrecord]
    exact iff_of_true rfl hmem
  · rw [recordKey, hrecord]
    exact iff_of_false Bool.true_eq_false_eq_False hnot

/-- The keys a new receiver accepted, and what it holds of them, after any offers. -/
lemma remembers_execute (config : ReliableConfig) (keys : List (PacketKey P)) :
    let run := execute (Offers.offer recordKey) ⟨new config, []⟩ keys
    run.window.config = config ∧ Remembers run.accepted run.window := by
  refine Offers.execute_offer (I := fun log r => r.config = config ∧ Remembers log r)
    (fun log r key h => ?_) ⟨rfl, remembers_new config⟩ keys
  rcases recordUnique_spec h.2 key.peer key.sequence with
    ⟨-, hrecord⟩ | ⟨-, hresult, hconfig, hnext⟩
  · rw [recordKey, hrecord]
    exact .inl ⟨rfl, h⟩
  · exact .inr ⟨hresult, hconfig.trans h.1, hnext⟩

end ReliableReceiver

/-- **Bounded windows are exact.**  After any offers, a replay window and the delivered history of a
receiver hold in set and queue the last distinct keys they accepted, as many as they may, and refuse
just these. -/
theorem bounded_windows_exact :
    (∀ (max : ℕ) (keys : List (PacketKey UInt32)),
      let run := execute (Offers.offer PacketReplayWindow.acceptKey) ⟨.new max, []⟩ keys
      ExactWindow max run.accepted run.window.seen run.window.order fun key =>
        (run.window.accept key.peer key.sequence).1 = false)
    ∧ ∀ (P : Type) [LinearOrder P] (config : ReliableConfig) (keys : List (PacketKey P)),
      let run := execute (Offers.offer ReliableReceiver.recordKey) ⟨.new config, []⟩ keys
      ExactWindow config.maxDeliveredHistory run.accepted run.window.delivered
        run.window.deliveredOrder fun key =>
          (run.window.recordUnique key.peer key.sequence).1 = false := by
  constructor
  · intro max keys run
    have h := PacketReplayWindow.remembers_execute max keys
    exact exactWindow_of_spaced h.spaced h.order h.entries h.refuses_iff
  · intro P _ config keys run
    obtain ⟨hconfig, h⟩ := ReliableReceiver.remembers_execute config keys
    have horder := h.order
    have hspaced := h.spaced
    have hrefuses := h.refuses_iff
    rw [hconfig] at horder hspaced
    simp only [hconfig] at hrefuses
    exact exactWindow_of_spaced hspaced horder h.entries hrefuses

end SectorSync
