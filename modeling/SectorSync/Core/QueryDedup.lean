import SectorSync.Base.Run
import SectorSync.Core.CellQuery

/-!
# Deduplication across queries

One scratch serves query after query: each begins by clearing it and then records the handles it
meets.  However many queries came before, the answers of a query are those of a set that starts
empty.  Nothing bounds the number of queries, so their epochs may have wrapped, any number of times.
-/

namespace SectorSync

open Machine

namespace CellQueryScratch

/-- Records handles one after the other. -/
def insertEach (s : CellQueryScratch) : List EntityHandle → List Bool × CellQueryScratch
  | [] => ([], s)
  | handle :: handles =>
      let (fresh, s) := s.insertSeen handle
      let (answers, s) := s.insertEach handles
      (fresh :: answers, s)

/-- A query: clears the scratch and records the handles it meets, with its answers. -/
def query (s : CellQueryScratch) (handles : List EntityHandle) : List Bool × CellQueryScratch :=
  s.clear.insertEach handles

/-- The scratch after one more query. -/
def afterQuery (s : CellQueryScratch) (handles : List EntityHandle) : CellQueryScratch :=
  (s.query handles).2

/-- The current query has met exactly the handles of a list. -/
structure Met (s : CellQueryScratch) (processed : List EntityHandle) : Prop where
  wellFormed : s.WellFormed
  epoch_pos : 0 < s.queryEpoch
  seen : ∀ h, s.Seen h ↔ h ∈ processed

variable {s : CellQueryScratch}

lemma Collected.met {processed : List EntityHandle} (h : s.Collected processed) :
    s.Met processed :=
  ⟨h.wellFormed, h.epoch_pos, h.seen⟩

/-- One handle is fresh when it has not been met, and has been met afterwards. -/
lemma Met.insertSeen {processed : List EntityHandle} (hs : s.Met processed)
    (handle : EntityHandle) :
    (s.insertSeen handle).1 = decide (handle ∉ processed)
      ∧ (s.insertSeen handle).2.Met (processed ++ [handle]) := by
  obtain ⟨hfresh, hrec⟩ := insertSeen_spec hs.wellFormed hs.epoch_pos handle
  refine ⟨?_, hrec.wellFormed, hrec.queryEpoch ▸ hs.epoch_pos, fun h => ?_⟩
  · rw [Bool.eq_iff_iff, hfresh, decide_eq_true_iff, hs.seen]
  · rw [hrec.seen, hs.seen, List.mem_append, List.mem_singleton]

/-- Handles recorded after others are fresh when they are neither among those nor repeated. -/
lemma Met.insertEach {processed : List EntityHandle} (hs : s.Met processed)
    (handles : List EntityHandle) :
    (s.insertEach handles).1
        = handles.mapIdx (fun i handle => decide (handle ∉ processed ++ handles.take i))
      ∧ (s.insertEach handles).2.Met (processed ++ handles) := by
  induction handles generalizing s processed with
  | nil =>
      rw [List.append_nil]
      exact ⟨rfl, hs⟩
  | cons handle handles ih =>
      obtain ⟨hfresh, hmet⟩ := hs.insertSeen handle
      obtain ⟨hrest, hafter⟩ := ih hmet
      constructor
      · show (s.insertSeen handle).1 :: ((s.insertSeen handle).2.insertEach handles).1 = _
        have hlater : (fun i later => decide (later ∉ processed ++ [handle] ++ handles.take i))
            = fun i later => decide (later ∉ processed ++ (handle :: handles).take (i + 1)) := by
          funext i later
          rw [List.take_succ_cons, List.append_assoc, List.singleton_append]
        rw [hfresh, hrest, List.mapIdx_cons, hlater]
        simp only [List.take_zero, List.append_nil]
      · rw [List.append_assoc] at hafter
        exact hafter

/-- Queries keep the tables well formed. -/
lemma wellFormed_afterQuery (hs : s.WellFormed) (handles : List EntityHandle) :
    (s.afterQuery handles).WellFormed :=
  ((clear_spec hs).met.insertEach handles).2.wellFormed

/-- **Deduplication is exact.**  After any queries on a scratch, a query answers for each handle
whether it meets it for the first time. -/
theorem dedup_exact (queries : List (List EntityHandle)) (handles : List EntityHandle) :
    ((execute afterQuery new queries).query handles).1
      = handles.mapIdx fun i handle => decide (handle ∉ handles.take i) := by
  have hwf : (execute afterQuery new queries).WellFormed :=
    execute_preserves (I := WellFormed) (fun s handles hs => wellFormed_afterQuery hs handles)
      wellFormed_new queries
  exact ((clear_spec hwf).met.insertEach handles).1

end CellQueryScratch

end SectorSync
