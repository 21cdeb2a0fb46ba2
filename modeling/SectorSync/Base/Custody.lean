import Mathlib.Data.Finset.Card
import Mathlib.Logic.Function.Basic

/-!
# Two-phase custody of one resource

An abstract protocol over arbitrary parties and transfer names.  A party that holds the
resource may issue transfers of it.  A transfer has two halves that travel independently: its
target *accepts* it and starts to hold, its source *releases* it and stops.  Any number of
transfers may be issued at once, and either half may be delayed or repeated.

Two questions about such a protocol are answered here, each by the weakest condition on the
single steps that makes it true of whole runs:

* **never two holders** once every accepted transfer has been released (`Exclusive`): of an
  accepting party and a holder it finds, one must be about to release (`InOrder`);
* **never no holder** once there was one (`Surplus`): a repeated release and a `drop` must not
  hit a holder (`Guarded`).  The argument is a count: every acceptance adds a holder, and a
  first release, which removes at most one, is paid for by its own acceptance.
-/

namespace Custody

universe u v

variable {Party : Type u} {ι : Type v} [DecidableEq Party] [DecidableEq ι]

/-- Who holds the resource, who issued each transfer, and which halves have happened. -/
structure State (Party : Type u) (ι : Type v) where
  holders : Finset Party
  source : ι → Option Party
  accepted : Finset ι
  released : Finset ι

/-- What can happen to the resource. -/
inductive Event (Party : Type u) (ι : Type v) where
  | idle
  | grant (party : Party)
  | issue (transfer : ι) (source : Party)
  | accept (transfer : ι) (target : Party)
  | release (transfer : ι)
  | drop (party : Party)

/-- The effect of an event. -/
def step (s : State Party ι) : Event Party ι → State Party ι
  | .idle => s
  | .grant p => { s with holders := insert p s.holders }
  | .issue i p => { s with source := Function.update s.source i (some p) }
  | .accept i p => { s with holders := insert p s.holders, accepted := insert i s.accepted }
  | .release i =>
      { s with
        holders := s.holders.filter fun p => s.source i ≠ some p
        released := insert i s.released }
  | .drop p => { s with holders := s.holders.erase p }

/-- When the protocol lets an event happen: only a holder issues, under a new name, and only a
party that does not hold accepts an issued transfer. -/
def Enabled (s : State Party ι) : Event Party ι → Prop
  | .grant p => p ∉ s.holders
  | .issue i p => p ∈ s.holders ∧ i ∉ s.accepted ∧ i ∉ s.released
  | .accept i p => p ∉ s.holders ∧ s.source i ≠ none
  | _ => True

/-- A party is yielding when a transfer it issued has been accepted but not released. -/
def Yielding (s : State Party ι) (p : Party) : Prop :=
  ∃ i ∈ s.accepted, i ∉ s.released ∧ s.source i = some p

omit [DecidableEq ι] in
/-- A release takes the resource from the source of the transfer. -/
lemma filter_source_eq_erase {s : State Party ι} {i : ι} {p : Party} (h : s.source i = some p) :
    (s.holders.filter fun q => s.source i ≠ some q) = s.holders.erase p := by
  ext q
  simp only [h, Finset.mem_filter, Finset.mem_erase, ne_eq, Option.some.injEq]
  exact ⟨fun hq => ⟨fun heq => hq.2 heq.symm, hq.1⟩, fun hq => ⟨hq.2, fun heq => hq.1 heq.symm⟩⟩

/-! ## Never two holders -/

/-- Of two holders one is yielding. -/
def Exclusive (s : State Party ι) : Prop :=
  ∀ p ∈ s.holders, ∀ q ∈ s.holders, p ≠ q → Yielding s p ∨ Yielding s q

/-- A party starts to hold only when it or every other holder is yielding then. -/
def InOrder (s : State Party ι) : Event Party ι → Prop
  | .grant p => ∀ q ∈ s.holders, q = p ∨ Yielding s q ∨ Yielding s p
  | .accept i p =>
      ∀ q ∈ s.holders,
        q = p ∨ Yielding (step s (.accept i p)) q ∨ Yielding (step s (.accept i p)) p
  | _ => True

omit [DecidableEq Party] [DecidableEq ι] in
/-- Once nothing is pending there is at most one holder. -/
theorem Exclusive.eq_of_settled {s : State Party ι} (hex : Exclusive s)
    (hsettled : ∀ i ∈ s.accepted, i ∈ s.released) {p q : Party} (hp : p ∈ s.holders)
    (hq : q ∈ s.holders) : p = q := by
  by_contra hne
  rcases hex p hp q hq hne with ⟨i, hi, hni, _⟩ | ⟨i, hi, hni, _⟩
  · exact hni (hsettled i hi)
  · exact hni (hsettled i hi)

/-- Acceptance can only make more parties yield. -/
lemma Yielding.accept {s : State Party ι} {p : Party} (h : Yielding s p) (i : ι) (q : Party) :
    Yielding (step s (.accept i q)) p := by
  obtain ⟨j, hj, hnj, hs⟩ := h
  exact ⟨j, Finset.mem_insert_of_mem hj, hnj, hs⟩

/-- Issuing a new transfer leaves the yielding parties as they are. -/
lemma Yielding.issue {s : State Party ι} {p : Party} (h : Yielding s p) {i : ι} {q : Party}
    (hi : i ∉ s.accepted) : Yielding (step s (.issue i q)) p := by
  obtain ⟨j, hj, hnj, hs⟩ := h
  have hij : j ≠ i := by
    rintro rfl
    exact hi hj
  exact ⟨j, hj, hnj, by simpa [step, Function.update_of_ne hij] using hs⟩

/-- A yielding party that still holds after a release was not the one released. -/
lemma Yielding.release {s : State Party ι} {p : Party} (h : Yielding s p) {i : ι}
    (hp : p ∈ (step s (.release i)).holders) : Yielding (step s (.release i)) p := by
  obtain ⟨j, hj, hnj, hs⟩ := h
  have hij : j ≠ i := by
    rintro rfl
    simp [step, hs] at hp
  exact ⟨j, hj, by simp [step, hij, hnj], hs⟩

/-- **The step lemma.**  Every event in order keeps the holders exclusive. -/
theorem Exclusive.step {s : State Party ι} (hex : Exclusive s) {e : Event Party ι}
    (hen : Enabled s e) (hord : InOrder s e) : Exclusive (step s e) := by
  cases e with
  | idle => exact hex
  | grant p =>
      intro a ha b hb hab
      simp only [Custody.step, Finset.mem_insert] at ha hb
      rcases ha with rfl | ha
      · rcases hb with rfl | hb
        · exact absurd rfl hab
        · rcases hord b hb with rfl | hy
          · exact absurd rfl hab
          · exact hy.symm
      · rcases hb with rfl | hb
        · rcases hord a ha with rfl | hy
          · exact absurd rfl hab
          · exact hy
        · exact hex a ha b hb hab
  | issue i p =>
      intro a ha b hb hab
      exact (hex a ha b hb hab).imp (fun h => h.issue hen.2.1) (fun h => h.issue hen.2.1)
  | accept i p =>
      intro a ha b hb hab
      simp only [Custody.step, Finset.mem_insert] at ha hb
      rcases ha with rfl | ha
      · rcases hb with rfl | hb
        · exact absurd rfl hab
        · rcases hord b hb with rfl | hy
          · exact absurd rfl hab
          · exact hy.symm
      · rcases hb with rfl | hb
        · rcases hord a ha with rfl | hy
          · exact absurd rfl hab
          · exact hy
        · exact (hex a ha b hb hab).imp (fun h => h.accept i p) (fun h => h.accept i p)
  | release i =>
      intro a ha b hb hab
      have ha' : a ∈ s.holders := (Finset.mem_filter.mp ha).1
      have hb' : b ∈ s.holders := (Finset.mem_filter.mp hb).1
      exact (hex a ha' b hb' hab).imp (fun h => h.release ha) (fun h => h.release hb)
  | drop p =>
      intro a ha b hb hab
      exact hex a (Finset.mem_of_mem_erase ha) b (Finset.mem_of_mem_erase hb) hab

/-! ## Never no holder -/

/-- Nothing has happened to the resource yet. -/
structure Dormant (s : State Party ι) : Prop where
  holders : s.holders = ∅
  source : ∀ i, s.source i = none
  accepted : s.accepted = ∅

/-- There is one holder more than releases can still take away. -/
def Surplus (s : State Party ι) : Prop := s.accepted.card + 1 ≤ s.holders.card + s.released.card

/-- A release follows its acceptance, and neither a repeated release nor a drop hits a
holder. -/
def Guarded (s : State Party ι) : Event Party ι → Prop
  | .release i =>
      i ∈ s.accepted ∧ (i ∈ s.released → ∀ p ∈ s.holders, s.source i ≠ some p)
  | .drop p => p ∉ s.holders
  | _ => True

/-- Releases that follow their acceptances stay among them. -/
lemma released_subset_step {s : State Party ι} (hsub : s.released ⊆ s.accepted)
    {e : Event Party ι} (hg : Guarded s e) : (step s e).released ⊆ (step s e).accepted := by
  cases e with
  | accept i p => exact hsub.trans (Finset.subset_insert _ _)
  | release i => exact Finset.insert_subset hg.1 hsub
  | _ => exact hsub

omit [DecidableEq Party] [DecidableEq ι] in
/-- A surplus means a holder. -/
theorem Surplus.holders_nonempty {s : State Party ι} (h : Surplus s)
    (hsub : s.released ⊆ s.accepted) : s.holders.Nonempty := by
  have hcard := Finset.card_le_card hsub
  rw [Surplus] at h
  exact Finset.card_pos.mp (by omega)

omit [DecidableEq ι] in
/-- A release removes at most the source of the transfer. -/
lemma card_filter_source (s : State Party ι) (i : ι) :
    s.holders.card ≤ (s.holders.filter fun p => s.source i ≠ some p).card + 1 := by
  cases hs : s.source i with
  | none => simp
  | some p =>
      rw [← hs, filter_source_eq_erase hs]
      have := Finset.pred_card_le_card_erase (s := s.holders) (a := p)
      omega

/-- **The step lemma.**  Every guarded event keeps the surplus. -/
theorem Surplus.step {s : State Party ι} (h : Surplus s) {e : Event Party ι}
    (hen : Enabled s e) (hg : Guarded s e) : Surplus (step s e) := by
  rw [Surplus] at h
  cases e with
  | idle => exact h
  | grant p =>
      have hcard := Finset.card_insert_of_notMem (a := p) (s := s.holders) hen
      simp only [Surplus, Custody.step]
      omega
  | issue i p => exact h
  | accept i p =>
      have hcard := Finset.card_insert_of_notMem (a := p) (s := s.holders) hen.1
      have hacc := Finset.card_insert_le i s.accepted
      simp only [Surplus, Custody.step]
      omega
  | release i =>
      simp only [Surplus, Custody.step]
      by_cases hi : i ∈ s.released
      · have hfix : (s.holders.filter fun p => s.source i ≠ some p) = s.holders :=
          Finset.filter_true_of_mem (hg.2 hi)
        rw [hfix, Finset.insert_eq_of_mem hi]
        exact h
      · have hcard := card_filter_source s i
        rw [Finset.card_insert_of_notMem hi]
        omega
  | drop p =>
      simp only [Surplus, Custody.step]
      rw [Finset.erase_eq_of_notMem hg]
      exact h

/-- A dormant resource stays dormant until it is granted. -/
theorem Dormant.step {s : State Party ι} (h : Dormant s) {e : Event Party ι}
    (hen : Enabled s e) (hsub : s.released ⊆ s.accepted) (hg : Guarded s e) :
    Dormant (step s e) ∨ Surplus (step s e) := by
  have hrel : s.released = ∅ := Finset.subset_empty.mp (h.accepted ▸ hsub)
  cases e with
  | idle => exact Or.inl h
  | grant p =>
      refine Or.inr ?_
      simp [Surplus, Custody.step, h.holders, h.accepted]
  | issue i p =>
      have hp := hen.1
      rw [h.holders] at hp
      exact absurd hp (Finset.notMem_empty p)
  | accept i p => exact absurd (h.source i) hen.2
  | release i =>
      have hi := hg.1
      rw [h.accepted] at hi
      exact absurd hi (Finset.notMem_empty i)
  | drop p =>
      exact Or.inl ⟨by simp [Custody.step, h.holders], h.source, h.accepted⟩

/-- What a guarded run maintains from a state in which nothing was transferred. -/
structure Kept (s : State Party ι) : Prop where
  released : s.released ⊆ s.accepted
  state : Dormant s ∨ Surplus s

theorem Kept.step {s : State Party ι} (h : Kept s) {e : Event Party ι} (hen : Enabled s e)
    (hg : Guarded s e) : Kept (step s e) where
  released := released_subset_step h.released hg
  state := by
    rcases h.state with hd | hs
    · exact hd.step hen h.released hg
    · exact Or.inr (hs.step hen hg)

omit [DecidableEq Party] [DecidableEq ι] in
/-- In a kept state a resource with a holder has a surplus. -/
theorem Kept.surplus {s : State Party ι} (h : Kept s) (hne : s.holders.Nonempty) :
    Surplus s := by
  rcases h.state with hd | hs
  · rw [hd.holders] at hne
    exact absurd hne Finset.not_nonempty_empty
  · exact hs

end Custody
