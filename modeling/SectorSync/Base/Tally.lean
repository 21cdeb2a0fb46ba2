import SectorSync.Base.FiniteMap

/-!
# Counters beside a map

A map of counters read with zero as default, whose entries disappear when they reach zero, and
the number of keys of a map in a class.  A tally counts a map by class when every counter is that
number; inserting a new key and erasing a key keep it so.
-/

namespace Tally

universe u v w

variable {K : Type u} {V : Type v} {C : Type w} [DecidableEq K] [DecidableEq C]

/-- The counter of a class. -/
def get (tally : Finmap fun _ : C => ℕ) (c : C) : ℕ := (tally.lookup c).getD 0

/-- Adds one to the counter of a class. -/
def increment (tally : Finmap fun _ : C => ℕ) (c : C) : Finmap fun _ : C => ℕ :=
  tally.insert c (get tally c + 1)

/-- Takes one from the counter of a class; a counter at zero is dropped. -/
def decrement (tally : Finmap fun _ : C => ℕ) (c : C) : Finmap fun _ : C => ℕ :=
  match tally.lookup c with
  | none => tally
  | some count => if count - 1 = 0 then tally.erase c else tally.insert c (count - 1)

variable {tally : Finmap fun _ : C => ℕ} {m : Finmap fun _ : K => V}

@[simp] lemma get_empty (c : C) : get (∅ : Finmap fun _ : C => ℕ) c = 0 := by simp [get]

lemma get_increment (c c' : C) :
    get (increment tally c) c' = if c' = c then get tally c + 1 else get tally c' := by
  rw [get, increment, Finmap.lookup_insert_eq]
  split_ifs
  · rfl
  · rfl

lemma get_decrement (c c' : C) :
    get (decrement tally c) c' = if c' = c then get tally c - 1 else get tally c' := by
  have hget : get tally c = (tally.lookup c).getD 0 := rfl
  unfold decrement
  cases hlook : tally.lookup c with
  | none =>
      rw [hlook, Option.getD_none] at hget
      split_ifs with hc
      · rw [hc, hget]
      · rfl
  | some count =>
      rw [hlook, Option.getD_some] at hget
      rw [hget]
      dsimp only
      by_cases hzero : count - 1 = 0
      · rw [if_pos hzero, get, Finmap.lookup_erase_eq]
        split_ifs
        · rw [Option.getD_none, hzero]
        · rfl
      · rw [if_neg hzero, get, Finmap.lookup_insert_eq]
        split_ifs
        · rfl
        · rfl

/-! ## Counting keys -/

/-- Number of keys of a map in a class. -/
def keysIn (classOf : K → C) (m : Finmap fun _ : K => V) (c : C) : ℕ :=
  (m.keys.filter fun k => classOf k = c).card

variable (classOf : K → C)

omit [DecidableEq K] in
@[simp] lemma keysIn_empty (c : C) : keysIn classOf (∅ : Finmap fun _ : K => V) c = 0 := by
  simp [keysIn]

lemma keysIn_insert_of_notMem {k : K} (v : V) (h : k ∉ m) (c : C) :
    keysIn classOf (m.insert k v) c
      = if c = classOf k then keysIn classOf m c + 1 else keysIn classOf m c := by
  have hk : k ∉ m.keys := by rwa [Finmap.mem_keys]
  rw [keysIn, Finmap.keys_insert, Finset.filter_insert]
  by_cases hc : c = classOf k
  · rw [if_pos hc.symm, if_pos hc, Finset.card_insert_of_notMem
      (fun hmem => hk (Finset.mem_filter.mp hmem).1), keysIn]
  · rw [if_neg (Ne.symm hc), if_neg hc, keysIn]

lemma keysIn_erase_of_mem {k : K} (h : k ∈ m) (c : C) :
    keysIn classOf (m.erase k) c
      = if c = classOf k then keysIn classOf m c - 1 else keysIn classOf m c := by
  have hk : k ∈ m.keys := by rwa [Finmap.mem_keys]
  rw [keysIn, Finmap.keys_erase, Finset.filter_erase]
  by_cases hc : c = classOf k
  · rw [if_pos hc, Finset.card_erase_of_mem (Finset.mem_filter.mpr ⟨hk, hc.symm⟩), keysIn]
  · rw [if_neg hc, Finset.erase_eq_of_notMem, keysIn]
    exact fun hmem => hc (Finset.mem_filter.mp hmem).2.symm

/-! ## Tallies of a map -/

/-- Every counter is the number of keys in its class. -/
def Counts (classOf : K → C) (tally : Finmap fun _ : C => ℕ) (m : Finmap fun _ : K => V) : Prop :=
  ∀ c, get tally c = keysIn classOf m c

omit [DecidableEq K] in
lemma counts_empty : Counts classOf ∅ (∅ : Finmap fun _ : K => V) := by
  intro c
  rw [get_empty, keysIn_empty]

variable {classOf}

lemma Counts.insert_new (h : Counts classOf tally m) {k : K} (v : V) (hk : k ∉ m) :
    Counts classOf (increment tally (classOf k)) (m.insert k v) := by
  intro c
  rw [get_increment, keysIn_insert_of_notMem classOf v hk]
  split_ifs with hc
  · rw [h, hc]
  · exact h c

lemma Counts.erase (h : Counts classOf tally m) {k : K} (hk : k ∈ m) :
    Counts classOf (decrement tally (classOf k)) (m.erase k) := by
  intro c
  rw [get_decrement, keysIn_erase_of_mem classOf hk]
  split_ifs with hc
  · rw [h, hc]
  · exact h c

end Tally
