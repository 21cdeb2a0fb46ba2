import Mathlib.Data.List.Sort

/-!
# The best elements of a list

Two ways to take `k` elements of a list.  By order of preference: `IsBest` describes the `k` least
elements under a comparator, and both a full sort and a partial sort that selects before it sorts
produce them.  By position: `prefixWith` is what a loop reads that stops at the `k`-th element
that satisfies a condition.
-/

namespace Selection

universe u

variable {α : Type u}

/-! ## By preference -/

section Compare

variable (cmp : α → α → Ordering)

/-- Comparing by a key. -/
lemma transCmp_on {β : Type*} (key : β → α) [Std.TransCmp cmp] :
    Std.TransCmp fun a b => cmp (key a) (key b) where
  eq_swap := Std.OrientedCmp.eq_swap
  isLE_trans := Std.TransCmp.isLE_trans

/-- `best` holds the `k` least elements of `l`, in order. -/
structure IsBest (k : ℕ) (l best : List α) : Prop where
  length_eq : best.length = min l.length k
  sorted : best.Pairwise fun a b => (cmp a b).isLE = true
  exists_rest : ∃ rest, (best ++ rest).Perm l ∧ ∀ a ∈ best, ∀ b ∈ rest, (cmp a b).isLE = true

variable {cmp} {k : ℕ} {l l' best : List α}

/-- The best elements do not depend on the order of the list. -/
lemma IsBest.of_perm (h : IsBest cmp k l best) (hperm : l.Perm l') : IsBest cmp k l' best where
  length_eq := by
    rw [← hperm.length_eq]
    exact h.length_eq
  sorted := h.sorted
  exists_rest := by
    obtain ⟨rest, hrest, hsplit⟩ := h.exists_rest
    exact ⟨rest, hrest.trans hperm, hsplit⟩

lemma IsBest.subset (h : IsBest cmp k l best) : best ⊆ l := by
  obtain ⟨rest, hperm, _⟩ := h.exists_rest
  exact fun a ha => hperm.subset (List.mem_append_left rest ha)

/-- Elements that a key tells apart in the list are told apart in its best part. -/
lemma IsBest.nodup_map {β : Type*} {key : α → β} (h : IsBest cmp k l best)
    (hl : (l.map key).Nodup) : (best.map key).Nodup := by
  obtain ⟨rest, hperm, _⟩ := h.exists_rest
  have hall := (hperm.map key).nodup_iff.mpr hl
  rw [List.map_append] at hall
  exact hall.of_append_left

variable [Std.TransCmp cmp]

variable (cmp) in
/-- The sorted list under a comparator that is transitive and oriented. -/
lemma pairwise_sort (l : List α) :
    (l.insertionSort fun a b => (cmp a b).isLE).Pairwise fun a b => (cmp a b).isLE = true := by
  have : IsTrans α fun a b => (cmp a b).isLE = true := ⟨fun _ _ _ => Std.TransCmp.isLE_trans⟩
  have : Std.Total fun a b : α => (cmp a b).isLE = true := ⟨fun a b => by
    by_cases h : (cmp a b).isLE = true
    · exact Or.inl h
    · exact Or.inr (Ordering.isLE_of_eq_lt (Std.OrientedCmp.lt_of_not_isLE h))⟩
  exact List.pairwise_insertionSort _ l

/-- **Selecting, then sorting.**  When no element of the first `k` comes after an element behind
them, sorting the first `k` alone gives the best `k`. -/
theorem isBest_sort_take (hperm : l'.Perm l)
    (hsplit : ∀ a ∈ l'.take k, ∀ b ∈ l'.drop k, (cmp a b).isLE = true) :
    IsBest cmp k l ((l'.take k).insertionSort fun a b => (cmp a b).isLE) where
  length_eq := by
    rw [List.length_insertionSort, List.length_take, hperm.length_eq, min_comm]
  sorted := pairwise_sort cmp _
  exists_rest := by
    refine ⟨l'.drop k, ?_, fun a ha b hb => hsplit a ?_ b hb⟩
    · refine ((List.perm_insertionSort _ _).append_right _).trans ?_
      rwa [List.take_append_drop]
    · exact (List.mem_insertionSort _).mp ha

/-- **Sorting, then taking.** -/
theorem isBest_take_sort (k : ℕ) (l : List α) :
    IsBest cmp k l ((l.insertionSort fun a b => (cmp a b).isLE).take k) where
  length_eq := by rw [List.length_take, List.length_insertionSort, min_comm]
  sorted := (pairwise_sort cmp l).sublist (List.take_sublist k _)
  exists_rest := by
    refine ⟨(l.insertionSort fun a b => (cmp a b).isLE).drop k, ?_, ?_⟩
    · rw [List.take_append_drop]
      exact List.perm_insertionSort _ l
    · have hsorted := pairwise_sort cmp l
      rw [← List.take_append_drop k (l.insertionSort fun a b => (cmp a b).isLE),
        List.pairwise_append] at hsorted
      exact hsorted.2.2

/-- **One selection.**  Where elements that compare equal are equal, the best elements are the first
of the sorted list. -/
theorem IsBest.eq_take_sort (h : IsBest cmp k l best)
    (heq : ∀ a ∈ l, ∀ b ∈ l, cmp a b = .eq → a = b) :
    best = (l.insertionSort fun a b => (cmp a b).isLE).take k := by
  obtain ⟨rest, hperm, hsplit⟩ := h.exists_rest
  have hrest := List.perm_insertionSort (fun a b => (cmp a b).isLE) rest
  -- the rest is sorted as well, so that both sides are sorted arrangements of the list
  have hboth : (best ++ rest.insertionSort fun a b => (cmp a b).isLE).Perm
      (l.insertionSort fun a b => (cmp a b).isLE) :=
    ((hrest.append_left best).trans hperm).trans (List.perm_insertionSort _ l).symm
  have hsorted : (best ++ rest.insertionSort fun a b => (cmp a b).isLE).Pairwise
      fun a b => (cmp a b).isLE = true :=
    List.pairwise_append.mpr ⟨h.sorted, pairwise_sort cmp rest,
      fun a ha b hb => hsplit a ha b (hrest.mem_iff.mp hb)⟩
  have hlist := List.Perm.eq_of_pairwise (fun a b ha hb hab hba => by
    have hal := hperm.mem_iff.mp ((hrest.append_left best).mem_iff.mp ha)
    have hbl := (List.mem_insertionSort _).mp hb
    exact heq a hal b hbl (Std.OrientedCmp.isLE_antisymm hab hba)) hsorted (pairwise_sort cmp l)
    hboth
  rw [← hlist]
  have hlen := h.length_eq
  rcases Nat.le_total k l.length with hk | hk
  · rw [List.take_left' (hlen.trans (Nat.min_eq_right hk))]
  · have hnone : rest = [] := by
      have hall := hperm.length_eq
      rw [List.length_append] at hall
      exact List.eq_nil_of_length_eq_zero (by omega)
    rw [hnone, List.insertionSort_nil, List.append_nil, List.take_of_length_le (by omega)]

omit [Std.TransCmp cmp] in
/-- A comparator that looks at a key tells apart the elements of a list with distinct keys. -/
lemma eq_of_cmp_eq {β : Type*} {key : α → β} (hkey : ∀ a b, cmp a b = .eq → key a = key b)
    (hl : (l.map key).Nodup) : ∀ a ∈ l, ∀ b ∈ l, cmp a b = .eq → a = b :=
  fun a ha b hb h => List.inj_on_of_nodup_map hl ha hb (hkey a b h)

/-- No element of the first `k` comes after one that is not among them. -/
lemma isLE_of_mem_take {a b : α}
    (ha : a ∈ (l.insertionSort fun a b => (cmp a b).isLE).take k) (hb : b ∈ l)
    (hnot : b ∉ (l.insertionSort fun a b => (cmp a b).isLE).take k) :
    (cmp a b).isLE = true := by
  have hisBest : IsBest cmp k l _ := isBest_take_sort k l
  obtain ⟨rest, hperm, hsplit⟩ := hisBest.exists_rest
  rcases List.mem_append.mp (hperm.mem_iff.mpr hb) with hbest | hrest
  · exact absurd hbest hnot
  · exact hsplit a ha b hrest

variable (cmp) in
omit [Std.TransCmp cmp] in
/-- How many elements of a list come before one. -/
def rank (l : List α) (a : α) : ℕ := (l.filter fun b => cmp b a = .lt).length

/-- **Place and rank.**  Where elements that compare equal are equal, an element is among the first
`k` of the sorted list when fewer than `k` come before it. -/
lemma mem_take_sort_iff (heq : ∀ a ∈ l, ∀ b ∈ l, cmp a b = .eq → a = b) (hl : l.Nodup) {a : α}
    (ha : a ∈ l) :
    a ∈ (l.insertionSort fun a b => (cmp a b).isLE).take k ↔ rank cmp l a < k := by
  have hperm := List.perm_insertionSort (fun a b => (cmp a b).isLE) l
  have hsorted := pairwise_sort cmp l
  obtain ⟨before, after, hsplit⟩ := List.append_of_mem (hperm.mem_iff.mpr ha)
  have hnodup := hperm.nodup_iff.mpr hl
  have hrank : rank cmp l a
      = ((l.insertionSort fun a b => (cmp a b).isLE).filter fun b => cmp b a = .lt).length :=
    (hperm.symm.filter _).length_eq
  have hmem : ∀ b ∈ before ++ a :: after, b ∈ l := fun b hb => hperm.subset (hsplit ▸ hb)
  rw [hrank, hsplit]
  rw [hsplit, List.nodup_append] at hnodup
  rw [hsplit, List.pairwise_append, List.pairwise_cons] at hsorted
  obtain ⟨-, hafter, hne⟩ := hnodup
  rw [List.nodup_cons] at hafter
  -- those sorted before it are strictly less, and those sorted after it are not less
  have hless : before.filter (fun b => cmp b a = .lt) = before := by
    refine List.filter_eq_self.mpr fun b hb => decide_eq_true ?_
    have hle := hsorted.2.2 b hb a List.mem_cons_self
    rcases Ordering.isLE_iff_eq_lt_or_eq_eq.mp hle with hlt | hsame
    · exact hlt
    · exact absurd (heq b (hmem b (by simp [hb])) a ha hsame) (hne b hb a List.mem_cons_self)
  have hmore : (a :: after).filter (fun b => cmp b a = .lt) = [] := by
    refine List.filter_eq_nil_iff.mpr fun b hb => ?_
    rw [decide_eq_true_eq]
    intro hlt
    rcases List.mem_cons.mp hb with hself | hb
    · have hrefl : cmp a a = .eq := Std.ReflCmp.compare_self
      rw [hself, hrefl] at hlt
      cases hlt
    · have hle := hsorted.2.1.1 b hb
      have hgt : cmp a b = .gt := Std.OrientedCmp.gt_of_lt hlt
      rw [hgt] at hle
      cases hle
  rw [List.filter_append, hless, hmore, List.append_nil]
  constructor
  · intro htake
    by_contra hlong
    rw [List.take_append_of_le_length (by omega)] at htake
    exact hne a (List.mem_of_mem_take htake) a List.mem_cons_self rfl
  · intro hlt
    rw [List.take_append, List.mem_append]
    obtain ⟨m, hm⟩ : ∃ m, k - before.length = m + 1 := ⟨k - before.length - 1, by omega⟩
    rw [hm, List.take_succ_cons]
    exact .inr List.mem_cons_self

end Compare

/-- The documented contract of a partial sort: for a total order, the list is rearranged so that
nothing before position `n` comes after anything from `n` on. -/
structure SelectsNth (select : ℕ → (α → α → Ordering) → List α → List α) : Prop where
  perm : ∀ n cmp l, Std.TransCmp cmp → n < l.length → (select n cmp l).Perm l
  split : ∀ n cmp l, Std.TransCmp cmp → n < l.length →
    ∀ a ∈ (select n cmp l).take n, ∀ b ∈ (select n cmp l).drop n, (cmp a b).isLE = true

/-- A full sort is a partial sort. -/
lemma selectsNth_sort :
    SelectsNth fun _ (cmp : α → α → Ordering) l => l.insertionSort fun a b => (cmp a b).isLE where
  perm _ _ l _ _ := List.perm_insertionSort _ l
  split n cmp l htrans _ := by
    have := htrans
    have hsorted := pairwise_sort cmp l
    rw [← List.take_append_drop n (l.insertionSort fun a b => (cmp a b).isLE),
      List.pairwise_append] at hsorted
    exact hsorted.2.2

/-- Lists that agree on the elements of a condition hold the same ones, in some order. -/
lemma perm_filter_of_agree {p : α → Bool} {l l' : List α} (hl : l.Nodup) (hl' : l'.Nodup)
    (h : ∀ a, p a = true → (a ∈ l ↔ a ∈ l')) : (l.filter p).Perm (l'.filter p) := by
  rw [List.perm_ext_iff_of_nodup (hl.filter p) (hl'.filter p)]
  intro a
  rw [List.mem_filter, List.mem_filter]
  exact and_congr_left fun ha => h a ha

/-! ## By position -/

/-- The shortest prefix that holds `k` elements satisfying the condition, or the whole list. -/
def prefixWith (p : α → Bool) : ℕ → List α → List α
  | 0, _ => []
  | _ + 1, [] => []
  | k + 1, a :: l => a :: prefixWith p (if p a then k else k + 1) l

variable (p : α → Bool)

@[simp] lemma prefixWith_zero (l : List α) : prefixWith p 0 l = [] := by cases l <;> rfl

lemma prefixWith_prefix (k : ℕ) (l : List α) : prefixWith p k l <+: l := by
  induction l generalizing k with
  | nil => cases k <;> exact List.prefix_rfl
  | cons a l ih =>
      cases k with
      | zero => exact prefixWith_zero p (a :: l) ▸ List.nil_prefix
      | succ k => exact (List.prefix_cons_inj a).mpr (ih _)

/-- The prefix holds the first `k` elements that satisfy the condition, and no others. -/
lemma filter_prefixWith (k : ℕ) (l : List α) :
    (prefixWith p k l).filter p = (l.filter p).take k := by
  induction l generalizing k with
  | nil => cases k <;> rfl
  | cons a l ih =>
      cases k with
      | zero => rfl
      | succ k =>
          rw [prefixWith, List.filter_cons, List.filter_cons, ih]
          by_cases ha : p a = true
          · simp only [if_pos ha, List.take_succ_cons]
          · simp only [if_neg ha]

/-- A prefix that is not the whole list holds `k` such elements. -/
lemma length_filter_prefixWith {k : ℕ} {l : List α} (h : prefixWith p k l ≠ l) :
    ((prefixWith p k l).filter p).length = k := by
  induction l generalizing k with
  | nil => cases k <;> exact absurd rfl h
  | cons a l ih =>
      cases k with
      | zero => rw [prefixWith_zero]; rfl
      | succ k =>
          have hrest : prefixWith p (if p a then k else k + 1) l ≠ l :=
            fun heq => h (congrArg (a :: ·) heq)
          rw [prefixWith, List.filter_cons]
          by_cases ha : p a = true
          · rw [if_pos ha] at hrest
            simp only [if_pos ha]
            rw [List.length_cons, ih hrest]
          · rw [if_neg ha] at hrest
            simp only [if_neg ha]
            exact ih hrest

end Selection
