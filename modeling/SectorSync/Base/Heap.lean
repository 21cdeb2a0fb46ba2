import Mathlib.Data.List.Sort

/-!
# Min-heaps

A priority queue as the ascending list of its entries.  The order is a field, so that taking
entries from the front while a condition holds is what popping the least entry again and again
while it holds does.
-/

universe u

/-- A priority queue that pops its least entry first. -/
structure MinHeap (α : Type u) [LinearOrder α] where
  entries : List α
  sorted : entries.Pairwise (· ≤ ·)

namespace MinHeap

variable {α : Type u} [LinearOrder α]

/-- The heap without entries. -/
def empty : MinHeap α := ⟨[], List.Pairwise.nil⟩

/-- Number of entries. -/
def len (heap : MinHeap α) : ℕ := heap.entries.length

/-- Adds an entry. -/
def push (heap : MinHeap α) (a : α) : MinHeap α where
  entries := heap.entries.orderedInsert (· ≤ ·) a
  sorted := heap.sorted.orderedInsert a _

/-- Adds the entries of a list. -/
def extend (heap : MinHeap α) (l : List α) : MinHeap α := l.foldl push heap

/-- The heap of the entries of a list. -/
def collect (l : List α) : MinHeap α := empty.extend l

/-- Pops entries while they satisfy the condition, and returns them in order. -/
def popWhile (p : α → Bool) (heap : MinHeap α) : List α × MinHeap α :=
  (heap.entries.takeWhile p,
    ⟨heap.entries.dropWhile p, heap.sorted.sublist (List.dropWhile_sublist p)⟩)

instance : Membership α (MinHeap α) := ⟨fun heap a => a ∈ heap.entries⟩

@[simp] lemma mem_push {heap : MinHeap α} {a b : α} : b ∈ heap.push a ↔ b = a ∨ b ∈ heap :=
  List.mem_orderedInsert _

@[simp] lemma mem_extend {heap : MinHeap α} {l : List α} {b : α} :
    b ∈ heap.extend l ↔ b ∈ l ∨ b ∈ heap := by
  induction l generalizing heap with
  | nil => simp [extend]
  | cons a l ih =>
      have hstep : heap.extend (a :: l) = (heap.push a).extend l := rfl
      rw [hstep, ih, mem_push, List.mem_cons]
      exact or_left_comm.trans (or_assoc).symm

@[simp] lemma mem_collect {l : List α} {b : α} : b ∈ collect l ↔ b ∈ l := by
  have hempty : b ∉ (empty : MinHeap α) := List.not_mem_nil
  rw [collect, mem_extend, or_iff_left hempty]

@[simp] lemma len_push (heap : MinHeap α) (a : α) : (heap.push a).len = heap.len + 1 :=
  List.orderedInsert_length _ _ _

@[simp] lemma len_collect (l : List α) : (collect l).len = l.length := by
  have hextend : ∀ (l : List α) (heap : MinHeap α), (heap.extend l).len = heap.len + l.length := by
    intro l
    induction l with
    | nil => exact fun _ => rfl
    | cons a l ih =>
        intro heap
        have hstep : heap.extend (a :: l) = (heap.push a).extend l := rfl
        rw [hstep, ih, len_push, List.length_cons]
        omega
  rw [collect, hextend]
  exact Nat.zero_add _

/-- Popping splits the entries. -/
lemma mem_popWhile {heap : MinHeap α} (p : α → Bool) {b : α} :
    b ∈ heap ↔ b ∈ (heap.popWhile p).1 ∨ b ∈ (heap.popWhile p).2 := by
  show b ∈ heap.entries ↔ b ∈ heap.entries.takeWhile p ∨ b ∈ heap.entries.dropWhile p
  rw [← List.mem_append, List.takeWhile_append_dropWhile]

/-- A condition that passes on to lesser entries pops exactly the entries that meet it. -/
lemma mem_popWhile_fst {heap : MinHeap α} {p : α → Bool} (hp : ∀ a b, a ≤ b → p b → p a) {b : α} :
    b ∈ (heap.popWhile p).1 ↔ b ∈ heap ∧ p b = true := by
  obtain ⟨entries, sorted⟩ := heap
  show b ∈ entries.takeWhile p ↔ b ∈ entries ∧ p b = true
  induction entries with
  | nil => simp
  | cons a entries ih =>
      obtain ⟨hle, hrest⟩ := List.pairwise_cons.mp sorted
      rw [List.takeWhile_cons]
      split_ifs with ha
      · rw [List.mem_cons, List.mem_cons, ih hrest]
        constructor
        · rintro (rfl | ⟨hmem, hb⟩)
          · exact ⟨Or.inl rfl, ha⟩
          · exact ⟨Or.inr hmem, hb⟩
        · rintro ⟨rfl | hmem, hb⟩
          · exact Or.inl rfl
          · exact Or.inr ⟨hmem, hb⟩
      · refine iff_of_false List.not_mem_nil ?_
        rintro ⟨hmem, hb⟩
        rcases List.mem_cons.mp hmem with rfl | hmem
        · exact ha hb
        · exact ha (hp a b (hle b hmem) hb)

end MinHeap
