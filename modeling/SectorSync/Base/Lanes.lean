import Mathlib.Algebra.Order.Floor.Div
import Mathlib.Data.List.Forall2

/-!
# Work cut into chunks and shared out to lanes

A list of inputs and a list of output slots of the same length are cut into chunks, and each pair
of chunks is handed to a lane of its own, whose state goes from one input of the chunk to the
next.  Lanes, chunks of inputs and chunks of outputs are zipped, so the shortest of the three ends
the work.

`length_chunksOf` counts the chunks, so a chunk size of `n ⌈/⌉ lanes` leaves no chunk without a
lane; `inLanes_spec` is then the rule: what a step makes of an input, whatever the lane went
through before, is what the output slot of that input holds, and every input was worked on once.
-/

namespace Machine

universe u v w

variable {α : Type u} {β : Type v} {γ : Type w}

/-! ## Chunks -/

/-- Consecutive pieces of `size` elements, the last possibly shorter. -/
def chunksOf (size : ℕ) : List α → List (List α)
  | [] => []
  | a :: l => (a :: l.take (size - 1)) :: chunksOf size (l.drop (size - 1))
termination_by l => l.length
decreasing_by
  rw [List.length_drop, List.length_cons]
  omega

variable {size : ℕ}

@[simp] lemma chunksOf_nil : chunksOf size ([] : List α) = [] := by
  rw [chunksOf]

/-- A list that is not empty gives its first elements to one chunk. -/
lemma chunksOf_eq_cons (hsize : 0 < size) {l : List α} (hl : l ≠ []) :
    chunksOf size l = l.take size :: chunksOf size (l.drop size) := by
  obtain ⟨k, rfl⟩ := Nat.exists_eq_add_of_lt hsize
  cases l with
  | nil => exact absurd rfl hl
  | cons a l =>
      rw [chunksOf]
      simp

/-- Induction along the chunks of a list. -/
lemma chunksOf_induction (hsize : 0 < size) {motive : List α → Prop} (nil : motive [])
    (chunk : ∀ l, l ≠ [] → motive (l.drop size) → motive l) (l : List α) : motive l := by
  induction hn : l.length using Nat.strong_induction_on generalizing l with
  | _ n ih =>
      subst hn
      rcases eq_or_ne l [] with rfl | hl
      · exact nil
      · have hpos : 0 < l.length := List.length_pos_iff.mpr hl
        refine chunk l hl (ih _ ?_ _ rfl)
        rw [List.length_drop]
        omega

/-- Cutting loses nothing. -/
theorem flatten_chunksOf (hsize : 0 < size) (l : List α) : (chunksOf size l).flatten = l := by
  induction l using chunksOf_induction hsize with
  | nil => simp
  | chunk l hl ih => rw [chunksOf_eq_cons hsize hl, List.flatten_cons, ih, List.take_append_drop]

/-- There are as many chunks as the size fits into the length, rounded up. -/
theorem length_chunksOf (hsize : 0 < size) (l : List α) :
    (chunksOf size l).length = l.length ⌈/⌉ size := by
  induction l using chunksOf_induction hsize with
  | nil => simp
  | chunk l hl ih =>
      have hpos : 0 < l.length := List.length_pos_iff.mpr hl
      rw [chunksOf_eq_cons hsize hl, List.length_cons, ih, List.length_drop,
        Nat.ceilDiv_eq_add_pred_div, Nat.ceilDiv_eq_add_pred_div]
      rcases Nat.le_total l.length size with hle | hge
      · have hrest : l.length - size + size - 1 = size - 1 := by omega
        have hall : l.length + size - 1 = l.length - 1 + size := by omega
        rw [hrest, hall, Nat.add_div_right _ hsize, Nat.div_eq_of_lt (by omega),
          Nat.div_eq_of_lt (by omega)]
      · have hall : l.length + size - 1 = l.length - size + size - 1 + size := by omega
        rw [hall, Nat.add_div_right _ hsize]

/-- Chunks of the length over the number of lanes, rounded up, are no more than the lanes. -/
theorem length_le_ceilDiv_mul {lanes : ℕ} (hlanes : 0 < lanes) (n : ℕ) :
    n ≤ n ⌈/⌉ lanes * lanes := by
  rw [Nat.mul_comm]
  exact le_smul_ceilDiv hlanes

lemma ceilDiv_pos {lanes n : ℕ} (hlanes : 0 < lanes) (hn : 0 < n) : 0 < n ⌈/⌉ lanes := by
  have h := length_le_ceilDiv_mul hlanes n
  exact Nat.pos_of_mul_pos_right (lt_of_lt_of_le hn h)

/-! ## Lanes -/

/-- A lane works through its chunk.  Returned are the lane, the output slots and the inputs it
worked on. -/
def inLane (step : α → γ × β → γ × β) : List α → List β → γ → γ × List β × List α
  | a :: as, b :: bs, lane =>
      let (lane, b) := step a (lane, b)
      let (lane, bs, done) := inLane step as bs lane
      (lane, b :: bs, a :: done)
  | _, bs, lane => (lane, bs, [])

/-- Every lane works through the chunk it is zipped with. -/
def inLanes (step : α → γ × β → γ × β) :
    List (List α) → List (List β) → List γ → List γ × List (List β) × List (List α)
  | input :: inputs, output :: outputs, lane :: lanes =>
      let (lane, output, done) := inLane step input output lane
      let (lanes, outputs, rest) := inLanes step inputs outputs lanes
      (lane :: lanes, output :: outputs, done :: rest)
  | _, outputs, lanes => (lanes, outputs, [])

variable {step : α → γ × β → γ × β} {I : γ → Prop} {P : α → β → Prop}

/-- **One lane.**  A step that keeps the invariant of the lanes and writes `P` whatever it finds
leaves `P` in every slot of the chunk. -/
lemma inLane_spec (hstep : ∀ a lane b, I lane → I (step a (lane, b)).1 ∧ P a (step a (lane, b)).2)
    {as : List α} {bs : List β} {lane : γ} (hlen : as.length = bs.length) (hlane : I lane) :
    I (inLane step as bs lane).1 ∧ List.Forall₂ P as (inLane step as bs lane).2.1 ∧
      (inLane step as bs lane).2.2 = as := by
  induction as generalizing bs lane with
  | nil =>
      rw [List.length_nil] at hlen
      rw [List.eq_nil_of_length_eq_zero hlen.symm]
      exact ⟨hlane, .nil, rfl⟩
  | cons a as ih =>
      cases bs with
      | nil => cases hlen
      | cons b bs =>
          obtain ⟨hlane', hP⟩ := hstep a lane b hlane
          obtain ⟨hfinal, hrest, hdone⟩ := ih (Nat.succ.inj hlen) hlane'
          exact ⟨hfinal, .cons hP hrest, congrArg (a :: ·) hdone⟩

/-- **All lanes.**  When the chunks are no more than the lanes, every input is worked on once, in
order over the lanes, and every slot holds what the step writes for the input at its place. -/
theorem inLanes_spec (hstep : ∀ a lane b, I lane → I (step a (lane, b)).1 ∧ P a (step a (lane, b)).2)
    (hsize : 0 < size) {as : List α} {bs : List β} {lanes : List γ} (hlen : as.length = bs.length)
    (hfit : as.length ≤ size * lanes.length) (hlanes : ∀ lane ∈ lanes, I lane)
    {final : List γ × List (List β) × List (List α)}
    (hfinal : final = inLanes step (chunksOf size as) (chunksOf size bs) lanes) :
    (∀ lane ∈ final.1, I lane) ∧ final.1.length = lanes.length ∧
      List.Forall₂ P as final.2.1.flatten ∧ final.2.2 = chunksOf size as := by
  induction as using chunksOf_induction hsize generalizing bs lanes final with
  | nil =>
      rw [List.length_nil] at hlen
      rw [List.eq_nil_of_length_eq_zero hlen.symm, chunksOf_nil, chunksOf_nil] at hfinal
      subst hfinal
      exact ⟨hlanes, rfl, .nil, chunksOf_nil.symm⟩
  | chunk as has ih =>
      have hpos : 0 < as.length := List.length_pos_iff.mpr has
      have hbs : bs ≠ [] := List.length_pos_iff.mp (hlen ▸ hpos)
      cases lanes with
      | nil =>
          rw [List.length_nil, Nat.mul_zero] at hfit
          omega
      | cons lane lanes =>
          rw [chunksOf_eq_cons hsize has, chunksOf_eq_cons hsize hbs] at hfinal
          have htake : (as.take size).length = (bs.take size).length := by
            rw [List.length_take, List.length_take, hlen]
          have hdrop : (as.drop size).length = (bs.drop size).length := by
            rw [List.length_drop, List.length_drop, hlen]
          have hfit' : (as.drop size).length ≤ size * lanes.length := by
            rw [List.length_drop]
            rw [List.length_cons, Nat.mul_succ] at hfit
            omega
          obtain ⟨hlane, hchunk, hdone⟩ := inLane_spec hstep htake (hlanes lane List.mem_cons_self)
          obtain ⟨hrest, hcount, hslots, hothers⟩ := ih hdrop hfit'
            (fun lane h => hlanes lane (List.mem_cons_of_mem _ h)) rfl
          subst hfinal
          refine ⟨?_, congrArg (· + 1) hcount, ?_, ?_⟩
          · exact List.forall_mem_cons.mpr ⟨hlane, hrest⟩
          · have hboth : List.Forall₂ P (as.take size ++ as.drop size) _ :=
              List.rel_append hchunk hslots
            rw [List.take_append_drop] at hboth
            exact hboth
          · rw [chunksOf_eq_cons hsize has]
            exact congrArg₂ List.cons hdone hothers

end Machine
