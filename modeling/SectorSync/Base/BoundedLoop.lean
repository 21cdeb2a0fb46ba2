import Mathlib.Tactic.Common

/-!
# Loops that a body can leave

A loop runs its body at most as often as its budget says.  A pass goes on, leaves the loop, or fails
out of the function around it.  What lives outside of the function is kept in all three cases, and
what the function collects is lost in the third.  A panic is `none`.

`loopWithin_alike` compares two loops that keep the same and collect different things.
-/

universe u

namespace BoundedLoop

variable {E K L L' : Type u}

/-- How a pass through the body ends. -/
inductive Pass (E K L : Type u) where
  | next (kept : K) (collected : L)
  /-- Leaves the loop. -/
  | leave (kept : K) (collected : L)
  /-- Returns an error from the function. -/
  | fail (error : E) (kept : K)

/-- Runs the body at most `budget` times. -/
def loopWithin (body : K → L → Option (Pass E K L)) : ℕ → K → L → Option (Except E L × K)
  | 0, kept, collected => some (.ok collected, kept)
  | budget + 1, kept, collected =>
      match body kept collected with
      | none => none
      | some (.next kept collected) => loopWithin body budget kept collected
      | some (.leave kept collected) => some (.ok collected, kept)
      | some (.fail error kept) => some (.error error, kept)

/-- What lives outside after a pass. -/
def Pass.kept : Pass E K L → K
  | .next kept _ | .leave kept _ | .fail _ kept => kept

/-- **The invariant rule.**  When no pass panics and each keeps an invariant of what lives outside,
so does a call. -/
theorem loopWithin_invariant {I : K → Prop} {body : K → L → Option (Pass E K L)}
    (hbody : ∀ kept collected, I kept → ∃ pass, body kept collected = some pass ∧ I pass.kept)
    (budget : ℕ) {kept : K} (h : I kept) (collected : L) :
    ∃ result, loopWithin body budget kept collected = some result ∧ I result.2 := by
  induction budget generalizing kept collected with
  | zero => exact ⟨_, rfl, h⟩
  | succ budget ih =>
      obtain ⟨pass, hpass, hkept⟩ := hbody kept collected h
      rw [loopWithin, hpass]
      cases pass with
      | next kept collected => exact ih hkept collected
      | leave kept collected => exact ⟨_, rfl, hkept⟩
      | fail error kept => exact ⟨_, rfl, hkept⟩

/-! ## Observers -/

section Observers

variable {G : Type u} (observe : K → G → G) (body : K → L → Option (Pass E K L))

/-- The pass with something that is kept beside. -/
def Pass.beside (g : G) : Pass E K L → Pass E (K × G) L
  | .next kept collected => .next (kept, g) collected
  | .leave kept collected => .leave (kept, g) collected
  | .fail error kept => .fail error (kept, g)

/-- The body with an observer, which sees what lives outside before every pass. -/
def observed (kept : K × G) (collected : L) : Option (Pass E (K × G) L) :=
  (body kept.1 collected).map (.beside (observe kept.1 kept.2))

/-- An observer changes nothing. -/
lemma loopWithin_observed (budget : ℕ) (kept : K × G) (collected : L) :
    (loopWithin (observed observe body) budget kept collected).map
        (fun result => (result.1, result.2.1))
      = loopWithin body budget kept.1 collected := by
  induction budget generalizing kept collected with
  | zero => rfl
  | succ budget ih =>
      rw [loopWithin, loopWithin, observed]
      rcases body kept.1 collected with _ | ⟨next⟩ | ⟨left⟩ | ⟨error, failed⟩
      · rfl
      · exact ih _ _
      · rfl
      · rfl

variable {body}

/-- **The invariant rule for an observed loop.** -/
theorem observed_invariant {I : K → G → Prop}
    (hbody : ∀ kept g collected, I kept g → ∃ pass, body kept collected = some pass
      ∧ I pass.kept (observe kept g)) (budget : ℕ) {kept : K} {g : G} (h : I kept g)
    (collected : L) :
    ∃ result g', loopWithin body budget kept collected = some result
      ∧ loopWithin (observed observe body) budget (kept, g) collected
        = some (result.1, result.2, g')
      ∧ I result.2 g' := by
  have hpass : ∀ (kept : K × G) (collected : L), I kept.1 kept.2 → ∃ pass,
      observed observe body kept collected = some pass ∧ I pass.kept.1 pass.kept.2 := by
    intro kept collected hkept
    obtain ⟨pass, hpass, hnext⟩ := hbody kept.1 kept.2 collected hkept
    refine ⟨_, by rw [observed, hpass]; rfl, ?_⟩
    cases pass <;> exact hnext
  have hstart : (fun kept : K × G => I kept.1 kept.2) (kept, g) := h
  obtain ⟨⟨result, kept', g'⟩, hrun, hinv⟩ := loopWithin_invariant hpass budget hstart collected
  refine ⟨(result, kept'), g', ?_, hrun, hinv⟩
  rw [← loopWithin_observed observe body budget (kept, g), hrun]
  rfl

end Observers

/-- Two passes end in the same way, keep the same, and collect what is related. -/
inductive Pass.Alike (R : L → L' → Prop) : Pass E K L → Pass E K L' → Prop
  | next {kept : K} {collected : L} {collected' : L'} (h : R collected collected') :
      Alike R (.next kept collected) (.next kept collected')
  | leave {kept : K} {collected : L} {collected' : L'} (h : R collected collected') :
      Alike R (.leave kept collected) (.leave kept collected')
  | fail {error : E} {kept : K} : Alike R (.fail error kept) (.fail error kept)

/-- Two calls return what is related or the same error, and keep the same. -/
inductive Alike (R : L → L' → Prop) : Except E L × K → Except E L' × K → Prop
  | ok {kept : K} {collected : L} {collected' : L'} (h : R collected collected') :
      Alike R (.ok collected, kept) (.ok collected', kept)
  | error {error : E} {kept : K} : Alike R (.error error, kept) (.error error, kept)

/-- **Loops with bodies alike.**  When no pass panics and corresponding passes are alike, no call
panics and corresponding calls are alike. -/
theorem loopWithin_alike {R : L → L' → Prop} {body : K → L → Option (Pass E K L)}
    {body' : K → L' → Option (Pass E K L')}
    (hbody : ∀ kept collected collected', R collected collected' → ∃ pass pass',
      body kept collected = some pass ∧ body' kept collected' = some pass'
        ∧ pass.Alike R pass')
    (budget : ℕ) (kept : K) {collected : L} {collected' : L'} (h : R collected collected') :
    ∃ result result', loopWithin body budget kept collected = some result
      ∧ loopWithin body' budget kept collected' = some result' ∧ Alike R result result' := by
  induction budget generalizing kept collected collected' with
  | zero => exact ⟨_, _, rfl, rfl, .ok h⟩
  | succ budget ih =>
      obtain ⟨pass, pass', hpass, hpass', halike⟩ := hbody kept collected collected' h
      rw [loopWithin, loopWithin, hpass, hpass']
      cases halike with
      | next hnext => exact ih _ hnext
      | leave hleave => exact ⟨_, _, rfl, rfl, .ok hleave⟩
      | fail => exact ⟨_, _, rfl, rfl, .error⟩

end BoundedLoop
