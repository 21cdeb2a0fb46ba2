import SectorSync.Base.Codec

/-!
# Writers that fail

What a writer that fails leaves in its buffer.  A writer that takes back its own bytes, or copies
others over them, still retains what was in the buffer before: `Retains pre w` says that `w` works
behind `pre` only, and it is closed under sequencing and under loops.  A writer is `Atomic` on a
buffer when an error leaves the buffer as it was.

`atomic_iff_succeeds` is the rule for a writer whose first byte stays: it is atomic exactly where it
succeeds.
-/

namespace Bytes

variable {E α β γ : Type} {pre out : List UInt8}

/-- The writer leaves the front of the buffer alone. -/
def Retains (pre : List UInt8) (w : Writer E α) : Prop :=
  ∀ ⦃out⦄, pre <+: out → pre <+: (w out).2

/-- On this buffer, a writer that fails leaves the buffer as it was. -/
def Atomic (w : Writer E α) (out : List UInt8) : Prop :=
  ∀ error out', w out = (.error error, out') → out' = out

namespace Retains

variable {w : Writer E α} {f : α → Writer E β}

lemma pure (a : α) : Retains pre (pure a : Writer E α) := fun _ h => h

lemma fail (error : E) : Retains pre (Writer.fail error : Writer E α) := fun _ h => h

lemma extend (bytes : List UInt8) : Retains pre (Writer.extend bytes : Writer E Unit) :=
  fun _ h => h.trans (List.prefix_append _ _)

lemma truncate {length : ℕ} (hlength : pre.length ≤ length) :
    Retains pre (Writer.truncate length : Writer E Unit) :=
  fun _ h => List.prefix_take_iff.mpr ⟨h, hlength⟩

lemma overwrite {offset : ℕ} (hoffset : pre.length ≤ offset) (bytes : List UInt8) :
    Retains pre (Writer.overwrite offset bytes : Writer E Unit) := by
  intro out h
  have htake : pre <+: out.take offset := List.prefix_take_iff.mpr ⟨h, hoffset⟩
  exact (htake.trans (List.prefix_append _ _)).trans (List.prefix_append _ _)

lemma bind (hw : Retains pre w) (hf : ∀ a, Retains pre (f a)) : Retains pre (w >>= f) := by
  intro out h
  have hfirst := hw h
  rw [Writer.bind_eq]
  rcases hresult : w out with ⟨error | a, out'⟩
  · rwa [hresult] at hfirst
  · rw [hresult] at hfirst
    exact hf a hfirst

/-- A writer that takes the length of the buffer takes at least that of the front. -/
lemma len_bind {f : ℕ → Writer E β} (hf : ∀ n, pre.length ≤ n → Retains pre (f n)) :
    Retains pre (Writer.len >>= f) :=
  fun _ h => hf _ h.length_le h

/-- Behind the first byte that a writer appends. -/
lemma behind {byte : UInt8} (hw : Retains (out ++ [byte]) w) :
    out ++ [byte] <+: ((Writer.extend [byte] >>= fun _ => w) out).2 :=
  hw List.prefix_rfl

lemma ite {c : Prop} [Decidable c] {w' : Writer E α} (hw : Retains pre w) (hw' : Retains pre w') :
    Retains pre (if c then w else w') := by
  split
  · exact hw
  · exact hw'

lemma forM {write : α → Writer E Unit} (h : ∀ a, Retains pre (write a)) (as : List α) :
    Retains pre (as.forM write) := by
  induction as with
  | nil => exact Retains.pure ()
  | cons a as ih => exact (h a).bind fun _ => ih

lemma foldlM {step : β → γ → Writer E β} (h : ∀ b c, Retains pre (step b c)) (cs : List γ) (b : β) :
    Retains pre (cs.foldlM step b) := by
  induction cs generalizing b with
  | nil => exact Retains.pure b
  | cons c cs ih => exact (h b c).bind fun b => ih b

end Retains

/-- **A writer that leaves a byte behind the buffer is atomic exactly where it succeeds.** -/
theorem atomic_iff_succeeds {w : Writer E α} {byte : UInt8} (hw : out ++ [byte] <+: (w out).2) :
    Atomic w out ↔ ∃ a out', w out = (.ok a, out') := by
  rcases hresult : w out with ⟨error | a, out'⟩
  · rw [hresult] at hw
    constructor
    · intro hatomic
      have hlength : (out ++ [byte]).length ≤ out'.length := hw.length_le
      rw [hatomic error out' hresult, List.length_append, List.length_singleton] at hlength
      omega
    · rintro ⟨a, out'', hok⟩
      cases hok
  · refine ⟨fun _ => ⟨a, out', rfl⟩, fun _ error out'' herror => ?_⟩
    rw [hresult] at herror
    cases herror

/-- A writer of a format whose first byte stays is atomic exactly when the value fits. -/
theorem Writes.atomic_iff {w : Writer E Unit} {fits : Prop} {bytes : List UInt8} {byte : UInt8}
    (h : Writes w fits bytes) (hw : out ++ [byte] <+: (w out).2) : Atomic w out ↔ fits := by
  rw [atomic_iff_succeeds hw]
  constructor
  · rintro ⟨a, out', hok⟩
    exact (h.eq_ok_iff.mp hok).1
  · exact fun hfits => ⟨(), _, h.appends hfits out⟩

/-- A writer that always succeeds is atomic. -/
lemma Writes.atomic {w : Writer E Unit} {bytes : List UInt8} (h : Writes w True bytes) :
    Atomic w out := by
  intro error out' herror
  rw [h.appends trivial] at herror
  cases herror

end Bytes
