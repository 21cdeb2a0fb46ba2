import SectorSync.Base.Codec

/-!
# Readers that ask for storage

A `Metered` reader also tells for how many elements it asked to have room, and how many bytes were
ahead of it when it asked.  `erase` forgets the requests.  `Asks` says which requests a reader makes
from what is ahead of it, as `Parses` does of the values that it returns, and `Backed` that no
reader that succeeds has asked for more elements than the bytes ahead could spell.
-/

namespace Bytes

variable {K E α β : Type}

/-- A request for room for `count` elements, made with `remaining` bytes ahead. -/
structure Request (K : Type) where
  item : K
  count : ℕ
  remaining : ℕ
  deriving DecidableEq

/-- A reader together with its requests, in order. -/
def Metered (K E α : Type) : Type :=
  Cursor → List (Request K) × Option (Except E (α × Cursor))

namespace Metered

instance : Monad (Metered K E) where
  pure a := fun cursor => ([], some (.ok (a, cursor)))
  bind m f := fun cursor =>
    match m cursor with
    | (requests, none) => (requests, none)
    | (requests, some (.error error)) => (requests, some (.error error))
    | (requests, some (.ok (a, cursor))) => (requests ++ (f a cursor).1, (f a cursor).2)

/-- A reader that asks for nothing. -/
def read (r : Reader E α) : Metered K E α := fun cursor => ([], r cursor)

/-- Asks for room for `count` elements. -/
def reserve (item : K) (count : ℕ) : Metered K E Unit := fun cursor =>
  ([⟨item, count, cursor.remaining⟩], some (.ok ((), cursor)))

/-- Reads `count` values, one after the other. -/
def times (m : Metered K E α) : ℕ → Metered K E (List α)
  | 0 => pure []
  | count + 1 => do
      let a ← m
      let as ← times m count
      return a :: as

/-- Makes room for `count` values and reads them. -/
def collect (m : Metered K E α) (item : K) (count : ℕ) : Metered K E (List α) := do
  reserve item count
  m.times count

/-- The reader without its requests. -/
def erase (m : Metered K E α) : Reader E α := fun cursor => (m cursor).2

/-- The requests made on a whole input. -/
def requests (m : Metered K E α) (input : List UInt8) : List (Request K) :=
  (m (Cursor.start input)).1

lemma bind_eq (m : Metered K E α) (f : α → Metered K E β) (cursor : Cursor) :
    (m >>= f) cursor = match m cursor with
      | (requests, none) => (requests, none)
      | (requests, some (.error error)) => (requests, some (.error error))
      | (requests, some (.ok (a, cursor))) =>
          (requests ++ (f a cursor).1, (f a cursor).2) := rfl

@[simp] lemma erase_pure (a : α) : erase (pure a : Metered K E α) = pure a := rfl

@[simp] lemma erase_read (r : Reader E α) : erase (read r : Metered K E α) = r := rfl

@[simp] lemma erase_bind (m : Metered K E α) (f : α → Metered K E β) :
    erase (m >>= f) = erase m >>= fun a => erase (f a) := by
  funext cursor
  rw [erase, bind_eq, Reader.bind_eq, erase]
  rcases m cursor with ⟨requests, _ | error | ⟨a, next⟩⟩ <;> rfl

/-- The requests of a sequence whose first part succeeds. -/
lemma requests_bind {m : Metered K E α} {cursor next : Cursor} {a : α}
    (h : m.erase cursor = some (.ok (a, next))) (f : α → Metered K E β) :
    ((m >>= f) cursor).1 = (m cursor).1 ++ (f a next).1 := by
  rw [erase] at h
  rw [bind_eq]
  rcases hmetered : m cursor with ⟨requests, result⟩
  rw [hmetered] at h
  subst h
  rfl

@[simp] lemma erase_times (m : Metered K E α) (count : ℕ) :
    erase (m.times count) = m.erase.times count := by
  induction count with
  | zero => rfl
  | succ count ih => simp only [times, Reader.times, erase_bind, erase_pure, ih]

@[simp] lemma erase_collect (item : K) (m : Metered K E α) (count : ℕ) :
    erase (m.collect item count) = m.erase.times count := by
  rw [← erase_times]
  rfl

lemma requests_collect (item : K) (m : Metered K E α) (count : ℕ) (cursor : Cursor) :
    (m.collect item count cursor).1
      = ⟨item, count, cursor.remaining⟩ :: (m.times count cursor).1 := rfl

end Metered

open Metered

/-! ## Which requests are made -/

/-- The requests made with `rest` ahead are those that `A rest` accepts. -/
def Asks (m : Metered K E α) (A : List UInt8 → Request K → Prop) : Prop :=
  ∀ pre rest request, request ∈ (m (Cursor.after pre rest)).1 ↔ A rest request

namespace Asks

variable {m : Metered K E α} {A : List UInt8 → Request K → Prop}

lemma congr {B : List UInt8 → Request K → Prop} (h : Asks m A)
    (hAB : ∀ rest request, A rest request ↔ B rest request) : Asks m B := by
  intro pre rest request
  rw [h pre rest request, hAB]

lemma pure (a : α) : Asks (pure a : Metered K E α) fun _ _ => False := by
  intro pre rest request
  exact List.mem_nil_iff request

lemma read (r : Reader E α) : Asks (read r : Metered K E α) fun _ _ => False := by
  intro pre rest request
  exact List.mem_nil_iff request

/-- The requests of a sequence are those of the first part, and those of the second part after what
the first one read. -/
lemma bind {f : α → Metered K E β} {R : List UInt8 → α → Prop}
    {B : α → List UInt8 → Request K → Prop} (hm : Asks m A) (hr : Parses m.erase R)
    (hf : ∀ a, Asks (f a) (B a)) :
    Asks (m >>= f) fun rest request => A rest request
      ∨ ∃ bytes rest' a, rest = bytes ++ rest' ∧ R bytes a ∧ B a rest' request := by
  intro pre rest request
  rw [Metered.bind_eq]
  have hfirst := hm pre rest request
  rcases hread : m (Cursor.after pre rest) with ⟨requests, _ | error | ⟨a, next⟩⟩
  · have herase : m.erase (Cursor.after pre rest) = none := by rw [erase, hread]
    exact absurd herase (hr.inBounds pre rest)
  · rw [hread] at hfirst
    refine hfirst.trans (or_iff_left ?_).symm
    rintro ⟨bytes, rest', a, rfl, ha, -⟩
    have herase := hr.complete ha pre rest'
    rw [erase, hread] at herase
    cases herase
  · rw [hread] at hfirst
    have herase : m.erase (Cursor.after pre rest) = some (.ok (a, next)) := by rw [erase, hread]
    obtain ⟨bytes, rest', rfl, ha, rfl⟩ := hr.sound herase
    rw [List.mem_append, hfirst, hf a]
    constructor
    · rintro (hA | hB)
      · exact Or.inl hA
      · exact Or.inr ⟨bytes, rest', a, rfl, ha, hB⟩
    · rintro (hA | ⟨bytes', rest'', a', hsplit, ha', hB⟩)
      · exact Or.inl hA
      · obtain ⟨rfl, rfl⟩ := hr.unambiguous ha ha' hsplit
        rw [List.append_cancel_left hsplit]
        exact Or.inr hB

/-- A part that asks for nothing, before another. -/
lemma after {f : α → Metered K E β} {R : List UInt8 → α → Prop}
    {B : α → List UInt8 → Request K → Prop} {r : Reader E α} (hr : Parses r R)
    (hf : ∀ a, Asks (f a) (B a)) :
    Asks (Metered.read r >>= f) fun rest request =>
      ∃ bytes rest' a, rest = bytes ++ rest' ∧ R bytes a ∧ B a rest' request :=
  ((Asks.read r).bind hr hf).congr fun rest request => by simp

/-- The value of a reader under a function. -/
lemma map {f : α → β} (hm : Asks m A) : Asks (do let a ← m; return f a) A := by
  intro pre rest request
  refine Iff.trans (Eq.to_iff (congrArg (request ∈ ·) ?_)) (hm pre rest request)
  rw [Metered.bind_eq]
  rcases m (Cursor.after pre rest) with ⟨requests, _ | error | ⟨a, next⟩⟩
  · rfl
  · rfl
  · exact List.append_nil requests

/-- The requests of a counted run are those of its elements, up to the one that fails. -/
lemma times {enc : α → List UInt8} {valid : α → Prop} (hm : Asks m A)
    (hr : Parses m.erase (Spells enc valid)) (count : ℕ) :
    Asks (m.times count) fun rest request => ∃ (as : List α) (rest' : List UInt8),
      as.length < count ∧ (∀ a ∈ as, valid a) ∧ rest = as.flatMap enc ++ rest'
        ∧ A rest' request := by
  induction count with
  | zero => exact (Asks.pure []).congr fun rest request => by simp
  | succ count ih =>
      refine (hm.bind hr fun a => ih.map (f := fun as => a :: as)).congr fun rest request => ?_
      constructor
      · rintro (hA | ⟨bytes, rest', a, rfl, ⟨rfl, ha⟩, as, rest'', hlt, has, rfl, hA⟩)
        · exact ⟨[], rest, by simp, by simp, by simp, hA⟩
        · refine ⟨a :: as, rest'', by simpa using hlt, ?_, ?_, hA⟩
          · intro b hb
            rcases List.mem_cons.mp hb with rfl | hb
            · exact ha
            · exact has b hb
          · rw [List.flatMap_cons, List.append_assoc]
      · rintro ⟨as, rest', hlt, has, rfl, hA⟩
        cases as with
        | nil => exact Or.inl hA
        | cons a as =>
            refine Or.inr ⟨enc a, as.flatMap enc ++ rest', a, ?_, ⟨rfl, has a (by simp)⟩, as,
              rest', by simpa using hlt, fun b hb => has b (by simp [hb]), rfl, hA⟩
            rw [List.flatMap_cons, List.append_assoc]

/-- Before them the run asks for its room. -/
lemma collect {enc : α → List UInt8} {valid : α → Prop} (hm : Asks m A)
    (hr : Parses m.erase (Spells enc valid)) (item : K) (count : ℕ) :
    Asks (m.collect item count) fun rest request => request = ⟨item, count, rest.length⟩
      ∨ ∃ (as : List α) (rest' : List UInt8), as.length < count ∧ (∀ a ∈ as, valid a)
        ∧ rest = as.flatMap enc ++ rest' ∧ A rest' request := by
  intro pre rest request
  rw [requests_collect, List.mem_cons, hm.times hr count pre rest request]
  simp [Cursor.remaining, Cursor.after]

end Asks

/-! ## Requests that the input backs -/

/-- A reader that succeeds has asked for no more elements than the bytes ahead could spell. -/
def Backed (m : Metered K E α) (size : K → ℕ) : Prop :=
  ∀ pre rest a cursor, m.erase (Cursor.after pre rest) = some (.ok (a, cursor)) →
    ∀ request ∈ (m (Cursor.after pre rest)).1,
      request.count * size request.item ≤ request.remaining

namespace Backed

variable {m : Metered K E α} {size : K → ℕ}

lemma pure (a : α) : Backed (pure a : Metered K E α) size := by
  intro pre rest b cursor hread request hrequest
  cases hrequest

lemma read (r : Reader E α) : Backed (Metered.read r : Metered K E α) size := by
  intro pre rest b cursor hread request hrequest
  cases hrequest

lemma bind {f : α → Metered K E β} {R : List UInt8 → α → Prop} (hm : Backed m size)
    (hr : Parses m.erase R) (hf : ∀ a, Backed (f a) size) : Backed (m >>= f) size := by
  intro pre rest b cursor hread request hrequest
  rw [erase_bind, Reader.bind_eq] at hread
  rcases hfirst : m.erase (Cursor.after pre rest) with _ | error | ⟨a, next⟩
  · rw [hfirst] at hread
    cases hread
  · rw [hfirst] at hread
    cases hread
  · rw [hfirst] at hread
    obtain ⟨bytes, rest', rfl, -, rfl⟩ := hr.sound hfirst
    rw [requests_bind hfirst, List.mem_append] at hrequest
    rcases hrequest with hrequest | hrequest
    · exact hm pre _ a _ hfirst request hrequest
    · exact hf a _ rest' b cursor hread request hrequest

/-- A part that asks for nothing, before another. -/
lemma after {f : α → Metered K E β} {R : List UInt8 → α → Prop} {r : Reader E α}
    (hr : Parses r R) (hf : ∀ a, Backed (f a) size) : Backed (Metered.read r >>= f) size :=
  (Backed.read r).bind hr hf

/-- The value of a reader under a function. -/
lemma map {f : α → β} (hm : Backed m size) : Backed (do let a ← m; return f a) size := by
  intro pre rest b cursor hread request hrequest
  rw [erase_bind, Reader.bind_eq] at hread
  rcases hfirst : m.erase (Cursor.after pre rest) with _ | error | ⟨a, next⟩
  · rw [hfirst] at hread
    cases hread
  · rw [hfirst] at hread
    cases hread
  · rw [requests_bind hfirst] at hrequest
    exact hm pre rest a next hfirst request ((List.append_nil _).subst hrequest)

lemma times {enc : α → List UInt8} {valid : α → Prop} (hm : Backed m size)
    (hr : Parses m.erase (Spells enc valid)) (count : ℕ) : Backed (m.times count) size := by
  induction count with
  | zero => exact Backed.pure []
  | succ count ih =>
      have hrest := hr.times count
      rw [← erase_times] at hrest
      exact hm.bind hr fun a => ih.bind hrest fun as => Backed.pure (a :: as)

lemma mul_le_length_flatMap {enc : α → List UInt8} {least : ℕ} (h : ∀ a, least ≤ (enc a).length)
    (as : List α) : as.length * least ≤ (as.flatMap enc).length := by
  induction as with
  | nil => simp
  | cons a as ih =>
      have ha := h a
      rw [List.length_cons, Nat.succ_mul, List.flatMap_cons, List.length_append]
      omega

/-- Elements that are asked for and then all read, when none is spelled in fewer bytes. -/
lemma collect {enc : α → List UInt8} {valid : α → Prop} (hm : Backed m size)
    (hr : Parses m.erase (Spells enc valid)) {item : K}
    (hsize : ∀ a, size item ≤ (enc a).length) (count : ℕ) :
    Backed (m.collect item count) size := by
  intro pre rest as cursor hread request hrequest
  rw [erase_collect] at hread
  rw [requests_collect, List.mem_cons] at hrequest
  rcases hrequest with rfl | hrequest
  · obtain ⟨bytes, rest', rfl, ⟨⟨rfl, -⟩, hlen⟩, -⟩ := (hr.times count).sound hread
    have hspelled := mul_le_length_flatMap hsize as
    simp only [Cursor.remaining, Cursor.after, List.length_append]
    rw [← hlen]
    omega
  · rw [← erase_times] at hread
    exact hm.times hr count pre rest as cursor hread request hrequest

end Backed

end Bytes
