import SectorSync.Base.Codec

/-!
# Views of byte strings

A view passes over counted values, keeps the bytes that it has passed and reads the values again
when they are asked for.  `Views own view owned` says that such a reader ends as the reader that
keeps the values does: in the same error, or in a view that `own` turns into the value.

`Views.slice` is the rule for a counted run, and `ExactSize` what its iterator does: it returns as
many values as were counted, then `none`, and each of its reads succeeds.
-/

namespace Bytes

variable {E E' α β : Type}

namespace Reader

/-- Reads `count` values and keeps none of them. -/
def skip (r : Reader E α) : ℕ → Reader E Unit
  | 0 => pure ()
  | count + 1 => do
      let _ ← r
      skip r count

/-- The bytes `input[start..offset]` between the offsets before and after a reader. -/
def passed (r : Reader E Unit) : Reader E (List UInt8) := fun cursor =>
  match r cursor with
  | none => none
  | some (.error error) => some (.error error)
  | some (.ok ((), next)) =>
      if cursor.offset ≤ next.offset ∧ next.offset ≤ next.input.length then
        some (.ok ((next.input.take next.offset).drop cursor.offset, next))
      else none

lemma bind_pure (r : Reader E α) : r >>= pure = r := by
  funext cursor
  rw [bind_eq]
  rcases r cursor with _ | error | ⟨a, next⟩ <;> rfl

/-- A reader with its errors converted. -/
def mapError (convert : E → E') (r : Reader E α) : Reader E' α := fun cursor =>
  match r cursor with
  | none => none
  | some (.error error) => some (.error (convert error))
  | some (.ok (a, cursor)) => some (.ok (a, cursor))

lemma mapError_bind (convert : E → E') (r : Reader E α) (f : α → Reader E β) :
    mapError convert (r >>= f) = mapError convert r >>= fun a => mapError convert (f a) := by
  funext cursor
  rw [mapError, bind_eq, bind_eq, mapError]
  rcases r cursor with _ | error | ⟨a, next⟩ <;> rfl

end Reader

/-! ## Iterators -/

/-- An iterator over values that are still to be read. -/
structure Iter where
  cursor : Cursor
  remaining : ℕ

namespace Iter

/-- Over the `count` values at the start of a slice. -/
def ofSlice (slice : List UInt8) (count : ℕ) : Iter := ⟨Cursor.start slice, count⟩

/-- The next value, or `none` at the end.  The outer `none` is the end of the program: the read is
expected to succeed. -/
def next (r : Reader E α) (iter : Iter) : Option (Option α × Iter) :=
  if iter.remaining = 0 then some (none, iter)
  else
    match r iter.cursor with
    | some (.ok (a, cursor)) => some (some a, ⟨cursor, iter.remaining - 1⟩)
    | _ => none

/-- What the first `calls` calls of `next` return. -/
def answers (r : Reader E α) : ℕ → Iter → Option (List (Option α))
  | 0, _ => some []
  | calls + 1, iter => do
      let (answer, iter) ← iter.next r
      let rest ← answers r calls iter
      return answer :: rest

/-- Calls `next` until it returns `none`, which it does after at most `fuel` values. -/
def collectWithin (r : Reader E α) : ℕ → Iter → Option (List α)
  | 0, _ => none
  | fuel + 1, iter => do
      let (answer, iter) ← iter.next r
      match answer with
      | none => return []
      | some a =>
          let rest ← collectWithin r fuel iter
          return a :: rest

/-- All values of an iterator. -/
def collect (r : Reader E α) (iter : Iter) : Option (List α) :=
  iter.collectWithin r (iter.remaining + 1)

/-- The iterator returns `count` values, and no call of `next` ends the program. -/
def ExactSize (r : Reader E α) (iter : Iter) (count : ℕ) : Prop :=
  ∃ as : List α, as.length = count ∧ iter.collect r = some as
    ∧ ∀ calls, iter.answers r calls
        = some ((as.take calls).map some ++ List.replicate (calls - count) none)

variable {r : Reader E α} {enc : α → List UInt8} {valid : α → Prop}

lemma next_spelled (hr : Parses r (Spells enc valid)) {a : α} (ha : valid a) (n : ℕ)
    (pre rest : List UInt8) :
    (⟨Cursor.after pre (enc a ++ rest), n + 1⟩ : Iter).next r
      = some (some a, ⟨Cursor.after (pre ++ enc a) rest, n⟩) := by
  simp [next, hr.complete ⟨rfl, ha⟩ pre rest]

lemma answers_spelled (hr : Parses r (Spells enc valid)) (calls : ℕ) {as : List α}
    (has : ∀ a ∈ as, valid a) (pre rest : List UInt8) :
    (⟨Cursor.after pre (as.flatMap enc ++ rest), as.length⟩ : Iter).answers r calls
      = some ((as.take calls).map some ++ List.replicate (calls - as.length) none) := by
  induction calls generalizing as pre with
  | zero => simp [answers]
  | succ calls ih =>
      cases as with
      | nil =>
          have hrest := ih (fun a ha => has a ha) pre
          simp only [List.flatMap_nil, List.nil_append, List.length_nil, List.take_nil,
            List.map_nil, Nat.sub_zero] at hrest
          simp [answers, next, hrest, List.replicate_succ]
      | cons a as =>
          have hrest := ih (fun b hb => has b (List.mem_cons_of_mem a hb)) (pre ++ enc a)
          simp [answers, next_spelled hr (has a List.mem_cons_self), hrest]

lemma collectWithin_spelled (hr : Parses r (Spells enc valid)) {as : List α}
    (has : ∀ a ∈ as, valid a) (pre rest : List UInt8) :
    (⟨Cursor.after pre (as.flatMap enc ++ rest), as.length⟩ : Iter).collectWithin r (as.length + 1)
      = some as := by
  induction as generalizing pre with
  | nil => simp [collectWithin, next]
  | cons a as ih =>
      have hrest := ih (fun b hb => has b (List.mem_cons_of_mem a hb)) (pre ++ enc a)
      simp [collectWithin, next_spelled hr (has a List.mem_cons_self)] at hrest ⊢
      simp [hrest]

/-- An iterator over a slice that spells the values returns them. -/
lemma collect_ofSlice (hr : Parses r (Spells enc valid)) {as : List α} (has : ∀ a ∈ as, valid a) :
    (ofSlice (as.flatMap enc) as.length).collect r = some as := by
  have h := collectWithin_spelled hr has [] []
  rwa [List.append_nil] at h

/-- An iterator over a slice that spells as many values as were counted. -/
lemma exactSize_ofSlice (hr : Parses r (Spells enc valid)) {as : List α} (has : ∀ a ∈ as, valid a) :
    (ofSlice (as.flatMap enc) as.length).ExactSize r as.length := by
  refine ⟨as, rfl, collect_ofSlice hr has, fun calls => ?_⟩
  have h := answers_spelled hr calls has [] []
  rwa [List.append_nil] at h

end Iter

/-! ## Runs that are passed over -/

/-- The bytes spell `count` values. -/
def SpellsRun (enc : α → List UInt8) (valid : α → Prop) (bytes : List UInt8) (count : ℕ) : Prop :=
  ∃ as : List α, bytes = as.flatMap enc ∧ (∀ a ∈ as, valid a) ∧ as.length = count

section Passed

variable {r : Reader E α}

lemma Reader.skip_eq (r : Reader E α) (count : ℕ) (cursor : Cursor) :
    r.skip count cursor
      = (r.times count cursor).map fun result => result.map fun read => ((), read.2) := by
  induction count generalizing cursor with
  | zero => rfl
  | succ count ih =>
      rw [Reader.skip, Reader.times, Reader.bind_eq, Reader.bind_eq]
      rcases r cursor with _ | error | ⟨a, next⟩
      · rfl
      · rfl
      · dsimp only
        rw [ih, Reader.bind_eq]
        rcases r.times count next with _ | error | ⟨as, last⟩ <;> rfl

/-- The slice between two offsets is what was passed between them. -/
lemma Reader.passed_eq {r : Reader E Unit} {pre bytes rest : List UInt8}
    (h : r (Cursor.after pre (bytes ++ rest)) = some (.ok ((), Cursor.after (pre ++ bytes) rest))) :
    Reader.passed r (Cursor.after pre (bytes ++ rest))
      = some (.ok (bytes, Cursor.after (pre ++ bytes) rest)) := by
  rw [Reader.passed, h]
  simp [Cursor.after, List.take_append]

lemma Parses.passed {r : Reader E Unit} {R : List UInt8 → Unit → Prop} (hr : Parses r R) :
    Parses (Reader.passed r) fun bytes slice => slice = bytes ∧ R bytes () where
  sound := by
    intro pre rest slice cursor h
    rcases hread : r (Cursor.after pre rest) with _ | error | ⟨⟨⟩, next⟩
    · simp [Reader.passed, hread] at h
    · simp [Reader.passed, hread] at h
    · obtain ⟨bytes, rest', rfl, hR, rfl⟩ := hr.sound hread
      rw [Reader.passed_eq hread] at h
      obtain ⟨rfl, rfl⟩ := Prod.mk.inj (Except.ok.inj (Option.some.inj h))
      exact ⟨bytes, rest', rfl, ⟨rfl, hR⟩, rfl⟩
  complete := by
    rintro bytes slice ⟨rfl, hR⟩ pre rest
    exact Reader.passed_eq (hr.complete hR pre rest)
  inBounds := by
    intro pre rest
    rcases hread : r (Cursor.after pre rest) with _ | error | ⟨⟨⟩, next⟩
    · exact absurd hread (hr.inBounds pre rest)
    · simp [Reader.passed, hread]
    · obtain ⟨bytes, rest', rfl, hR, rfl⟩ := hr.sound hread
      simp [Reader.passed_eq hread]

lemma Parses.skip {enc : α → List UInt8} {valid : α → Prop} (hr : Parses r (Spells enc valid))
    (count : ℕ) : Parses (r.skip count) fun bytes _ => SpellsRun enc valid bytes count := by
  have hskip : r.skip count = do let as ← r.times count; return (fun _ => ()) as := by
    funext cursor
    rw [Reader.skip_eq, Reader.bind_eq]
    rcases r.times count cursor with _ | error | ⟨as, last⟩ <;> rfl
  rw [hskip]
  refine (hr.times count).map.congr fun bytes _ => ?_
  constructor
  · rintro ⟨as, ⟨⟨rfl, has⟩, hlen⟩, -⟩
    exact ⟨as, rfl, has, hlen⟩
  · rintro ⟨as, rfl, has, hlen⟩
    exact ⟨as, ⟨⟨rfl, has⟩, hlen⟩, rfl⟩

/-- A run after its length, which is a word, when only its slice is kept. -/
lemma Parses.countedSlice {W : Type} {read : Reader E W} {width : ℕ} {toNat : W → ℕ}
    {ofNat : ℕ → W} {enc : α → List UInt8} {valid : α → Prop}
    (htoNat : ∀ n, n < 256 ^ width → toNat (ofNat n) = n) (hlt : ∀ n, toNat n < 256 ^ width)
    (hread : Parses read (Spells (fun n => toLe width (toNat n)) fun _ => True))
    (hr : Parses r (Spells enc valid)) :
    Parses (do
        let n ← read
        let slice ← Reader.passed (r.skip (toNat n))
        return (toNat n, slice))
      (Spells (fun part => toLe width part.1 ++ part.2) fun part =>
        part.1 < 256 ^ width ∧ SpellsRun enc valid part.2 part.1) := by
  refine (hread.bind fun n => (hr.skip (toNat n)).passed.map).congr fun bytes part => ?_
  constructor
  · rintro ⟨_, _, n, rfl, ⟨rfl, -⟩, _, ⟨rfl, hrun⟩, rfl⟩
    exact ⟨rfl, hlt n, hrun⟩
  · rintro ⟨rfl, hpart, hrun⟩
    have hcount : toNat (ofNat part.1) = part.1 := htoNat _ hpart
    refine ⟨_, _, ofNat part.1, rfl, ⟨?_, trivial⟩, part.2, ⟨rfl, hcount.symm ▸ hrun⟩, by rw [hcount]⟩
    show toLe width part.1 = toLe width (toNat (ofNat part.1))
    rw [hcount]

end Passed

/-! ## Views -/

/-- The reader `view` ends as the reader `owned` does: in the same error, or in a view of the value
at the same place. -/
structure Views (own : β → Option α) (view : Reader E β) (owned : Reader E α) : Prop where
  inBounds : ∀ pre rest, view (Cursor.after pre rest) ≠ none
  error : ∀ {pre rest error}, view (Cursor.after pre rest) = some (.error error) →
    owned (Cursor.after pre rest) = some (.error error)
  ok : ∀ {pre rest b cursor}, view (Cursor.after pre rest) = some (.ok (b, cursor)) →
    ∃ a, own b = some a ∧ owned (Cursor.after pre rest) = some (.ok (a, cursor))
      ∧ ∃ pre' rest', cursor = Cursor.after pre' rest'

namespace Views

variable {α' β' γ : Type} {own : β → Option α} {view : Reader E β} {owned : Reader E α}

/-- A reader is a view of itself. -/
lemma refl {r : Reader E α} {R : List UInt8 → α → Prop} (hr : Parses r R) : Views some r r where
  inBounds := hr.inBounds
  error h := h
  ok := by
    intro pre rest a cursor h
    obtain ⟨bytes, rest', -, -, hcursor⟩ := hr.sound h
    exact ⟨a, rfl, h, _, _, hcursor⟩

/-- The end of the input. -/
lemma finish (trailing : ℕ → E) :
    Views some (Reader.finish trailing : Reader E Unit) (Reader.finish trailing) where
  inBounds := by
    intro pre rest
    rw [Parses.finish]
    split <;> simp
  error h := h
  ok := by
    intro pre rest a cursor h
    refine ⟨a, rfl, h, pre, rest, ?_⟩
    rw [Parses.finish] at h
    split at h
    · exact (Prod.mk.inj (Except.ok.inj (Option.some.inj h))).2.symm
    · cases h

lemma pure {b : β} {a : α} (h : own b = some a) :
    Views own (Pure.pure b : Reader E β) (Pure.pure a) where
  inBounds := by simp [Reader.pure_eq]
  error := by simp [Reader.pure_eq]
  ok := by
    intro pre rest b' cursor hview
    obtain ⟨rfl, rfl⟩ := Prod.mk.inj (Except.ok.inj (Option.some.inj hview))
    exact ⟨a, h, rfl, pre, rest, rfl⟩

/-- One view after another. -/
lemma bind {own' : β' → Option α'} {f : β → Reader E β'} {g : α → Reader E α'}
    (h : Views own view owned) (hf : ∀ b a, own b = some a → Views own' (f b) (g a)) :
    Views own' (view >>= f) (owned >>= g) where
  inBounds := by
    intro pre rest
    rw [Reader.bind_eq]
    rcases hread : view (Cursor.after pre rest) with _ | error | ⟨b, cursor⟩
    · exact absurd hread (h.inBounds pre rest)
    · simp
    · obtain ⟨a, hb, -, pre', rest', rfl⟩ := h.ok hread
      exact (hf b a hb).inBounds _ _
  error := by
    intro pre rest error hend
    rcases hread : view (Cursor.after pre rest) with _ | error' | ⟨b, cursor⟩
    · exact absurd hread (h.inBounds pre rest)
    · simp only [Reader.bind_eq, hread, h.error hread] at hend ⊢
      exact congrArg some (congrArg Except.error (Except.error.inj (Option.some.inj hend)))
    · obtain ⟨a, hb, howned, pre', rest', rfl⟩ := h.ok hread
      simp only [Reader.bind_eq, hread, howned] at hend ⊢
      exact (hf b a hb).error hend
  ok := by
    intro pre rest b' cursor' hend
    rcases hread : view (Cursor.after pre rest) with _ | error' | ⟨b, cursor⟩
    · exact absurd hread (h.inBounds pre rest)
    · simp [Reader.bind_eq, hread] at hend
    · obtain ⟨a, hb, howned, pre', rest', rfl⟩ := h.ok hread
      simp only [Reader.bind_eq, hread, howned] at hend ⊢
      exact (hf b a hb).ok hend

/-- A part that both readers keep. -/
lemma before {r : Reader E γ} {R : List UInt8 → γ → Prop} (hr : Parses r R)
    {f : γ → Reader E β} {g : γ → Reader E α} (h : ∀ c, Views own (f c) (g c)) :
    Views own (r >>= f) (r >>= g) :=
  (refl hr).bind fun _ c hc => Option.some.inj hc ▸ h c

/-- The part that is viewed, under another view of the same value. -/
lemma last {own' : β' → Option α} {f : β → β'} (h : Views own view owned)
    (hown : ∀ b, own' (f b) = own b) : Views own' (do let b ← view; return f b) owned := by
  have hbind : Views own' (do let b ← view; return f b) (owned >>= Pure.pure) :=
    h.bind fun b a hb => pure ((hown b).trans hb)
  rwa [Reader.bind_pure] at hbind

/-- A counted run of views. -/
lemma times (h : Views own view owned) (count : ℕ) :
    Views (fun bs : List β => bs.mapM own) (view.times count) (owned.times count) := by
  induction count with
  | zero => exact pure rfl
  | succ count ih =>
      refine h.bind fun b a hb => ih.bind fun bs as has => pure ?_
      simp [hb, has]

/-- A counted run that is passed over and read again from the slice. -/
lemma slice {enc : β → List UInt8} {valid : β → Prop} (hview : Parses view (Spells enc valid))
    (h : Views own view owned) (count : ℕ) :
    Views (fun slice => ((Iter.ofSlice slice count).collect view).bind fun bs => bs.mapM own)
      (Reader.passed (view.skip count)) (owned.times count) where
  inBounds := (hview.skip count).passed.inBounds
  error := by
    intro pre rest error hend
    rcases hread : view.times count (Cursor.after pre rest) with _ | error' | ⟨bs, cursor⟩
    · exact absurd hread ((hview.times count).inBounds pre rest)
    · have hpassed : error' = error := by
        simpa [Reader.passed, Reader.skip_eq, hread, Except.map] using hend
      exact hpassed ▸ (h.times count).error hread
    · obtain ⟨bytes, rest', rfl, ⟨⟨rfl, hvalid⟩, rfl⟩, rfl⟩ := (hview.times count).sound hread
      rw [(hview.skip bs.length).passed.complete ⟨rfl, bs, rfl, hvalid, rfl⟩] at hend
      cases hend
  ok := by
    intro pre rest slice cursor hend
    obtain ⟨_, rest', rfl, ⟨rfl, bs, rfl, hvalid, rfl⟩, rfl⟩ :=
      (hview.skip count).passed.sound hend
    have hread := (hview.times bs.length).complete ⟨⟨rfl, hvalid⟩, rfl⟩ pre rest'
    obtain ⟨as, hown, howned, -⟩ := (h.times bs.length).ok hread
    exact ⟨as, by rw [Iter.collect_ofSlice hview hvalid]; exact hown, howned, _, _, rfl⟩

/-- A counted run after its length. -/
lemma countedSlice {W : Type} {read : Reader E W} {R : List UInt8 → W → Prop} {toNat : W → ℕ}
    {enc : β → List UInt8} {valid : β → Prop} (hread : Parses read R)
    (hview : Parses view (Spells enc valid)) (h : Views own view owned) :
    Views (fun part : ℕ × List UInt8 =>
        ((Iter.ofSlice part.2 part.1).collect view).bind fun bs => bs.mapM own)
      (do
        let n ← read
        let slice ← Reader.passed (view.skip (toNat n))
        return (toNat n, slice))
      (do
        let n ← read
        owned.times (toNat n)) :=
  before hread fun n => (slice hview h (toNat n)).last fun _ => rfl

end Views

end Bytes
