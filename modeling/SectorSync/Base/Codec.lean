import Mathlib.Tactic.Common
import SectorSync.Base.Bytes

/-!
# Readers, writers and formats

A format relates byte strings to the values that they spell.  A `Reader` advances a cursor and
`Parses` a format when it returns exactly the values that are spelled ahead of it, whatever stands
before and after them; a `Writer` appends to a buffer and `Writes` the bytes of a value when the
value fits.  Both are closed under sequencing, so the layout of a record is read off its reader
and off its writer.

A reader indexes its input without asking whether the input is long enough: an access past the end
ends it with `none`, as a checked index ends a program.  `Parses.inBounds` says that this does not
happen.
-/

namespace Bytes

variable {E α β : Type}

/-! ## Readers -/

/-- A reader ends in a value, in an error, or, as `none`, in an access outside its input. -/
def Reader (E α : Type) : Type := Cursor → Option (Except E (α × Cursor))

namespace Reader

instance : Monad (Reader E) where
  pure a := fun cursor => some (.ok (a, cursor))
  bind r f := fun cursor =>
    match r cursor with
    | none => none
    | some (.error error) => some (.error error)
    | some (.ok (a, cursor)) => f a cursor

/-- Fails with an error. -/
def fail (error : E) : Reader E α := fun _ => some (.error error)

/-- A result that was computed from what has been read. -/
def lift (result : Except E α) : Reader E α := fun cursor =>
  match result with
  | .ok a => some (.ok (a, cursor))
  | .error error => some (.error error)

/-- The bytes `input[offset..offset + count]`, which are passed. -/
def next (count : ℕ) : Reader E (List UInt8) := fun cursor =>
  if cursor.offset + count ≤ cursor.input.length then
    some (.ok ((cursor.input.drop cursor.offset).take count,
      { cursor with offset := cursor.offset + count }))
  else none

/-- Fails unless `count` bytes are ahead; the error names the length that is needed and the length
that there is. -/
def require (truncated : ℕ → ℕ → E) (count : ℕ) : Reader E Unit := fun cursor =>
  let needed := cursor.offset + count
  if needed > cursor.input.length then some (.error (truncated needed cursor.input.length))
  else some (.ok ((), cursor))

/-- Fails unless the whole input has been passed; the error names how much is left. -/
def finish (trailing : ℕ → E) : Reader E Unit := fun cursor =>
  if cursor.offset = cursor.input.length then some (.ok ((), cursor))
  else some (.error (trailing (cursor.input.length - cursor.offset)))

/-- Reads `count` values, one after the other. -/
def times (r : Reader E α) : ℕ → Reader E (List α)
  | 0 => pure []
  | count + 1 => do
      let a ← r
      let as ← times r count
      return a :: as

/-- Runs a reader on a whole input. -/
def parse (r : Reader E α) (input : List UInt8) : Option (Except E α) :=
  (r (Cursor.start input)).map fun result => result.map Prod.fst

lemma pure_eq (a : α) (cursor : Cursor) :
    (pure a : Reader E α) cursor = some (.ok (a, cursor)) := rfl

lemma bind_eq (r : Reader E α) (f : α → Reader E β) (cursor : Cursor) :
    (r >>= f) cursor = match r cursor with
      | none => none
      | some (.error error) => some (.error error)
      | some (.ok (a, cursor)) => f a cursor := rfl

end Reader

/-! ## Formats of readers -/

/-- The format that spells each valid value in one way. -/
def Spells (enc : α → List UInt8) (valid : α → Prop) (bytes : List UInt8) (a : α) : Prop :=
  bytes = enc a ∧ valid a

/-- The reader reads the format: `R bytes a` says that the bytes spell `a`. -/
structure Parses (r : Reader E α) (R : List UInt8 → α → Prop) : Prop where
  /-- The bytes that were passed spell the value. -/
  sound : ∀ {pre rest a cursor}, r (Cursor.after pre rest) = some (.ok (a, cursor)) →
    ∃ bytes rest', rest = bytes ++ rest' ∧ R bytes a ∧ cursor = Cursor.after (pre ++ bytes) rest'
  /-- A value that is spelled ahead is read. -/
  complete : ∀ {bytes a}, R bytes a → ∀ pre rest,
    r (Cursor.after pre (bytes ++ rest)) = some (.ok (a, Cursor.after (pre ++ bytes) rest))
  /-- No access goes outside the input. -/
  inBounds : ∀ pre rest, r (Cursor.after pre rest) ≠ none

namespace Parses

variable {r : Reader E α} {R : List UInt8 → α → Prop}

lemma congr {S : List UInt8 → α → Prop} (h : Parses r R) (hRS : ∀ bytes a, R bytes a ↔ S bytes a) :
    Parses r S := by
  have hRS : R = S := funext fun bytes => funext fun a => propext (hRS bytes a)
  exact hRS ▸ h

lemma pure (a : α) : Parses (pure a : Reader E α) fun bytes b => bytes = [] ∧ b = a where
  sound := by
    intro pre rest b cursor h
    rw [Reader.pure_eq] at h
    obtain ⟨rfl, rfl⟩ := Prod.mk.inj (Except.ok.inj (Option.some.inj h))
    exact ⟨[], rest, rfl, ⟨rfl, rfl⟩, by rw [List.append_nil]⟩
  complete := by
    rintro bytes b ⟨rfl, rfl⟩ pre rest
    rw [Reader.pure_eq, List.nil_append, List.append_nil]
  inBounds := by
    intro pre rest
    rw [Reader.pure_eq]
    simp

lemma fail (error : E) : Parses (Reader.fail error : Reader E α) fun _ _ => False where
  sound := by
    intro pre rest b cursor h
    cases h
  complete := by
    intro bytes b h
    exact h.elim
  inBounds := by
    intro pre rest
    simp [Reader.fail]

/-- A check before the rest. -/
lemma guarded (c : Prop) [Decidable c] (error : E) (hr : Parses r R) :
    Parses (if c then Reader.fail error else r) fun bytes a => ¬ c ∧ R bytes a := by
  by_cases hc : c
  · rw [if_pos hc]
    exact (Parses.fail error).congr fun bytes a => by simp [hc]
  · rw [if_neg hc]
    exact hr.congr fun bytes a => by simp [hc]

/-- One reader after another reads one format after another. -/
lemma bind {f : α → Reader E β} {S : α → List UInt8 → β → Prop} (hr : Parses r R)
    (hf : ∀ a, Parses (f a) (S a)) :
    Parses (r >>= f) fun bytes b => ∃ bytes₁ bytes₂ a,
      bytes = bytes₁ ++ bytes₂ ∧ R bytes₁ a ∧ S a bytes₂ b where
  sound := by
    intro pre rest b cursor h
    rw [Reader.bind_eq] at h
    rcases hfirst : r (Cursor.after pre rest) with _ | error | ⟨a, cursor₁⟩
    · rw [hfirst] at h
      cases h
    · rw [hfirst] at h
      cases h
    · rw [hfirst] at h
      obtain ⟨bytes₁, rest₁, rfl, ha, rfl⟩ := hr.sound hfirst
      obtain ⟨bytes₂, rest₂, rfl, hb, rfl⟩ := (hf a).sound h
      refine ⟨bytes₁ ++ bytes₂, rest₂, ?_, ⟨bytes₁, bytes₂, a, rfl, ha, hb⟩, ?_⟩
      · rw [List.append_assoc]
      · rw [List.append_assoc]
  complete := by
    rintro bytes b ⟨bytes₁, bytes₂, a, rfl, ha, hb⟩ pre rest
    rw [Reader.bind_eq, List.append_assoc, hr.complete ha]
    show f a _ = _
    rw [(hf a).complete hb, List.append_assoc]
  inBounds := by
    intro pre rest
    rw [Reader.bind_eq]
    rcases hfirst : r (Cursor.after pre rest) with _ | error | ⟨a, cursor₁⟩
    · exact absurd hfirst (hr.inBounds pre rest)
    · simp
    · obtain ⟨bytes₁, rest₁, -, -, rfl⟩ := hr.sound hfirst
      exact (hf a).inBounds _ _

/-- The value of a reader under a function. -/
lemma map {f : α → β} (hr : Parses r R) :
    Parses (do let a ← r; return f a) fun bytes b => ∃ a, R bytes a ∧ b = f a := by
  refine (hr.bind fun a => Parses.pure (f a)).congr fun bytes b => ?_
  constructor
  · rintro ⟨bytes₁, bytes₂, a, rfl, ha, rfl, rfl⟩
    exact ⟨a, by rwa [List.append_nil], rfl⟩
  · rintro ⟨a, ha, rfl⟩
    exact ⟨bytes, [], a, by rw [List.append_nil], ha, rfl, rfl⟩

lemma lift (result : Except E α) :
    Parses (Reader.lift result) fun bytes a => bytes = [] ∧ result = .ok a := by
  cases result with
  | error error => exact (Parses.fail error).congr fun bytes a => by simp
  | ok a => exact (Parses.pure a).congr fun bytes b => by simp [eq_comm]

/-- What a checked read does, said in terms of what is ahead. -/
lemma require_next_after (truncated : ℕ → ℕ → E) (count : ℕ) (pre rest : List UInt8) :
    (do Reader.require truncated count; Reader.next count : Reader E (List UInt8))
        (Cursor.after pre rest)
      = if count ≤ rest.length then
          some (.ok (rest.take count, Cursor.after (pre ++ rest.take count) (rest.drop count)))
        else some (.error (truncated (pre.length + count) (pre.length + rest.length))) := by
  rw [Reader.bind_eq]
  by_cases hfits : count ≤ rest.length
  · have hnot : ¬ rest.length < count := by omega
    simp [Reader.require, Reader.next, Cursor.after, hfits, hnot]
  · have hlt : rest.length < count := by omega
    simp [Reader.require, Cursor.after, hfits, hlt]

/-- Bytes that are asked for before they are read. -/
lemma next (truncated : ℕ → ℕ → E) (count : ℕ) :
    Parses (do Reader.require truncated count; Reader.next count)
      fun bytes a => bytes = a ∧ a.length = count where
  sound := by
    intro pre rest a cursor h
    rw [require_next_after] at h
    by_cases hfits : count ≤ rest.length
    · rw [if_pos hfits] at h
      obtain ⟨rfl, rfl⟩ := Prod.mk.inj (Except.ok.inj (Option.some.inj h))
      exact ⟨rest.take count, rest.drop count, (List.take_append_drop count rest).symm,
        ⟨rfl, List.length_take_of_le hfits⟩, rfl⟩
    · rw [if_neg hfits] at h
      cases h
  complete := by
    rintro bytes a ⟨rfl, rfl⟩ pre rest
    rw [require_next_after, if_pos (by simp), List.take_left, List.drop_left]
  inBounds := by
    intro pre rest
    rw [require_next_after]
    split <;> simp

/-- A counted run of values, when the bytes of one value are a function of it. -/
lemma times {enc : α → List UInt8} {valid : α → Prop}
    (hr : Parses r (Spells enc valid)) (count : ℕ) :
    Parses (r.times count) fun bytes as =>
      Spells (List.flatMap enc) (fun as => ∀ a ∈ as, valid a) bytes as ∧ as.length = count := by
  induction count with
  | zero =>
      refine (Parses.pure []).congr fun bytes as => ?_
      constructor
      · rintro ⟨rfl, rfl⟩
        simp [Spells]
      · rintro ⟨⟨rfl, -⟩, hlen⟩
        simp [List.length_eq_zero_iff.mp hlen]
  | succ count ih =>
      refine (hr.bind fun a => ih.map).congr fun bytes as => ?_
      constructor
      · rintro ⟨-, -, a, rfl, ⟨rfl, ha⟩, as', ⟨⟨rfl, has⟩, hlen⟩, rfl⟩
        refine ⟨⟨by rw [List.flatMap_cons], ?_⟩, by rw [List.length_cons, hlen]⟩
        intro b hb
        rcases List.mem_cons.mp hb with rfl | hb
        · exact ha
        · exact has b hb
      · rintro ⟨⟨rfl, has⟩, hlen⟩
        cases as with
        | nil => simp at hlen
        | cons a as =>
            refine ⟨enc a, as.flatMap enc, a, by rw [List.flatMap_cons],
              ⟨rfl, has a List.mem_cons_self⟩, as, ⟨⟨rfl, ?_⟩, ?_⟩, rfl⟩
            · exact fun b hb => has b (List.mem_cons_of_mem a hb)
            · simpa using hlen

/-! ### Records -/

/-- Bytes that are asked for and read as a little-endian word. -/
lemma word (truncated : ℕ → ℕ → E) {width : ℕ} {ofNat : ℕ → α} {toNat : α → ℕ}
    (hofNat : ∀ a, ofNat (toNat a) = a) (htoNat : ∀ n, n < 256 ^ width → toNat (ofNat n) = n)
    (hlt : ∀ a, toNat a < 256 ^ width) :
    Parses (do
        let bytes ← (do Reader.require truncated width; Reader.next width)
        return ofNat (ofLe bytes))
      (Spells (fun a => toLe width (toNat a)) fun _ => True) := by
  refine (Parses.next truncated width).map.congr fun bytes a => ?_
  constructor
  · rintro ⟨_, ⟨rfl, hlen⟩, rfl⟩
    refine ⟨?_, trivial⟩
    show bytes = toLe width (toNat (ofNat (ofLe bytes)))
    rw [htoNat _ (hlen ▸ ofLe_lt bytes), ← hlen, toLe_ofLe]
  · rintro ⟨rfl, -⟩
    exact ⟨_, ⟨rfl, length_toLe _ _⟩, by rw [ofLe_toLe (hlt a), hofNat]⟩

/-- A part after its length, which is a word. -/
lemma counted {W : Type} {read : Reader E W} {width : ℕ} {toNat : W → ℕ} {ofNat : ℕ → W}
    {f : ℕ → Reader E β} {enc : β → List UInt8} {valid : β → Prop} {len : β → ℕ}
    (htoNat : ∀ n, n < 256 ^ width → toNat (ofNat n) = n) (hlt : ∀ n, toNat n < 256 ^ width)
    (hread : Parses read (Spells (fun n => toLe width (toNat n)) fun _ => True))
    (hf : ∀ n, Parses (f n) fun bytes b => Spells enc valid bytes b ∧ len b = n) :
    Parses (do let n ← read; f (toNat n))
      (Spells (fun b => toLe width (len b) ++ enc b)
        fun b => len b < 256 ^ width ∧ valid b) := by
  refine (hread.bind fun n => hf (toNat n)).congr fun bytes b => ?_
  constructor
  · rintro ⟨_, _, n, rfl, ⟨rfl, -⟩, ⟨rfl, hvalid⟩, hlen⟩
    refine ⟨?_, hlen ▸ hlt n, hvalid⟩
    show toLe width (toNat n) ++ enc b = toLe width (len b) ++ enc b
    rw [hlen]
  · rintro ⟨rfl, hlen, hvalid⟩
    have hofNat : toNat (ofNat (len b)) = len b := htoNat _ hlen
    refine ⟨_, _, ofNat (len b), rfl, ⟨?_, trivial⟩, ⟨rfl, hvalid⟩, hofNat.symm⟩
    show toLe width (len b) = toLe width (toNat (ofNat (len b)))
    rw [hofNat]

/-- The first part of a record, whatever the format of the rest.  `K` is what is known of the record
from the parts before. -/
lemma before {f : α → Reader E β} {enc : α → List UInt8} {valid : α → Prop}
    {S : List UInt8 → β → Prop} {K : β → Prop} (field : β → α) (hr : Parses r (Spells enc valid))
    (hf : ∀ a, Parses (f a) fun bytes b => S bytes b ∧ K b ∧ field b = a) :
    Parses (r >>= f) fun bytes b =>
      (∃ rest, bytes = enc (field b) ++ rest ∧ valid (field b) ∧ S rest b) ∧ K b := by
  refine (hr.bind hf).congr fun bytes b => ?_
  constructor
  · rintro ⟨_, rest, _, rfl, ⟨rfl, hvalid⟩, hrest, hK, rfl⟩
    exact ⟨⟨rest, rfl, hvalid, hrest⟩, hK⟩
  · rintro ⟨⟨rest, rfl, hvalid, hrest⟩, hK⟩
    exact ⟨_, rest, _, rfl, ⟨rfl, hvalid⟩, hrest, hK, rfl⟩

/-- The first part of a record, before parts that are spelled in one way. -/
lemma part {f : α → Reader E β} {enc : α → List UInt8} {valid : α → Prop}
    {encRest : β → List UInt8} {validRest K : β → Prop} (field : β → α)
    (hr : Parses r (Spells enc valid))
    (hf : ∀ a, Parses (f a) fun bytes b => Spells encRest validRest bytes b ∧ K b ∧ field b = a) :
    Parses (r >>= f) fun bytes b =>
      Spells (fun b => enc (field b) ++ encRest b) (fun b => valid (field b) ∧ validRest b) bytes b
        ∧ K b := by
  refine (before field hr hf).congr fun bytes b => and_congr_left fun _ => ?_
  constructor
  · rintro ⟨_, rfl, hvalid, rfl, hrest⟩
    exact ⟨rfl, hvalid, hrest⟩
  · rintro ⟨rfl, hvalid, hrest⟩
    exact ⟨_, rfl, hvalid, rfl, hrest⟩

/-- A record whose parts have all been read. -/
lemma record {v : β} {K : β → Prop} (hK : ∀ b, K b ↔ b = v) :
    Parses (Pure.pure v : Reader E β) fun bytes b =>
      Spells (fun _ => []) (fun _ => True) bytes b ∧ K b :=
  (Parses.pure v).congr fun bytes b => by simp [Spells, hK]

/-- A record in the form in which its layout is written. -/
lemma ofParts {enc enc' : α → List UInt8} {valid valid' : α → Prop}
    (hr : Parses r fun bytes a => Spells enc valid bytes a ∧ True)
    (henc : ∀ a, enc a = enc' a) (hvalid : ∀ a, valid a ↔ valid' a) :
    Parses r (Spells enc' valid') :=
  hr.congr fun bytes a => by simp [Spells, henc, hvalid]

/-- **Formats of readers are unambiguous.**  Two spellings at the front of one input are one. -/
theorem unambiguous (hr : Parses r R) {bytes bytes' rest rest' : List UInt8} {a a' : α}
    (ha : R bytes a) (ha' : R bytes' a') (h : bytes ++ rest = bytes' ++ rest') :
    bytes = bytes' ∧ a = a' := by
  have hread := hr.complete ha [] rest
  rw [h, hr.complete ha' [] rest'] at hread
  obtain ⟨hvalue, hcursor⟩ := Prod.mk.inj (Except.ok.inj (Option.some.inj hread))
  have hoffset : bytes'.length = bytes.length := congrArg Cursor.offset hcursor
  refine ⟨?_, hvalue.symm⟩
  calc bytes = (bytes ++ rest).take bytes.length := by rw [List.take_left]
    _ = (bytes' ++ rest').take bytes'.length := by rw [h, hoffset]
    _ = bytes' := by rw [List.take_left]

/-! ### Whole inputs -/

lemma finish (trailing : ℕ → E) (pre rest : List UInt8) :
    Reader.finish trailing (Cursor.after pre rest)
      = if rest = [] then some (.ok ((), Cursor.after pre rest))
        else some (.error (trailing rest.length)) := by
  cases rest with
  | nil => simp [Reader.finish, Cursor.after]
  | cons b rest => simp [Reader.finish, Cursor.after]

/-- **A reader that is run to the end accepts exactly the spellings of the format.** -/
theorem parse_eq_ok_iff (hr : Parses r R) (trailing : ℕ → E) {input : List UInt8} {a : α} :
    Reader.parse (do let a ← r; Reader.finish trailing; return a) input = some (.ok a)
      ↔ R input a := by
  simp only [Reader.parse, Cursor.start_eq_after, Reader.bind_eq]
  constructor
  · intro h
    rcases hread : r (Cursor.after [] input) with _ | error | ⟨b, cursor⟩
    · simp [hread] at h
    · simp [hread, Except.map] at h
    · obtain ⟨bytes, rest, rfl, hb, rfl⟩ := hr.sound hread
      rw [hread] at h
      simp only [finish] at h
      by_cases hrest : rest = []
      · simp only [hrest, if_true, Reader.pure_eq, Option.map_some, Except.map, Option.some.injEq,
          Except.ok.injEq] at h
        rwa [hrest, List.append_nil, ← h]
      · simp [hrest, Except.map] at h
  · intro h
    have hread := hr.complete h [] []
    rw [List.append_nil] at hread
    rw [hread]
    simp [finish, Reader.pure_eq, Except.map]

/-- A reader that is run to the end stays within its input. -/
theorem parse_ne_none (hr : Parses r R) (trailing : ℕ → E) (input : List UInt8) :
    Reader.parse (do let a ← r; Reader.finish trailing; return a) input ≠ none := by
  simp only [Reader.parse, Cursor.start_eq_after, Reader.bind_eq]
  rcases hread : r (Cursor.after [] input) with _ | error | ⟨b, cursor⟩
  · exact absurd hread (hr.inBounds [] input)
  · simp
  · obtain ⟨bytes, rest, -, -, rfl⟩ := hr.sound hread
    simp only [finish]
    by_cases hrest : rest = [] <;> simp [hrest, Reader.pure_eq]

end Parses

/-! ## Writers -/

/-- A writer appends to a buffer, and may fail after it has appended. -/
def Writer (E α : Type) : Type := List UInt8 → Except E α × List UInt8

namespace Writer

instance : Monad (Writer E) where
  pure a := fun out => (.ok a, out)
  bind w f := fun out =>
    match w out with
    | (.ok a, out) => f a out
    | (.error error, out) => (.error error, out)

/-- Appends bytes to the buffer. -/
def extend (bytes : List UInt8) : Writer E Unit := fun out => (.ok (), out ++ bytes)

/-- Fails with an error. -/
def fail (error : E) : Writer E α := fun out => (.error error, out)

/-- The length of the buffer. -/
def len : Writer E ℕ := fun out => (.ok out.length, out)

/-- Shortens the buffer to a length. -/
def truncate (length : ℕ) : Writer E Unit := fun out => (.ok (), out.take length)

/-- Copies bytes over the buffer, at an offset where that many have been appended. -/
def overwrite (offset : ℕ) (bytes : List UInt8) : Writer E Unit := fun out =>
  (.ok (), out.take offset ++ bytes ++ out.drop (offset + bytes.length))

lemma pure_eq (a : α) (out : List UInt8) : (pure a : Writer E α) out = (.ok a, out) := rfl

lemma bind_eq (w : Writer E α) (f : α → Writer E β) (out : List UInt8) :
    (w >>= f) out = match w out with
      | (.ok a, out) => f a out
      | (.error error, out) => (.error error, out) := rfl

lemma bind_ok {w : Writer E α} {a : α} {out out' : List UInt8} (h : w out = (.ok a, out'))
    (f : α → Writer E β) : (w >>= f) out = f a out' := by
  rw [bind_eq, h]

lemma bind_error {w : Writer E α} {error : E} {out out' : List UInt8}
    (h : w out = (.error error, out')) (f : α → Writer E β) :
    (w >>= f) out = (.error error, out') := by
  rw [bind_eq, h]

lemma truncate_append (pre rest : List UInt8) :
    (truncate pre.length : Writer E Unit) (pre ++ rest) = (.ok (), pre) := by
  rw [truncate, List.take_left]

lemma overwrite_append {old new : List UInt8} (hlen : old.length = new.length)
    (pre rest : List UInt8) :
    (overwrite pre.length new : Writer E Unit) (pre ++ (old ++ rest))
      = (.ok (), pre ++ (new ++ rest)) := by
  have hrest : (pre ++ (old ++ rest)).drop (pre.length + new.length) = rest := by
    rw [← hlen, ← List.append_assoc, ← List.length_append, List.drop_left]
  rw [overwrite, hrest, List.take_left, List.append_assoc]

end Writer

/-- The writer appends the bytes when the value fits, and fails when it does not. -/
structure Writes (w : Writer E Unit) (fits : Prop) (bytes : List UInt8) : Prop where
  appends : fits → ∀ out, w out = (.ok (), out ++ bytes)
  fails : ¬ fits → ∀ out, ∃ error out', w out = (.error error, out')

namespace Writes

variable {w w' : Writer E Unit} {fits fits' : Prop} {bytes bytes' : List UInt8}

lemma congr (h : Writes w fits bytes) (hfits : fits ↔ fits') (hbytes : bytes = bytes') :
    Writes w fits' bytes' := by
  rw [← hbytes, ← propext hfits]
  exact h

lemma extend (bytes : List UInt8) : Writes (Writer.extend bytes : Writer E Unit) True bytes where
  appends _ _ := rfl
  fails h := absurd trivial h

/-- A writer that appends its bytes unless a check fails. -/
lemma checked (fits : Prop) [Decidable fits] (bytes : List UInt8) (error : E) :
    Writes (if fits then Writer.extend bytes else Writer.fail error) fits bytes where
  appends hfits out := by rw [if_pos hfits]; rfl
  fails hnot out := by rw [if_neg hnot]; exact ⟨error, out, rfl⟩

/-- One writer after another. -/
lemma bind (h : Writes w fits bytes) (h' : Writes w' fits' bytes') :
    Writes (do w; w') (fits ∧ fits') (bytes ++ bytes') where
  appends := by
    rintro ⟨hfits, hfits'⟩ out
    rw [Writer.bind_eq, h.appends hfits]
    show w' _ = _
    rw [h'.appends hfits', List.append_assoc]
  fails := by
    intro hnot out
    rw [Writer.bind_eq]
    by_cases hfits : fits
    · rw [h.appends hfits]
      exact h'.fails (fun hfits' => hnot ⟨hfits, hfits'⟩) _
    · obtain ⟨error, out', hw⟩ := h.fails hfits out
      rw [hw]
      exact ⟨error, out', rfl⟩

/-- A writer run over a list. -/
lemma forM {write : α → Writer E Unit} {fits : α → Prop} {enc : α → List UInt8}
    (h : ∀ a, Writes (write a) (fits a) (enc a)) (as : List α) :
    Writes (as.forM write) (∀ a ∈ as, fits a) (as.flatMap enc) := by
  induction as with
  | nil =>
      refine ⟨fun _ out => ?_, fun hnot => absurd (by simp) hnot⟩
      rw [List.flatMap_nil, List.append_nil]
      rfl
  | cons a as ih => exact ((h a).bind ih).congr (by simp) (by rw [List.flatMap_cons])

/-- A writer succeeds exactly when the value fits, and then it has appended its bytes. -/
theorem eq_ok_iff (h : Writes w fits bytes) {out out' : List UInt8} :
    w out = (.ok (), out') ↔ fits ∧ out' = out ++ bytes := by
  constructor
  · intro hok
    by_cases hfits : fits
    · rw [h.appends hfits] at hok
      exact ⟨hfits, (Prod.mk.inj hok).2.symm⟩
    · obtain ⟨error, out'', hw⟩ := h.fails hfits out
      rw [hw] at hok
      cases (Prod.mk.inj hok).1
  · rintro ⟨hfits, rfl⟩
    exact h.appends hfits out

end Writes

/-! ## Codecs -/

/-- An encoder and a decoder that are inverse to each other, whatever the buffer holds: what is
appended for a value decodes to it, and an input that decodes to a value is what is appended
for it. -/
structure Inverse {D : Type} (encode : α → Writer E Unit) (decode : List UInt8 → Except D α) :
    Prop where
  decodes : ∀ {a out out'}, encode a out = (.ok (), out') →
    ∃ bytes, out' = out ++ bytes ∧ decode bytes = .ok a
  encodes : ∀ {bytes a}, decode bytes = .ok a → ∀ out, encode a out = (.ok (), out ++ bytes)

/-- A writer and a decoder of one format are inverse to each other. -/
theorem Inverse.of_spells {D : Type} {encode : α → Writer E Unit}
    {decode : List UInt8 → Except D α} {enc : α → List UInt8} {fits : α → Prop}
    (hencode : ∀ a, Writes (encode a) (fits a) (enc a))
    (hdecode : ∀ bytes a, decode bytes = .ok a ↔ Spells enc fits bytes a) :
    Inverse encode decode where
  decodes := by
    intro a out out' h
    obtain ⟨hfits, rfl⟩ := (hencode a).eq_ok_iff.mp h
    exact ⟨enc a, rfl, (hdecode _ _).mpr ⟨rfl, hfits⟩⟩
  encodes := by
    intro bytes a h out
    obtain ⟨rfl, hfits⟩ := (hdecode _ _).mp h
    exact (hencode a).appends hfits out

/-! ## Streaming -/

/-- A writer streams what a builder accumulates: `shown` is what the writer's state shows of the
builder's, `bytes` what the buffer holds of it, and the writer fails where the builder goes on
without what `fits` asks for. -/
structure Streams {γ σ : Type} (step : β → γ → Writer E β) (build : σ → γ → σ) (shown : σ → β)
    (bytes : σ → List UInt8) (fits : σ → Prop) : Prop where
  appends : ∀ {s c}, fits (build s c) → ∀ pre,
    step (shown s) c (pre ++ bytes s) = (.ok (shown (build s c)), pre ++ bytes (build s c))
  fails : ∀ {s c}, fits s → ¬ fits (build s c) → ∀ pre,
    ∃ error out, step (shown s) c (pre ++ bytes s) = (.error error, out)
  before : ∀ {s c}, fits (build s c) → fits s

namespace Streams

variable {γ σ : Type} {step : β → γ → Writer E β} {build : σ → γ → σ} {shown : σ → β}
  {bytes : σ → List UInt8} {fits : σ → Prop}

lemma before_foldl (h : Streams step build shown bytes fits) {cs : List γ} {s : σ}
    (hfits : fits (cs.foldl build s)) : fits s := by
  induction cs generalizing s with
  | nil => exact hfits
  | cons c cs ih => exact h.before (ih hfits)

/-- A run of the writer over what the builder is run over, when it all fits. -/
lemma foldlM_appends (h : Streams step build shown bytes fits) {cs : List γ} {s : σ}
    (hfits : fits (cs.foldl build s)) (pre : List UInt8) :
    cs.foldlM step (shown s) (pre ++ bytes s)
      = (.ok (shown (cs.foldl build s)), pre ++ bytes (cs.foldl build s)) := by
  induction cs generalizing s with
  | nil => rfl
  | cons c cs ih =>
      rw [List.foldlM_cons, Writer.bind_ok (h.appends (h.before_foldl hfits) pre)]
      exact ih hfits

/-- A run of the writer over what the builder is run over, when something does not fit. -/
lemma foldlM_fails (h : Streams step build shown bytes fits) {cs : List γ} {s : σ}
    (hs : fits s) (hfits : ¬ fits (cs.foldl build s)) (pre : List UInt8) :
    ∃ error out, cs.foldlM step (shown s) (pre ++ bytes s) = (.error error, out) := by
  induction cs generalizing s with
  | nil => exact absurd hs hfits
  | cons c cs ih =>
      rw [List.foldlM_cons]
      by_cases hc : fits (build s c)
      · rw [Writer.bind_ok (h.appends hc pre)]
        exact ih hc hfits
      · obtain ⟨error, out, hstep⟩ := h.fails hs hc pre
        exact ⟨error, out, Writer.bind_error hstep _⟩

end Streams

end Bytes
