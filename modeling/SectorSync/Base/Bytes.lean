import Mathlib.Tactic.Common
import Mathlib.Tactic.Ring

/-!
# Byte strings

Little-endian words as lists of bytes, and a cursor that reads a byte string from the front.

`toLe` and `ofLe` are inverse on words of a fixed width.  A cursor that has passed `pre` and has
`rest` ahead of it is `Cursor.after pre rest`, and `read_after` is the one rule by which a reader is
run over what a writer appended.
-/

namespace Bytes

/-! ## Little-endian words -/

/-- The `width` low bytes of a number, the least significant first. -/
def toLe : ℕ → ℕ → List UInt8
  | 0, _ => []
  | width + 1, n => UInt8.ofNat (n % 256) :: toLe width (n / 256)

/-- The number with the given bytes, the least significant first. -/
def ofLe : List UInt8 → ℕ
  | [] => 0
  | b :: bs => b.toNat + 256 * ofLe bs

@[simp] lemma length_toLe (width n : ℕ) : (toLe width n).length = width := by
  induction width generalizing n with
  | zero => rfl
  | succ width ih => rw [toLe, List.length_cons, ih]

lemma ofLe_toLe {width n : ℕ} (h : n < 256 ^ width) : ofLe (toLe width n) = n := by
  induction width generalizing n with
  | zero =>
      rw [pow_zero] at h
      show 0 = n
      omega
  | succ width ih =>
      rw [pow_succ] at h
      have hrest : ofLe (toLe width (n / 256)) = n / 256 := ih (by omega)
      rw [toLe, ofLe, hrest, UInt8.toNat_ofNat_of_lt' (by show n % 256 < 256; omega)]
      omega

lemma toLe_ofLe (bs : List UInt8) : toLe bs.length (ofLe bs) = bs := by
  induction bs with
  | nil => rfl
  | cons b bs ih =>
      have hb : b.toNat < 256 := b.toNat_lt
      rw [List.length_cons, toLe, ofLe, Nat.add_mul_mod_self_left, Nat.mod_eq_of_lt hb,
        UInt8.ofNat_toNat, Nat.add_mul_div_left _ _ (by omega), Nat.div_eq_of_lt hb, Nat.zero_add,
        ih]

lemma ofLe_lt (bs : List UInt8) : ofLe bs < 256 ^ bs.length := by
  induction bs with
  | nil => show 0 < 1; omega
  | cons b bs ih =>
      have hb : b.toNat < 256 := b.toNat_lt
      rw [ofLe, List.length_cons, pow_succ]
      omega

/-! ## Cursors -/

/-- A byte string with the number of bytes already read. -/
structure Cursor where
  input : List UInt8
  offset : ℕ

/-- A read past the end of the input. -/
structure Truncated where
  needed : ℕ
  available : ℕ
  deriving DecidableEq

namespace Cursor

/-- A cursor at the start of the input. -/
def start (input : List UInt8) : Cursor := ⟨input, 0⟩

/-- Reads the next `count` bytes. -/
def read (cursor : Cursor) (count : ℕ) : Except Truncated (List UInt8 × Cursor) :=
  let needed := cursor.offset + count
  if needed > cursor.input.length then .error ⟨needed, cursor.input.length⟩
  else
    .ok ((cursor.input.drop cursor.offset).take count, { cursor with offset := needed })

/-- Number of bytes not yet read. -/
def remaining (cursor : Cursor) : ℕ := cursor.input.length - cursor.offset

/-- The cursor that has passed `pre` and has `rest` ahead. -/
def after (pre rest : List UInt8) : Cursor := ⟨pre ++ rest, pre.length⟩

lemma start_eq_after (input : List UInt8) : start input = Cursor.after [] input := rfl

/-- A read of the right length returns what was written. -/
lemma read_after {count : ℕ} (pre bs rest : List UInt8) (h : bs.length = count) :
    (Cursor.after pre (bs ++ rest)).read count = .ok (bs, Cursor.after (pre ++ bs) rest) := by
  subst h
  have hfits : ¬ pre.length + bs.length > pre.length + (bs.length + rest.length) := by omega
  unfold read Cursor.after
  simp only [List.length_append, if_neg hfits, List.drop_left, List.take_left, List.append_assoc]

/-- A read that succeeds takes its bytes from the rest. -/
lemma eq_of_read_after {count : ℕ} {pre rest bs : List UInt8} {cursor : Cursor}
    (h : (Cursor.after pre rest).read count = .ok (bs, cursor)) :
    ∃ rest', rest = bs ++ rest' ∧ bs.length = count ∧ cursor = Cursor.after (pre ++ bs) rest' := by
  unfold read Cursor.after at h
  dsimp only at h
  split_ifs at h with hlen
  rw [List.length_append] at hlen
  obtain ⟨hbs, hcursor⟩ := Prod.mk.inj (Except.ok.inj h)
  rw [List.drop_left] at hbs
  have hcount : bs.length = count := by
    rw [← hbs, List.length_take]
    omega
  refine ⟨rest.drop count, ?_, hcount, ?_⟩
  · rw [← hbs, List.take_append_drop]
  · rw [← hcursor, Cursor.after, List.append_assoc, List.length_append, hcount, ← hbs,
      List.take_append_drop]

lemma remaining_after (pre rest : List UInt8) :
    (Cursor.after pre rest).remaining = rest.length := by
  simp [remaining, Cursor.after]

end Cursor

end Bytes
