import Mathlib.Data.List.Basic
import Mathlib.Algebra.Order.Ring.Nat
import Mathlib.Tactic.Ring
import Mathlib.Tactic.Linarith

/-!
# Big-endian fields

Unsigned numbers as byte strings of a fixed width, most significant byte first, and the
fixed-width raw fields that stand beside them in a packed header.  `pack` refuses a number
that does not fit its width, so a packed field always reads back as the number it was
packed from (`ofBytes_toBytes`).
-/

/-- A byte string. -/
abbrev Bytes := List UInt8

namespace BigEndian

/-- The `w` low bytes of `n`, most significant first. -/
def toBytes : ℕ → ℕ → Bytes
  | 0, _ => []
  | w + 1, n => UInt8.ofNat (n / 256 ^ w) :: toBytes w (n % 256 ^ w)

/-- The number a byte string spells, most significant byte first. -/
def ofBytes (bs : Bytes) : ℕ := bs.foldl (fun acc b => acc * 256 + b.toNat) 0

/-- Pack `n` into exactly `w` bytes; a number that needs more is refused. -/
def pack (w n : ℕ) : Option Bytes := if n < 256 ^ w then some (toBytes w n) else none

/-- Pack an integer: a negative one is refused too. -/
def packInt (w : ℕ) (n : ℤ) : Option Bytes := if 0 ≤ n then pack w n.toNat else none

/-- A raw field of exactly `w` bytes: shorter values are zero-padded, longer ones cut. -/
def rawField (w : ℕ) (bs : Bytes) : Bytes := (bs ++ List.replicate w 0).take w

/-- `data[a:b]`. -/
def slice (data : Bytes) (a b : ℕ) : Bytes := (data.take b).drop a

@[simp] theorem length_toBytes : ∀ w n, (toBytes w n).length = w
  | 0, _ => rfl
  | w + 1, n => by simp [toBytes, length_toBytes w]

@[simp] theorem length_rawField (w : ℕ) (bs : Bytes) : (rawField w bs).length = w := by
  simp [rawField]

/-- A raw field of the right length is stored as it is. -/
theorem rawField_of_length {w : ℕ} {bs : Bytes} (h : bs.length = w) : rawField w bs = bs := by
  simp [rawField, ← h]

theorem pack_eq {w n : ℕ} (h : n < 256 ^ w) : pack w n = some (toBytes w n) := if_pos h

theorem packInt_eq {w : ℕ} {n : ℤ} (h0 : 0 ≤ n) (h : n.toNat < 256 ^ w) :
    packInt w n = some (toBytes w n.toNat) := by
  rw [packInt, if_pos h0, pack_eq h]

theorem pack_eq_some {w n : ℕ} {bs : Bytes} :
    pack w n = some bs ↔ n < 256 ^ w ∧ toBytes w n = bs := by
  unfold pack
  split <;> simp_all

private theorem foldl_ofBytes (bs : Bytes) : ∀ acc : ℕ,
    bs.foldl (fun acc b => acc * 256 + b.toNat) acc = acc * 256 ^ bs.length + ofBytes bs := by
  induction bs with
  | nil => intro acc; simp [ofBytes]
  | cons b bs ih =>
    intro acc
    have h0 : ofBytes (b :: bs) = b.toNat * 256 ^ bs.length + ofBytes bs := by
      show bs.foldl _ (0 * 256 + b.toNat) = _
      rw [ih]
      ring
    rw [List.foldl_cons, ih, h0, List.length_cons, pow_succ]
    ring

@[simp] theorem ofBytes_nil : ofBytes [] = 0 := rfl

/-- The leading byte weighs `256` to the number of bytes behind it. -/
theorem ofBytes_cons (b : UInt8) (bs : Bytes) :
    ofBytes (b :: bs) = b.toNat * 256 ^ bs.length + ofBytes bs := by
  show bs.foldl _ (0 * 256 + b.toNat) = _
  rw [foldl_ofBytes]
  ring

/-- A string of `w` bytes spells a number below `256 ^ w`. -/
theorem ofBytes_lt (bs : Bytes) : ofBytes bs < 256 ^ bs.length := by
  induction bs with
  | nil => simp
  | cons b bs ih =>
    have hb : b.toNat ≤ 255 := by have := b.toNat_lt; omega
    rw [ofBytes_cons, List.length_cons, pow_succ]
    nlinarith [Nat.mul_le_mul_right (256 ^ bs.length) hb]

/-- A number that fits its width reads back from the bytes it was packed into. -/
theorem ofBytes_toBytes : ∀ (w n : ℕ), n < 256 ^ w → ofBytes (toBytes w n) = n
  | 0, n, h => by
    have : n = 0 := by simpa using h
    simp [toBytes, this]
  | w + 1, n, h => by
    have hpos : 0 < 256 ^ w := Nat.pow_pos (by omega)
    have hq : n / 256 ^ w < 256 := by
      rw [Nat.div_lt_iff_lt_mul hpos]
      rw [pow_succ] at h
      linarith
    have hlow := ofBytes_toBytes w (n % 256 ^ w) (Nat.mod_lt _ hpos)
    rw [toBytes, ofBytes_cons, hlow, length_toBytes, UInt8.toNat_ofNat', Nat.mod_eq_of_lt hq]
    exact Nat.div_add_mod' n (256 ^ w)

/-- The number a string spells packs into that string again. -/
theorem toBytes_ofBytes (bs : Bytes) : toBytes bs.length (ofBytes bs) = bs := by
  induction bs with
  | nil => rfl
  | cons b bs ih =>
    have hlow := ofBytes_lt bs
    have hq : (b.toNat * 256 ^ bs.length + ofBytes bs) / 256 ^ bs.length = b.toNat := by
      rw [Nat.mul_comm, Nat.mul_add_div (by positivity), Nat.div_eq_of_lt hlow, Nat.add_zero]
    have hr : (b.toNat * 256 ^ bs.length + ofBytes bs) % 256 ^ bs.length = ofBytes bs := by
      rw [Nat.mul_comm, Nat.mul_add_mod, Nat.mod_eq_of_lt hlow]
    rw [ofBytes_cons, List.length_cons, toBytes, hq, hr, ih, UInt8.ofNat_toNat]

/-! ## Reading fields out of a packed string -/

theorem length_slice {data : Bytes} {a b : ℕ} (h : b ≤ data.length) :
    (slice data a b).length = b - a := by
  simp [slice, Nat.min_eq_left h]

/-- Two neighbouring fields make one. -/
theorem slice_append_slice (data : Bytes) {a b c : ℕ} (hab : a ≤ b) (hbc : b ≤ c) :
    slice data a b ++ slice data b c = slice data a c := by
  have hb : data.take b = (data.take c).take b := by rw [List.take_take, Nat.min_eq_left hbc]
  have hsplit : (data.take c).drop b = ((data.take c).drop a).drop (b - a) := by
    rw [List.drop_drop]
    congr 1
    omega
  rw [slice, slice, slice, hb, List.drop_take, hsplit]
  exact List.take_append_drop _ _

/-- A field at the front of a string. -/
theorem slice_append_left {mid post : Bytes} {b : ℕ} (h : mid.length = b) :
    slice (mid ++ post) 0 b = mid := by
  subst h
  simp [slice]

/-- A field inside the first `k` bytes does not see the others. -/
theorem slice_take {data : Bytes} {a b k : ℕ} (h : b ≤ k) :
    slice (data.take k) a b = slice data a b := by
  rw [slice, slice, List.take_take, Nat.min_eq_left h]

/-- A field behind a prefix stands in the rest, counted from the prefix's end. -/
theorem slice_append_right {pre post : Bytes} {a b : ℕ} (h : pre.length ≤ a) :
    slice (pre ++ post) a b = slice post (a - pre.length) (b - pre.length) := by
  have hpre : (pre.take b).drop a = [] := List.drop_eq_nil_of_le (by simp; omega)
  rw [slice, slice, List.take_append, List.drop_append, hpre, List.nil_append, List.length_take]
  by_cases hb : b ≤ pre.length
  · simp [Nat.sub_eq_zero_of_le hb]
  · rw [Nat.min_eq_right (by omega)]

end BigEndian
