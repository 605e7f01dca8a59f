import Mathlib.Data.Finset.Sort
import Mathlib.Data.Finset.Image
import Mathlib.Data.Nat.Bitwise
import Mathlib.Tactic.IntervalCases
import NetgearSwitch.Lib.BigEndian

/-!
# Bitmaps of numbers, most significant bit first

A byte string read as a set of positive numbers: number 1 is the top bit of byte 0, number 8
its lowest bit, number 9 the top bit of byte 1.  The editing functions index a byte array as
Python does, so a number past the end fails and a number below 1 wraps around; inside the
array (`1 ≤ n ≤ 8 * length`) editing adds or removes exactly the number named.
-/

namespace Bitmap

/-! ## §1 One byte -/

/-- The mask of the `k`-th bit from the top. -/
def mask (k : ℕ) : UInt8 := 0x80 >>> UInt8.ofNat k

/-- Is the `k`-th bit from the top set? -/
def testByte (b : UInt8) (k : ℕ) : Bool := b &&& mask k != 0

private theorem toNat_mask {k : ℕ} (hk : k < 8) : (mask k).toNat = 2 ^ (7 - k) := by
  interval_cases k <;> rfl

theorem testByte_eq {k : ℕ} (b : UInt8) (hk : k < 8) : testByte b k = b.toNat.testBit (7 - k) := by
  have hand : (b &&& mask k).toNat = (b.toNat.testBit (7 - k)).toNat * 2 ^ (7 - k) := by
    rw [UInt8.toNat_and, toNat_mask hk, Nat.and_two_pow]
  have hzero : b &&& mask k = 0 ↔ (b &&& mask k).toNat = 0 := by
    rw [← UInt8.toNat_inj]
    rfl
  cases hbit : b.toNat.testBit (7 - k)
  · simp [testByte, hzero, hand, hbit]
  · simp [testByte, hzero, hand, hbit]

theorem testByte_or {j k : ℕ} (b : UInt8) (hj : j < 8) (hk : k < 8) :
    testByte (b ||| mask k) j = (decide (j = k) || testByte b j) := by
  have h : (7 - k = 7 - j) ↔ j = k := by omega
  rw [testByte_eq _ hj, testByte_eq _ hj, UInt8.toNat_or, Nat.testBit_or, toNat_mask hk,
    Nat.testBit_two_pow, Bool.or_comm]
  simp only [h]

private theorem testBit_not_mask {j k : ℕ} (hj : j < 8) (hk : k < 8) :
    (~~~ mask k).toNat.testBit (7 - j) = !decide (j = k) := by
  interval_cases k <;> interval_cases j <;> rfl

theorem testByte_and_not {j k : ℕ} (b : UInt8) (hj : j < 8) (hk : k < 8) :
    testByte (b &&& ~~~ mask k) j = (!decide (j = k) && testByte b j) := by
  rw [testByte_eq _ hj, testByte_eq _ hj, UInt8.toNat_and, Nat.testBit_and,
    testBit_not_mask hj hk, Bool.and_comm]

/-! ## §2 The numbers of a byte string -/

/-- Bit `i`, counted from the top bit of byte 0; bits past the end are clear. -/
def bit (bs : Bytes) (i : ℕ) : Bool := testByte (bs.getD (i / 8) 0) (i % 8)

private def succNumber : ℕ ↪ ℤ := ⟨fun i => (i : ℤ) + 1, fun a b h => by
  have : (a : ℤ) + 1 = b + 1 := h
  omega⟩

/-- The set of numbers a bitmap holds. -/
def numbers (bs : Bytes) : Finset ℤ :=
  ((Finset.range (8 * bs.length)).filter fun i => bit bs i).map succNumber

theorem bit_eq_false_of_length_le {bs : Bytes} {i : ℕ} (h : 8 * bs.length ≤ i) :
    bit bs i = false := by
  have hlen : bs.length ≤ i / 8 := by omega
  have hk : i % 8 < 8 := Nat.mod_lt _ (by omega)
  rw [bit, List.getD_eq_default _ _ hlen, testByte_eq _ hk]
  simp

theorem mem_numbers {bs : Bytes} {n : ℤ} : n ∈ numbers bs ↔ 1 ≤ n ∧ bit bs (n - 1).toNat := by
  simp only [numbers, Finset.mem_map, Finset.mem_filter, Finset.mem_range]
  constructor
  · rintro ⟨i, ⟨_, hi⟩, rfl⟩
    have : ((i : ℤ) + 1 - 1).toNat = i := by omega
    exact ⟨show (1 : ℤ) ≤ i + 1 by omega, show bit bs ((i : ℤ) + 1 - 1).toNat by rwa [this]⟩
  · rintro ⟨hn, hbit⟩
    refine ⟨(n - 1).toNat, ⟨?_, hbit⟩, show (((n - 1).toNat : ℤ) + 1 = n) by omega⟩
    by_contra hlen
    rw [bit_eq_false_of_length_le (by omega)] at hbit
    cases hbit

/-- A bitmap of `w` bytes only holds numbers up to `8 * w`. -/
theorem le_of_mem_numbers {bs : Bytes} {n : ℤ} (h : n ∈ numbers bs) :
    1 ≤ n ∧ n ≤ 8 * bs.length := by
  obtain ⟨hn, hbit⟩ := mem_numbers.mp h
  refine ⟨hn, ?_⟩
  by_contra hlen
  rw [bit_eq_false_of_length_le (by omega)] at hbit
  cases hbit

@[simp] theorem numbers_nil : numbers [] = ∅ := by
  ext n
  simp only [mem_numbers, Finset.notMem_empty, iff_false, not_and, Bool.not_eq_true]
  intro _
  exact bit_eq_false_of_length_le (Nat.zero_le _)

theorem bit_replicate_zero (w i : ℕ) : bit (List.replicate w 0) i = false := by
  have hk : i % 8 < 8 := Nat.mod_lt _ (by omega)
  have hget : (List.replicate w (0 : UInt8)).getD (i / 8) 0 = 0 := by
    by_cases h : i / 8 < w
    · simp [List.getD, h]
    · simp [List.getD, h]
  rw [bit, hget, testByte_eq _ hk]
  simp

@[simp] theorem numbers_replicate_zero (w : ℕ) : numbers (List.replicate w 0) = ∅ := by
  ext n
  simp [mem_numbers, bit_replicate_zero]

/-- Zero bytes behind a bitmap hold no number. -/
theorem bit_append_replicate_zero (bs : Bytes) (w i : ℕ) :
    bit (bs ++ List.replicate w 0) i = bit bs i := by
  unfold bit
  congr 1
  by_cases h : i / 8 < bs.length
  · rw [List.getD_append _ _ _ _ h]
  · rw [List.getD_append_right _ _ _ _ (by omega), List.getD_eq_default bs 0 (by omega)]
    by_cases hw : i / 8 - bs.length < w
    · simp [List.getD, hw]
    · simp [List.getD, hw]

@[simp] theorem numbers_append_replicate_zero (bs : Bytes) (w : ℕ) :
    numbers (bs ++ List.replicate w 0) = numbers bs := by
  ext n
  simp [mem_numbers, bit_append_replicate_zero]

/-! ## §3 Editing one number -/

/-- Where Python's `data[q]` points: a negative index counts from the end, and one out of
range is refused. -/
def pyIndex (length : ℕ) (q : ℤ) : Option ℕ :=
  if 0 ≤ q then if q < length then some q.toNat else none
  else if 0 ≤ q + length then some (q + length).toNat else none

/-- `data[(n - 1) // 8] = f(data[(n - 1) // 8], 0x80 >> ((n - 1) % 8))`. -/
def editNumber (f : UInt8 → UInt8 → UInt8) (data : Bytes) (n : ℤ) : Option Bytes :=
  (pyIndex data.length ((n - 1) / 8)).map fun q =>
    data.modify q fun b => f b (mask ((n - 1) % 8).toNat)

/-- `data[(n - 1) // 8] |= 0x80 >> ((n - 1) % 8)`. -/
def addNumber : Bytes → ℤ → Option Bytes := editNumber fun b m => b ||| m

/-- `data[(n - 1) // 8] &= ~(0x80 >> ((n - 1) % 8)) & 0xFF`. -/
def removeNumber : Bytes → ℤ → Option Bytes := editNumber fun b m => b &&& ~~~ m

private theorem editNumber_eq (f : UInt8 → UInt8 → UInt8) {data : Bytes} {n : ℤ} (h1 : 1 ≤ n)
    (h2 : n ≤ 8 * data.length) :
    editNumber f data n =
      some (data.modify ((n - 1).toNat / 8) fun b => f b (mask ((n - 1).toNat % 8))) := by
  have hq : (n - 1) / 8 = ((n - 1).toNat / 8 : ℕ) := by omega
  have hk : ((n - 1) % 8).toNat = (n - 1).toNat % 8 := by omega
  unfold editNumber pyIndex
  rw [hk, hq, if_pos (by omega), if_pos (by omega), Option.map_some, Int.toNat_natCast]

private theorem bit_modify (g : UInt8 → UInt8) (data : Bytes) (i j : ℕ) (hi : i < data.length) :
    bit (data.modify i g) j =
      if j / 8 = i then testByte (g (data.getD i 0)) (j % 8) else bit data j := by
  unfold bit
  have hget : (data.modify i g).getD (j / 8) 0 =
      if j / 8 = i then g (data.getD i 0) else data.getD (j / 8) 0 := by
    by_cases h : j / 8 = i
    · simp [List.getD, h, hi]
    · have h' : ¬ i = j / 8 := fun e => h e.symm
      simp [List.getD, h, h']
  rw [hget]
  split <;> rfl

/-- Adding a number inside the bitmap keeps the width and adds exactly that number. -/
theorem addNumber_spec {data : Bytes} {n : ℤ} (h1 : 1 ≤ n) (h2 : n ≤ 8 * data.length) :
    ∃ data', addNumber data n = some data' ∧ data'.length = data.length ∧
      numbers data' = insert n (numbers data) := by
  refine ⟨_, editNumber_eq _ h1 h2, by simp, ?_⟩
  ext m
  rw [Finset.mem_insert, mem_numbers, mem_numbers, bit_modify _ _ _ _ (by omega)]
  have hj : (m - 1).toNat % 8 < 8 := Nat.mod_lt _ (by omega)
  have hk : (n - 1).toNat % 8 < 8 := Nat.mod_lt _ (by omega)
  by_cases hbyte : (m - 1).toNat / 8 = (n - 1).toNat / 8
  · rw [if_pos hbyte, testByte_or _ hj hk, ← hbyte, ← bit]
    have heq : (m - 1).toNat % 8 = (n - 1).toNat % 8 ↔ (m - 1).toNat = (n - 1).toNat := by omega
    simp only [heq, Bool.or_eq_true, decide_eq_true_eq]
    constructor
    · rintro ⟨hm, h | h⟩
      · exact Or.inl (by omega)
      · exact Or.inr ⟨hm, h⟩
    · rintro (rfl | ⟨hm, h⟩)
      · exact ⟨h1, Or.inl rfl⟩
      · exact ⟨hm, Or.inr h⟩
  · rw [if_neg hbyte]
    constructor
    · exact Or.inr
    · rintro (rfl | h)
      · exact absurd rfl hbyte
      · exact h

/-- Removing a number inside the bitmap keeps the width and removes exactly that number. -/
theorem removeNumber_spec {data : Bytes} {n : ℤ} (h1 : 1 ≤ n) (h2 : n ≤ 8 * data.length) :
    ∃ data', removeNumber data n = some data' ∧ data'.length = data.length ∧
      numbers data' = (numbers data).erase n := by
  refine ⟨_, editNumber_eq _ h1 h2, by simp, ?_⟩
  ext m
  rw [Finset.mem_erase, mem_numbers, mem_numbers, bit_modify _ _ _ _ (by omega)]
  have hj : (m - 1).toNat % 8 < 8 := Nat.mod_lt _ (by omega)
  have hk : (n - 1).toNat % 8 < 8 := Nat.mod_lt _ (by omega)
  by_cases hbyte : (m - 1).toNat / 8 = (n - 1).toNat / 8
  · rw [if_pos hbyte, testByte_and_not _ hj hk, ← hbyte, ← bit]
    have heq : (m - 1).toNat % 8 = (n - 1).toNat % 8 ↔ (m - 1).toNat = (n - 1).toNat := by omega
    simp only [heq, Bool.and_eq_true, Bool.not_eq_true', decide_eq_false_iff_not]
    constructor
    · rintro ⟨hm, hne, h⟩
      exact ⟨fun e => hne (by rw [e]), hm, h⟩
    · rintro ⟨hne, hm, h⟩
      exact ⟨hm, by omega, h⟩
  · rw [if_neg hbyte]
    constructor
    · rintro h
      exact ⟨fun e => hbyte (by rw [e]), h⟩
    · exact And.right

/-- A number below 1 wraps around: it stands for the one as far back from the end. -/
theorem addNumber_wrap {data : Bytes} {n : ℤ} (h1 : -(8 * data.length : ℤ) < n) (h2 : n ≤ 0) :
    addNumber data n = addNumber data (n + 8 * data.length) := by
  have hindex : pyIndex data.length ((n - 1) / 8) =
      pyIndex data.length ((n + 8 * data.length - 1) / 8) := by
    have hq : (n + 8 * data.length - 1) / 8 = (n - 1) / 8 + data.length := by omega
    unfold pyIndex
    rw [if_neg (by omega), if_pos (by omega), if_pos (by omega), if_pos (by omega), hq]
  have hbit : (n - 1) % 8 = (n + 8 * data.length - 1) % 8 := by omega
  rw [addNumber, editNumber, editNumber, hindex, hbit]

/-! ## §4 Editing a list of numbers -/

/-- The loop over the numbers to add. -/
def addNumbers (data : Bytes) (ns : List ℤ) : Option Bytes := ns.foldlM addNumber data

/-- The loop over the numbers to remove. -/
def removeNumbers (data : Bytes) (ns : List ℤ) : Option Bytes := ns.foldlM removeNumber data

theorem addNumbers_spec : ∀ (ns : List ℤ) (data : Bytes),
    (∀ n ∈ ns, 1 ≤ n ∧ n ≤ 8 * data.length) →
    ∃ data', addNumbers data ns = some data' ∧ data'.length = data.length ∧
      numbers data' = numbers data ∪ ns.toFinset
  | [], data, _ => ⟨data, rfl, rfl, by simp⟩
  | n :: ns, data, h => by
    obtain ⟨h1, h2⟩ := h n List.mem_cons_self
    obtain ⟨data₁, hadd, hlen, hnum⟩ := addNumber_spec h1 h2
    obtain ⟨data₂, hadds, hlen₂, hnum₂⟩ := addNumbers_spec ns data₁ fun m hm => by
      rw [hlen]
      exact h m (List.mem_cons_of_mem _ hm)
    refine ⟨data₂, ?_, hlen₂.trans hlen, ?_⟩
    · rw [addNumbers, List.foldlM_cons, hadd]
      exact hadds
    · rw [hnum₂, hnum, List.toFinset_cons, Finset.insert_union, Finset.union_insert]

theorem removeNumbers_spec : ∀ (ns : List ℤ) (data : Bytes),
    (∀ n ∈ ns, 1 ≤ n ∧ n ≤ 8 * data.length) →
    ∃ data', removeNumbers data ns = some data' ∧ data'.length = data.length ∧
      numbers data' = numbers data \ ns.toFinset
  | [], data, _ => ⟨data, rfl, rfl, by simp⟩
  | n :: ns, data, h => by
    obtain ⟨h1, h2⟩ := h n List.mem_cons_self
    obtain ⟨data₁, hrem, hlen, hnum⟩ := removeNumber_spec h1 h2
    obtain ⟨data₂, hrems, hlen₂, hnum₂⟩ := removeNumbers_spec ns data₁ fun m hm => by
      rw [hlen]
      exact h m (List.mem_cons_of_mem _ hm)
    refine ⟨data₂, ?_, hlen₂.trans hlen, ?_⟩
    · rw [removeNumbers, List.foldlM_cons, hrem]
      exact hrems
    · rw [hnum₂, hnum, List.toFinset_cons]
      ext m
      simp only [Finset.mem_sdiff, Finset.mem_erase, Finset.mem_insert]
      tauto

/-! ## §5 Building a bitmap that grows -/

/-- Append zero bytes until number `n` has a byte. -/
def growTo (data : Bytes) (n : ℤ) : Bytes :=
  data ++ List.replicate (((n - 1) / 8 + 1).toNat - data.length) 0

/-- The bitmap of `ns`: `width` bytes, more where a number needs them. -/
def encodeNumbers (width : ℕ) (ns : List ℤ) : Option Bytes :=
  ns.foldlM (fun data n => addNumber (growTo data n) n) (List.replicate width 0)

theorem length_growTo (data : Bytes) (n : ℤ) :
    (growTo data n).length = max data.length ((n - 1) / 8 + 1).toNat := by
  simp only [growTo, List.length_append, List.length_replicate]
  omega

/-- The growing loop adds its numbers, and the width never shrinks nor passes a bound that
holds for the start and for every number. -/
private theorem encodeLoop_spec (bound : ℕ) : ∀ (ns : List ℤ) (data : Bytes),
    (∀ n ∈ ns, 1 ≤ n ∧ n ≤ 8 * bound) → data.length ≤ bound →
    ∃ data', ns.foldlM (fun data n => addNumber (growTo data n) n) data = some data' ∧
      data.length ≤ data'.length ∧ data'.length ≤ bound ∧
      numbers data' = numbers data ∪ ns.toFinset
  | [], data, _, hlen => ⟨data, rfl, le_rfl, hlen, by simp⟩
  | n :: ns, data, h, hlen => by
    obtain ⟨h1, h2⟩ := h n List.mem_cons_self
    have hgrow := length_growTo data n
    have hfit : n ≤ 8 * ((growTo data n).length : ℤ) := by omega
    obtain ⟨data₁, hadd, hlen₁, hnum₁⟩ := addNumber_spec h1 hfit
    obtain ⟨data₂, hrest, hle, hbound, hnum₂⟩ := encodeLoop_spec bound ns data₁
      (fun m hm => h m (List.mem_cons_of_mem _ hm)) (by omega)
    refine ⟨data₂, ?_, by omega, hbound, ?_⟩
    · rw [List.foldlM_cons, hadd]
      exact hrest
    · rw [hnum₂, hnum₁, growTo, numbers_append_replicate_zero, List.toFinset_cons,
        Finset.insert_union, Finset.union_insert]

private theorem exists_byte_bound (width : ℕ) :
    ∀ ns : List ℤ, ∃ bound : ℕ, width ≤ bound ∧ ∀ n ∈ ns, n ≤ 8 * (bound : ℤ)
  | [] => ⟨width, le_rfl, by simp⟩
  | n :: ns => by
    obtain ⟨bound, hwidth, hbound⟩ := exists_byte_bound width ns
    refine ⟨max bound n.toNat, by omega, fun m hm => ?_⟩
    rcases List.mem_cons.mp hm with rfl | hm
    · omega
    · have := hbound m hm
      omega

/-- Positive numbers encode, to a bitmap of at least the width asked for that holds exactly
them. -/
theorem encodeNumbers_spec (width : ℕ) {ns : List ℤ} (h : ∀ n ∈ ns, 1 ≤ n) :
    ∃ data, encodeNumbers width ns = some data ∧ width ≤ data.length ∧
      numbers data = ns.toFinset := by
  obtain ⟨bound, hwidth, hbound⟩ := exists_byte_bound width ns
  obtain ⟨data, hdata, hle, _, hnum⟩ := encodeLoop_spec bound ns (List.replicate width 0)
    (fun n hn => ⟨h n hn, hbound n hn⟩) (by simpa using hwidth)
  exact ⟨data, hdata, by simpa using hle, by simpa using hnum⟩

/-- Numbers that fit the width leave it as it is. -/
theorem encodeNumbers_fits {width : ℕ} {ns : List ℤ} (h : ∀ n ∈ ns, 1 ≤ n ∧ n ≤ 8 * width) :
    ∃ data, encodeNumbers width ns = some data ∧ data.length = width ∧
      numbers data = ns.toFinset := by
  obtain ⟨data, hdata, hwidth, hbound, hnum⟩ :=
    encodeLoop_spec width ns (List.replicate width 0) h (by simp)
  rw [List.length_replicate] at hwidth
  exact ⟨data, hdata, by omega, by simpa using hnum⟩

/-- A number below 1 ahead of numbers that fit lands as far back from the end of the width. -/
theorem encodeNumbers_wrap {width : ℕ} {n : ℤ} {ns : List ℤ} (h1 : -(8 * width : ℤ) < n)
    (h2 : n ≤ 0) (h : ∀ m ∈ ns, 1 ≤ m ∧ m ≤ 8 * width) :
    ∃ data, encodeNumbers width (n :: ns) = some data ∧ data.length = width ∧
      numbers data = insert (n + 8 * width) ns.toFinset := by
  have hlen : (List.replicate width (0 : UInt8)).length = width := List.length_replicate
  have hgrow : growTo (List.replicate width 0) n = List.replicate width 0 := by
    have hzero : ((n - 1) / 8 + 1).toNat = 0 := by omega
    rw [growTo, hzero, Nat.zero_sub]
    exact List.append_nil _
  have hfits : n + 8 * width ≤ 8 * ((List.replicate width (0 : UInt8)).length : ℤ) := by omega
  obtain ⟨data₁, hadd, hlen₁, hnum₁⟩ := addNumber_spec (by omega) hfits
  obtain ⟨data₂, hrest, hle, hbound, hnum₂⟩ :=
    encodeLoop_spec width ns data₁ h (by omega)
  refine ⟨data₂, ?_, by omega, ?_⟩
  · have hlow : -(8 * ((List.replicate width (0 : UInt8)).length : ℤ)) < n := by omega
    have hwrap := addNumber_wrap hlow h2
    rw [hlen] at hwrap
    rw [encodeNumbers, List.foldlM_cons, hgrow, hwrap, hadd]
    exact hrest
  · rw [hnum₂, hnum₁, numbers_replicate_zero, Finset.insert_union, Finset.empty_union]

/-! ## §6 Which numbers encode -/

private theorem isSome_pyIndex_iff {length : ℕ} {q : ℤ} :
    (pyIndex length q).isSome ↔ -(length : ℤ) ≤ q ∧ q < length := by
  unfold pyIndex
  split_ifs
  all_goals simp only [Option.isSome_some, Option.isSome_none, Bool.false_eq_true, true_iff,
    false_iff]
  all_goals omega

theorem isSome_addNumber_iff {data : Bytes} {n : ℤ} :
    (addNumber data n).isSome ↔ -(8 * data.length : ℤ) < n ∧ n ≤ 8 * data.length := by
  rw [addNumber, editNumber, Option.isSome_map, isSome_pyIndex_iff]
  omega

theorem length_of_addNumber {data data' : Bytes} {n : ℤ} (h : addNumber data n = some data') :
    data'.length = data.length := by
  obtain ⟨q, _, rfl⟩ := Option.map_eq_some_iff.mp h
  exact List.length_modify _ _ _

/-- A loop of fallible steps succeeds when its first step and the rest do. -/
private theorem isSome_foldlM_cons {f : Bytes → ℤ → Option Bytes} {data : Bytes} {n : ℤ}
    {ns : List ℤ} : ((n :: ns).foldlM f data).isSome ↔
      ∃ data', f data n = some data' ∧ (ns.foldlM f data').isSome := by
  rw [List.foldlM_cons, Option.bind_eq_bind]
  cases f data n with
  | none => simp
  | some data' => simp

/-- Which numbers a bitmap of fixed width takes; Python's negative indices reach back from its
end. -/
theorem isSome_addNumbers_iff : ∀ {ns : List ℤ} {data : Bytes},
    (addNumbers data ns).isSome ↔ ∀ n ∈ ns, -(8 * data.length : ℤ) < n ∧ n ≤ 8 * data.length
  | [], data => by simp [addNumbers]
  | n :: ns, data => by
    rw [addNumbers, isSome_foldlM_cons, List.forall_mem_cons, ← isSome_addNumber_iff]
    constructor
    · rintro ⟨data', hadd, hrest⟩
      have hns := isSome_addNumbers_iff.mp hrest
      rw [length_of_addNumber hadd] at hns
      exact ⟨Option.isSome_of_eq_some hadd, hns⟩
    · rintro ⟨hadd, hns⟩
      obtain ⟨data', hdata'⟩ := Option.isSome_iff_exists.mp hadd
      rw [← length_of_addNumber hdata'] at hns
      exact ⟨data', hdata', isSome_addNumbers_iff.mpr hns⟩

/-- Which numbers, taken in order, a growing bitmap takes: all that do not reach back past the
start of its initial width. -/
theorem isSome_encodeLoop_iff : ∀ {ns : List ℤ} {data : Bytes}, ns.Pairwise (· ≤ ·) →
    ((ns.foldlM (fun data n => addNumber (growTo data n) n) data).isSome ↔
      ∀ n ∈ ns, -(8 * data.length : ℤ) < n)
  | [], data, _ => by simp
  | n :: ns, data, hsorted => by
    obtain ⟨hle, hsorted⟩ := List.pairwise_cons.mp hsorted
    have hgrow := length_growTo data n
    rw [isSome_foldlM_cons, List.forall_mem_cons]
    by_cases hn : 1 ≤ n
    · -- from the first positive number on nothing can fail
      have hpos : ∀ m ∈ ns, 1 ≤ m := fun m hm => hn.trans (hle m hm)
      constructor
      · rintro -
        refine ⟨by omega, fun m hm => ?_⟩
        have := hpos m hm
        omega
      · rintro -
        have hadd : (addNumber (growTo data n) n).isSome := by
          rw [isSome_addNumber_iff]
          omega
        obtain ⟨data', hdata'⟩ := Option.isSome_iff_exists.mp hadd
        refine ⟨data', hdata', (isSome_encodeLoop_iff hsorted).mpr fun m hm => ?_⟩
        have := hpos m hm
        omega
    · have hlen : (growTo data n).length = data.length := by omega
      have hadd : (addNumber (growTo data n) n).isSome ↔ -(8 * data.length : ℤ) < n := by
        rw [isSome_addNumber_iff, hlen]
        omega
      rw [← hadd]
      constructor
      · rintro ⟨data', hdata', hrest⟩
        have hns := (isSome_encodeLoop_iff hsorted).mp hrest
        rw [length_of_addNumber hdata', hlen] at hns
        exact ⟨Option.isSome_of_eq_some hdata', hns⟩
      · rintro ⟨hsome, hns⟩
        obtain ⟨data', hdata'⟩ := Option.isSome_iff_exists.mp hsome
        rw [← hlen, ← length_of_addNumber hdata'] at hns
        exact ⟨data', hdata', (isSome_encodeLoop_iff hsorted).mpr hns⟩

theorem isSome_encodeNumbers_iff {width : ℕ} {ns : List ℤ} (h : ns.Pairwise (· ≤ ·)) :
    (encodeNumbers width ns).isSome ↔ ∀ n ∈ ns, -(8 * width : ℤ) < n := by
  rw [encodeNumbers, isSome_encodeLoop_iff h, List.length_replicate]

/-- A number past the initial width, and no smaller than the others, sets the width. -/
theorem encodeNumbers_grow {width : ℕ} {n : ℤ} {ns : List ℤ} (h : ∀ m ∈ ns, 1 ≤ m ∧ m ≤ n)
    (hn : n ∈ ns) (hwidth : 8 * (width : ℤ) < n) :
    ∃ data, encodeNumbers width ns = some data ∧ data.length = ((n - 1) / 8 + 1).toNat ∧
      numbers data = ns.toFinset := by
  obtain ⟨data, hdata, _, hbound, hnum⟩ := encodeLoop_spec ((n - 1) / 8 + 1).toNat ns
    (List.replicate width 0) (fun m hm => by have := h m hm; omega)
    (by rw [List.length_replicate]; omega)
  have hnumbers : numbers data = ns.toFinset := by simpa using hnum
  have hmem : n ∈ numbers data := by
    rw [hnumbers]
    exact List.mem_toFinset.mpr hn
  have hle := (le_of_mem_numbers hmem).2
  exact ⟨data, hdata, by omega, hnumbers⟩

/-! ## §7 Two bitmaps with no boundary between them

A reader who takes the second bitmap to start at its own width reads the end of the first one
where that is wider. -/

theorem bit_append (a b : Bytes) (i : ℕ) :
    bit (a ++ b) i = if i < 8 * a.length then bit a i else bit b (i - 8 * a.length) := by
  unfold bit
  split_ifs with h
  · rw [List.getD_append _ _ _ _ (by omega)]
  · have hbyte : i / 8 - a.length = (i - 8 * a.length) / 8 := by omega
    have hmod : i % 8 = (i - 8 * a.length) % 8 := by omega
    rw [List.getD_append_right _ _ _ _ (by omega), hbyte, hmod]

theorem bit_slice (data : Bytes) (a b i : ℕ) :
    bit (BigEndian.slice data a b) i = (decide (i + 8 * a < 8 * b) && bit data (i + 8 * a)) := by
  have hbyte : (i + 8 * a) / 8 = a + i / 8 := by omega
  have hmod : (i + 8 * a) % 8 = i % 8 := by omega
  have hk : i % 8 < 8 := Nat.mod_lt _ (by omega)
  have hget : (BigEndian.slice data a b).getD (i / 8) 0 =
      if i + 8 * a < 8 * b then data.getD (a + i / 8) 0 else 0 := by
    rw [BigEndian.slice, List.getD_eq_getElem?_getD, List.getElem?_drop]
    split_ifs with h
    · rw [List.getElem?_take_of_lt (by omega), List.getD_eq_getElem?_getD]
    · rw [List.getElem?_eq_none (by rw [List.length_take]; omega)]
      rfl
  rw [bit, bit, hget, hbyte, hmod]
  split_ifs with h
  · rw [decide_eq_true h, Bool.true_and]
  · rw [decide_eq_false h, Bool.false_and, testByte_eq _ hk]
    simp

/-- The first bitmap as the reader sees it: its own numbers, up to the reader's width. -/
theorem mem_numbers_front {a b : Bytes} {w : ℕ} (hw : w ≤ a.length) {m : ℤ} :
    m ∈ numbers (BigEndian.slice (a ++ b) 0 w) ↔ m ∈ numbers a ∧ m ≤ 8 * w := by
  rw [mem_numbers, mem_numbers, bit_slice, bit_append, Nat.mul_zero, Nat.add_zero]
  by_cases hm : 1 ≤ m ∧ m ≤ 8 * w
  · have hlt : (m - 1).toNat < 8 * w := by omega
    rw [decide_eq_true hlt, Bool.true_and, if_pos (by omega)]
    exact ⟨fun h => ⟨h, hm.2⟩, And.left⟩
  · constructor
    · rintro ⟨hone, hbit⟩
      rw [decide_eq_false (by omega), Bool.false_and] at hbit
      cases hbit
    · rintro ⟨⟨hone, _⟩, hle⟩
      exact absurd ⟨hone, hle⟩ hm

/-- The second bitmap as the reader sees it: what the first one has past the reader's width, and
then the second one's own numbers, moved up by as much. -/
theorem mem_numbers_window {a b : Bytes} {w : ℕ} {m : ℤ} :
    m ∈ numbers (BigEndian.slice (a ++ b) w (w * 2)) ↔
      1 ≤ m ∧ m ≤ 8 * w ∧ (m + 8 * w ∈ numbers a ∨ m + 8 * w - 8 * a.length ∈ numbers b) := by
  rw [mem_numbers, bit_slice, bit_append]
  by_cases hm : 1 ≤ m ∧ m ≤ 8 * w
  · rw [decide_eq_true (by omega), Bool.true_and]
    by_cases hfirst : (m - 1).toNat + 8 * w < 8 * a.length
    · have hindex : (m + 8 * w - 1).toNat = (m - 1).toNat + 8 * w := by omega
      have hout : m + 8 * w - 8 * a.length ∉ numbers b := fun h => by
        have := (le_of_mem_numbers h).1
        omega
      rw [if_pos hfirst, mem_numbers, hindex]
      constructor
      · rintro ⟨_, hbit⟩
        exact ⟨hm.1, hm.2, Or.inl ⟨by omega, hbit⟩⟩
      · rintro ⟨_, _, ⟨_, hbit⟩ | h⟩
        · exact ⟨hm.1, hbit⟩
        · exact absurd h hout
    · have hindex : (m + 8 * w - 8 * a.length - 1).toNat = (m - 1).toNat + 8 * w - 8 * a.length := by
        omega
      have hout : m + 8 * w ∉ numbers a := fun h => by
        have := (le_of_mem_numbers h).2
        omega
      rw [if_neg hfirst, @mem_numbers b, hindex]
      constructor
      · rintro ⟨_, hbit⟩
        exact ⟨hm.1, hm.2, Or.inr ⟨by omega, hbit⟩⟩
      · rintro ⟨_, _, h | ⟨_, hbit⟩⟩
        · exact absurd h hout
        · exact ⟨hm.1, hbit⟩
  · constructor
    · rintro ⟨hone, hbit⟩
      rw [decide_eq_false (by omega), Bool.false_and] at hbit
      cases hbit
    · rintro ⟨hone, hle, _⟩
      exact absurd ⟨hone, hle⟩ hm

/-! ## §8 A bitmap is its width and its numbers

What the loops leave does not depend on the order in which they take their numbers. -/

/-- A byte is its eight bits. -/
theorem eq_of_testByte {a b : UInt8} (h : ∀ k < 8, testByte a k = testByte b k) : a = b := by
  rw [← UInt8.toNat_inj]
  apply Nat.eq_of_testBit_eq
  intro i
  by_cases hi : i < 8
  · have hbit := h (7 - i) (by omega)
    have hi' : 7 - (7 - i) = i := by omega
    rwa [testByte_eq _ (by omega), testByte_eq _ (by omega), hi'] at hbit
  · have hpow : 2 ^ 8 ≤ 2 ^ i := Nat.pow_le_pow_right (by decide) (by omega)
    have ha : a.toNat < 2 ^ i := lt_of_lt_of_le a.toNat_lt hpow
    have hb : b.toNat < 2 ^ i := lt_of_lt_of_le b.toNat_lt hpow
    rw [Nat.testBit_lt_two_pow ha, Nat.testBit_lt_two_pow hb]

/-- Two bitmaps of one width that hold the same numbers are the same. -/
theorem eq_of_numbers {a b : Bytes} (hlen : a.length = b.length) (h : numbers a = numbers b) :
    a = b := by
  apply List.ext_getElem hlen
  intro i ha hb
  apply eq_of_testByte
  intro k hk
  have hmem : ((8 * i + k : ℕ) : ℤ) + 1 ∈ numbers a ↔ ((8 * i + k : ℕ) : ℤ) + 1 ∈ numbers b := by
    rw [h]
  have hindex : (((8 * i + k : ℕ) : ℤ) + 1 - 1).toNat = 8 * i + k := by omega
  have hbyte : (8 * i + k) / 8 = i := by omega
  have hmod : (8 * i + k) % 8 = k := by omega
  have hone : (1 : ℤ) ≤ ((8 * i + k : ℕ) : ℤ) + 1 := by omega
  rw [mem_numbers, mem_numbers, hindex, bit, bit, hbyte, hmod] at hmem
  simp only [hone, true_and, List.getD_eq_getElem _ _ ha, List.getD_eq_getElem _ _ hb] at hmem
  exact Bool.eq_iff_iff.mpr hmem

/-- Positive numbers encode to the narrowest bitmap of at least the width asked for that has
room for them. -/
theorem encodeNumbers_least (width : ℕ) {ns : List ℤ} (h : ∀ n ∈ ns, 1 ≤ n) :
    ∃ data, encodeNumbers width ns = some data ∧ numbers data = ns.toFinset ∧
      width ≤ data.length ∧
      ∀ bound : ℕ, width ≤ bound → (∀ n ∈ ns, n ≤ 8 * (bound : ℤ)) → data.length ≤ bound := by
  obtain ⟨data, hdata, hwidth, hnum⟩ := encodeNumbers_spec width h
  refine ⟨data, hdata, hnum, hwidth, ?_⟩
  intro bound hbound hns
  obtain ⟨data', hdata', _, hle, _⟩ := encodeLoop_spec bound ns (List.replicate width 0)
    (fun n hn => ⟨h n hn, hns n hn⟩) (by simpa using hbound)
  cases hdata.symm.trans hdata'
  exact hle

theorem encodeNumbers_order (width : ℕ) {ns ms : List ℤ} (h : ∀ n ∈ ns, 1 ≤ n)
    (heq : ms.toFinset = ns.toFinset) : encodeNumbers width ms = encodeNumbers width ns := by
  have hmem : ∀ n, n ∈ ms ↔ n ∈ ns := by
    intro n
    rw [← List.mem_toFinset, heq, List.mem_toFinset]
  obtain ⟨data, hdata, hnum, hwidth, hleast⟩ := encodeNumbers_least width h
  obtain ⟨data', hdata', hnum', hwidth', hleast'⟩ :=
    encodeNumbers_least width fun n hn => h n ((hmem n).mp hn)
  have hfits : ∀ n ∈ ns, n ≤ 8 * (data'.length : ℤ) := by
    intro n hn
    have hn' : n ∈ numbers data' := by
      rw [hnum', heq]
      exact List.mem_toFinset.mpr hn
    exact (le_of_mem_numbers hn').2
  have hfits' : ∀ n ∈ ms, n ≤ 8 * (data.length : ℤ) := by
    intro n hn
    have hn' : n ∈ numbers data := by
      rw [hnum]
      exact List.mem_toFinset.mpr ((hmem n).mp hn)
    exact (le_of_mem_numbers hn').2
  have hlen : data'.length = data.length :=
    le_antisymm (hleast' _ hwidth hfits') (hleast _ hwidth' hfits)
  rw [hdata, hdata', eq_of_numbers hlen (by rw [hnum, hnum', heq])]

theorem addNumbers_order {data : Bytes} {ns ms : List ℤ}
    (h : ∀ n ∈ ns, 1 ≤ n ∧ n ≤ 8 * data.length) (heq : ms.toFinset = ns.toFinset) :
    addNumbers data ms = addNumbers data ns := by
  have hms : ∀ n ∈ ms, 1 ≤ n ∧ n ≤ 8 * data.length := by
    intro n hn
    rw [← List.mem_toFinset, heq, List.mem_toFinset] at hn
    exact h n hn
  obtain ⟨data₁, h₁, hlen₁, hnum₁⟩ := addNumbers_spec ns data h
  obtain ⟨data₂, h₂, hlen₂, hnum₂⟩ := addNumbers_spec ms data hms
  rw [h₁, h₂, eq_of_numbers (hlen₂.trans hlen₁.symm) (by rw [hnum₁, hnum₂, heq])]

theorem removeNumbers_order {data : Bytes} {ns ms : List ℤ}
    (h : ∀ n ∈ ns, 1 ≤ n ∧ n ≤ 8 * data.length) (heq : ms.toFinset = ns.toFinset) :
    removeNumbers data ms = removeNumbers data ns := by
  have hms : ∀ n ∈ ms, 1 ≤ n ∧ n ≤ 8 * data.length := by
    intro n hn
    rw [← List.mem_toFinset, heq, List.mem_toFinset] at hn
    exact h n hn
  obtain ⟨data₁, h₁, hlen₁, hnum₁⟩ := removeNumbers_spec ns data h
  obtain ⟨data₂, h₂, hlen₂, hnum₂⟩ := removeNumbers_spec ms data hms
  rw [h₁, h₂, eq_of_numbers (hlen₂.trans hlen₁.symm) (by rw [hnum₁, hnum₂, heq])]

end Bitmap
