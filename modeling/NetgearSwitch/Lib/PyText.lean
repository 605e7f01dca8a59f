import Mathlib.Data.Nat.Digits.Defs
import Mathlib.Data.List.Basic
import Mathlib.Tactic.IntervalCases

/-!
# Texts and decimal numbers

A `str` is its list of characters.  `natText` and `intText` print a number as `str(n)` does;
`pyInt` reads one back as `int(s)` does: decimal digits of any script, at most 4300 of them.
-/

/-- A `str`. -/
abbrev Text := List Char

/-- A statement about the characters of a text is decided along the text. -/
instance (priority := high) Text.decidableForallMem {p : Char → Prop} [DecidablePred p]
    (t : List Char) : Decidable (∀ c ∈ t, p c) :=
  List.decidableBAll p t

instance Text.lawfulBEq : LawfulBEq (List Char) := List.instLawfulBEq

namespace PyText

/-! ## §1 Printing -/

def digitChar (d : ℕ) : Char := Char.ofNat (48 + d)

/-- `str(n)` of a number that is not negative. -/
def natText (n : ℕ) : Text :=
  if n < 10 then [digitChar n] else natText (n / 10) ++ [digitChar (n % 10)]

/-- `str(n)`. -/
def intText (n : ℤ) : Text :=
  if n < 0 then '-' :: natText n.natAbs else natText n.natAbs

/-! ## §2 Reading -/

/-- `c.isdigit()` of an ASCII character. -/
def isDigit (c : Char) : Bool := '0' ≤ c && c ≤ '9'

/-- `s.isdigit()`: at least one character, all of them digits. -/
def isDigits (t : Text) : Bool := !t.isEmpty && t.all isDigit

/-- The number a run of digits spells. -/
def digitsValue (t : Text) : ℕ := t.foldl (fun acc c => acc * 10 + (c.toNat - 48)) 0

/-- The zeroes of the decimal digits of Unicode, each followed by the other nine. -/
def decimalZeros : List ℕ := [
  0x30, 0x660, 0x6F0, 0x7C0, 0x966, 0x9E6, 0xA66, 0xAE6, 0xB66, 0xBE6,
  0xC66, 0xCE6, 0xD66, 0xDE6, 0xE50, 0xED0, 0xF20, 0x1040, 0x1090, 0x17E0,
  0x1810, 0x1946, 0x19D0, 0x1A80, 0x1A90, 0x1B50, 0x1BB0, 0x1C40, 0x1C50, 0xA620,
  0xA8D0, 0xA900, 0xA9D0, 0xA9F0, 0xAA50, 0xABF0, 0xFF10, 0x104A0, 0x10D30, 0x11066,
  0x110F0, 0x11136, 0x111D0, 0x112F0, 0x11450, 0x114D0, 0x11650, 0x116C0, 0x11730, 0x118E0,
  0x11950, 0x11C50, 0x11D50, 0x11DA0, 0x16A60, 0x16AC0, 0x16B50, 0x1D7CE, 0x1D7D8, 0x1D7E2,
  0x1D7EC, 0x1D7F6, 0x1E140, 0x1E2F0, 0x1E950, 0x1FBF0]

/-- The value of a decimal digit, of any script. -/
def decimal? (c : Char) : Option ℕ :=
  decimalZeros.findSome? fun z => if z ≤ c.toNat ∧ c.toNat < z + 10 then some (c.toNat - z) else none

/-- `\d` of a pattern over texts. -/
def isDecimal (c : Char) : Bool := (decimal? c).isSome

/-- The number a run of decimal digits spells. -/
def decimalsValue (t : Text) : ℕ := t.foldl (fun acc c => acc * 10 + (decimal? c).getD 0) 0

/-- `int(t)` of a non-empty run of decimal digits; it refuses more than 4300 of them. -/
def intOfDecimals (t : Text) : Option ℕ :=
  if 4300 < t.length then none else some (decimalsValue t)

/-- `\d+` of a pattern over texts, of the whole text. -/
def isNumber (t : Text) : Bool := !t.isEmpty && t.all isDecimal

/-- The digit characters that are not decimal digits: first and last of each run. -/
def digitRuns : List (ℕ × ℕ) := [
  (0xB2, 0xB3), (0xB9, 0xB9), (0x1369, 0x1371), (0x19DA, 0x19DA), (0x2070, 0x2070),
  (0x2074, 0x2079), (0x2080, 0x2089), (0x2460, 0x2468), (0x2474, 0x247C), (0x2488, 0x2490),
  (0x24EA, 0x24EA), (0x24F5, 0x24FD), (0x24FF, 0x24FF), (0x2776, 0x277E), (0x2780, 0x2788),
  (0x278A, 0x2792), (0x10A40, 0x10A43), (0x10E60, 0x10E68), (0x11052, 0x1105A),
  (0x1F100, 0x1F10A)]

/-- `c.isdigit()`, of any script. -/
def isAnyDigit (c : Char) : Bool :=
  isDecimal c || digitRuns.any fun run => run.1 ≤ c.toNat && c.toNat ≤ run.2

/-- `t.isdigit()`. -/
def isDigitText (t : Text) : Bool := !t.isEmpty && t.all isAnyDigit

/-- `int(t)` of a text of digits, `none` where it raises. -/
def intOfDigits (t : Text) : Option ℕ := if t.all isDecimal then intOfDecimals t else none

/-- `c.isspace()`. -/
def isSpace (c : Char) : Bool :=
  let n := c.toNat
  (9 ≤ n && n ≤ 13) || (28 ≤ n && n ≤ 32) || n == 0x85 || n == 0xA0 || n == 0x1680 ||
    (0x2000 ≤ n && n ≤ 0x200A) || n == 0x2028 || n == 0x2029 || n == 0x202F || n == 0x205F ||
    n == 0x3000

/-- `s.strip()`. -/
def strip (t : Text) : Text := ((t.dropWhile isSpace).reverse.dropWhile isSpace).reverse

/-- The blanks that `int` skips: no separator U+001C to U+001F is one of them. -/
def isIntSpace (c : Char) : Bool := isSpace c && !(28 ≤ c.toNat && c.toNat ≤ 31)

/-- A run of digits in which single underscores may stand between digits. -/
def readDigits (t : Text) : Option ℕ :=
  let groups := t.splitOn '_'
  if groups.all isNumber then some (decimalsValue groups.flatten) else none

/-- What `int(s)` would read if it took any number of digits. -/
def spelledInt (t : Text) : Option ℤ :=
  match ((t.dropWhile isIntSpace).reverse.dropWhile isIntSpace).reverse with
  | '-' :: ds => (readDigits ds).map fun n : ℕ => -(n : ℤ)
  | '+' :: ds => (readDigits ds).map fun n : ℕ => (n : ℤ)
  | ds => (readDigits ds).map fun n : ℕ => (n : ℤ)

/-- `int(s)`, `none` where it raises `ValueError`: it takes at most 4300 digits. -/
def pyInt (t : Text) : Option ℤ := if 4300 < t.countP isDecimal then none else spelledInt t

/-- A number of as many digits as `str` prints and `int` reads. -/
def Printable (n : ℤ) : Prop := (natText n.natAbs).length ≤ 4300

instance (n : ℤ) : Decidable (Printable n) := inferInstanceAs (Decidable (_ ≤ _))

/-! ## §3 Reading what was printed -/

theorem isDigit_digitChar {d : ℕ} (h : d < 10) : isDigit (digitChar d) = true := by
  interval_cases d <;> rfl

theorem toNat_digitChar {d : ℕ} (h : d < 10) : (digitChar d).toNat - 48 = d := by
  interval_cases d <;> rfl

theorem natText_ne_nil (n : ℕ) : natText n ≠ [] := by
  rw [natText]
  split <;> simp

/-- A number is printed without leading zeros. -/
theorem head?_natText {n : ℕ} (h : 0 < n) : (natText n).head? ≠ some '0' := by
  induction n using Nat.strongRecOn with
  | _ n ih =>
    rw [natText]
    split
    · next hn =>
      interval_cases n <;> decide
    · next hn =>
      have hdiv := ih (n / 10) (by omega) (by omega)
      rwa [List.head?_append_of_ne_nil _ (natText_ne_nil _)]

theorem all_isDigit_natText (n : ℕ) : ∀ c ∈ natText n, isDigit c = true := by
  induction n using Nat.strongRecOn with
  | _ n ih =>
    rw [natText]
    split
    · next h => simpa using isDigit_digitChar h
    · next h =>
      intro c hc
      rcases List.mem_append.mp hc with hc | hc
      · exact ih (n / 10) (by omega) c hc
      · rw [List.mem_singleton.mp hc]
        exact isDigit_digitChar (Nat.mod_lt _ (by omega))

theorem isDigits_natText (n : ℕ) : isDigits (natText n) = true := by
  simp only [isDigits, Bool.and_eq_true, Bool.not_eq_true', List.isEmpty_eq_false_iff,
    List.all_eq_true]
  exact ⟨natText_ne_nil n, all_isDigit_natText n⟩

theorem digitsValue_append (t : Text) (c : Char) :
    digitsValue (t ++ [c]) = digitsValue t * 10 + (c.toNat - 48) := by
  simp [digitsValue]

@[simp] theorem digitsValue_natText (n : ℕ) : digitsValue (natText n) = n := by
  induction n using Nat.strongRecOn with
  | _ n ih =>
    rw [natText]
    split
    · next h => simp [digitsValue, toNat_digitChar h]
    · next h =>
      rw [digitsValue_append, ih (n / 10) (by omega),
        toNat_digitChar (Nat.mod_lt _ (by omega))]
      omega

/-- Distinct numbers print differently. -/
theorem natText_injective : Function.Injective natText := fun m n h => by
  rw [← digitsValue_natText m, h, digitsValue_natText]

/-- A number below a power of ten has no more digits than that. -/
theorem length_natText_le {n k : ℕ} (hk : 0 < k) (h : n < 10 ^ k) : (natText n).length ≤ k := by
  induction k generalizing n with
  | zero => exact absurd hk (lt_irrefl 0)
  | succ k ih =>
    rw [natText]
    split
    · simp
    · next hn =>
      have hpos : 0 < k := by
        rcases Nat.eq_zero_or_pos k with rfl | hpos
        · exact absurd h (by simpa using hn)
        · exact hpos
      have hdiv : n / 10 < 10 ^ k := by
        rw [Nat.pow_succ] at h
        exact Nat.div_lt_of_lt_mul (by rwa [Nat.mul_comm] at h)
      rw [List.length_append, List.length_singleton]
      exact Nat.succ_le_succ (ih hpos hdiv)

/-- A number from a power of ten on has more digits than that. -/
theorem lt_length_natText {n k : ℕ} (h : 10 ^ k ≤ n) : k < (natText n).length := by
  induction k generalizing n with
  | zero => exact List.length_pos_of_ne_nil (natText_ne_nil n)
  | succ k ih =>
    have hdiv : 10 ^ k ≤ n / 10 := (Nat.le_div_iff_mul_le (by decide)).mpr (by rwa [← Nat.pow_succ])
    have hten : ¬ n < 10 := by
      intro hn
      have hpos := Nat.pow_pos (n := k) (show 0 < 10 by decide)
      omega
    rw [natText, if_neg hten, List.length_append, List.length_singleton]
    exact Nat.succ_lt_succ (ih hdiv)

theorem decimal?_of_isDigit {c : Char} (h : isDigit c = true) :
    decimal? c = some (c.toNat - 48) := by
  rw [isDigit, Bool.and_eq_true, decide_eq_true_eq, decide_eq_true_eq] at h
  have hlow : 48 ≤ c.toNat := h.1
  have hhigh : c.toNat < 48 + 10 := Nat.lt_succ_of_le h.2
  rw [decimal?, decimalZeros, List.findSome?_cons, if_pos ⟨hlow, hhigh⟩]

theorem isDecimal_of_isDigit {c : Char} (h : isDigit c = true) : isDecimal c = true := by
  rw [isDecimal, decimal?_of_isDigit h]
  rfl

/-- No blank is a digit. -/
theorem isDecimal_of_isSpace {c : Char} (h : isSpace c = true) : isDecimal c = false := by
  have hzeros : ∀ z ∈ decimalZeros, z = 0x30 ∨ (0x660 ≤ z ∧ z + 10 ≤ 0x1680) ∨
      (0x1680 < z ∧ z + 10 ≤ 0x2000) ∨ 0x3000 < z := by decide
  have hnone : decimal? c = none := by
    rw [decimal?, List.findSome?_eq_none_iff]
    intro z hz
    rw [if_neg]
    rintro ⟨hlow, hhigh⟩
    simp only [isSpace, Bool.or_eq_true, Bool.and_eq_true, decide_eq_true_eq, beq_iff_eq] at h
    rcases hzeros z hz with rfl | hz | hz | hz
    all_goals omega
  rw [isDecimal, hnone]
  rfl

/-- On ASCII digits `int` reads what they spell. -/
theorem decimalsValue_of_isDigit {t : Text} (h : ∀ c ∈ t, isDigit c = true) :
    decimalsValue t = digitsValue t := by
  have hfold : ∀ acc : ℕ, t.foldl (fun acc c => acc * 10 + (decimal? c).getD 0) acc =
      t.foldl (fun acc c => acc * 10 + (c.toNat - 48)) acc := by
    induction t with
    | nil => exact fun acc => rfl
    | cons c t ih =>
      intro acc
      rw [List.foldl_cons, List.foldl_cons, decimal?_of_isDigit (h c List.mem_cons_self)]
      exact ih (fun d hd => h d (List.mem_cons_of_mem _ hd)) _
  exact hfold 0

@[simp] theorem decimalsValue_natText (n : ℕ) : decimalsValue (natText n) = n := by
  rw [decimalsValue_of_isDigit (all_isDigit_natText n), digitsValue_natText]

theorem intOfDecimals_of_isDigit {t : Text} (h : ∀ c ∈ t, isDigit c = true)
    (hlength : t.length ≤ 4300) : intOfDecimals t = some (digitsValue t) := by
  rw [intOfDecimals, if_neg (Nat.not_lt.mpr hlength), decimalsValue_of_isDigit h]

theorem isDecimal_natText (n : ℕ) : ∀ c ∈ natText n, isDecimal c = true := fun c hc =>
  isDecimal_of_isDigit (all_isDigit_natText n c hc)

theorem isNumber_natText (n : ℕ) : isNumber (natText n) = true := by
  rw [isNumber, Bool.and_eq_true, List.all_eq_true]
  exact ⟨by simpa using natText_ne_nil n, isDecimal_natText n⟩

/-- A number of at most 4300 digits is read back. -/
theorem intOfDecimals_natText {n : ℕ} (h : (natText n).length ≤ 4300) :
    intOfDecimals (natText n) = some n := by
  rw [intOfDecimals_of_isDigit (all_isDigit_natText n) h, digitsValue_natText]

theorem isDigitText_natText (n : ℕ) : isDigitText (natText n) = true := by
  rw [isDigitText, Bool.and_eq_true, List.all_eq_true]
  refine ⟨by simpa using natText_ne_nil n, fun c hc => ?_⟩
  rw [isAnyDigit, isDecimal_of_isDigit (all_isDigit_natText n c hc), Bool.true_or]

theorem intOfDigits_natText {n : ℕ} (h : (natText n).length ≤ 4300) :
    intOfDigits (natText n) = some n := by
  rw [intOfDigits, if_pos, intOfDecimals_natText h]
  exact List.all_eq_true.mpr fun c hc => isDecimal_of_isDigit (all_isDigit_natText n c hc)

theorem intOfDigits_eq_none {n : ℕ} (h : ¬ (natText n).length ≤ 4300) :
    intOfDigits (natText n) = none := by
  rw [intOfDigits, intOfDecimals, if_pos (Nat.not_le.mp h), ite_self]

theorem isSpace_of_isDigit {c : Char} (h : isDigit c = true) : isSpace c = false := by
  have hr : 48 ≤ c.toNat ∧ c.toNat ≤ 57 := by
    simp only [isDigit, Bool.and_eq_true, decide_eq_true_eq] at h
    exact ⟨h.1, h.2⟩
  unfold isSpace
  simp only [Bool.or_eq_false_iff, Bool.and_eq_false_iff, decide_eq_false_iff_not, beq_eq_false_iff_ne]
  omega

/-- A text without whitespace has nothing to strip. -/
theorem strip_of_not_isSpace {t : Text} (h : ∀ c ∈ t, isSpace c = false) : strip t = t := by
  have hdrop : ∀ {s : Text}, (∀ c ∈ s, isSpace c = false) → s.dropWhile isSpace = s := by
    intro s hs
    cases s with
    | nil => rfl
    | cons c s => simp [hs c List.mem_cons_self]
  rw [strip, hdrop h, hdrop (fun c hc => h c (List.mem_reverse.mp hc)), List.reverse_reverse]

theorem readDigits_natText (n : ℕ) : readDigits (natText n) = some n := by
  have hsplit : (natText n).splitOn '_' = [natText n] := by
    refine List.splitOn_eq_singleton fun hmem => ?_
    exact absurd (all_isDigit_natText n '_' hmem) (by decide)
  simp [readDigits, hsplit, isNumber_natText]

/-- A text without whitespace has nothing that `int` skips. -/
theorem dropIntSpace_of_not_isSpace {t : Text} (h : ∀ c ∈ t, isSpace c = false) :
    ((t.dropWhile isIntSpace).reverse.dropWhile isIntSpace).reverse = t := by
  have hdrop : ∀ {s : Text}, (∀ c ∈ s, isSpace c = false) → s.dropWhile isIntSpace = s := by
    intro s hs
    cases s with
    | nil => rfl
    | cons c s => simp [isIntSpace, hs c List.mem_cons_self]
  rw [hdrop h, hdrop (fun c hc => h c (List.mem_reverse.mp hc)), List.reverse_reverse]

/-- A number that is not negative is read back. -/
@[simp] theorem spelledInt_natText (n : ℕ) : spelledInt (natText n) = some (n : ℤ) := by
  have hall := all_isDigit_natText n
  rw [spelledInt, dropIntSpace_of_not_isSpace fun c hc => isSpace_of_isDigit (hall c hc)]
  split
  · next ds h => exact absurd (hall '-' (by rw [h]; exact List.mem_cons_self)) (by decide)
  · next ds h => exact absurd (hall '+' (by rw [h]; exact List.mem_cons_self)) (by decide)
  · rw [readDigits_natText]
    rfl

/-- A number is read back. -/
@[simp] theorem spelledInt_intText (n : ℤ) : spelledInt (intText n) = some n := by
  unfold intText
  split_ifs with hn
  · have hspace : ∀ c ∈ '-' :: natText n.natAbs, isSpace c = false := by
      intro c hc
      rcases List.mem_cons.mp hc with rfl | hc
      · decide
      · exact isSpace_of_isDigit (all_isDigit_natText _ c hc)
    have habs : -(n.natAbs : ℤ) = n := by omega
    rw [spelledInt, dropIntSpace_of_not_isSpace hspace]
    show (readDigits (natText n.natAbs)).map (fun m : ℕ => -(m : ℤ)) = some n
    rw [readDigits_natText, Option.map_some, habs]
  · rw [spelledInt_natText, Option.some.injEq]
    omega

theorem countP_isDecimal_natText (n : ℕ) : (natText n).countP isDecimal = (natText n).length :=
  List.countP_eq_length.mpr (isDecimal_natText n)

theorem countP_isDecimal_intText (n : ℤ) :
    (intText n).countP isDecimal = (natText n.natAbs).length := by
  unfold intText
  split_ifs
  · rw [List.countP_cons, if_neg (by decide), countP_isDecimal_natText, Nat.add_zero]
  · exact countP_isDecimal_natText _

/-- `int(str(n)) = n`. -/
theorem pyInt_intText {n : ℤ} (h : Printable n) : pyInt (intText n) = some n := by
  rw [pyInt, countP_isDecimal_intText, if_neg (Nat.not_lt.mpr h), spelledInt_intText]

/-- `int` reads back a number exactly where it has few enough digits. -/
theorem pyInt_intText_eq_some_iff {n m : ℤ} :
    pyInt (intText n) = some m ↔ Printable n ∧ n = m := by
  by_cases h : Printable n
  · rw [pyInt_intText h, Option.some.injEq]
    exact ⟨fun heq => ⟨h, heq⟩, fun heq => heq.2⟩
  · rw [pyInt, countP_isDecimal_intText, if_pos (Nat.not_le.mp h)]
    exact ⟨by rintro ⟨⟩, fun heq => absurd heq.1 h⟩

/-- A number below a power of ten of at most 4300 is printable. -/
theorem printable_of_lt {n : ℤ} {k : ℕ} (hk : 0 < k) (hk' : k ≤ 4300) (h : n.natAbs < 10 ^ k) :
    Printable n :=
  (length_natText_le hk h).trans hk'

theorem isSpace_natText (n : ℕ) : ∀ c ∈ natText n, isSpace c = false := fun c hc =>
  isSpace_of_isDigit (all_isDigit_natText n c hc)

theorem mem_intText {n : ℤ} {c : Char} (h : c ∈ intText n) : c = '-' ∨ isDigit c = true := by
  unfold intText at h
  split_ifs at h
  · rcases List.mem_cons.mp h with h | h
    · exact Or.inl h
    · exact Or.inr (all_isDigit_natText _ c h)
  · exact Or.inr (all_isDigit_natText _ c h)

theorem isSpace_intText (n : ℤ) : ∀ c ∈ intText n, isSpace c = false := by
  intro c hc
  rcases mem_intText hc with rfl | hc
  · rfl
  · exact isSpace_of_isDigit hc

theorem intText_natCast (n : ℕ) : intText (n : ℤ) = natText n := by
  rw [intText, if_neg (by omega), Int.natAbs_natCast]

theorem intText_ne_nil (n : ℤ) : intText n ≠ [] := by
  unfold intText
  split_ifs
  · simp
  · exact natText_ne_nil _

end PyText
