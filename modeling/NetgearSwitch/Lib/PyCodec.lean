import Mathlib.Data.List.DropRight
import NetgearSwitch.Lib.BigEndian
import NetgearSwitch.Lib.PyText

/-!
# Text codecs

The codecs `str.encode` and `bytes.decode` offer, as far as they are used: `latin-1`, `ascii`
and `utf-8`.  Encoding fails (`none`, a `UnicodeEncodeError`) on a character the codec lacks;
the `utf-8` decoder is the one with `errors="replace"`, which never fails.  The last section
has the IPv4 texts of the `socket` module.
-/

namespace PyCodec

/-! ## §1 Characters and bytes -/

/-- `b.decode("latin-1")`. -/
def latin1Decode (b : Bytes) : Text := b.map fun x => Char.ofNat x.toNat

/-- The characters below `bound`, one byte each. -/
private def encodeBelow (bound : ℕ) (t : Text) : Option Bytes :=
  t.mapM fun c => if c.toNat < bound then some (UInt8.ofNat c.toNat) else none

/-- `t.encode("latin-1")`. -/
def latin1Encode (t : Text) : Option Bytes := encodeBelow 256 t

/-- `t.encode("ascii")`. -/
def asciiEncode (t : Text) : Option Bytes := encodeBelow 128 t

/-- `t.encode("utf-8")`. -/
def utf8Encode (t : Text) : Bytes := t.flatMap String.utf8EncodeChar

def replacementChar : Char := Char.ofNat 0xFFFD

/-- `bytes.decode("ascii", errors="replace")`. -/
def asciiDecodeReplace (b : Bytes) : Text :=
  b.map fun x => if x.toNat < 128 then Char.ofNat x.toNat else replacementChar

/-- The range the byte after lead byte `lead` must lie in. -/
def secondByteRange (lead : ℕ) : ℕ × ℕ :=
  if lead = 0xE0 then (0xA0, 0xBF)
  else if lead = 0xED then (0x80, 0x9F)
  else if lead = 0xF0 then (0x90, 0xBF)
  else if lead = 0xF4 then (0x80, 0x8F)
  else (0x80, 0xBF)

/-- Continuation bytes a lead byte asks for; `none` for a byte that starts no character. -/
def continuationBytes (lead : ℕ) : Option ℕ :=
  if lead < 0x80 then some 0
  else if 0xC2 ≤ lead ∧ lead ≤ 0xDF then some 1
  else if 0xE0 ≤ lead ∧ lead ≤ 0xEF then some 2
  else if 0xF0 ≤ lead ∧ lead ≤ 0xF4 then some 3
  else none

/-- Read up to `need` continuation bytes, the next one in `lo..hi`, onto the bits `acc`; what
came out, how many bytes were good, and whether all of them were. -/
def readContinuation : ℕ → ℕ × ℕ → ℕ → Bytes → ℕ × ℕ × Bool
  | 0, _, acc, _ => (acc, 0, true)
  | _ + 1, _, acc, [] => (acc, 0, false)
  | need + 1, (lo, hi), acc, b :: rest =>
    if lo ≤ b.toNat ∧ b.toNat ≤ hi then
      let (value, used, ok) := readContinuation need (0x80, 0xBF) (acc * 64 + b.toNat % 64) rest
      (value, used + 1, ok)
    else (acc, 0, false)

/-- The first character of a non-empty byte string and the bytes it takes; a broken sequence is
one replacement character for its longest good prefix. -/
def utf8DecodeChar (lead : UInt8) (rest : Bytes) : Char × ℕ :=
  match continuationBytes lead.toNat with
  | none => (replacementChar, 1)
  | some 0 => (Char.ofNat lead.toNat, 1)
  | some need =>
    -- a lead byte carries `6 - need` payload bits
    match readContinuation need (secondByteRange lead.toNat) (lead.toNat % 2 ^ (6 - need)) rest with
    | (value, used, true) => (Char.ofNat value, used + 1)
    | (_, used, false) => (replacementChar, used + 1)

/-- `b.decode("utf-8", errors="replace")`, `fuel` bounding the characters read. -/
def utf8DecodeLoop : ℕ → Bytes → Text
  | 0, _ => []
  | _, [] => []
  | fuel + 1, lead :: rest =>
    let (c, used) := utf8DecodeChar lead rest
    c :: utf8DecodeLoop fuel (rest.drop (used - 1))

/-- `b.decode("utf-8", errors="replace")`: no text is longer than its bytes. -/
def utf8DecodeReplace (b : Bytes) : Text := utf8DecodeLoop b.length b

/-- A three-byte character, then a truncated one: two of its three bytes, one replacement. -/
example : utf8DecodeReplace [0xE2, 0x82, 0xAC, 0x41, 0xE2, 0x82] =
    [Char.ofNat 0x20AC, 'A', replacementChar] := by decide

/-! ### Bytes and the texts they came from -/

private theorem toNat_ofNat {n : ℕ} (h : n < 256) : (Char.ofNat n).toNat = n := by
  have hvalid : n.isValidChar := Or.inl (h.trans (by decide))
  rw [Char.ofNat, dif_pos hvalid]
  rfl

/-- Every byte string is the encoding of its own text. -/
@[simp] theorem latin1Encode_latin1Decode (b : Bytes) : latin1Encode (latin1Decode b) = some b := by
  induction b with
  | nil => rfl
  | cons x b ih =>
    have hx : (Char.ofNat x.toNat).toNat = x.toNat := toNat_ofNat x.toNat_lt
    have hlt : (Char.ofNat x.toNat).toNat < 256 := by
      rw [hx]
      exact x.toNat_lt
    unfold latin1Encode encodeBelow latin1Decode at ih ⊢
    rw [List.map_cons, List.mapM_cons, if_pos hlt, ih, hx, UInt8.ofNat_toNat]
    rfl

private theorem encodeBelow_eq {bound : ℕ} {t : Text} (h : ∀ c ∈ t, c.toNat < bound) :
    encodeBelow bound t = some (t.map fun c => UInt8.ofNat c.toNat) := by
  induction t with
  | nil => rfl
  | cons c t ih =>
    have htail := ih fun d hd => h d (List.mem_cons_of_mem _ hd)
    unfold encodeBelow at htail ⊢
    rw [List.mapM_cons, if_pos (h c List.mem_cons_self), htail]
    rfl

private theorem encodeBelow_eq_some {bound : ℕ} {t : Text} {b : Bytes} :
    encodeBelow bound t = some b ↔
      (∀ c ∈ t, c.toNat < bound) ∧ b = t.map fun c => UInt8.ofNat c.toNat := by
  constructor
  · intro h
    have hbelow : ∀ c ∈ t, c.toNat < bound := by
      induction t generalizing b with
      | nil => simp
      | cons d t ih =>
        unfold encodeBelow at ih h
        rw [List.mapM_cons] at h
        obtain ⟨x, hx, hrest⟩ := Option.bind_eq_some_iff.mp h
        obtain ⟨bs, hbs, _⟩ := Option.bind_eq_some_iff.mp hrest
        intro c hc
        rcases List.mem_cons.mp hc with rfl | hc
        · by_contra hlt
          rw [if_neg hlt] at hx
          cases hx
        · exact ih hbs c hc
    refine ⟨hbelow, ?_⟩
    rw [encodeBelow_eq hbelow] at h
    exact (Option.some.inj h).symm
  · rintro ⟨hbelow, rfl⟩
    exact encodeBelow_eq hbelow

/-- A text is latin-1 exactly when its characters are. -/
theorem latin1Encode_eq_some {t : Text} {b : Bytes} :
    latin1Encode t = some b ↔
      (∀ c ∈ t, c.toNat < 256) ∧ b = t.map fun c => UInt8.ofNat c.toNat :=
  encodeBelow_eq_some

/-- A text is ASCII exactly when its characters are. -/
theorem asciiEncode_eq_some {t : Text} {b : Bytes} :
    asciiEncode t = some b ↔
      (∀ c ∈ t, c.toNat < 128) ∧ b = t.map fun c => UInt8.ofNat c.toNat :=
  encodeBelow_eq_some

/-- The bytes of an ASCII text. -/
theorem asciiEncode_of_ascii {t : Text} (h : ∀ c ∈ t, c.toNat < 128) :
    asciiEncode t = some (t.map fun c => UInt8.ofNat c.toNat) :=
  encodeBelow_eq h

theorem length_asciiEncode {t : Text} {b : Bytes} (h : asciiEncode t = some b) :
    b.length = t.length := by
  rw [(asciiEncode_eq_some.mp h).2, List.length_map]

theorem latin1Encode_of_ascii {t : Text} (h : ∀ c ∈ t, c.toNat < 128) :
    latin1Encode t = some (t.map fun c => UInt8.ofNat c.toNat) :=
  encodeBelow_eq fun c hc => (h c hc).trans (by decide)

theorem utf8Encode_of_ascii {t : Text} (h : ∀ c ∈ t, c.toNat < 128) :
    utf8Encode t = t.map fun c => UInt8.ofNat c.toNat := by
  induction t with
  | nil => rfl
  | cons c t ih =>
    have hc := h c List.mem_cons_self
    have hchar : String.utf8EncodeChar c = [UInt8.ofNat c.toNat] := by
      have hle : c.val.toNat ≤ 127 := Nat.le_of_lt_succ hc
      simp only [String.utf8EncodeChar]
      rw [if_pos hle]
      rfl
    rw [utf8Encode, List.flatMap_cons, hchar]
    exact congrArg (UInt8.ofNat c.toNat :: ·) (ih fun c hc => h c (List.mem_cons_of_mem _ hc))

/-- ASCII reads the same in UTF-8. -/
theorem utf8DecodeReplace_of_ascii {t : Text} (h : ∀ c ∈ t, c.toNat < 128) :
    utf8DecodeReplace (t.map fun c => UInt8.ofNat c.toNat) = t := by
  have hloop : ∀ fuel, t.length ≤ fuel →
      utf8DecodeLoop fuel (t.map fun c => UInt8.ofNat c.toNat) = t := by
    intro fuel hfuel
    induction t generalizing fuel with
    | nil => cases fuel <;> rfl
    | cons c t ih =>
      obtain ⟨fuel, rfl⟩ : ∃ n, fuel = n + 1 := ⟨fuel - 1, by simp at hfuel; omega⟩
      have hc : c.toNat < 128 := h c List.mem_cons_self
      have hbyte : (UInt8.ofNat c.toNat).toNat = c.toNat := by
        rw [UInt8.toNat_ofNat']
        exact Nat.mod_eq_of_lt (hc.trans (by decide))
      have hchar : utf8DecodeChar (UInt8.ofNat c.toNat) (t.map fun c => UInt8.ofNat c.toNat) =
          (c, 1) := by
        have hnone : continuationBytes c.toNat = some 0 := if_pos hc
        rw [utf8DecodeChar, hbyte, hnone]
        simp
      rw [List.map_cons, utf8DecodeLoop, hchar]
      exact congrArg (c :: ·) (ih (fun d hd => h d (List.mem_cons_of_mem _ hd)) fuel
        (Nat.le_of_succ_le_succ hfuel))
  exact hloop _ (by simp)

/-! ### UTF-8 -/

theorem readContinuation_cons {need lo hi acc : ℕ} {b : UInt8} {rest : Bytes} (hlo : lo ≤ b.toNat)
    (hhi : b.toNat ≤ hi) {value used : ℕ} {ok : Bool}
    (h : readContinuation need (0x80, 0xBF) (acc * 64 + b.toNat % 64) rest = (value, used, ok)) :
    readContinuation (need + 1) (lo, hi) acc (b :: rest) = (value, used + 1, ok) := by
  rw [readContinuation, if_pos ⟨hlo, hhi⟩, h]

/-- The character a lead byte and good continuation bytes spell. -/
theorem utf8DecodeChar_of_readContinuation {lead : UInt8} {rest : Bytes} {n v k : ℕ}
    (hneed : continuationBytes lead.toNat = some (n + 1))
    (h : readContinuation (n + 1) (secondByteRange lead.toNat)
      (lead.toNat % 2 ^ (6 - (n + 1))) rest = (v, k, true)) :
    utf8DecodeChar lead rest = (Char.ofNat v, k + 1) := by
  rw [utf8DecodeChar, hneed]
  show (match readContinuation (n + 1) (secondByteRange lead.toNat)
    (lead.toNat % 2 ^ (6 - (n + 1))) rest with
    | (value, used, true) => (Char.ofNat value, used + 1)
    | (_, used, false) => (replacementChar, used + 1)) = _
  rw [h]

private theorem toNat_byte {n : ℕ} (h : n < 256) : (UInt8.ofNat n).toNat = n := by
  rw [UInt8.toNat_ofNat']
  exact Nat.mod_eq_of_lt h

/-- A character is read back from its bytes, whatever follows them. -/
theorem utf8DecodeChar_utf8EncodeChar (c : Char) (rest : Bytes) :
    ∃ lead more, String.utf8EncodeChar c = lead :: more ∧
      utf8DecodeChar lead (more ++ rest) = (c, more.length + 1) := by
  have hvalid : c.toNat < 0xD800 ∨ 0xDFFF < c.toNat ∧ c.toNat < 0x110000 := c.valid
  have hback : Char.ofNat c.toNat = c := Char.ofNat_toNat c
  have hval : c.val.toNat = c.toNat := rfl
  have hcont : ∀ n, (UInt8.ofNat (n % 0x40 + 0x80)).toNat = n % 0x40 + 0x80 := fun n =>
    toNat_byte (by omega)
  unfold String.utf8EncodeChar
  simp only [hval]
  generalize c.toNat = v at hvalid hback
  by_cases h1 : v ≤ 0x7F
  · rw [if_pos h1]
    have hlead : (UInt8.ofNat v).toNat = v := toNat_byte (by omega)
    refine ⟨_, _, rfl, ?_⟩
    have hnone : continuationBytes v = some 0 := if_pos (by omega)
    rw [utf8DecodeChar, hlead, hnone]
    show (Char.ofNat v, 1) = _
    rw [hback]
    rfl
  rw [if_neg h1]
  by_cases h2 : v ≤ 0x7FF
  · rw [if_pos h2]
    have hlead : (UInt8.ofNat (v / 64 % 0x20 + 0xC0)).toNat = v / 64 + 0xC0 := by
      rw [toNat_byte (by omega)]
      omega
    have hneed : continuationBytes (v / 64 + 0xC0) = some 1 := by
      rw [continuationBytes, if_neg (by omega), if_pos (by omega)]
    have hrange : secondByteRange (v / 64 + 0xC0) = (0x80, 0xBF) := by
      rw [secondByteRange, if_neg (by omega), if_neg (by omega), if_neg (by omega),
        if_neg (by omega)]
    refine ⟨_, _, rfl, ?_⟩
    rw [utf8DecodeChar_of_readContinuation (n := 0) (by rw [hlead]; exact hneed)
      (v := v) (k := 1)]
    · rw [hback]
      rfl
    · rw [hlead, hrange]
      refine readContinuation_cons (by rw [hcont]; omega) (by rw [hcont]; omega) ?_
      rw [readContinuation, hcont]
      congr 1
      omega
  rw [if_neg h2]
  by_cases h3 : v ≤ 0xFFFF
  · rw [if_pos h3]
    have hlead : (UInt8.ofNat (v / 4096 % 0x10 + 0xE0)).toNat = v / 4096 + 0xE0 := by
      rw [toNat_byte (by omega)]
      omega
    have hneed : continuationBytes (v / 4096 + 0xE0) = some 2 := by
      rw [continuationBytes, if_neg (by omega), if_neg (by omega), if_pos (by omega)]
    -- the second byte is held back from overlong forms and from the surrogates
    have hsecond : (secondByteRange (v / 4096 + 0xE0)).1 ≤ v / 64 % 0x40 + 0x80 ∧
        v / 64 % 0x40 + 0x80 ≤ (secondByteRange (v / 4096 + 0xE0)).2 := by
      unfold secondByteRange
      split_ifs <;> constructor <;> dsimp only <;> omega
    refine ⟨_, _, rfl, ?_⟩
    rw [utf8DecodeChar_of_readContinuation (n := 1) (by rw [hlead]; exact hneed)
      (v := v) (k := 2)]
    · rw [hback]
      rfl
    · rw [hlead]
      refine readContinuation_cons (by rw [hcont]; exact hsecond.1) (by rw [hcont]; exact hsecond.2)
        (readContinuation_cons (by rw [hcont]; omega) (by rw [hcont]; omega) ?_)
      rw [readContinuation, hcont, hcont]
      congr 1
      omega
  · rw [if_neg h3]
    have hlead : (UInt8.ofNat (v / 262144 % 0x08 + 0xF0)).toNat = v / 262144 + 0xF0 := by
      rw [toNat_byte (by omega)]
      omega
    have hneed : continuationBytes (v / 262144 + 0xF0) = some 3 := by
      rw [continuationBytes, if_neg (by omega), if_neg (by omega), if_neg (by omega),
        if_pos (by omega)]
    have hsecond : (secondByteRange (v / 262144 + 0xF0)).1 ≤ v / 4096 % 0x40 + 0x80 ∧
        v / 4096 % 0x40 + 0x80 ≤ (secondByteRange (v / 262144 + 0xF0)).2 := by
      unfold secondByteRange
      split_ifs <;> constructor <;> dsimp only <;> omega
    refine ⟨_, _, rfl, ?_⟩
    rw [utf8DecodeChar_of_readContinuation (n := 2) (by rw [hlead]; exact hneed)
      (v := v) (k := 3)]
    · rw [hback]
      rfl
    · rw [hlead]
      refine readContinuation_cons (by rw [hcont]; exact hsecond.1) (by rw [hcont]; exact hsecond.2)
        (readContinuation_cons (by rw [hcont]; omega) (by rw [hcont]; omega)
          (readContinuation_cons (by rw [hcont]; omega) (by rw [hcont]; omega) ?_))
      rw [readContinuation, hcont, hcont, hcont]
      congr 1
      omega

/-- A text is read back from its UTF-8 bytes. -/
@[simp] theorem utf8DecodeReplace_utf8Encode (t : Text) : utf8DecodeReplace (utf8Encode t) = t := by
  have hloop : ∀ fuel, (utf8Encode t).length ≤ fuel → utf8DecodeLoop fuel (utf8Encode t) = t := by
    intro fuel hfuel
    induction t generalizing fuel with
    | nil => cases fuel <;> rfl
    | cons c t ih =>
      obtain ⟨lead, more, hbytes, hchar⟩ := utf8DecodeChar_utf8EncodeChar c (utf8Encode t)
      have hcons : utf8Encode (c :: t) = lead :: (more ++ utf8Encode t) := by
        rw [utf8Encode, List.flatMap_cons, hbytes]
        rfl
      rw [hcons, List.length_cons, List.length_append] at hfuel
      obtain ⟨fuel, rfl⟩ : ∃ n, fuel = n + 1 := ⟨fuel - 1, by omega⟩
      rw [hcons, utf8DecodeLoop, hchar]
      show c :: utf8DecodeLoop fuel ((more ++ utf8Encode t).drop more.length) = _
      rw [List.drop_left, ih fuel (by omega)]
  exact hloop _ le_rfl

/-- An ASCII text is read back from its bytes. -/
theorem asciiDecodeReplace_of_asciiEncode {t : Text} {b : Bytes} (h : asciiEncode t = some b) :
    asciiDecodeReplace b = t := by
  obtain ⟨hascii, rfl⟩ := asciiEncode_eq_some.mp h
  rw [asciiDecodeReplace, List.map_map]
  refine (List.map_congr_left fun c hc => ?_).trans (List.map_id t)
  have hc := hascii c hc
  have hbyte : (UInt8.ofNat c.toNat).toNat = c.toNat := toNat_byte (by omega)
  show (if (UInt8.ofNat c.toNat).toNat < 128 then Char.ofNat (UInt8.ofNat c.toNat).toNat
    else replacementChar) = c
  rw [hbyte, if_pos hc, Char.ofNat_toNat]

/-- `t.rstrip("\x00")`. -/
def rstripNul (t : Text) : Text := (t.reverse.dropWhile fun c => c.toNat = 0).reverse

theorem rstripNul_rstripNul (t : Text) : rstripNul (rstripNul t) = rstripNul t := by
  unfold rstripNul
  rw [List.reverse_reverse, List.dropWhile_idempotent]

/-! ## §2 IPv4 addresses -/

/-- The value of a digit below `base`. -/
def digitIn (base : ℕ) (c : Char) : Option ℕ :=
  let n := c.toNat
  let v := if 48 ≤ n ∧ n ≤ 57 then n - 48
    else if 97 ≤ n ∧ n ≤ 102 then n - 87
    else if 65 ≤ n ∧ n ≤ 70 then n - 55
    else base
  if v < base then some v else none

/-- The longest run of digits at the front: its value and what follows. -/
def readRun (base : ℕ) : ℕ → Text → ℕ × Text
  | acc, [] => (acc, [])
  | acc, c :: rest =>
    match digitIn base c with
    | some d => readRun base (acc * base + d) rest
    | none => (acc, c :: rest)

/-- `strtoul(s, &end, 0)` of a text that starts with a digit. -/
def strtoul (t : Text) : ℕ × Text :=
  match t with
  | '0' :: x :: d :: rest =>
    if (x = 'x' ∨ x = 'X') ∧ (digitIn 16 d).isSome then readRun 16 0 (d :: rest)
    else readRun 8 0 t
  | '0' :: _ => readRun 8 0 t
  | _ => readRun 10 0 t

/-- The parts of an address, at most `fuel` of them: each but the last ends at a dot, and only
whitespace may follow the last. -/
def inetParts : ℕ → Text → Option (List ℕ)
  | 0, _ => none
  | fuel + 1, t =>
    match t with
    | [] => none
    | c :: _ =>
      if (digitIn 10 c).isNone then none
      else match strtoul t with
        | (n, '.' :: rest) => (inetParts fuel rest).map (n :: ·)
        | (n, []) => some [n]
        | (n, c :: _) =>
          -- `isspace` of the C locale
          if c.toNat = 32 ∨ (9 ≤ c.toNat ∧ c.toNat ≤ 13) then some [n] else none

/-- `socket.inet_aton`: `none` is its `OSError`.  Every part but the last is a byte; the last
fills the bytes that are left. -/
def inetAton (t : Text) : Option Bytes :=
  (inetParts 4 t).bind fun parts =>
    let front := parts.dropLast
    let width := 4 - front.length
    if front.all (· < 256) then
      (BigEndian.pack width (parts.getLastD 0)).map fun last => front.map UInt8.ofNat ++ last
    else none

/-- `socket.inet_ntoa`: `none` is its `OSError`. -/
def inetNtoa (b : Bytes) : Option Text :=
  if b.length = 4 then
    some (['.'].intercalate (b.map fun x => PyText.natText x.toNat))
  else none

example : inetAton "10.1.258".toList = some [10, 1, 1, 2] := by decide

/-! ### Addresses read back -/

section Addresses

open PyText

theorem digitIn_of_isDigit {c : Char} (h : isDigit c = true) : digitIn 10 c = some (c.toNat - 48) := by
  have hr : 48 ≤ c.toNat ∧ c.toNat ≤ 57 := by
    simp only [isDigit, Bool.and_eq_true, decide_eq_true_eq] at h
    exact ⟨h.1, h.2⟩
  unfold digitIn
  dsimp only
  rw [if_pos hr, if_pos (by omega)]

/-- What ends a run of digits. -/
def EndsRun (rest : Text) : Prop := ∀ c ∈ rest.head?, c = '.'

theorem readRun_of_endsRun (base acc : ℕ) {rest : Text} (h : EndsRun rest) :
    readRun base acc rest = (acc, rest) := by
  cases rest with
  | nil => rfl
  | cons c rest =>
    have hc : c = '.' := h c rfl
    have hnone : digitIn base c = none := by
      rw [hc, digitIn]
      show (if base < base then some base else none) = none
      exact if_neg (lt_irrefl _)
    rw [readRun, hnone]

theorem readRun_digits {digits rest : Text} (hdigits : ∀ c ∈ digits, isDigit c = true)
    (hrest : EndsRun rest) (acc : ℕ) :
    readRun 10 acc (digits ++ rest) = (digits.foldl (fun n c => n * 10 + (c.toNat - 48)) acc, rest) := by
  induction digits generalizing acc with
  | nil => exact readRun_of_endsRun _ _ hrest
  | cons c digits ih =>
    rw [List.cons_append, readRun, digitIn_of_isDigit (hdigits c List.mem_cons_self)]
    exact ih (fun c hc => hdigits c (List.mem_cons_of_mem _ hc)) _

/-- `strtoul` reads a printed number back. -/
theorem strtoul_natText (n : ℕ) {rest : Text} (hrest : EndsRun rest) :
    strtoul (natText n ++ rest) = (n, rest) := by
  rcases Nat.eq_zero_or_pos n with rfl | hpos
  · have hzero : natText 0 = ['0'] := by
      rw [natText]
      rfl
    have hoctal : readRun 8 0 ('0' :: rest) = (0, rest) := by
      show readRun 8 (0 * 8 + 0) rest = _
      exact readRun_of_endsRun _ _ hrest
    rw [hzero, List.singleton_append]
    unfold strtoul
    split
    · next x d more h =>
      obtain rfl := (List.cons.inj h).2
      have hx : x = '.' := hrest x rfl
      have hnot : ¬ (x = 'x' ∨ x = 'X') := by
        rw [hx]
        decide
      rw [if_neg fun h => hnot h.1, hoctal]
    · exact hoctal
    · next hnot => exact absurd rfl (hnot rest)
  · obtain ⟨c, cs, hcs⟩ := List.exists_cons_of_ne_nil (natText_ne_nil n)
    have hc : c ≠ '0' := by
      intro hc
      have := head?_natText hpos
      rw [hcs, hc] at this
      exact this rfl
    have hrun := readRun_digits (all_isDigit_natText n) hrest 0
    have hvalue : (natText n).foldl (fun n c => n * 10 + (c.toNat - 48)) 0 = n :=
      digitsValue_natText n
    rw [hvalue] at hrun
    rw [hcs] at hrun ⊢
    rw [← hrun]
    unfold strtoul
    split
    · next h => exact absurd (List.cons.inj h).1 hc
    · next h => exact absurd (List.cons.inj h).1 hc
    · rfl

theorem inetParts_natText (fuel n : ℕ) {rest : Text} :
    inetParts (fuel + 1) (natText n ++ '.' :: rest) = (inetParts fuel rest).map (n :: ·) ∧
      inetParts (fuel + 1) (natText n) = some [n] := by
  obtain ⟨c, cs, hcs⟩ := List.exists_cons_of_ne_nil (natText_ne_nil n)
  have hc : (digitIn 10 c).isNone = false := by
    rw [digitIn_of_isDigit (all_isDigit_natText n c (by rw [hcs]; exact List.mem_cons_self))]
    rfl
  constructor
  · have hread := @strtoul_natText n ('.' :: rest) fun c hc => (Option.some.inj hc).symm
    rw [hcs, List.cons_append] at hread ⊢
    rw [inetParts, if_neg (by rw [hc]; exact Bool.false_ne_true), hread]
    rfl
  · have hread := @strtoul_natText n [] fun c hc => by simp at hc
    rw [hcs, List.append_nil] at hread
    rw [hcs, inetParts, if_neg (by rw [hc]; exact Bool.false_ne_true), hread]

theorem inetNtoa_eq_some {b : Bytes} {t : Text} (h : inetNtoa b = some t) :
    ∃ x y z u, b = [x, y, z, u] ∧
      t = natText x.toNat ++ '.' :: (natText y.toNat ++ '.' :: (natText z.toNat ++ '.' ::
        natText u.toNat)) := by
  unfold inetNtoa at h
  split_ifs at h with hlen
  obtain ⟨x, y, z, u, rfl⟩ := List.length_eq_four.mp hlen
  refine ⟨x, y, z, u, rfl, ?_⟩
  rw [← Option.some.inj h]
  simp [List.intercalate]

/-- A printed address is read back. -/
theorem inetAton_of_inetNtoa {b : Bytes} {t : Text} (h : inetNtoa b = some t) :
    inetAton t = some b := by
  obtain ⟨x, y, z, u, rfl, rfl⟩ := inetNtoa_eq_some h
  have hparts : inetParts 4 (natText x.toNat ++ '.' :: (natText y.toNat ++ '.' ::
      (natText z.toNat ++ '.' :: natText u.toNat))) =
        some [x.toNat, y.toNat, z.toNat, u.toNat] := by
    rw [(inetParts_natText 3 _).1, (inetParts_natText 2 _).1, (inetParts_natText 1 _).1,
      (@inetParts_natText 0 _ []).2]
    rfl
  have hlast : BigEndian.pack 1 u.toNat = some [u] := by
    rw [BigEndian.pack_eq (by have := u.toNat_lt; omega)]
    show some [UInt8.ofNat (u.toNat / 1)] = _
    rw [Nat.div_one, UInt8.ofNat_toNat]
  have hx := x.toNat_lt
  have hy := y.toNat_lt
  have hz := z.toNat_lt
  rw [inetAton, hparts]
  show (if [x.toNat, y.toNat, z.toNat].all (· < 256) then
    (BigEndian.pack 1 u.toNat).map fun last =>
      [x.toNat, y.toNat, z.toNat].map UInt8.ofNat ++ last else none) = _
  rw [if_pos (by simp; omega), hlast]
  simp

theorem length_inetParts {fuel : ℕ} {t : Text} {parts : List ℕ}
    (h : inetParts fuel t = some parts) : 0 < parts.length ∧ parts.length ≤ fuel := by
  induction fuel generalizing t parts with
  | zero => cases h
  | succ fuel ih =>
    have hone : ∀ n, some [n] = some parts → 0 < parts.length ∧ parts.length ≤ fuel + 1 := by
      intro n hn
      rw [← Option.some.inj hn]
      simp
    unfold inetParts at h
    split at h
    · cases h
    · split_ifs at h with hdigit
      split at h
      · obtain ⟨rest, hrest, rfl⟩ := Option.map_eq_some_iff.mp h
        have hlen := ih hrest
        rw [List.length_cons]
        omega
      · exact hone _ h
      · split_ifs at h
        exact hone _ h

/-- An address has four bytes. -/
theorem length_inetAton {t : Text} {b : Bytes} (h : inetAton t = some b) : b.length = 4 := by
  obtain ⟨parts, hparts, h⟩ := Option.bind_eq_some_iff.mp h
  have hlen := length_inetParts hparts
  dsimp only at h
  split_ifs at h
  obtain ⟨last, hlast, rfl⟩ := Option.map_eq_some_iff.mp h
  rw [BigEndian.pack_eq_some] at hlast
  rw [List.length_append, List.length_map, ← hlast.2, BigEndian.length_toBytes, List.length_dropLast]
  omega

theorem isSome_inetNtoa {b : Bytes} (h : b.length = 4) : (inetNtoa b).isSome := by
  rw [inetNtoa, if_pos h]
  rfl

end Addresses

end PyCodec
