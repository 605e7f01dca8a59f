import NetgearSwitch.Errors
import NetgearSwitch.Lib.PyCodec
import NetgearSwitch.Lib.PyLines
import NetgearSwitch.Lib.PyRe

/-!
# The two SNMP transports

`parse_netsnmp_lines` of `transport/sync/snmp_netsnmp_cli.py`, which reads the output of the
net-snmp tools, and `_normalize_varbind` of `transport/aio/snmp_pysnmp.py`.  Both turn the
varbinds of an agent into rows; `netsnmpOutput` says how the tools print a varbind under the
flags the client passes.

A printed text keeps the backslashes that net-snmp puts before its quotes and backslashes, so
the two agree on a list of varbinds exactly when no printable octet string has either.
-/

namespace NetgearSwitch.Snmp

open PyText

/-! ## §1 Rows and varbinds -/

/-- A normalized value. -/
inductive SnmpValue
  | int (n : ℤ)
  | str (t : Text)
  | bytes (b : Bytes)
  deriving DecidableEq

structure SnmpRow where
  oid : Text
  value : SnmpValue
  snmpType : Text
  deriving DecidableEq

/-- The integer classes of the agent's values, but for time ticks. -/
inductive IntClass
  | integer32
  | gauge32
  | counter32
  | counter64
  deriving DecidableEq

/-- `_TOKEN`, which is also the type net-snmp prints. -/
def IntClass.token : IntClass → Text
  | .integer32 => "INTEGER".toList
  | .gauge32 => "Gauge32".toList
  | .counter32 => "Counter32".toList
  | .counter64 => "Counter64".toList

/-- A value an agent answers with. -/
inductive SmiValue
  | int (cls : IntClass) (n : ℤ)
  | timeTicks (n : ℕ)
  | octetString (b : Bytes)
  | objectIdentifier (oid : Oid)
  | ipAddress (a b c d : UInt8)
  deriving DecidableEq

/-- A varbind as the agent sends it. -/
structure AgentVarbind where
  oid : Oid
  value : SmiValue
  deriving DecidableEq

/-- The dotted text of an OID. -/
def oidText (oid : Oid) : Text := ['.'].intercalate (oid.map natText)

def ipText (a b c d : UInt8) : Text := oidText [a.toNat, b.toNat, c.toNat, d.toNat]

/-! ## §2 pysnmp -/

/-- `0x20 <= b < 0x7F`. -/
def isPrintable (b : UInt8) : Bool := 0x20 ≤ b.toNat && b.toNat < 0x7F

/-- `_octet_value`. -/
def octetValue (raw : Bytes) : SnmpValue × Text :=
  if raw.all isPrintable then (.str (PyCodec.latin1Decode raw), "STRING".toList)
  else (.bytes raw, "Hex-STRING".toList)

/-- `_normalize_varbind`. -/
def normalizeVarbind (vb : AgentVarbind) : SnmpRow :=
  let oid := lstripChar '.' (oidText vb.oid)
  match vb.value with
  | .int cls n => ⟨oid, .int n, cls.token⟩
  | .timeTicks n => ⟨oid, .int n, "Timeticks".toList⟩
  | .octetString raw => ⟨oid, (octetValue raw).1, (octetValue raw).2⟩
  | .objectIdentifier o => ⟨oid, .str (lstripChar '.' (oidText o)), "OID".toList⟩
  | .ipAddress a b c d => ⟨oid, .str (ipText a b c d), "IpAddress".toList⟩

/-! ## §3 What net-snmp prints -/

/-- A number in at least two digits. -/
def twoDigits (n : ℕ) : Text := if n < 10 then '0' :: natText n else natText n

/-- The duration printed behind time ticks. -/
def uptimeText (n : ℕ) : Text :=
  let clock := natText (n / 360000 % 24) ++ ':' :: twoDigits (n / 6000 % 60) ++
    ':' :: twoDigits (n / 100 % 60) ++ '.' :: twoDigits (n % 100)
  match n / 8640000 with
  | 0 => clock
  | 1 => "1 day, ".toList ++ clock
  | days => natText days ++ " days, ".toList ++ clock

/-- A quote or a backslash. -/
def needsEscape (c : Char) : Bool := c = '"' || c = '\\'

/-- A text with its quotes and backslashes escaped. -/
def escapeQuoted (t : Text) : Text := t.flatMap fun c => if needsEscape c then ['\\', c] else [c]

/-- Bytes in rows of 16, `fuel` bounding the rows. -/
def rowsOf16 : ℕ → Bytes → List Bytes
  | 0, _ => []
  | fuel + 1, b => if b = [] then [] else b.take 16 :: rowsOf16 fuel (b.drop 16)

/-- The value of a varbind as printed, line by line. -/
def valueLines : SmiValue → List Text
  | .int cls n => [cls.token ++ ": ".toList ++ intText n]
  | .timeTicks n => ["Timeticks: (".toList ++ natText n ++ ") ".toList ++ uptimeText n]
  | .octetString [] => ["\"\"".toList]
  | .octetString raw =>
    if raw.all isPrintable then
      ["STRING: \"".toList ++ escapeQuoted (PyCodec.latin1Decode raw) ++ "\"".toList]
    else
      match (rowsOf16 raw.length raw).map hexLine with
      | [] => []
      | first :: rest => ("Hex-STRING: ".toList ++ first) :: rest
  | .objectIdentifier o => ["OID: .".toList ++ oidText o]
  | .ipAddress a b c d => ["IpAddress: ".toList ++ ipText a b c d]

/-- The lines of a varbind. -/
def netsnmpLines (vb : AgentVarbind) : List Text :=
  match valueLines vb.value with
  | [] => []
  | first :: rest => ('.' :: oidText vb.oid ++ " = ".toList ++ first) :: rest

/-- The output of the tools for the varbinds of a response. -/
def netsnmpOutput (vbs : List AgentVarbind) : Text :=
  (vbs.flatMap netsnmpLines).flatMap (· ++ ['\n'])

/-! ## §4 Reading the output -/

/-- `_INT_TYPES`. -/
def intTypes : List Text :=
  ["INTEGER", "Integer32", "Gauge32", "Gauge", "Unsigned32", "Counter32", "Counter64",
    "Counter"].map String.toList

/-- `_ABSENT_MARKERS`. -/
def absentMarkers : List Text := ["no such object", "no such instance"].map String.toList

/-- `_END_OF_MIB_MARKERS`. -/
def endOfMibMarkers : List Text :=
  ["no more variables left in this mib view", "past the end of the mib tree"].map String.toList

/-- `_TIMETICKS_RE`: `\((\d+)\)`. -/
def timeticksRe : PyRe.Rest Text :=
  PyRe.lit "(" <| PyRe.many1 isDecimal fun ds => PyRe.lit ")" fun _ => some ds

/-- `_normalize`. -/
def normalize (snmpType value : Text) : Except LibError SnmpValue :=
  if snmpType ∈ intTypes then
    match spelledInt value with
    | some n => .ok (.int n)
    | none => .error .snmp
  else if snmpType = "Timeticks".toList then
    match PyRe.search timeticksRe value with
    | some ds => .ok (.int (decimalsValue ds))
    | none => .error .snmp
  else if snmpType = "STRING".toList then
    if 2 ≤ value.length ∧ value.head? = some '"' ∧ value.getLast? = some '"' then
      .ok (.str value.tail.dropLast)
    else .ok (.str value)
  else if snmpType = "OID".toList then .ok (.str (lstripChar '.' value))
  else .ok (.str value)

/-- `_split_typed`. -/
def splitTyped (rest : Text) : Option (Text × Text) :=
  match splitOnce ": ".toList rest with
  | some (snmpType, value) => some (strip snmpType, strip value)
  | none => if rest.getLast? = some ':' then some (strip rest.dropLast, []) else none

/-- The rows read so far, and the OID and lines of a `Hex-STRING` still open. -/
structure LineState where
  rows : List SnmpRow := []
  pending : Option (Text × List Text) := none

/-- One byte of a `Hex-STRING`. -/
def hexByte? (tok : Text) : Except LibError UInt8 :=
  match pyIntHex tok with
  | some n => if 0 ≤ n ∧ n < 256 then .ok (UInt8.ofNat n.toNat) else .error .valueError
  | none => .error .valueError

/-- `flush_hex`: the rows with the open value closed. -/
def LineState.flushHex (st : LineState) : Except LibError (List SnmpRow) :=
  match st.pending with
  | none => .ok st.rows
  | some (oid, chunks) => do
    let data ← (chunks.flatMap splitBlank).mapM hexByte?
    .ok (st.rows ++ [⟨oid, .bytes data, "Hex-STRING".toList⟩])

/-- What stands behind the `=` of a line. -/
def parseRest (emptySubtreeOk : Bool) (rows : List SnmpRow) (oid rest : Text) :
    Except LibError LineState :=
  if rest = "\"\"".toList ∨ rest = [] then .ok { rows := rows ++ [⟨oid, .str [], "STRING".toList⟩] }
  else match splitTyped rest with
    | some (snmpType, value) =>
      if snmpType = "Hex-STRING".toList then .ok { rows := rows, pending := some (oid, [value]) }
      else do
        let v ← normalize snmpType value
        .ok { rows := rows ++ [⟨oid, v, snmpType⟩] }
    | none =>
      let lower := rest.map Char.toLower
      if endOfMibMarkers.any (containsText · lower) then .ok { rows := rows }
      else if absentMarkers.any (containsText · lower) && emptySubtreeOk then .ok { rows := rows }
      else .error .snmp

/-- One line. -/
def parseLine (emptySubtreeOk : Bool) (st : LineState) (raw : Text) : Except LibError LineState :=
  if strip raw = [] then .ok st
  else match splitOnce " = ".toList raw with
    | none =>
      .ok { st with pending := st.pending.map fun (oid, chunks) => (oid, chunks ++ [strip raw]) }
    | some (oidPart, rest) => do
      let rows ← st.flushHex
      parseRest emptySubtreeOk rows (lstripChar '.' (strip oidPart)) (strip rest)

/-- `parse_netsnmp_lines`. -/
def parseNetsnmpLines (text : Text) (emptySubtreeOk : Bool) : Except LibError (List SnmpRow) := do
  let st ← (splitLines text).foldlM (parseLine emptySubtreeOk) {}
  st.flushHex

/-! ## §5 Characters of a printed line -/

@[simp] theorem oidText_nil : oidText [] = [] := rfl

@[simp] theorem oidText_singleton (n : ℕ) : oidText [n] = natText n := by
  simp [oidText, List.intercalate]

@[simp] theorem oidText_cons_cons (n m : ℕ) (oid : Oid) :
    oidText (n :: m :: oid) = natText n ++ '.' :: oidText (m :: oid) := by
  simp [oidText, List.intercalate]

/-- What `oidText` is made of. -/
theorem mem_oidText {oid : Oid} {c : Char} (hc : c ∈ oidText oid) : isDigit c = true ∨ c = '.' := by
  induction oid with
  | nil => cases hc
  | cons n oid ih =>
    cases oid with
    | nil =>
      rw [oidText_singleton] at hc
      exact Or.inl (all_isDigit_natText n c hc)
    | cons m oid =>
      rw [oidText_cons_cons] at hc
      rcases List.mem_append.mp hc with hc | hc
      · exact Or.inl (all_isDigit_natText n c hc)
      · rcases List.mem_cons.mp hc with hc | hc
        · exact Or.inr hc
        · exact ih hc

theorem isSpace_oidText (oid : Oid) : ∀ c ∈ oidText oid, isSpace c = false := by
  intro c hc
  rcases mem_oidText hc with hc | rfl
  · exact isSpace_of_isDigit hc
  · rfl

theorem lstripChar_oidText (oid : Oid) : lstripChar '.' (oidText oid) = oidText oid := by
  have hnat : ∀ (n : ℕ) (t : Text), lstripChar '.' (natText n ++ t) = natText n ++ t := by
    intro n t
    obtain ⟨c, w, hw⟩ := List.exists_cons_of_ne_nil (natText_ne_nil n)
    have hc := all_isDigit_natText n c (by rw [hw]; exact List.mem_cons_self)
    have hdot : ¬ c = '.' := by
      rintro rfl
      cases hc
    rw [hw, lstripChar, List.cons_append, List.dropWhile_cons_of_neg (by simpa using hdot)]
  cases oid with
  | nil => rfl
  | cons n oid =>
    cases oid with
    | nil => simpa using hnat n []
    | cons m oid =>
      rw [oidText_cons_cons]
      exact hnat n _

theorem isSpace_twoDigits (n : ℕ) : ∀ c ∈ twoDigits n, isSpace c = false := by
  intro c hc
  unfold twoDigits at hc
  split_ifs at hc
  · rcases List.mem_cons.mp hc with rfl | hc
    · rfl
    · exact isSpace_natText n c hc
  · exact isSpace_natText n c hc

theorem twoDigits_ne_nil (n : ℕ) : twoDigits n ≠ [] := by
  unfold twoDigits
  split_ifs
  · simp
  · exact natText_ne_nil n

/-- A duration ends in two digits, and the blank is its only whitespace. -/
theorem exists_uptimeText (n : ℕ) : ∃ front, uptimeText n = front ++ twoDigits (n % 100) ∧
    ∀ c ∈ front, c = ' ' ∨ isSpace c = false := by
  have hclock : ∀ c ∈ natText (n / 360000 % 24) ++ ':' :: twoDigits (n / 6000 % 60) ++
      ':' :: twoDigits (n / 100 % 60) ++ ['.'], isSpace c = false := by
    intro c hc
    simp only [List.mem_append, List.mem_cons, List.not_mem_nil, or_false] at hc
    rcases hc with ((hc | rfl | hc) | rfl | hc) | rfl
    · exact isSpace_natText _ c hc
    · rfl
    · exact isSpace_twoDigits _ c hc
    · rfl
    · exact isSpace_twoDigits _ c hc
    · rfl
  have hprefix : ∀ w : Text, (∀ c ∈ w, c = ' ' ∨ isSpace c = false) →
      ∃ front, w ++ (natText (n / 360000 % 24) ++ ':' :: twoDigits (n / 6000 % 60) ++
        ':' :: twoDigits (n / 100 % 60) ++ '.' :: twoDigits (n % 100)) =
          front ++ twoDigits (n % 100) ∧ ∀ c ∈ front, c = ' ' ∨ isSpace c = false := by
    intro w hw
    refine ⟨w ++ (natText (n / 360000 % 24) ++ ':' :: twoDigits (n / 6000 % 60) ++
      ':' :: twoDigits (n / 100 % 60) ++ ['.']), by simp, ?_⟩
    intro c hc
    rcases List.mem_append.mp hc with hc | hc
    · exact hw c hc
    · exact Or.inr (hclock c hc)
  have hdays : ∀ c ∈ " days, ".toList, c = ' ' ∨ isSpace c = false := by decide
  unfold uptimeText
  split
  · exact hprefix [] (by simp)
  · exact hprefix _ (by decide)
  · refine hprefix (natText _ ++ " days, ".toList) fun c hc => ?_
    rcases List.mem_append.mp hc with hc | hc
    · exact Or.inr (isSpace_natText _ c hc)
    · exact hdays c hc

/-- A printable octet string holds no whitespace but blanks. -/
theorem mem_latin1Decode {raw : Bytes} (h : raw.all isPrintable = true) {c : Char}
    (hc : c ∈ PyCodec.latin1Decode raw) : c = ' ' ∨ isSpace c = false := by
  have hall : ∀ n : Fin 256, isPrintable (UInt8.ofNat n) = true →
      Char.ofNat n = ' ' ∨ isSpace (Char.ofNat n) = false := by decide +kernel
  obtain ⟨b, hb, rfl⟩ := List.mem_map.mp hc
  have hn := hall ⟨b.toNat, b.toNat_lt⟩
  rw [UInt8.ofNat_toNat] at hn
  exact hn (List.all_eq_true.mp h b hb)

theorem mem_escapeQuoted {t : Text} {c : Char} (hc : c ∈ escapeQuoted t) : c = '\\' ∨ c ∈ t := by
  obtain ⟨d, hd, hc⟩ := List.mem_flatMap.mp hc
  split_ifs at hc
  · rcases List.mem_cons.mp hc with rfl | hc
    · exact Or.inl rfl
    · exact Or.inr (List.mem_singleton.mp hc ▸ hd)
  · exact Or.inr (List.mem_singleton.mp hc ▸ hd)

/-- Every printed line is one line. -/
theorem oneLine_valueLines (v : SmiValue) : ∀ l ∈ valueLines v, OneLine l := by
  intro l hl
  cases v with
  | int cls n =>
    rw [List.mem_singleton.mp hl]
    have htoken : OneLine (cls.token ++ ": ".toList) := by
      cases cls <;> decide
    exact htoken.append (oneLine_of_blank fun c hc => Or.inr (isSpace_intText n c hc))
  | timeTicks n =>
    rw [List.mem_singleton.mp hl]
    obtain ⟨front, huptime, hfront⟩ := exists_uptimeText n
    apply oneLine_of_blank
    intro c hc
    rw [huptime] at hc
    simp only [List.mem_append] at hc
    rcases hc with ((hc | hc) | hc) | hc | hc
    · revert c
      decide
    · exact Or.inr (isSpace_natText n c hc)
    · revert c
      decide
    · exact hfront c hc
    · exact Or.inr (isSpace_twoDigits _ c hc)
  | octetString raw =>
    cases raw with
    | nil =>
      rw [List.mem_singleton.mp hl]
      decide
    | cons b raw =>
      simp only [valueLines] at hl
      split_ifs at hl with hprintable
      · rw [List.mem_singleton.mp hl]
        refine (OneLine.append (by decide) (oneLine_of_blank fun c hc => ?_)).append (by decide)
        rcases mem_escapeQuoted hc with rfl | hc
        · exact Or.inr rfl
        · exact mem_latin1Decode hprintable hc
      · cases hrows : rowsOf16 (b :: raw).length (b :: raw) with
        | nil =>
          rw [hrows] at hl
          cases hl
        | cons first rest =>
          rw [hrows] at hl
          rcases List.mem_cons.mp hl with rfl | hl
          · exact OneLine.append (by decide) (oneLine_hexLine first)
          · obtain ⟨row, -, rfl⟩ := List.mem_map.mp hl
            exact oneLine_hexLine row
  | objectIdentifier o =>
    rw [List.mem_singleton.mp hl]
    exact OneLine.append (by decide) (oneLine_of_blank fun c hc => Or.inr (isSpace_oidText o c hc))
  | ipAddress a b c d =>
    rw [List.mem_singleton.mp hl]
    exact OneLine.append (by decide) (oneLine_of_blank fun c hc => Or.inr (isSpace_oidText _ c hc))

theorem oneLine_netsnmpLines (vb : AgentVarbind) : ∀ l ∈ netsnmpLines vb, OneLine l := by
  intro l hl
  have hvalue := oneLine_valueLines vb.value
  unfold netsnmpLines at hl
  cases hlines : valueLines vb.value with
  | nil =>
    rw [hlines] at hl
    cases hl
  | cons first rest =>
    rw [hlines] at hl hvalue
    rcases List.mem_cons.mp hl with rfl | hl
    · have hoid : OneLine ('.' :: oidText vb.oid) := by
        apply oneLine_of_blank
        intro c hc
        rcases List.mem_cons.mp hc with rfl | hc
        · exact Or.inr rfl
        · exact Or.inr (isSpace_oidText _ c hc)
      exact (hoid.append (by decide)).append (hvalue first List.mem_cons_self)
    · exact hvalue l (List.mem_cons_of_mem _ hl)

/-! ## §6 Reading one varbind -/

/-- The row a varbind is read as: the text of a string keeps the escapes it was printed with. -/
def netsnmpRow (vb : AgentVarbind) : SnmpRow :=
  match vb.value with
  | .octetString raw =>
    if raw.all isPrintable then
      ⟨lstripChar '.' (oidText vb.oid), .str (escapeQuoted (PyCodec.latin1Decode raw)),
        "STRING".toList⟩
    else normalizeVarbind vb
  | _ => normalizeVarbind vb

/-- The types printed in front of a value that stands on one line. -/
def lineTypes : List Text :=
  ["INTEGER", "Gauge32", "Counter32", "Counter64", "Timeticks", "STRING", "OID",
    "IpAddress"].map String.toList

/-- A type that stands in front of a value on its line. -/
def IsToken (ty : Text) : Prop := ty ≠ "Hex-STRING".toList ∧ ty ≠ [] ∧ ':' ∉ ty ∧
  ∀ c ∈ ty, isSpace c = false ∧ c ≠ '"'

instance (ty : Text) : Decidable (IsToken ty) := inferInstanceAs (Decidable (_ ∧ _))

theorem isToken_lineTypes : ∀ ty ∈ lineTypes, IsToken ty := by decide

section Line

variable {e : Bool} {st : LineState} {rows : List SnmpRow}

/-- A line with an OID closes what was open and hands its value on. -/
theorem parseLine_row (hflush : st.flushHex = .ok rows) (oid : Oid) (payload : Text) :
    parseLine e st ('.' :: oidText oid ++ " = ".toList ++ payload) =
      parseRest e rows (lstripChar '.' (oidText oid)) (strip payload) := by
  have hspace : ∀ c ∈ '.' :: oidText oid, isSpace c = false := by
    intro c hc
    rcases List.mem_cons.mp hc with rfl | hc
    · rfl
    · exact isSpace_oidText oid c hc
  have hne : strip ('.' :: oidText oid ++ " = ".toList ++ payload) ≠ [] :=
    strip_ne_nil (c := '.') (by simp) rfl
  have hsplit : splitOnce " = ".toList ('.' :: oidText oid ++ " = ".toList ++ payload) =
      some ('.' :: oidText oid, payload) := by
    refine @splitOnce_append ' ' "= ".toList ('.' :: oidText oid) payload fun hmem => ?_
    cases hspace ' ' hmem
  rw [parseLine, if_neg hne, hsplit]
  simp only [hflush, strip_of_not_isSpace hspace]
  rfl

/-- A value on one line, behind its type. -/
theorem parseLine_token (hflush : st.flushHex = .ok rows) (oid : Oid) {ty val : Text}
    {v : SnmpValue} (hty : IsToken ty) (hne : val ≠ [])
    (hhead : ∀ c, val.head? = some c → isSpace c = false)
    (hlast : ∀ c, val.getLast? = some c → isSpace c = false)
    (hnormalize : normalize ty val = .ok v) :
    parseLine e st ('.' :: oidText oid ++ " = ".toList ++ (ty ++ ": ".toList ++ val)) =
      .ok { rows := rows ++ [⟨lstripChar '.' (oidText oid), v, ty⟩] } := by
  obtain ⟨hhex, htyne, hcolon, hchars⟩ := hty
  obtain ⟨c, ty', rfl⟩ := List.exists_cons_of_ne_nil htyne
  have hc := hchars c List.mem_cons_self
  have hstrip : strip (c :: ty' ++ ": ".toList ++ val) = c :: ty' ++ ": ".toList ++ val := by
    refine strip_of_ends ?_ ?_
    · intro d hd
      cases hd
      exact hc.1
    · intro d hd
      rw [List.getLast?_append_of_ne_nil _ hne] at hd
      exact hlast d hd
  have hquotes : ¬ (c :: ty' ++ ": ".toList ++ val = "\"\"".toList ∨
      c :: ty' ++ ": ".toList ++ val = []) := by
    rintro (h | h)
    · exact hc.2 (List.cons.inj h).1
    · cases h
  have htyped : splitTyped (c :: ty' ++ ": ".toList ++ val) = some (c :: ty', val) := by
    have hsplit : splitOnce ": ".toList (c :: ty' ++ ": ".toList ++ val) = some (c :: ty', val) :=
      @splitOnce_append ':' " ".toList (c :: ty') val hcolon
    rw [splitTyped, hsplit]
    simp only [strip_of_not_isSpace fun d hd => (hchars d hd).1, strip_of_ends hhead hlast]
  rw [parseLine_row hflush, hstrip, parseRest, if_neg hquotes, htyped]
  simp only [if_neg hhex, hnormalize]
  rfl

theorem parseLine_typed (hflush : st.flushHex = .ok rows) (oid : Oid) {ty val : Text}
    {v : SnmpValue} (hty : ty ∈ lineTypes) (hne : val ≠ [])
    (hhead : ∀ c, val.head? = some c → isSpace c = false)
    (hlast : ∀ c, val.getLast? = some c → isSpace c = false)
    (hnormalize : normalize ty val = .ok v) :
    parseLine e st ('.' :: oidText oid ++ " = ".toList ++ (ty ++ ": ".toList ++ val)) =
      .ok { rows := rows ++ [⟨lstripChar '.' (oidText oid), v, ty⟩] } :=
  parseLine_token hflush oid (isToken_lineTypes ty hty) hne hhead hlast hnormalize

theorem parseLine_hexLine {oid : Text} {b : Bytes} (hne : b ≠ []) (chunks : List Text) :
    parseLine e { rows := rows, pending := some (oid, chunks) } (hexLine b) =
      .ok { rows := rows, pending := some (oid, chunks ++ [strip (hexLine b)]) } := by
  have hmem : '=' ∉ hexLine b := fun h => by
    rcases mem_hexLine h with h | ⟨-, h⟩ <;> revert h <;> decide
  have hblank : strip (hexLine b) ≠ [] := (splitBlank_strip_hexLine hne).1
  have hnone : splitOnce " = ".toList (hexLine b) = none :=
    splitOnce_eq_none (c := '=') (by decide) hmem
  rw [parseLine, if_neg hblank, hnone]
  rfl

/-- The lines behind the first of a `Hex-STRING`. -/
theorem foldlM_hexLine {oid : Text} {bs : List Bytes} (hne : ∀ b ∈ bs, b ≠ [])
    (chunks : List Text) :
    (bs.map hexLine).foldlM (parseLine e) { rows := rows, pending := some (oid, chunks) } =
      .ok { rows := rows, pending := some (oid, chunks ++ bs.map fun b => strip (hexLine b)) } := by
  induction bs generalizing chunks with
  | nil => simp [pure, Except.pure]
  | cons b bs ih =>
    rw [List.map_cons, List.foldlM_cons, parseLine_hexLine (hne b List.mem_cons_self)]
    show (bs.map hexLine).foldlM (parseLine e) _ = _
    rw [ih (fun b hb => hne b (List.mem_cons_of_mem _ hb))]
    simp

theorem flatten_rowsOf16 : ∀ {fuel : ℕ} {b : Bytes}, b.length ≤ 16 * fuel →
    (rowsOf16 fuel b).flatten = b ∧ ∀ row ∈ rowsOf16 fuel b, row ≠ []
  | 0, b, h => by
    rw [List.length_eq_zero_iff.mp (Nat.le_zero.mp h)]
    simp [rowsOf16]
  | fuel + 1, b, h => by
    rw [rowsOf16]
    split_ifs with hb
    · simp [hb]
    · obtain ⟨hflatten, hne⟩ := @flatten_rowsOf16 fuel (b.drop 16) (by
        rw [List.length_drop]
        omega)
      refine ⟨by rw [List.flatten_cons, hflatten, List.take_append_drop], ?_⟩
      intro row hrow
      rcases List.mem_cons.mp hrow with rfl | hrow
      · simpa using hb
      · exact hne row hrow

theorem mapM_hexByte? (b : Bytes) : (b.map hexPair).mapM hexByte? = .ok b := by
  induction b with
  | nil => rfl
  | cons x b ih =>
    have hx : hexByte? (hexPair x) = .ok x := by
      have hlt := x.toNat_lt
      rw [hexByte?, pyIntHex_hexPair]
      simp only [Int.natCast_nonneg, true_and, Int.toNat_natCast, UInt8.ofNat_toNat]
      rw [if_pos (by omega)]
    rw [List.map_cons, List.mapM_cons, hx, ih]
    rfl

/-- The first line of a `Hex-STRING` opens it. -/
theorem parseLine_hexString (hflush : st.flushHex = .ok rows) (oid : Oid) {first : Bytes}
    (hne : first ≠ []) :
    parseLine e st ('.' :: oidText oid ++ " = ".toList ++ ("Hex-STRING: ".toList ++ hexLine first)) =
      .ok { rows := rows,
            pending := some (lstripChar '.' (oidText oid), [strip (hexLine first)]) } := by
  obtain ⟨core, hline, hhead, hlast, hwords⟩ := exists_hexLine hne
  have hcore : core ≠ [] := by
    rintro rfl
    exact hne (List.map_eq_nil_iff.mp hwords.symm)
  have hstrip : strip ("Hex-STRING: ".toList ++ hexLine first) =
      "Hex-STRING".toList ++ ": ".toList ++ core := by
    rw [hline, ← List.append_assoc]
    refine strip_append_blank ?_ ?_
    · intro c hc
      cases hc
      rfl
    · intro c hc
      rw [List.getLast?_append_of_ne_nil _ hcore] at hc
      exact hlast c hc
  have htyped : splitTyped ("Hex-STRING".toList ++ ": ".toList ++ core) =
      some ("Hex-STRING".toList, core) := by
    have hsplit : splitOnce ": ".toList ("Hex-STRING".toList ++ ": ".toList ++ core) =
        some ("Hex-STRING".toList, core) :=
      @splitOnce_append ':' " ".toList "Hex-STRING".toList core (by decide)
    have htype : strip "Hex-STRING".toList = "Hex-STRING".toList := by decide
    rw [splitTyped, hsplit]
    simp only [htype, strip_of_ends hhead hlast]
  have hquotes : ¬ ("Hex-STRING".toList ++ ": ".toList ++ core = "\"\"".toList ∨
      "Hex-STRING".toList ++ ": ".toList ++ core = []) := by
    rintro (h | h)
    · exact absurd (List.cons.inj h).1 (by decide)
    · cases h
  rw [parseLine_row hflush, hstrip, parseRest, if_neg hquotes, htyped, hline,
    strip_append_blank hhead hlast]
  rfl

/-- An octet string that is not all printable, over however many lines. -/
theorem foldlM_hexString (hflush : st.flushHex = .ok rows) (oid : Oid) {raw : Bytes}
    (hne : raw ≠ []) (hprintable : ¬ raw.all isPrintable = true) :
    ∃ st', (netsnmpLines ⟨oid, .octetString raw⟩).foldlM (parseLine e) st = .ok st' ∧
      st'.flushHex =
        .ok (rows ++ [⟨lstripChar '.' (oidText oid), .bytes raw, "Hex-STRING".toList⟩]) := by
  obtain ⟨hflatten, hrows⟩ := @flatten_rowsOf16 raw.length raw (by omega)
  cases hlines : rowsOf16 raw.length raw with
  | nil =>
    rw [hlines] at hflatten
    exact absurd hflatten.symm hne
  | cons first rest =>
    rw [hlines] at hflatten hrows
    have hprinted : netsnmpLines ⟨oid, .octetString raw⟩ =
        ('.' :: oidText oid ++ " = ".toList ++ ("Hex-STRING: ".toList ++ hexLine first)) ::
          rest.map hexLine := by
      obtain ⟨b, raw', rfl⟩ := List.exists_cons_of_ne_nil hne
      simp only [netsnmpLines, valueLines, if_neg hprintable, hlines, List.map_cons]
    have hwords : ∀ b ∈ first :: rest, splitBlank (strip (hexLine b)) = b.map hexPair :=
      fun b hb => (splitBlank_strip_hexLine (hrows b hb)).2
    refine ⟨{ rows := rows,
              pending := some (lstripChar '.' (oidText oid),
                (first :: rest).map fun b => strip (hexLine b)) }, ?_, ?_⟩
    · rw [hprinted, List.foldlM_cons, parseLine_hexString hflush oid (hrows first List.mem_cons_self)]
      exact foldlM_hexLine (fun b hb => hrows b (List.mem_cons_of_mem _ hb)) _
    · have hchunks : ((first :: rest).map fun b => strip (hexLine b)).flatMap splitBlank =
          raw.map hexPair := by
        rw [List.flatMap_map, List.flatMap_congr hwords, ← hflatten, List.map_flatten]
        rfl
      simp only [LineState.flushHex, hchunks, mapM_hexByte?]
      rfl

theorem mem_twoDigits_getLast {n : ℕ} {front : Text} {c : Char}
    (hc : (front ++ twoDigits n).getLast? = some c) : isSpace c = false := by
  rw [List.getLast?_append_of_ne_nil _ (twoDigits_ne_nil n)] at hc
  exact isSpace_twoDigits n c (List.mem_of_getLast? hc)

/-- Reading the lines of one varbind adds its row. -/
theorem foldlM_netsnmpLines (hflush : st.flushHex = .ok rows) (vb : AgentVarbind) :
    ∃ st', (netsnmpLines vb).foldlM (parseLine e) st = .ok st' ∧
      st'.flushHex = .ok (rows ++ [netsnmpRow vb]) := by
  obtain ⟨oid, value⟩ := vb
  have hone : ∀ (line : Text) {row : SnmpRow}, netsnmpLines ⟨oid, value⟩ = [line] →
      parseLine e st line = .ok { rows := rows ++ [row] } → netsnmpRow ⟨oid, value⟩ = row →
      ∃ st', (netsnmpLines ⟨oid, value⟩).foldlM (parseLine e) st = .ok st' ∧
        st'.flushHex = .ok (rows ++ [netsnmpRow ⟨oid, value⟩]) := by
    intro line row hlines hparse hrow
    refine ⟨{ rows := rows ++ [row] }, ?_, ?_⟩
    · rw [hlines, List.foldlM_cons, hparse]
      rfl
    · rw [hrow]
      rfl
  cases value with
  | int cls n =>
    have hspace := isSpace_intText n
    have hnormalize : normalize cls.token (intText n) = .ok (.int n) := by
      have htoken : cls.token ∈ intTypes := by
        cases cls <;> decide
      rw [normalize, if_pos htoken, spelledInt_intText]
    refine hone _ rfl ?_ rfl
    exact parseLine_typed hflush oid (by cases cls <;> decide) (intText_ne_nil n)
      (fun c hc => hspace c (List.mem_of_mem_head? hc))
      (fun c hc => hspace c (List.mem_of_getLast? hc)) hnormalize
  | timeTicks n =>
    obtain ⟨front, huptime, -⟩ := exists_uptimeText n
    have hsearch : PyRe.search timeticksRe ("(".toList ++ (natText n ++ ')' :: ' ' :: uptimeText n)) =
        some (natText n) := by
      refine PyRe.search_here ?_
      rw [timeticksRe, PyRe.lit_append]
      exact PyRe.many1_span (natText_ne_nil n) (isDecimal_natText n) (by decide)
        (PyRe.lit_append ")" (' ' :: uptimeText n) _)
    have hnormalize : normalize "Timeticks".toList
        ("(".toList ++ (natText n ++ ')' :: ' ' :: uptimeText n)) = .ok (.int n) := by
      rw [normalize, if_neg (by decide), if_pos rfl, hsearch]
      simp
    refine hone ('.' :: oidText oid ++ " = ".toList ++ ("Timeticks".toList ++ ": ".toList ++
      ("(".toList ++ (natText n ++ ')' :: ' ' :: uptimeText n)))) ?_ ?_ rfl
    · simp [netsnmpLines, valueLines]
    · refine parseLine_typed hflush oid (by decide) (by simp) ?_ ?_ hnormalize
      · intro c hc
        cases hc
        rfl
      · intro c hc
        rw [huptime, ← List.cons_append, ← List.cons_append, ← List.append_assoc,
          ← List.append_assoc] at hc
        exact mem_twoDigits_getLast hc
  | octetString raw =>
    by_cases hprintable : raw.all isPrintable = true
    · have hrow : netsnmpRow ⟨oid, .octetString raw⟩ =
          ⟨lstripChar '.' (oidText oid), .str (escapeQuoted (PyCodec.latin1Decode raw)),
            "STRING".toList⟩ := if_pos hprintable
      cases raw with
      | nil =>
        refine hone _ rfl ?_ hrow
        rw [parseLine_row hflush]
        rfl
      | cons b raw =>
        generalize htext : escapeQuoted (PyCodec.latin1Decode (b :: raw)) = text at hrow
        have hnormalize : normalize "STRING".toList ('"' :: (text ++ ['"'])) = .ok (.str text) := by
          have hlast : ('"' :: (text ++ ['"'])).getLast? = some '"' := by
            rw [← List.cons_append, List.getLast?_concat]
          rw [normalize, if_neg (by decide), if_neg (by decide), if_pos rfl,
            if_pos ⟨by simp, rfl, hlast⟩]
          simp
        refine hone ('.' :: oidText oid ++ " = ".toList ++
          ("STRING".toList ++ ": ".toList ++ ('"' :: (text ++ ['"'])))) ?_ ?_ hrow
        · simp only [netsnmpLines, valueLines, if_pos hprintable, htext]
          simp
        · refine parseLine_typed hflush oid (by decide) (by simp) ?_ ?_ hnormalize
          · intro c hc
            cases hc
            rfl
          · intro c hc
            rw [← List.cons_append, List.getLast?_concat] at hc
            cases hc
            rfl
    · have hne : raw ≠ [] := by
        rintro rfl
        exact hprintable rfl
      have hrow : netsnmpRow ⟨oid, .octetString raw⟩ =
          ⟨lstripChar '.' (oidText oid), .bytes raw, "Hex-STRING".toList⟩ := by
        simp [netsnmpRow, normalizeVarbind, octetValue, hprintable]
      rw [hrow]
      exact foldlM_hexString hflush oid hne hprintable
  | objectIdentifier o =>
    have hnormalize : normalize "OID".toList ('.' :: oidText o) =
        .ok (.str (lstripChar '.' (oidText o))) := rfl
    refine hone ('.' :: oidText oid ++ " = ".toList ++
      ("OID".toList ++ ": ".toList ++ ('.' :: oidText o))) rfl ?_ rfl
    have hspace : ∀ c ∈ '.' :: oidText o, isSpace c = false := by
      intro c hc
      rcases List.mem_cons.mp hc with rfl | hc
      · rfl
      · exact isSpace_oidText o c hc
    exact parseLine_typed hflush oid (by decide) (by simp)
      (fun c hc => hspace c (List.mem_of_mem_head? hc))
      (fun c hc => hspace c (List.mem_of_getLast? hc)) hnormalize
  | ipAddress a b c d =>
    have hspace := isSpace_oidText [a.toNat, b.toNat, c.toNat, d.toNat]
    have hne : ipText a b c d ≠ [] := by
      simp [ipText]
    refine hone ('.' :: oidText oid ++ " = ".toList ++
      ("IpAddress".toList ++ ": ".toList ++ ipText a b c d)) rfl ?_ rfl
    exact parseLine_typed hflush oid (by decide) hne
      (fun x hx => hspace x (List.mem_of_mem_head? hx))
      (fun x hx => hspace x (List.mem_of_getLast? hx)) rfl

end Line

/-! ## §7 A whole response -/

/-- Reading the output adds the rows of its varbinds. -/
theorem foldlM_flatMap_netsnmpLines {e : Bool} (vbs : List AgentVarbind) {st : LineState}
    {rows : List SnmpRow} (hflush : st.flushHex = .ok rows) :
    ∃ st', (vbs.flatMap netsnmpLines).foldlM (parseLine e) st = .ok st' ∧
      st'.flushHex = .ok (rows ++ vbs.map netsnmpRow) := by
  induction vbs generalizing st rows with
  | nil => exact ⟨st, rfl, by simpa using hflush⟩
  | cons vb vbs ih =>
    obtain ⟨st₁, hfold, hflush₁⟩ := @foldlM_netsnmpLines e st rows hflush vb
    obtain ⟨st₂, hrest, hflush₂⟩ := ih hflush₁
    refine ⟨st₂, ?_, by simpa using hflush₂⟩
    rw [List.flatMap_cons, List.foldlM_append, hfold]
    exact hrest

theorem parseNetsnmpLines_output (vbs : List AgentVarbind) (emptySubtreeOk : Bool) :
    parseNetsnmpLines (netsnmpOutput vbs) emptySubtreeOk = .ok (vbs.map netsnmpRow) := by
  have hlines : splitLines (netsnmpOutput vbs) = vbs.flatMap netsnmpLines := by
    apply splitLines_ended
    intro l hl
    obtain ⟨vb, -, hl⟩ := List.mem_flatMap.mp hl
    exact oneLine_netsnmpLines vb l hl
  obtain ⟨st, hfold, hflush⟩ :=
    @foldlM_flatMap_netsnmpLines emptySubtreeOk vbs {} [] rfl
  rw [parseNetsnmpLines, hlines, hfold]
  exact hflush

/-- Escaping leaves a text alone exactly when there is nothing to escape. -/
theorem escapeQuoted_eq_self_iff {t : Text} :
    escapeQuoted t = t ↔ ∀ c ∈ t, needsEscape c = false := by
  have hlength : ∀ u : Text, (escapeQuoted u).length = u.length + u.countP needsEscape := by
    intro u
    induction u with
    | nil => rfl
    | cons c u ih =>
      rw [escapeQuoted, List.flatMap_cons, List.length_append, ← escapeQuoted, ih, List.countP_cons]
      split_ifs <;> simp <;> omega
  constructor
  · intro h c hc
    have hcount : t.countP needsEscape = 0 := by
      have := hlength t
      rw [h] at this
      omega
    exact Bool.eq_false_iff.mpr (List.countP_eq_zero.mp hcount c hc)
  · intro h
    induction t with
    | nil => rfl
    | cons c t ih =>
      have hc := h c List.mem_cons_self
      rw [escapeQuoted, List.flatMap_cons, hc, ← escapeQuoted,
        ih fun d hd => h d (List.mem_cons_of_mem _ hd)]
      rfl

/-- A value that is no printable text with a quote or a backslash in it. -/
def SmiValue.Unescaped : SmiValue → Prop
  | .octetString raw => raw.all isPrintable = true → ∀ b ∈ raw, b ≠ 0x22 ∧ b ≠ 0x5C
  | _ => True

theorem netsnmpRow_eq_iff {vb : AgentVarbind} :
    netsnmpRow vb = normalizeVarbind vb ↔ vb.value.Unescaped := by
  obtain ⟨oid, value⟩ := vb
  cases value with
  | octetString raw =>
    by_cases hprintable : raw.all isPrintable = true
    · have hall : ∀ n : Fin 256, needsEscape (Char.ofNat n) = false ↔
          UInt8.ofNat n ≠ 0x22 ∧ UInt8.ofNat n ≠ 0x5C := by decide +kernel
      have hbyte : ∀ b : UInt8, needsEscape (Char.ofNat b.toNat) = false ↔ b ≠ 0x22 ∧ b ≠ 0x5C := by
        intro b
        have hb := hall ⟨b.toNat, b.toNat_lt⟩
        rwa [UInt8.ofNat_toNat] at hb
      simp only [netsnmpRow, normalizeVarbind, octetValue, hprintable, if_true, SnmpRow.mk.injEq,
        SnmpValue.str.injEq, true_and, and_true, escapeQuoted_eq_self_iff, PyCodec.latin1Decode,
        List.forall_mem_map, hbyte, SmiValue.Unescaped, forall_const]
    · refine iff_of_true ?_ fun h => absurd h hprintable
      simp [netsnmpRow, hprintable]
  | int | timeTicks | objectIdentifier | ipAddress => exact iff_of_true rfl trivial

/-- **Transport parity.**  The rows read from the tools' output are those pysnmp's varbinds give
exactly when no printable octet string holds a quote or a backslash. -/
theorem parseNetsnmpLines_eq_iff (vbs : List AgentVarbind) (emptySubtreeOk : Bool) :
    parseNetsnmpLines (netsnmpOutput vbs) emptySubtreeOk = .ok (vbs.map normalizeVarbind) ↔
      ∀ vb ∈ vbs, vb.value.Unescaped := by
  rw [parseNetsnmpLines_output, Except.ok.injEq, List.map_inj_left]
  exact forall₂_congr fun _ _ => netsnmpRow_eq_iff

/-- An interface description with quotes in it. -/
def quotedDescription : AgentVarbind where
  oid := [1, 3, 6, 1, 2, 1, 31, 1, 1, 1, 18, 4]
  value := .octetString [0x74, 0x6F, 0x20, 0x22, 0x41, 0x50, 0x22]

/-- It reads `to \"AP\"` with its backslashes through the tools, and without through pysnmp. -/
theorem parseNetsnmpLines_quotedDescription :
    (parseNetsnmpLines (netsnmpOutput [quotedDescription]) true).toOption =
        some [⟨"1.3.6.1.2.1.31.1.1.1.18.4".toList, .str "to \\\"AP\\\"".toList, "STRING".toList⟩] ∧
      [quotedDescription].map normalizeVarbind =
        [⟨"1.3.6.1.2.1.31.1.1.1.18.4".toList, .str "to \"AP\"".toList, "STRING".toList⟩] ∧
      parseNetsnmpLines (netsnmpOutput [quotedDescription]) true ≠
        .ok ([quotedDescription].map normalizeVarbind) := by
  refine ⟨by decide +kernel, by decide +kernel, ?_⟩
  decide +kernel

end NetgearSwitch.Snmp
