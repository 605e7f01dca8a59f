import NetgearSwitch.Snmp.Transports

/-!
# Output of the net-snmp tools

`parse_netsnmp_lines` on any output the tools may print: rows whose strings hold any text that
needs no escape, octets wrapped over any number of lines, and lines that say that an object is
absent or that the MIB has ended.  A value is never taken for a marker, as its type stands before
it; an open `Hex-STRING` is closed by whatever line comes next.

§1 what is printed · §2 reading one line · §3 a whole output
-/

namespace NetgearSwitch.Snmp

open PyText

/-! ## §1 What is printed -/

/-- A text that stands between quotes as it is: one line, with no quote and no backslash. -/
structure QuotedText where
  text : Text
  oneLine : OneLine text
  noEscape : ∀ c ∈ text, needsEscape c = false

/-- A value as it is printed. -/
inductive PrintedValue
  | int (type : Text) (isInt : type ∈ intTypes) (n : ℤ)
  | string (t : QuotedText)
  | empty
  | oid (o : Oid)
  | ipAddress (a b c d : UInt8)
  /-- Octets on the line of the OID and on the lines behind it. -/
  | hexString (first : Bytes) (more : List Bytes)

/-- A marker in place of a value. -/
structure MarkerText (markers : List Text) where
  text : Text
  oneLine : OneLine text
  stripped : strip text = text
  noColon : ':' ∉ text
  marked : markers.any (containsText · (text.map Char.toLower)) = true

/-- A marker of an absent object. -/
structure AbsentText extends MarkerText absentMarkers where
  notEnd : endOfMibMarkers.any (containsText · (text.map Char.toLower)) = false

/-- The lines of a row, or a marker line. -/
inductive Printed
  | row (oid : Oid) (value : PrintedValue)
  | absent (oid : Oid) (text : AbsentText)
  | endOfMib (oid : Oid) (text : MarkerText endOfMibMarkers)

/-- The value behind the `=`, line by line. -/
def PrintedValue.lines : PrintedValue → Text × List Text
  | .int type _ n => (type ++ ": ".toList ++ intText n, [])
  | .string t => ("STRING".toList ++ ": ".toList ++ ('"' :: (t.text ++ ['"'])), [])
  | .empty => ("\"\"".toList, [])
  | .oid o => ("OID".toList ++ ": ".toList ++ ('.' :: oidText o), [])
  | .ipAddress a b c d => ("IpAddress".toList ++ ": ".toList ++ ipText a b c d, [])
  | .hexString first more => ("Hex-STRING: ".toList ++ hexLine first, more.map hexLine)

/-- The value and the type of the row. -/
def PrintedValue.read : PrintedValue → SnmpValue × Text
  | .int type _ n => (.int n, type)
  | .string t => (.str t.text, "STRING".toList)
  | .empty => (.str [], "STRING".toList)
  | .oid o => (.str (oidText o), "OID".toList)
  | .ipAddress a b c d => (.str (ipText a b c d), "IpAddress".toList)
  | .hexString first more => (.bytes (first ++ more.flatten), "Hex-STRING".toList)

namespace Printed

/-- A line of an OID. -/
def line (oid : Oid) (payload : Text) : Text := '.' :: oidText oid ++ " = ".toList ++ payload

def lines : Printed → List Text
  | .row oid value => line oid value.lines.1 :: value.lines.2
  | .absent oid text => [line oid text.text]
  | .endOfMib oid text => [line oid text.text]

/-- The row printed, if it is one. -/
def rows : Printed → List SnmpRow
  | .row oid value => [⟨oidText oid, value.read.1, value.read.2⟩]
  | .absent _ _ => []
  | .endOfMib _ _ => []

def isAbsent : Printed → Bool
  | .absent _ _ => true
  | _ => false

end Printed

/-- The output of a tool. -/
def printedOutput (items : List Printed) : Text := (items.flatMap Printed.lines).flatMap (· ++ ['\n'])

/-! ## §2 Reading one line -/

section Line

variable {e : Bool} {st : LineState} {rows : List SnmpRow}

/-- The first line of a `Hex-STRING` opens it, with octets on it or none. -/
theorem parseLine_hexFirst (hflush : st.flushHex = .ok rows) (oid : Oid) (first : Bytes) :
    ∃ chunk, parseLine e st (Printed.line oid ("Hex-STRING: ".toList ++ hexLine first)) =
        .ok { rows := rows, pending := some (oidText oid, [chunk]) } ∧
      splitBlank chunk = first.map hexPair := by
  by_cases hfirst : first = []
  · have hrest : strip ("Hex-STRING: ".toList ++ hexLine []) = "Hex-STRING:".toList := by decide
    have htyped : splitTyped "Hex-STRING:".toList = some ("Hex-STRING".toList, []) := by decide
    refine ⟨[], ?_, by rw [hfirst]; rfl⟩
    rw [Printed.line, hfirst, parseLine_row hflush, hrest, parseRest, if_neg (by decide), htyped,
      lstripChar_oidText]
    rfl
  · refine ⟨strip (hexLine first), ?_, (splitBlank_strip_hexLine hfirst).2⟩
    rw [Printed.line, parseLine_hexString hflush oid hfirst, lstripChar_oidText]

/-- The lines behind it add their octets. -/
theorem foldlM_hexMore {oid : Text} (more : List Bytes) (chunks : List Text) :
    ∃ chunks', (more.map hexLine).foldlM (parseLine e)
        { rows := rows, pending := some (oid, chunks) } =
        .ok { rows := rows, pending := some (oid, chunks') } ∧
      chunks'.flatMap splitBlank = chunks.flatMap splitBlank ++ more.flatten.map hexPair := by
  induction more generalizing chunks with
  | nil => exact ⟨chunks, rfl, by simp⟩
  | cons b more ih =>
    by_cases hb : b = []
    · -- a line with no octets is blank
      obtain ⟨chunks', hfold, hchunks⟩ := ih chunks
      refine ⟨chunks', ?_, by rw [hchunks, hb, List.flatten_cons, List.nil_append]⟩
      rw [hb, List.map_cons, List.foldlM_cons]
      exact hfold
    · obtain ⟨chunks', hfold, hchunks⟩ := ih (chunks ++ [strip (hexLine b)])
      refine ⟨chunks', ?_, ?_⟩
      · rw [List.map_cons, List.foldlM_cons, parseLine_hexLine hb]
        exact hfold
      · rw [hchunks, List.flatMap_append, List.flatMap_singleton, (splitBlank_strip_hexLine hb).2,
          List.flatten_cons, List.map_append, List.append_assoc]

/-- Reading the lines of a row adds it. -/
theorem foldlM_row (hflush : st.flushHex = .ok rows) (oid : Oid) (value : PrintedValue) :
    ∃ st', (Printed.row oid value).lines.foldlM (parseLine e) st = .ok st' ∧
      st'.flushHex = .ok (rows ++ [⟨oidText oid, value.read.1, value.read.2⟩]) := by
  have hone : ∀ {row : SnmpRow}, value.lines.2 = [] →
      parseLine e st (Printed.line oid value.lines.1) = .ok { rows := rows ++ [row] } →
      ∃ st', (Printed.row oid value).lines.foldlM (parseLine e) st = .ok st' ∧
        st'.flushHex = .ok (rows ++ [row]) := by
    intro row hlines hparse
    refine ⟨{ rows := rows ++ [row] }, ?_, rfl⟩
    rw [Printed.lines, hlines, List.foldlM_cons, hparse]
    rfl
  have hends : ∀ {t : Text}, (∀ c ∈ t, isSpace c = false) →
      (∀ c, t.head? = some c → isSpace c = false) ∧ ∀ c, t.getLast? = some c → isSpace c = false :=
    fun h => ⟨fun c hc => h c (List.mem_of_mem_head? hc), fun c hc => h c (List.mem_of_getLast? hc)⟩
  cases value with
  | int type isInt n =>
    have htoken : ∀ ty ∈ intTypes, IsToken ty := by decide
    have hnormalize : normalize type (intText n) = .ok (.int n) := by
      rw [normalize, if_pos isInt, spelledInt_intText]
    obtain ⟨hhead, hlast⟩ := hends (isSpace_intText n)
    refine hone rfl ?_
    rw [← lstripChar_oidText oid]
    exact parseLine_token hflush oid (htoken type isInt) (intText_ne_nil n) hhead hlast hnormalize
  | string t =>
    have hlast : ('"' :: (t.text ++ ['"'])).getLast? = some '"' := by
      rw [← List.cons_append, List.getLast?_concat]
    have hnormalize : normalize "STRING".toList ('"' :: (t.text ++ ['"'])) = .ok (.str t.text) := by
      rw [normalize, if_neg (by decide), if_neg (by decide), if_pos rfl,
        if_pos ⟨by simp, rfl, hlast⟩]
      simp
    refine hone rfl ?_
    rw [← lstripChar_oidText oid]
    refine parseLine_token hflush oid (by decide) (by simp) ?_ ?_ hnormalize
    · intro c hc
      cases hc
      rfl
    · intro c hc
      cases hlast.symm.trans hc
      rfl
  | empty =>
    refine hone rfl ?_
    rw [Printed.line, parseLine_row hflush, lstripChar_oidText]
    rfl
  | oid o =>
    have hspace : ∀ c ∈ '.' :: oidText o, isSpace c = false := by
      intro c hc
      rcases List.mem_cons.mp hc with rfl | hc
      · rfl
      · exact isSpace_oidText o c hc
    have hnormalize : normalize "OID".toList ('.' :: oidText o) =
        .ok (.str (lstripChar '.' (oidText o))) := rfl
    rw [lstripChar_oidText] at hnormalize
    obtain ⟨hhead, hlast⟩ := hends hspace
    refine hone rfl ?_
    rw [← lstripChar_oidText oid]
    exact parseLine_token hflush oid (by decide) (by simp) hhead hlast hnormalize
  | ipAddress a b c d =>
    have hne : ipText a b c d ≠ [] := by
      simp [ipText]
    obtain ⟨hhead, hlast⟩ := hends (isSpace_oidText [a.toNat, b.toNat, c.toNat, d.toNat])
    refine hone rfl ?_
    rw [← lstripChar_oidText oid]
    exact parseLine_token hflush oid (by decide) hne hhead hlast rfl
  | hexString first more =>
    obtain ⟨chunk, hopen, hchunk⟩ := @parseLine_hexFirst e st rows hflush oid first
    obtain ⟨chunks, hfold, hchunks⟩ := @foldlM_hexMore e rows (oidText oid) more [chunk]
    rw [List.flatMap_singleton, hchunk, ← List.map_append] at hchunks
    have hlines : (Printed.row oid (.hexString first more)).lines =
        Printed.line oid ("Hex-STRING: ".toList ++ hexLine first) :: more.map hexLine := rfl
    refine ⟨{ rows := rows, pending := some (oidText oid, chunks) }, ?_, ?_⟩
    · rw [hlines, List.foldlM_cons, hopen]
      exact hfold
    · simp only [LineState.flushHex, hchunks, mapM_hexByte?]
      rfl

/-- A marker has no type before it. -/
theorem parseLine_marker (hflush : st.flushHex = .ok rows) (oid : Oid) {markers : List Text}
    (text : MarkerText markers) (hmarkers : ∀ m ∈ markers, m ≠ [] ∧ '"' ∉ m) :
    parseLine e st (Printed.line oid text.text) =
      if endOfMibMarkers.any (containsText · (text.text.map Char.toLower)) then .ok { rows := rows }
      else if absentMarkers.any (containsText · (text.text.map Char.toLower)) && e then
        .ok { rows := rows }
      else .error .snmp := by
  have hvalue : ¬ (text.text = "\"\"".toList ∨ text.text = []) := by
    obtain ⟨m, hm, hmarked⟩ := List.any_eq_true.mp text.marked
    obtain ⟨hne, hquote⟩ := hmarkers m hm
    obtain ⟨c, m', rfl⟩ := List.exists_cons_of_ne_nil hne
    have hc : c ≠ '"' := fun h => hquote (h ▸ List.mem_cons_self)
    have hnone : ∀ t : Text, c ∉ t → containsText (c :: m') t = false := by
      intro t ht
      rw [containsText, splitOnce_eq_none List.mem_cons_self ht]
      rfl
    rintro (h | h)
    · have hquotes : ("\"\"".toList : Text).map Char.toLower = ['"', '"'] := by decide
      have hnot : c ∉ ['"', '"'] := fun hm => by
        rcases List.mem_pair.mp hm with h | h <;> exact hc h
      rw [h, hquotes, hnone _ hnot] at hmarked
      cases hmarked
    · rw [h, List.map_nil, hnone _ List.not_mem_nil] at hmarked
      cases hmarked
  have htyped : splitTyped text.text = none := by
    have hlast : ¬ text.text.getLast? = some ':' := fun h => text.noColon (List.mem_of_getLast? h)
    rw [splitTyped, splitOnce_eq_none (c := ':') (by decide) text.noColon]
    exact if_neg hlast
  rw [Printed.line, parseLine_row hflush, text.stripped, parseRest, if_neg hvalue, htyped]

/-- What one item does to the rows: it adds its own, unless it says that an object is absent and
nothing may be. -/
theorem foldlM_printed (hflush : st.flushHex = .ok rows) (item : Printed) :
    (item.isAbsent = true ∧ e = false ∧ item.lines.foldlM (parseLine e) st = .error .snmp) ∨
      ((item.isAbsent && !e) = false ∧ ∃ st', item.lines.foldlM (parseLine e) st = .ok st' ∧
        st'.flushHex = .ok (rows ++ item.rows)) := by
  cases item with
  | row oid value => exact .inr ⟨rfl, foldlM_row hflush oid value⟩
  | absent oid text =>
    have hline := @parseLine_marker e st rows hflush oid _ text.toMarkerText (by decide)
    rw [text.notEnd, text.marked, if_neg (by decide), Bool.true_and] at hline
    cases e with
    | false =>
      refine .inl ⟨rfl, rfl, ?_⟩
      rw [Printed.lines, List.foldlM_cons, hline]
      rfl
    | true =>
      refine .inr ⟨rfl, { rows := rows }, ?_, by simp [Printed.rows, LineState.flushHex]⟩
      rw [Printed.lines, List.foldlM_cons, hline]
      rfl
  | endOfMib oid text =>
    have hline := @parseLine_marker e st rows hflush oid _ text (by decide)
    rw [text.marked, if_pos rfl] at hline
    refine .inr ⟨rfl, { rows := rows }, ?_, by simp [Printed.rows, LineState.flushHex]⟩
    rw [Printed.lines, List.foldlM_cons, hline]
    rfl

end Line

/-! ## §3 A whole output -/

theorem oneLine_printed (item : Printed) : ∀ l ∈ item.lines, OneLine l := by
  have hline : ∀ (oid : Oid) {payload : Text}, OneLine payload → OneLine (Printed.line oid payload) := by
    intro oid payload hpayload
    have hoid : OneLine ('.' :: oidText oid) := by
      apply oneLine_of_blank
      intro c hc
      rcases List.mem_cons.mp hc with rfl | hc
      · exact Or.inr rfl
      · exact Or.inr (isSpace_oidText _ c hc)
    exact (hoid.append (by decide)).append hpayload
  have hclean : ∀ {t : Text}, (∀ c ∈ t, isSpace c = false) → OneLine t := fun h =>
    oneLine_of_blank fun c hc => Or.inr (h c hc)
  intro l hl
  cases item with
  | row oid value =>
    rcases List.mem_cons.mp hl with rfl | hl
    · apply hline oid
      cases value with
      | int type isInt n =>
        have htypes : ∀ ty ∈ intTypes, OneLine (ty ++ ": ".toList) := by decide
        exact (htypes type isInt).append (hclean (isSpace_intText n))
      | string t =>
        have hquoted : OneLine ('"' :: (t.text ++ ['"'])) :=
          (OneLine.append (s := ['"']) (by decide) t.oneLine).append (by decide)
        exact OneLine.append (by decide) hquoted
      | empty => decide
      | oid o =>
        have hdotted : OneLine ('.' :: oidText o) :=
          OneLine.append (s := ['.']) (by decide) (hclean (isSpace_oidText o))
        exact OneLine.append (by decide) hdotted
      | ipAddress a b c d => exact OneLine.append (by decide) (hclean (isSpace_oidText _))
      | hexString first more => exact OneLine.append (by decide) (oneLine_hexLine first)
    · cases value with
      | hexString first more =>
        obtain ⟨b, -, rfl⟩ := List.mem_map.mp hl
        exact oneLine_hexLine b
      | _ => cases hl
  | absent oid text =>
    rw [List.mem_singleton.mp hl]
    exact hline oid text.oneLine
  | endOfMib oid text =>
    rw [List.mem_singleton.mp hl]
    exact hline oid text.oneLine

/-- Reading item after item: an absence ends the reading of a GET, else every row is added. -/
theorem foldlM_items {e : Bool} (items : List Printed) {st : LineState} {rows : List SnmpRow}
    (hflush : st.flushHex = .ok rows) :
    (items.any Printed.isAbsent = true ∧ e = false ∧
        (items.flatMap Printed.lines).foldlM (parseLine e) st = .error .snmp) ∨
      ((items.any Printed.isAbsent && !e) = false ∧
        ∃ st', (items.flatMap Printed.lines).foldlM (parseLine e) st = .ok st' ∧
          st'.flushHex = .ok (rows ++ items.flatMap Printed.rows)) := by
  induction items generalizing st rows with
  | nil => exact .inr ⟨rfl, st, rfl, by simpa using hflush⟩
  | cons item items ih =>
    rw [List.any_cons, List.flatMap_cons, List.flatMap_cons, List.foldlM_append]
    rcases @foldlM_printed e st rows hflush item with ⟨habsent, he, hitem⟩ | ⟨hitem, st₁, hfold, hflush₁⟩
    · refine .inl ⟨by rw [habsent, Bool.true_or], he, ?_⟩
      rw [hitem]
      rfl
    · rcases ih hflush₁ with ⟨habsent, he, hrest⟩ | ⟨hrest, st₂, hfold₂, hflush₂⟩
      · refine .inl ⟨by rw [habsent, Bool.or_true], he, ?_⟩
        rw [hfold]
        exact hrest
      · refine .inr ⟨?_, st₂, ?_, by rw [hflush₂, List.append_assoc]⟩
        · cases e with
          | true => rw [Bool.not_true, Bool.and_false]
          | false =>
            rw [Bool.not_false, Bool.and_true] at hitem hrest ⊢
            rw [hitem, hrest]
            rfl
        · rw [hfold]
          exact hfold₂

/-- **Parsing what net-snmp prints.**  A walk gives exactly the rows printed, in their order,
whatever marker lines stand among them; a GET gives them too, unless a line says that an object is
absent, and then it raises. -/
theorem parseNetsnmpLines_printed (items : List Printed) :
    parseNetsnmpLines (printedOutput items) true = .ok (items.flatMap Printed.rows) ∧
      parseNetsnmpLines (printedOutput items) false =
        if items.any Printed.isAbsent then .error .snmp else .ok (items.flatMap Printed.rows) := by
  have hlines : splitLines (printedOutput items) = items.flatMap Printed.lines := by
    apply splitLines_ended
    intro l hl
    obtain ⟨item, -, hl⟩ := List.mem_flatMap.mp hl
    exact oneLine_printed item l hl
  constructor
  · rcases @foldlM_items true items {} [] rfl with ⟨-, he, -⟩ | ⟨-, st, hfold, hflush⟩
    · cases he
    · rw [parseNetsnmpLines, hlines, hfold]
      exact hflush
  · rcases @foldlM_items false items {} [] rfl with ⟨habsent, -, herror⟩ | ⟨habsent, st, hfold, hflush⟩
    · rw [parseNetsnmpLines, hlines, herror, if_pos habsent]
      rfl
    · rw [Bool.not_false, Bool.and_true] at habsent
      rw [parseNetsnmpLines, hlines, hfold, habsent, if_neg (by decide)]
      exact hflush

/-- What net-snmp prints for an object that is not there. -/
def noSuchObject : AbsentText where
  text := "No Such Object available on this agent at this OID".toList
  oneLine := by decide
  stripped := by decide
  noColon := by decide
  marked := by decide
  notEnd := by decide

/-- What net-snmp prints at the end of the MIB. -/
def noMoreVariables : MarkerText endOfMibMarkers where
  text := "No more variables left in this MIB View (It is past the end of the MIB tree)".toList
  oneLine := by decide
  stripped := by decide
  noColon := by decide
  marked := by decide

/-- The text of a marker as the value of a string. -/
def misleadingText : QuotedText where
  text := "x = y: No Such Object".toList
  oneLine := by decide
  noEscape := by decide

example : (parseNetsnmpLines (printedOutput [.row [1, 3] (.hexString [0xFF] [[0x20], [0x21]]),
    .row [1, 4] (.string misleadingText), .endOfMib [1, 4] noMoreVariables]) false).toOption.map
      (List.map SnmpRow.value) =
    some [.bytes [0xFF, 0x20, 0x21], .str "x = y: No Such Object".toList] := by
  decide +kernel

end NetgearSwitch.Snmp
