import NetgearSwitch.Lib.PyDict
import NetgearSwitch.Lib.PyLines
import NetgearSwitch.Errors
import NetgearSwitch.Lib.PyRe

/-!
# Reading FASTPATH `show` output

The fixed-width tables of `protocols/cli/parse.py`, the interface names, the readers of the VLAN
pages and that of `show logging`.  A ruler line of dash groups says where the columns of the table
under it start; a cell is what stands from its column's start up to the next, stripped.

An interface name and a VLAN header hold a number of any length: where `int()` would refuse one,
the `str()` that printed the page would have too.
-/

namespace NetgearSwitch.Cli

open PyText

/-! ## §1 Tables -/

/-- A blank or a tab. -/
def isBlank (c : Char) : Bool := c = ' ' || c = '\t'

/-- `_RULER_RE`: blanks, two dashes, then dashes and blanks. -/
def isRuler (line : Text) : Bool :=
  let body := line.dropWhile isBlank
  body.take 2 = ['-', '-'] && body.all fun c => c = '-' || isBlank c

/-- Where the dash runs of a text start, its first character at place `i`, right after a dash or
not. -/
def dashStarts (i : ℕ) (afterDash : Bool) : Text → List ℕ
  | [] => []
  | c :: t =>
    if c = '-' then
      if afterDash then dashStarts (i + 1) true t else i :: dashStarts (i + 1) true t
    else dashStarts (i + 1) false t

/-- Each column up to the next, the last up to the end of the line. -/
def spansOf : List ℕ → List (ℕ × Option ℕ)
  | [] => []
  | [start] => [(start, none)]
  | start :: next :: starts => (start, some next) :: spansOf (next :: starts)

/-- `_ruler_spans`. -/
def rulerSpans (ruler : Text) : List (ℕ × Option ℕ) := spansOf (dashStarts 0 false ruler)

/-- `_slice_cell`. -/
def sliceCell (row : Text) : ℕ × Option ℕ → Text
  | (start, some stop) => strip ((row.take stop).drop start)
  | (start, none) => strip (row.drop start)

/-- `_slice_row`. -/
def sliceRow (spans : List (ℕ × Option ℕ)) (row : Text) : List Text := spans.map (sliceCell row)

/-- A line that belongs to the body of a table. -/
def isBodyLine (line : Text) : Bool := strip line ≠ [] && !isRuler line

/-- `iter_table_rows`: the table under the first ruler, or under the first one from a line that
has `after` in it. -/
def iterTableRows (text : Text) (after : Option Text) : List (List Text) :=
  let lines := match after with
    | none => splitLines text
    | some w => (splitLines text).dropWhile fun line => !containsText w line
  match lines.dropWhile fun line => !isRuler line with
  | [] => []
  | ruler :: body => (body.takeWhile isBodyLine).map (sliceRow (rulerSpans ruler))

/-- `header_columns`: the names of the columns, each put together from the lines with text right
above the ruler. -/
def headerColumns (text : Text) (after : Option Text) : List Text :=
  let lines := splitLines text
  let first := match after with
    | none => 0
    | some w => lines.findIdx (containsText w)
  let idx := first + (lines.drop first).findIdx isRuler
  match lines[idx]? with
  | none => []
  | some ruler =>
    let header := ((lines.take idx).reverse.takeWhile isBodyLine).reverse
    (rulerSpans ruler).map fun span =>
      collapseBlank (joinText [' '] ((header.map fun line => sliceCell line span).filter (· ≠ [])))

/-! ## §2 Interfaces and VLANs -/

/-- `_phys_port`: the port of `1/0/7`, `1/g7` or `1/xg49`. -/
def physPort (iface : Text) : Option ℤ :=
  let port (unit digits : Text) : Option ℤ :=
    if isNumber unit && isNumber digits then some (decimalsValue digits) else none
  match (strip iface).splitOn '/' with
  | [unit, slot, digits] => if slot = ['0'] then port unit digits else none
  | [unit, 'x' :: 'g' :: digits] => port unit digits
  | [unit, 'g' :: digits] => port unit digits
  | _ => none

/-- `_VLAN_HEADER_RE`. -/
def vlanHeaderRe : PyRe.Rest Text :=
  PyRe.lit "VLAN ID:" <| PyRe.many isSpace fun _ => PyRe.many1 isDecimal fun ds _ => some ds

/-- `_VLAN_NAME_RE`; the blanks after the colon may run over the end of its line. -/
def vlanNameRe : PyRe.Rest Text :=
  PyRe.lit "VLAN Name:" <| PyRe.many isSpace fun _ =>
    PyRe.many (fun c => c ≠ '\n') fun name _ => some name

/-- `cell.strip().lower()`. -/
def cellWord (cell : Text) : Text := (strip cell).map Char.toLower

/-- The member a row of `show vlan <id>` tells of, and whether it is tagged. -/
def vlanMember (cells : List Text) : Option (ℤ × Bool) :=
  match cells with
  | iface :: current :: _ :: tagging :: _ =>
    (physPort iface).bind fun port =>
      if cellWord current ≠ "include".toList then none
      else some (port, cellWord tagging = "tagged".toList)
  | _ => none

/-- `parse_vlan_detail`. -/
def parseVlanDetail (text : Text) (name : Option Text) : VLANInfo :=
  let members := (iterTableRows text none).filterMap vlanMember
  let tagged := ((members.filter fun e => e.2).map Prod.fst).toFinset
  let untagged := ((members.filter fun e => !e.2).map Prod.fst).toFinset
  let pageName := (PyRe.search vlanNameRe text).map strip
  { vlanId := ((PyRe.search vlanHeaderRe text).map decimalsValue).getD 0
    name := name.orElse fun _ => pageName
    memberPorts := tagged ∪ untagged
    taggedPorts := tagged
    untaggedPorts := untagged }

/-- `parse_vlan_brief`: the VLANs `show vlan brief` lists, with their names. -/
def parseVlanBrief (text : Text) : List (ℤ × Text) :=
  (iterTableRows text none).filterMap fun cells =>
    match cells with
    | [] => none
    | vid :: rest => (pyInt vid).map fun v => (v, rest.headD [])

/-- `parse_pvids`: the configured PVID of every physical port. -/
def parsePvids (text : Text) : List (ℤ × ℤ) :=
  (iterTableRows text none).filterMap fun cells =>
    match cells with
    | iface :: pvid :: _ => (physPort iface).bind fun port => (pyInt pvid).map fun v => (port, v)
    | _ => none

/-! ## §3 Remote logging -/

/-- The label and the value of a line of `show logging`. -/
def colonField (line : Text) : Option (Text × Text) :=
  (splitOnce [':'] line).bind fun (label, value) =>
    if strip label = [] then none else some (strip label, strip value)

/-- `_colon_fields`: the last line of a label counts. -/
def colonFields (text : Text) : PyDict Text Text := .ofList ((splitLines text).filterMap colonField)

/-- The first five words of a line of `show logging hosts` that starts with an index. -/
def hostCells (line : Text) : Option (Text × Text × Text × Text × Text) :=
  match splitBlank line with
  | index :: host :: severity :: port :: status :: _ =>
    if isDigitText index then some (index, host, severity, port, status) else none
  | _ => none

/-- The collector of a row; a severity without a number raises, as `int()` may. -/
def syslogServer : Text × Text × Text × Text × Text → Except LibError SyslogServer
  | (index, host, severity, port, status) => do
    let number ← if isDigitText port then orRaise .valueError (intOfDigits port) else pure 0
    let level ← orRaise .valueError (syslogSeverity severity)
    let row ← orRaise .valueError (intOfDigits index)
    pure
      { host := host
        port := (number : ℤ)
        severity := level
        active := status.map Char.toLower = "active".toList
        index := some (row : ℤ) }

/-- `parse_syslog`. -/
def parseSyslog (loggingText hostsText : Text) : Except LibError SyslogConfig := do
  let fields := colonFields loggingText
  let enabled ← orRaise .cliCommand (fields.get? "Syslog Logging".toList)
  let portText ← orRaise .cliCommand (fields.get? "Logging Client Local Port".toList)
  let localPort ← if isDigitText portText then orRaise .valueError (intOfDigits portText)
    else .error .cliCommand
  let servers ← ((splitLines hostsText).filterMap hostCells).mapM syslogServer
  pure
    { enabled := cellWord enabled = "enabled".toList
      localPort := (localPort : ℤ)
      servers := servers }

/-! ## §4 The ruler of a table -/

/-- The ruler over columns of these widths. -/
def rulerLine (widths : List ℕ) : Text :=
  joinText [' '] (widths.map fun w => List.replicate w '-')

/-- Where columns of these widths start, the first at place `i`. -/
def offsets (i : ℕ) : List ℕ → List ℕ
  | [] => []
  | w :: ws => i :: offsets (i + w + 1) ws

private theorem dashStarts_replicate (n : ℕ) : ∀ (i : ℕ) (t : Text),
    dashStarts i true (List.replicate n '-' ++ t) = dashStarts (i + n) true t := by
  induction n with
  | zero => exact fun _ _ => rfl
  | succ n ih =>
    intro i t
    rw [List.replicate_succ, List.cons_append, dashStarts, if_pos rfl, if_pos rfl, ih,
      Nat.add_right_comm, Nat.add_assoc]

theorem dashStarts_rulerLine {widths : List ℕ} (h : ∀ w ∈ widths, 0 < w) (i : ℕ) :
    dashStarts i false (rulerLine widths) = offsets i widths := by
  -- a column of dashes starts at its first dash
  have hcolumn : ∀ {w : ℕ} (i : ℕ) (t : Text), 0 < w →
      dashStarts i false (List.replicate w '-' ++ t) = i :: dashStarts (i + w) true t := by
    intro w i t hw
    obtain ⟨n, rfl⟩ := Nat.exists_eq_succ_of_ne_zero hw.ne'
    rw [List.replicate_succ, List.cons_append, dashStarts, if_pos rfl,
      if_neg Bool.false_ne_true, dashStarts_replicate, Nat.add_right_comm, Nat.add_assoc]
  induction widths generalizing i with
  | nil => rfl
  | cons w ws ih =>
    have hw := h w List.mem_cons_self
    have hrest := ih (fun v hv => h v (List.mem_cons_of_mem _ hv)) (i + w + 1)
    cases ws with
    | nil =>
      have hlast := hcolumn i [] hw
      rw [List.append_nil] at hlast
      rw [rulerLine, List.map_cons, List.map_nil, joinText_singleton, hlast]
      rfl
    | cons w' ws =>
      rw [rulerLine, List.map_cons, List.map_cons, joinText_cons_cons, List.append_assoc,
        hcolumn i _ hw, offsets]
      refine congrArg (i :: ·) ?_
      rw [List.singleton_append, dashStarts, if_neg (by decide)]
      exact hrest

theorem mem_rulerLine {ws : List ℕ} {c : Char} (hc : c ∈ rulerLine ws) : c = '-' ∨ c = ' ' := by
  induction ws with
  | nil => simp [rulerLine, joinText] at hc
  | cons w ws ih =>
    cases ws with
    | nil =>
      rw [rulerLine, List.map_cons, List.map_nil, joinText_singleton] at hc
      exact Or.inl (List.mem_replicate.mp hc).2
    | cons w' ws =>
      rw [rulerLine, List.map_cons, List.map_cons, joinText_cons_cons, List.append_assoc] at hc
      rcases List.mem_append.mp hc with hc | hc
      · exact Or.inl (List.mem_replicate.mp hc).2
      · rcases List.mem_cons.mp hc with rfl | hc
        · exact Or.inr rfl
        · exact ih hc

theorem oneLine_rulerLine (ws : List ℕ) : OneLine (rulerLine ws) := by
  intro c hc
  rcases mem_rulerLine hc with rfl | rfl <;> rfl

theorem isRuler_rulerLine {w : ℕ} {ws : List ℕ} (h : 2 ≤ w) : isRuler (rulerLine (w :: ws)) = true := by
  obtain ⟨n, rfl⟩ := Nat.exists_eq_add_of_le' h
  obtain ⟨t, ht⟩ : ∃ t, rulerLine ((n + 2) :: ws) = '-' :: '-' :: t := by
    cases ws with
    | nil => exact ⟨List.replicate n '-', by simp [rulerLine, List.replicate_succ]⟩
    | cons w' ws =>
      refine ⟨List.replicate n '-' ++ [' '] ++ rulerLine (w' :: ws), ?_⟩
      simp only [rulerLine, List.map_cons, joinText_cons_cons, List.replicate_succ,
        List.cons_append]
  have hall : ∀ c ∈ t, c = '-' ∨ c = ' ' := by
    intro c hc
    refine @mem_rulerLine ((n + 2) :: ws) c ?_
    rw [ht]
    exact List.mem_cons_of_mem _ (List.mem_cons_of_mem _ hc)
  have hblank : isBlank '-' = false := rfl
  rw [isRuler, ht, List.dropWhile_cons_of_neg (by simp [hblank])]
  simp
  intro c hc
  rcases hall c hc with rfl | rfl
  · exact Or.inl rfl
  · exact Or.inr rfl

/-- A line with anything but dashes and blanks is no ruler. -/
theorem isRuler_eq_false {line : Text} {c : Char} (hc : c ∈ line)
    (hne : c ≠ '-' ∧ c ≠ ' ' ∧ c ≠ '\t') : isRuler line = false := by
  have hdrop : ∀ {t : Text}, c ∈ t → c ∈ t.dropWhile isBlank := by
    intro t ht
    induction t with
    | nil => cases ht
    | cons d t ih =>
      by_cases hd : isBlank d = true
      · rw [List.dropWhile_cons_of_pos hd]
        rcases List.mem_cons.mp ht with rfl | ht
        · simp [isBlank, hne.2.1, hne.2.2] at hd
        · exact ih ht
      · rwa [List.dropWhile_cons_of_neg hd]
  rw [isRuler, Bool.and_eq_false_iff]
  refine Or.inr (List.all_eq_false.mpr ⟨c, hdrop hc, ?_⟩)
  simp [isBlank, hne]

/-- A blank line is no ruler. -/
theorem isRuler_of_strip_eq_nil {line : Text} (h : strip line = []) : isRuler line = false := by
  by_contra hruler
  have hbody : (line.dropWhile isBlank).take 2 = ['-', '-'] := by
    simp only [isRuler, Bool.not_eq_false, Bool.and_eq_true, decide_eq_true_eq] at hruler
    exact hruler.1
  have hmem : '-' ∈ (line.dropWhile isBlank).take 2 := by
    rw [hbody]
    exact List.mem_cons_self
  exact strip_ne_nil ((List.dropWhile_suffix _).subset (List.mem_of_mem_take hmem)) rfl h

@[simp] theorem physPort_strip (iface : Text) : physPort (strip iface) = physPort iface := by
  rw [physPort, physPort, strip_strip]

@[simp] theorem cellWord_strip (cell : Text) : cellWord (strip cell) = cellWord cell := by
  rw [cellWord, cellWord, strip_strip]

end NetgearSwitch.Cli
