import NetgearSwitch.Virtual.CliRuns

/-!
# Syslog collectors over the CLI

What `show logging` and `show logging hosts` tell of the remote-logging state, and the removal of
a collector.  The rows of the table keep their own indices, with gaps, and a removal names a row
by its index; a host is looked up in the table as just read.

§1 the pages read back · §2 the commands of a removal · §3 removal
-/

namespace NetgearSwitch.Virtual

open PyText Cli Script CliModelSpec

/-! ## §1 The pages read back -/

/-- The collector a reader should see. -/
def SyslogCollectorSim.asServer (c : SyslogCollectorSim) : SyslogServer where
  host := c.host
  port := c.port
  severity := c.severity
  active := c.status = 1
  index := some c.index

/-- A collector with a host of one word and values in the device's ranges. -/
structure SyslogCollectorSim.InRange (c : SyslogCollectorSim) : Prop where
  host_ne : c.host ≠ []
  host_word : ∀ ch ∈ c.host, isSpace ch = false
  port : 0 ≤ c.port
  severity : 0 ≤ c.severity ∧ c.severity ≤ 7
  index : 0 < c.index

/-- The remote-logging state of a device: distinct indices, everything in range, and no number that
is too long to be printed and read again. -/
structure SyslogSim.InRange (sim : SyslogSim) : Prop where
  localPort : 0 ≤ sim.localPort
  collectors : ∀ c ∈ sim.collectors, c.InRange
  indices : (sim.collectors.map (·.index)).Nodup
  printable : Printable sim.localPort ∧ ∀ c ∈ sim.collectors, Printable c.port ∧ Printable c.index

/-- The configuration a reader should see. -/
def SyslogSim.asConfig (sim : SyslogSim) : SyslogConfig where
  enabled := sim.adminMode = 1
  localPort := sim.localPort
  servers := sim.collectors.map (·.asServer)

namespace VirtualSwitchState

/-- A padded word and a blank are the word. -/
private theorem splitBlank_ljust {w : Text} (n : ℕ) (rest : Text) (hne : w ≠ [])
    (hw : ∀ c ∈ w, isSpace c = false) : splitBlank (ljust w n ++ ' ' :: rest) = w :: splitBlank rest := by
  have hpad : ∀ c ∈ List.replicate (n - w.length) ' ', isSpace c = true := by
    intro c hc
    rw [(List.mem_replicate.mp hc).2]
    rfl
  rw [splitBlank_append _ _ (by decide), ljust, splitBlank_append_blanks _ hpad,
    splitBlank_word hne hw, List.singleton_append]

private theorem word_severityWord {level : ℤ} (h : 0 ≤ level ∧ level ≤ 7) :
    severityWord level ≠ [] ∧ (∀ c ∈ severityWord level, isSpace c = false) ∧
      syslogSeverity (severityWord level) = some level := by
  obtain ⟨hlow, hhigh⟩ := h
  interval_cases level <;> decide

private theorem isDigitText_intText {n : ℤ} (h : 0 ≤ n) : isDigitText (intText n) = true := by
  obtain ⟨m, rfl⟩ := Int.eq_ofNat_of_zero_le h
  rw [intText_natCast]
  exact isDigitText_natText m

private theorem intOfDigits_intText {n : ℤ} (h : 0 ≤ n) (hprint : Printable n) :
    ∃ m : ℕ, intOfDigits (intText n) = some m ∧ (m : ℤ) = n := by
  obtain ⟨m, rfl⟩ := Int.eq_ofNat_of_zero_le h
  rw [intText_natCast]
  exact ⟨m, intOfDigits_natText hprint, rfl⟩

/-- The status a row prints. -/
private def statusWord (c : SyslogCollectorSim) : Text :=
  (if c.status = 1 then "Active" else "Inactive").toList

private theorem word_statusWord (c : SyslogCollectorSim) :
    statusWord c ≠ [] ∧ (∀ ch ∈ statusWord c, isSpace ch = false) ∧
      (decide ((statusWord c).map Char.toLower = "active".toList)) = decide (c.status = 1) := by
  unfold statusWord
  split_ifs with h
  · rw [decide_eq_true h]
    decide
  · rw [decide_eq_false h]
    decide

theorem hostCells_loggingHostRow {c : SyslogCollectorSim} (h : c.InRange) :
    hostCells (loggingHostRow c) =
      some (intText c.index, c.host, severityWord c.severity, intText c.port, statusWord c) := by
  obtain ⟨hsevne, hsev, _⟩ := word_severityWord h.severity
  obtain ⟨hstatne, hstat, _⟩ := word_statusWord c
  have hrow : loggingHostRow c = ljust (intText c.index) 5 ++ ' ' :: (ljust c.host 24 ++ ' ' ::
      (ljust (severityWord c.severity) 10 ++ ' ' :: (ljust (intText c.port) 6 ++ ' ' ::
        (ljust (statusWord c) 9 ++ ' ' :: "udp".toList)))) := by
    simp only [loggingHostRow, List.append_assoc, List.singleton_append]
    rfl
  rw [hostCells, hrow, splitBlank_ljust _ _ (intText_ne_nil _) (isSpace_intText _),
    splitBlank_ljust _ _ h.host_ne h.host_word, splitBlank_ljust _ _ hsevne hsev,
    splitBlank_ljust _ _ (intText_ne_nil _) (isSpace_intText _), splitBlank_ljust _ _ hstatne hstat]
  dsimp only
  rw [if_pos (isDigitText_intText (le_of_lt h.index))]

theorem syslogServer_loggingHostRow {c : SyslogCollectorSim} (h : c.InRange)
    (hprint : Printable c.port ∧ Printable c.index) :
    syslogServer (intText c.index, c.host, severityWord c.severity, intText c.port, statusWord c) =
      .ok c.asServer := by
  obtain ⟨port, hportRead, hportValue⟩ := intOfDigits_intText h.port hprint.1
  obtain ⟨index, hindexRead, hindexValue⟩ := intOfDigits_intText (le_of_lt h.index) hprint.2
  rw [syslogServer, (word_severityWord h.severity).2.2, hportRead, hindexRead,
    if_pos (isDigitText_intText h.port)]
  show Except.ok (_ : SyslogServer) = _
  simp only [SyslogCollectorSim.asServer, hportValue, hindexValue, (word_statusWord c).2.2]

/-- An index that is too long raises. -/
theorem syslogServer_overlong {c : SyslogCollectorSim} {server : SyslogServer} (h : 0 < c.index)
    (hindex : ¬Printable c.index) (severity port status : Text) :
    syslogServer (intText c.index, c.host, severity, port, status) ≠ .ok server := by
  intro hok
  have hnone : intOfDigits (intText c.index) = none := by
    rw [intText, if_neg (Int.not_lt.mpr (le_of_lt h))]
    exact intOfDigits_eq_none hindex
  rw [syslogServer, hnone] at hok
  split_ifs at hok
  all_goals
    obtain ⟨number, -, hok⟩ := bind_eq_ok.mp hok
    obtain ⟨level, -, hok⟩ := bind_eq_ok.mp hok
    obtain ⟨row, hrow, -⟩ := bind_eq_ok.mp hok
    cases hrow

/-- A row stands on one line, and is not empty. -/
private theorem oneLine_loggingHostRow {c : SyslogCollectorSim} (h : c.InRange) :
    OneLine (loggingHostRow c) ∧ loggingHostRow c ≠ [] := by
  have hblank : OneLine [' '] := by decide
  have hword : ∀ {w : Text} (n : ℕ), (∀ ch ∈ w, isSpace ch = false) → OneLine (ljust w n) := by
    intro w n hw
    apply oneLine_of_blank
    intro ch hch
    rcases List.mem_append.mp hch with hch | hch
    · exact Or.inr (hw ch hch)
    · exact Or.inl (List.mem_replicate.mp hch).2
  constructor
  · exact (((((((((hword 5 (isSpace_intText _)).append hblank).append
      (hword 24 h.host_word)).append hblank).append
      (hword 10 (word_severityWord h.severity).2.1)).append hblank).append
      (hword 6 (isSpace_intText _))).append hblank).append
      (hword 9 (word_statusWord c).2.1)).append (by decide)
  · simp [loggingHostRow]

private theorem splitLines_renderLoggingHosts {s : VirtualSwitchState}
    (h : ∀ c ∈ s.syslog.collectors, c.InRange) :
    (splitLines s.renderLoggingHosts).filterMap hostCells =
      (s.syslog.collectors.map loggingHostRow).filterMap hostCells := by
  have hrows : ∀ l ∈ s.syslog.collectors.map loggingHostRow, OneLine l ∧ l ≠ [] := by
    intro l hl
    obtain ⟨c, hc, rfl⟩ := List.mem_map.mp hl
    exact oneLine_loggingHostRow (h c hc)
  -- the title and the rule are no rows
  have hlines := @splitLines_joinText_append
    ["Index   IP Address/Hostname     Severity    Port   Status  Mode   Auth    Cert#".toList]
    ("----- ------------------------ ---------- ------ --------- ----- -------- -----".toList ::
      s.syslog.collectors.map loggingHostRow) (List.cons_ne_nil _ _)
    (by
      intro l hl
      simp only [List.singleton_append, List.mem_cons] at hl
      rcases hl with rfl | rfl | hl
      · decide
      · decide
      · exact (hrows l hl).1)
    (by
      intro l hl
      rcases List.mem_cons.mp hl with rfl | hl
      · decide
      · exact (hrows l hl).2)
  have htitle : hostCells
      "Index   IP Address/Hostname     Severity    Port   Status  Mode   Auth    Cert#".toList =
        none := by decide +kernel
  have hrule : hostCells
      "----- ------------------------ ---------- ------ --------- ----- -------- -----".toList =
        none := by decide +kernel
  rw [renderLoggingHosts, List.cons_append, List.singleton_append]
  rw [List.singleton_append] at hlines
  rw [hlines, List.filterMap_cons_none htitle, List.filterMap_cons_none hrule]

/-- The rows of the table, in order. -/
theorem servers_renderLoggingHosts {s : VirtualSwitchState} (h : s.syslog.InRange) :
    ((splitLines s.renderLoggingHosts).filterMap hostCells).mapM syslogServer =
      .ok (s.syslog.collectors.map (·.asServer)) := by
  rw [splitLines_renderLoggingHosts h.collectors]
  have hrange : ∀ c ∈ s.syslog.collectors, c.InRange := h.collectors
  have hprint : ∀ c ∈ s.syslog.collectors, Printable c.port ∧ Printable c.index := h.printable.2
  generalize s.syslog.collectors = cs at hrange hprint
  induction cs with
  | nil => rfl
  | cons c cs ih =>
    obtain ⟨hc, hcs⟩ := List.forall_mem_cons.mp hrange
    obtain ⟨hcPrint, hcsPrint⟩ := List.forall_mem_cons.mp hprint
    rw [List.map_cons, List.filterMap_cons_some (hostCells_loggingHostRow hc), List.mapM_cons,
      syslogServer_loggingHostRow hc hcPrint, ih hcs hcsPrint]
    rfl

/-- A table of one row with an index that is too long is not read. -/
theorem parseSyslog_overlong {s : VirtualSwitchState} {c : SyslogCollectorSim}
    {config : SyslogConfig} {loggingText : Text} (hone : s.syslog.collectors = [c])
    (h : c.InRange) (hindex : ¬Printable c.index) :
    parseSyslog loggingText s.renderLoggingHosts ≠ .ok config := by
  intro hok
  obtain ⟨enabled, -, hok⟩ := bind_eq_ok.mp hok
  obtain ⟨portText, -, hok⟩ := bind_eq_ok.mp hok
  split_ifs at hok
  swap
  · cases hok
  obtain ⟨localPort, -, hok⟩ := bind_eq_ok.mp hok
  obtain ⟨servers, hservers, -⟩ := bind_eq_ok.mp hok
  rw [splitLines_renderLoggingHosts (by rw [hone]; exact List.forall_mem_singleton.mpr h), hone,
    List.map_singleton, List.filterMap_cons_some (hostCells_loggingHostRow h), List.mapM_cons]
    at hservers
  obtain ⟨server, hserver, -⟩ := bind_eq_ok.mp hservers
  exact syslogServer_overlong h.index hindex _ _ _ hserver

/-- The field of a label, with its padding and its colon. -/
theorem colonField_append {line label value : Text} {padded : Text}
    (hline : line = padded ++ [':', ' ']) (hcolon : ':' ∉ padded) (hlabel : strip padded = label)
    (hne : label ≠ []) (hvalue : ∀ c ∈ value, isSpace c = false) :
    colonField (line ++ value) = some (label, value) := by
  have hsplit := @splitOnce_append ':' [] padded (' ' :: value) hcolon
  have hstrip : strip (' ' :: value) = value := strip_of_not_isSpace hvalue
  rw [hline, List.append_assoc, show [':', ' '] ++ value = [':'] ++ ' ' :: value from rfl,
    ← List.append_assoc, colonField, hsplit]
  show (if strip padded = [] then none else some (strip padded, strip (' ' :: value))) = _
  rw [hlabel, hstrip, if_neg hne]

/-- The lines of `show logging` that never vary, around the one that says whether it is on. -/
private def linesBefore : List Text := [
  "Logging Client Source Interface     : serviceport".toList,
  "CLI Command Logging                 : disabled".toList,
  "Console Logging                     : disabled".toList,
  "Console Logging Severity Filter     : error".toList,
  "Buffered Logging                    : enabled".toList,
  "Buffered Logging Severity Filter    : notice".toList,
  []]

private def linesAfter : List Text := [
  [],
  "Log Messages Received               : 9850".toList,
  "Log Messages Dropped                : 0".toList,
  "Log Messages Relayed                : 118".toList]

private def fieldsBefore : List (Text × Text) := [
  ("Logging Client Source Interface".toList, "serviceport".toList),
  ("CLI Command Logging".toList, "disabled".toList),
  ("Console Logging".toList, "disabled".toList),
  ("Console Logging Severity Filter".toList, "error".toList),
  ("Buffered Logging".toList, "enabled".toList),
  ("Buffered Logging Severity Filter".toList, "notice".toList)]

private def fieldsAfter : List (Text × Text) := [
  ("Log Messages Received".toList, "9850".toList),
  ("Log Messages Dropped".toList, "0".toList),
  ("Log Messages Relayed".toList, "118".toList)]

private theorem fixedFields : linesBefore.filterMap colonField = fieldsBefore ∧
    linesAfter.filterMap colonField = fieldsAfter := by decide +kernel

/-- The two fields a reader takes out of `show logging`. -/
theorem colonFields_renderLogging (s : VirtualSwitchState) :
    (colonFields s.renderLogging).get? "Syslog Logging".toList =
        some (if s.syslog.adminMode = 1 then "enabled" else "disabled").toList ∧
      (colonFields s.renderLogging).get? "Logging Client Local Port".toList =
        some (intText s.syslog.localPort) := by
  have hport : OneLine (intText s.syslog.localPort) :=
    oneLine_of_blank fun c hc => Or.inr (isSpace_intText _ c hc)
  have hmode : OneLine (if s.syslog.adminMode = 1 then "enabled" else "disabled").toList := by
    split_ifs <;> decide
  have hlines : splitLines s.renderLogging = s.loggingLines := by
    refine splitLines_joinText_getLast (List.cons_ne_nil _ _) ?_ ?_
    · simp only [loggingLines, List.forall_mem_cons]
      refine ⟨.append (by decide) hport, by decide, by decide, by decide, by decide, by decide,
        by decide, by decide, .append (by decide) hmode, ?_⟩
      decide
    · show "Log Messages Relayed                : 118".toList ≠ []
      decide
  -- the two lines that vary
  have hportField := @colonField_append "Logging Client Local Port           : ".toList
    "Logging Client Local Port".toList (intText s.syslog.localPort)
    "Logging Client Local Port           ".toList (by decide) (by decide) (by decide) (by decide)
    (isSpace_intText _)
  have hmodeField := @colonField_append "Syslog Logging                      : ".toList
    "Syslog Logging".toList (if s.syslog.adminMode = 1 then "enabled" else "disabled").toList
    "Syslog Logging                      ".toList (by decide) (by decide) (by decide) (by decide)
    (by split_ifs <;> decide)
  have hfields : s.loggingLines.filterMap colonField =
      ("Logging Client Local Port".toList, intText s.syslog.localPort) :: fieldsBefore ++
        ("Syslog Logging".toList,
          (if s.syslog.adminMode = 1 then "enabled" else "disabled").toList) :: fieldsAfter := by
    rw [show s.loggingLines = _ :: linesBefore ++ _ :: linesAfter from rfl, List.cons_append,
      List.filterMap_cons_some hportField, List.filterMap_append,
      List.filterMap_cons_some hmodeField, fixedFields.1, fixedFields.2]
    rfl
  have hnodup : (("Logging Client Local Port".toList, intText s.syslog.localPort) :: fieldsBefore ++
      ("Syslog Logging".toList,
        (if s.syslog.adminMode = 1 then "enabled" else "disabled").toList) :: fieldsAfter).map
          Prod.fst |>.Nodup := by
    show ("Logging Client Local Port".toList :: fieldsBefore.map Prod.fst ++
      "Syslog Logging".toList :: fieldsAfter.map Prod.fst).Nodup
    decide
  rw [colonFields, hlines, hfields]
  constructor
  · apply PyDict.get?_of_mem_items
    rw [PyDict.items_ofList hnodup]
    exact List.mem_append_right _ List.mem_cons_self
  · apply PyDict.get?_of_mem_items
    rw [PyDict.items_ofList hnodup]
    exact List.mem_cons_self

/-- **The logging pages are read back.**  The reader sees the remote-logging state, every
collector in its place and under its own index. -/
theorem parseSyslog_renderLogging {s : VirtualSwitchState} (h : s.syslog.InRange) :
    parseSyslog s.renderLogging s.renderLoggingHosts = .ok s.syslog.asConfig := by
  obtain ⟨henabled, hport⟩ := colonFields_renderLogging s
  have hdigits := isDigitText_intText h.localPort
  obtain ⟨n, hread, hvalue⟩ := intOfDigits_intText h.localPort h.printable.1
  have hword : decide (cellWord (if s.syslog.adminMode = 1 then "enabled" else "disabled").toList =
      "enabled".toList) = decide (s.syslog.adminMode = 1) := by
    split_ifs with hmode
    · rw [decide_eq_true hmode]
      decide
    · rw [decide_eq_false hmode]
      decide
  rw [parseSyslog, henabled, hport, servers_renderLoggingHosts h]
  simp only [Bind.bind, Except.bind, orRaise_some, hdigits, if_true, hread, hvalue, hword]
  rfl

end VirtualSwitchState

namespace VirtualCliFace

/-! ## §2 The commands of a removal -/

/-- The texts of the pages, where those of the logging state are the ones modelled. -/
def withLogging (render : VirtualSwitchState → Text → Text) (s : VirtualSwitchState) (c : Text) :
    Text :=
  if c = loggingCmd then s.renderLogging
  else if c = loggingHostsCmd then s.renderLoggingHosts
  else render s c

theorem showCommand_logging (f : VirtualCliFace) :
    f.showCommand loggingCmd = (f, .page) ∧ f.showCommand loggingHostsCmd = (f, .page) := by
  have hother : ∀ {key : ModelKey} {spec : CliModelSpec}, cliSpec key = some spec →
      ∀ c ∈ [loggingCmd, loggingHostsCmd],
        c ≠ spec.vlanBriefCmd ∧ c ≠ spec.pvidCmd ∧ c ≠ spec.poeCmd ∧ c ∈ pageCmds spec := by
    intro key spec hspec
    cases key <;> cases hspec <;> decide
  unfold showCommand
  cases hspec : cliSpec f.state.modelKey with
  | none => exact ⟨rfl, rfl⟩
  | some spec =>
    obtain ⟨hbrief, hpvid, hpoe, hpage⟩ := hother hspec loggingCmd List.mem_cons_self
    obtain ⟨hbrief', hpvid', hpoe', hpage'⟩ := hother hspec loggingHostsCmd (by simp)
    dsimp only
    rw [if_neg hbrief, if_neg hpvid, if_neg hpoe, if_pos hpage, if_neg hbrief', if_neg hpvid',
      if_neg hpoe', if_pos hpage']
    exact ⟨rfl, rfl⟩

/-- The logging pages answer in EXEC mode. -/
theorem run_loggingCmds {f : VirtualCliFace} (hexec : f.modes = []) :
    f.run loggingCmd = (f, .page) ∧ f.run loggingHostsCmd = (f, .page) := by
  obtain ⟨hlogging, hhosts⟩ := showCommand_logging f
  constructor
  · rw [run_eq f (by decide) (by decide) (by decide) (by decide),
      configCommand_exec hexec (by decide) (by decide), overlongReply?_exec hexec]
    exact hlogging
  · rw [run_eq f (by decide) (by decide) (by decide) (by decide),
      configCommand_exec hexec (by decide) (by decide), overlongReply?_exec hexec]
    exact hhosts

theorem words_loggingHostRemove (index : ℤ) : words (loggingHostRemove index) =
    ["logging".toList, "host".toList, "remove".toList, intText index] := by
  have hjoin : loggingHostRemove index =
      joinText [' '] ["logging".toList, "host".toList, "remove".toList, intText index] := by
    simp only [joinText_cons_cons, joinText_singleton, List.append_assoc]
    rfl
  rw [hjoin]
  refine words_joinText (List.cons_ne_nil _ _) ?_
  simp only [List.forall_mem_cons]
  exact ⟨by decide, by decide, by decide, blank_not_mem_intText index, nofun⟩

theorem ofText_loggingHostRemove {index : ℤ} (h : 0 ≤ index) (hprint : Printable index) :
    ConfigCommand.ofText (loggingHostRemove index) = some (.loggingHostRemove index) := by
  have hhostname : hostnameArgument (loggingHostRemove index) = none := by
    unfold hostnameArgument
    dsimp only
    rw [if_pos (Or.inl (by
      intro htake
      have hhead : some 'l' = some 'h' := congrArg List.head? htake
      exact absurd hhead (by decide)))]
  have hquote : '"' ∉ loggingHostRemove index := by
    intro hmem
    rcases List.mem_append.mp hmem with hmem | hmem
    · exact absurd hmem (by decide)
    · exact absurd (mem_intText hmem) (by decide)
  have hadd : loggingHostArgument number? (loggingHostRemove index) = none := by
    rw [loggingHostArgument, List.splitOn_eq_singleton hquote]
  have hnegation : isLoggingHostNegation (loggingHostRemove index) = false := by
    unfold isLoggingHostNegation
    dsimp only
    rw [Bool.and_eq_false_imp]
    intro htake
    have hhead : some 'l' = some 'n' := congrArg List.head? (of_decide_eq_true htake)
    exact absurd hhead (by decide)
  rw [ConfigCommand.ofText, ConfigCommand.ofTextWith, hhostname, hadd, hnegation,
    words_loggingHostRemove]
  dsimp only
  rw [if_neg (by decide), if_pos ⟨rfl, rfl, rfl⟩, number?_intText h hprint]
  rfl

/-- The removal of a row, in configuration mode. -/
theorem run_loggingHostRemove {f : VirtualCliFace} (hmode : f.modes.head? = some .config)
    {index : ℤ} (h : 0 ≤ index) (hprint : Printable index) : f.run (loggingHostRemove index) =
      ((f.globalCommand (.loggingHostRemove index)).1,
        .text (f.globalCommand (.loggingHostRemove index)).2) := by
  have hne : ∀ m : Text, m.head? ≠ some 'l' → loggingHostRemove index ≠ m := by
    rintro m hm rfl
    exact hm rfl
  have hstrip : strip (loggingHostRemove index) = loggingHostRemove index := by
    apply strip_append_intText
    intro c hc
    cases hc
    rfl
  have hsetup : isSetup (loggingHostRemove index) = false := by
    rw [isSetup, words_loggingHostRemove, decide_eq_false (hne _ (by decide)),
      decide_eq_false (hne _ (by decide))]
    rfl
  have hconfigure : ¬(loggingHostRemove index = "config".toList ∨
      loggingHostRemove index = "configure".toList ∨
      loggingHostRemove index = "config terminal".toList ∨
      loggingHostRemove index = "configure terminal".toList) := by
    rintro (heq | heq | heq | heq)
    all_goals exact hne _ (by decide) heq
  have hparms : networkParms (loggingHostRemove index) = none := by
    have hword : "logging".toList ≠ "network".toList := by decide
    rw [networkParms, words_loggingHostRemove]
    dsimp only
    rw [if_neg fun hwords => hword hwords.1]
  rw [run_eq f hstrip hsetup (hne _ (by decide)) (hne _ (by decide))]
  unfold configCommand
  rw [if_neg (hne _ (by decide)), if_neg (hne _ (by decide)), if_neg (hne _ (by decide)),
    if_neg hconfigure, hparms, hmode, ofText_loggingHostRemove h hprint]
  rfl

/-! ## §3 Removal -/

section Removal

variable {w : CliWriter} {render : VirtualSwitchState → Text → Text}

/-- The writer that reads the logging pages as `parse_syslog` does. -/
def readingSyslog (w : CliWriter) : CliWriter :=
  { w with pages := { w.pages with syslog := parseSyslog } }

/-- Reading the logging state in EXEC mode changes nothing. -/
theorem ends_getSyslog (w : CliWriter) (render : VirtualSwitchState → Text → Text)
    {f : VirtualCliFace} (hexec : f.modes = []) (h : f.state.syslog.InRange) :
    Ends (answer (withLogging render)) (readingSyslog w).getSyslog f
      (.ok f.state.syslog.asConfig) f := by
  obtain ⟨hlogging, hhosts⟩ := run_loggingCmds hexec
  have hread := VirtualSwitchState.parseSyslog_renderLogging h
  refine (ends_page hlogging).bind ((ends_page hhosts).bind ?_)
  have hpage : withLogging render f.state (strip loggingCmd) = f.state.renderLogging :=
    if_pos (by decide)
  have hhostsPage : withLogging render f.state (strip loggingHostsCmd) =
      f.state.renderLoggingHosts := (if_neg (by decide)).trans (if_pos (by decide))
  rw [hpage, hhostsPage]
  show Ends _ (done (parseSyslog _ _)) _ _ _
  rw [hread]
  exact ends_done _

/-- The state without the row of an index; the other rows keep theirs. -/
def withoutCollector (s : VirtualSwitchState) (index : ℤ) : VirtualSwitchState :=
  { s with syslog := { s.syslog with
      collectors := s.syslog.collectors.filter fun d => d.index ≠ index } }

theorem inRange_withoutCollector {s : VirtualSwitchState} (h : s.syslog.InRange) (index : ℤ) :
    (withoutCollector s index).syslog.InRange where
  localPort := h.localPort
  collectors := fun d hd => h.collectors d (List.mem_of_mem_filter hd)
  indices := List.Nodup.sublist (List.Sublist.map _ List.filter_sublist) h.indices
  printable := ⟨h.printable.1, fun d hd => h.printable.2 d (List.mem_of_mem_filter hd)⟩

/-- A row is the only one of its index. -/
theorem eq_of_index_eq {s : VirtualSwitchState} (h : s.syslog.InRange) {c d : SyslogCollectorSim}
    (hc : c ∈ s.syslog.collectors) (hd : d ∈ s.syslog.collectors) (hindex : d.index = c.index) :
    d = c := List.inj_on_of_nodup_map h.indices hd hc hindex

/-- The face removes the row of the index, and no other. -/
theorem globalCommand_loggingHostRemove {f : VirtualCliFace} (h : f.state.syslog.InRange)
    {c : SyslogCollectorSim} (hc : c ∈ f.state.syslog.collectors) :
    f.globalCommand (.loggingHostRemove c.index) =
      ({ f with state := withoutCollector f.state c.index }, accepted) := by
  have hfind : f.state.syslog.collectors.find? (fun d => d.index = c.index) = some c := by
    cases hrow : f.state.syslog.collectors.find? (fun d => d.index = c.index) with
    | none =>
      have hnone := List.find?_eq_none.mp hrow c hc
      simp at hnone
    | some d =>
      have hindex : d.index = c.index := by simpa using List.find?_some hrow
      rw [eq_of_index_eq h hc (List.mem_of_find?_eq_some hrow) hindex]
  have hnodup : f.state.syslog.collectors.Nodup := List.Nodup.of_map _ h.indices
  have herase : f.state.syslog.collectors.erase c =
      f.state.syslog.collectors.filter fun d => d.index ≠ c.index := by
    rw [hnodup.erase_eq_filter]
    refine List.filter_congr ?_
    intro d hd
    by_cases hdc : d = c
    · simp [hdc]
    · have hindex : d.index ≠ c.index := fun heq => hdc (eq_of_index_eq h hc hd heq)
      simp [hdc, hindex]
  unfold globalCommand
  simp only [hfind, herase]
  rfl

/-- The writer removes the first row of the host, and tells whether another is left. -/
theorem ends_removeSyslogCollector (w : CliWriter) (render : VirtualSwitchState → Text → Text)
    {s : VirtualSwitchState} (h : s.syslog.InRange) {host : Text} {c : SyslogCollectorSim}
    (hfirst : s.syslog.collectors.find? (·.host = host) = some c) :
    Ends (answer (withLogging render)) ((readingSyslog w).removeSyslogCollector host)
      { state := s }
      (if ∃ d ∈ s.syslog.collectors, d.index ≠ c.index ∧ d.host = host then
        .error .writeVerification else .ok ())
      { state := withoutCollector s c.index } := by
  have hc : c ∈ s.syslog.collectors := List.mem_of_find?_eq_some hfirst
  have hrow : s.syslog.asConfig.servers.find? (·.host = host) = some c.asServer := by
    show (s.syslog.collectors.map (·.asServer)).find? _ = _
    rw [List.find?_map]
    exact congrArg (Option.map _) hfirst
  let before : VirtualCliFace := { state := s, modes := [.config] }
  let removed : VirtualCliFace := { state := withoutCollector s c.index, modes := [.config] }
  have hremove : before.run (loggingHostRemove c.index) = (removed, .text accepted) := by
    have hrange := h.collectors c hc
    rw [run_loggingHostRemove rfl (le_of_lt hrange.index) (h.printable.2 c hc).2,
      globalCommand_loggingHostRemove h hc]
  have hexit : leave 1 removed = { state := withoutCollector s c.index } :=
    congrArg Prod.fst (run_exit rfl)
  have hinMode := @ends_inMode (withLogging render) { state := s } before removed
    [configureCmd] [loggingHostRemove c.index] (.ok ()) (.cons (run_configure rfl) (.nil _))
    (ends_runAll (.cons hremove (.nil _)))
  rw [List.length_singleton, hexit] at hinMode
  have hanother : (withoutCollector s c.index).syslog.asConfig.servers.any (·.host = host) = true ↔
      ∃ d ∈ s.syslog.collectors, d.index ≠ c.index ∧ d.host = host := by
    simp only [SyslogSim.asConfig, withoutCollector, List.any_map, List.any_eq_true,
      List.mem_filter, decide_eq_true_eq, Function.comp_apply, and_assoc]
    rfl
  -- the row is looked up, removed, and looked for once more
  refine (ends_getSyslog w render rfl h).bind ?_
  rw [hrow]
  refine (ends_done _).bind ((ends_done _).bind (hinMode.bind ?_))
  refine (ends_getSyslog w render rfl (inRange_withoutCollector h c.index)).bind ?_
  split_ifs with hleft
  · rw [ensure_of_neg (by simp [hanother.mpr hleft])]
    exact ends_done _
  · exact ends_ensure (by simpa using mt hanother.mp hleft) _

/-- **Collectors keep their indices.**  Over the CLI pages of a device whose collectors are in range
the reader sees them all, each under its own index; and the removal of a listed host takes away the
first row of the host, and no other.  It fails its verification exactly where another row has the
same host. -/
theorem syslogCollectors_keepIndices (w : CliWriter) (render : VirtualSwitchState → Text → Text)
    {s : VirtualSwitchState} (h : s.syslog.InRange) :
    parseSyslog s.renderLogging s.renderLoggingHosts = .ok s.syslog.asConfig ∧
      ∀ host c, s.syslog.collectors.find? (·.host = host) = some c →
        Ends (answer (withLogging render)) ((readingSyslog w).removeSyslogCollector host)
          { state := s }
          (if ∃ d ∈ s.syslog.collectors, d.index ≠ c.index ∧ d.host = host then
            .error .writeVerification else .ok ())
          { state := withoutCollector s c.index } :=
  ⟨VirtualSwitchState.parseSyslog_renderLogging h, fun _ _ hfirst =>
    ends_removeSyslogCollector w render h hfirst⟩

/-- A GSM7252PS that logs to two collectors, with nothing at index 2. -/
def sparseState (first second : Text) : VirtualSwitchState :=
  { bareState with syslog := { collectors := [
    { host := first, port := 514, severity := 6, index := 1 },
    { host := second, port := 5140, severity := 3, index := 3 }] } }

private theorem inRange_sparseState (first second : Text)
    (h : ∀ host ∈ [first, second], host ≠ [] ∧ ∀ ch ∈ host, isSpace ch = false) :
    (sparseState first second).syslog.InRange := by
  have hsmall : ∀ n ∈ ([1, 3, 514, 5140] : List ℤ), Printable n := by
    intro n hn
    simp only [List.mem_cons, List.not_mem_nil, or_false] at hn
    rcases hn with rfl | rfl | rfl | rfl
    all_goals exact printable_of_lt (k := 4) (by decide) (by decide) (by decide)
  simp only [List.forall_mem_cons] at h
  obtain ⟨hfirst, hsecond, _⟩ := h
  refine ⟨show (0 : ℤ) ≤ 514 by decide, ?_, show ([1, 3] : List ℤ).Nodup by decide,
    hsmall 514 (by decide), ?_⟩
  · intro c hc
    simp only [sparseState, List.mem_cons, List.not_mem_nil, or_false] at hc
    rcases hc with rfl | rfl
    · exact ⟨hfirst.1, hfirst.2, show (0 : ℤ) ≤ 514 by decide,
        show (0 : ℤ) ≤ 6 ∧ (6 : ℤ) ≤ 7 by decide, show (0 : ℤ) < 1 by decide⟩
    · exact ⟨hsecond.1, hsecond.2, show (0 : ℤ) ≤ 5140 by decide,
        show (0 : ℤ) ≤ 3 ∧ (3 : ℤ) ≤ 7 by decide, show (0 : ℤ) < 3 by decide⟩
  · intro c hc
    simp only [sparseState, List.mem_cons, List.not_mem_nil, or_false] at hc
    rcases hc with rfl | rfl
    · exact ⟨hsmall 514 (by decide), hsmall 1 (by decide)⟩
    · exact ⟨hsmall 5140 (by decide), hsmall 3 (by decide)⟩

/-- Two collectors on hosts of their own. -/
def sparseSwitch : VirtualSwitchState := sparseState "10.0.0.1".toList "10.0.0.9".toList

/-- Two collectors on one host. -/
def twinSwitch : VirtualSwitchState := sparseState "10.0.0.1".toList "10.0.0.1".toList

/-- The second of two collectors is removed by its index, which is not its place. -/
theorem syslogCollectors_keepIndices_sparse :
    parseSyslog sparseSwitch.renderLogging sparseSwitch.renderLoggingHosts =
        .ok sparseSwitch.syslog.asConfig ∧
      Ends (answer (withLogging fun _ _ => []))
        ((readingSyslog CliWriter.bareWriter).removeSyslogCollector "10.0.0.9".toList)
        { state := sparseSwitch } (.ok ()) { state := withoutCollector sparseSwitch 3 } := by
  have h : sparseSwitch.syslog.InRange := inRange_sparseState _ _ (by decide)
  obtain ⟨hread, hremove⟩ := syslogCollectors_keepIndices CliWriter.bareWriter (fun _ _ => []) h
  refine ⟨hread, ?_⟩
  have hends := hremove "10.0.0.9".toList
    { host := "10.0.0.9".toList, port := 5140, severity := 3, index := 3 } (by decide)
  rwa [if_neg (by decide)] at hends

private theorem not_printable_pow {k : ℕ} (hk : 4300 ≤ k) : ¬Printable (10 ^ k) := by
  rw [Printable, Int.natAbs_pow]
  exact Nat.not_le.mpr (lt_of_le_of_lt hk (lt_length_natText (le_refl _)))

/-- One collector, under an index of 4301 digits. -/
def hugeSwitch : VirtualSwitchState :=
  { bareState with syslog := { collectors := [
    { host := "10.0.0.1".toList, port := 514, severity := 6, index := 10 ^ 4300 }] } }

/-- Of two rows with one host, a removal of the host leaves the second, and fails.  A row whose index
is too long for `int()` is not read at all. -/
theorem removeSyslogCollector_leavesTwin :
    twinSwitch.syslog.InRange ∧
      Ends (answer (withLogging fun _ _ => []))
        ((readingSyslog CliWriter.bareWriter).removeSyslogCollector "10.0.0.1".toList)
        { state := twinSwitch } (.error .writeVerification)
        { state := withoutCollector twinSwitch 1 } ∧
      (withoutCollector twinSwitch 1).syslog.collectors =
        [{ host := "10.0.0.1".toList, port := 5140, severity := 3, index := 3 }] ∧
      (∀ c ∈ hugeSwitch.syslog.collectors, c.InRange) ∧
      parseSyslog hugeSwitch.renderLogging hugeSwitch.renderLoggingHosts ≠
        .ok hugeSwitch.syslog.asConfig := by
  have h : twinSwitch.syslog.InRange := inRange_sparseState _ _ (by decide)
  have hends := ends_removeSyslogCollector CliWriter.bareWriter (fun _ _ => []) h
    (show twinSwitch.syslog.collectors.find? (·.host = "10.0.0.1".toList) =
      some { host := "10.0.0.1".toList, port := 514, severity := 6, index := 1 } by decide)
  rw [if_pos (by decide)] at hends
  have hrange : SyslogCollectorSim.InRange
      { host := "10.0.0.1".toList, port := 514, severity := 6, index := 10 ^ 4300 } :=
    ⟨by decide, by decide, show (0 : ℤ) ≤ 514 by decide,
      show (0 : ℤ) ≤ 6 ∧ (6 : ℤ) ≤ 7 by decide, Int.pow_pos (by decide)⟩
  exact ⟨h, hends, by decide, List.forall_mem_singleton.mpr hrange,
    VirtualSwitchState.parseSyslog_overlong rfl hrange (not_printable_pow (le_refl 4300))⟩

end Removal

end VirtualCliFace

end NetgearSwitch.Virtual
