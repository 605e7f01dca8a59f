import NetgearSwitch.Cli.Writer
import NetgearSwitch.Http.PoeRearm
import NetgearSwitch.Snmp.PoeRearm

/-!
# Power cycles of a port

What the writers of three backends make of one port that is power-cycled: whether the last write
of a re-arm leaves the port enabled, and when the port counts as back.  A device is any machine
that answers the requests of the backend.

§1 the state a re-arm leaves · §2 when a port is back
-/

namespace NetgearSwitch

open Script

/-! ## §1 The state a re-arm leaves -/

/-- An operation behind a guard that returned or failed its verification is past the guard. -/
theorem run_guarded {δ Q A : Type} {m : Machine δ Q A} {d : δ} {c : Prop} [Decidable c]
    {p : Script Q A LibError Unit}
    (h : ((ensure c .protectedPort >>= fun _ => p).run m d).result = .ok () ∨
      ((ensure c .protectedPort >>= fun _ => p).run m d).result = .error .writeVerification) :
    (ensure c .protectedPort >>= fun _ => p).run m d = p.run m d := by
  by_cases hc : c
  · rw [ensure_of_pos hc]
    rfl
  · rw [ensure_of_neg hc] at h
    rcases h with h | h
    · cases h
    · cases h

/-- **The state a re-arm leaves.**  A power cycle or the clearing of a fault that returns or fails a
verification has enabled the port last exactly where the off state was seen: over SNMP by a look
before the first deadline, over the GoAhead UI by the read-back of the off write. -/
theorem rearm_enables_iff {δ ε : Type}
    (m : Machine δ Snmp.SnmpRequest Snmp.SnmpReply) (d : δ) (hm : Snmp.ClientErrors m)
    (n : Machine ε Http.Call (Except LibError Text)) (e : ε) (hn : Http.SessionErrors n)
    (w : Snmp.SnmpWriter) (g : Http.GoAheadWriter) (port : ℤ) (force : Bool)
    (offTries onTries : ℕ) :
    (∀ op ∈ [w.cyclePoe port force offTries onTries, w.clearPoeFault port force offTries onTries],
        (op.run m d).result = .ok () ∨ (op.run m d).result = .error .writeVerification →
          (Snmp.lastPoeAdmin port (op.run m d) = some true ↔ w.TurnsOff m d port offTries)) ∧
      ∀ op ∈ [g.cyclePoe port force onTries, g.clearPoeFault port force onTries],
        (op.run n e).result = .ok () ∨ (op.run n e).result = .error .writeVerification →
          (Http.lastPoeAdmin port (op.run n e) = some true ↔ g.ReadsOff n e port) := by
  constructor
  · intro op hop hend
    rcases List.mem_pair.mp hop with rfl | rfl
    · have hrun : (w.cyclePoe port force offTries onTries).run m d =
          (w.poeRearm port offTries onTries poeCycleComplete).run m d := run_guarded hend
      rw [hrun] at hend ⊢
      exact w.lastPoeAdmin_poeRearm hm hend
    · have hrun : (w.clearPoeFault port force offTries onTries).run m d =
          (w.poeRearm port offTries onTries Snmp.poeRecovered).run m d := run_guarded hend
      rw [hrun] at hend ⊢
      exact w.lastPoeAdmin_poeRearm hm hend
  · intro op hop hend
    have heq : op = g.cyclePoe port force onTries := by
      rcases List.mem_pair.mp hop with rfl | rfl <;> rfl
    subst heq
    have hrun : (g.cyclePoe port force onTries).run n e =
        (g.goaheadPoeRearm port onTries).run n e := run_guarded hend
    rw [hrun] at hend ⊢
    exact g.lastPoeAdmin_goaheadPoeRearm hn hend

/-- A GSM7252PS over SNMP. -/
def poeSnmpWriter : Snmp.SnmpWriter := 
  { modelKey := .gsm7252ps, hasSnmp := Snmp.hasSnmp_gsm7252ps }

/-- A GS728TPP over its XML API. -/
def poeGoAheadWriter : Http.GoAheadWriter where
  spec := (Http.httpSpec .gs728tpp).get Http.isSome_httpSpec_gs728tpp
  isXmlApi := rfl

/-- An agent with one PoE port, always enabled, in one detection state and with its link down. -/
def steadyAgent (detect : ℤ) : Machine Unit Snmp.SnmpRequest Snmp.SnmpReply := fun _ q => ((),
  match q with
  | .walk base =>
    if base = Snmp.pethPsePortAdmin then
      .ok [⟨Snmp.oidText (Snmp.pethPsePortAdmin ++ [1, 5]), .int 1, "INTEGER".toList⟩]
    else if base = Snmp.pethPsePortDetect then
      .ok [⟨Snmp.oidText (Snmp.pethPsePortDetect ++ [1, 5]), .int detect, "INTEGER".toList⟩]
    else .ok []
  | _ => .ok [])

theorem clientErrors_steadyAgent (detect : ℤ) : Snmp.ClientErrors (steadyAgent detect) := by
  intro d q
  unfold steadyAgent
  dsimp only
  split
  · split_ifs <;> exact fun h => nomatch h
  · exact fun h => nomatch h

/-- The PoE page of a UI whose one port is searching. -/
def searchingPage (enabled : Bool) : Text :=
  Xml.render false (Xml.node "DeviceConfiguration" [Xml.node "PoEPSEInterfaceList" [Xml.node "Interface"
    [Xml.leaf "interfaceName" "g5".toList,
      Xml.leaf "adminEnable" (if enabled then ['1'] else ['2']),
      Xml.leaf "detectionStatus" ['2']]]])

/-- A UI that takes every write; it does what the write says, or nothing. -/
def searchingUi (obeys : Bool) : Machine Bool Http.Call (Except LibError Text)
  | enabled, .getPage _ => (enabled, .ok (searchingPage enabled))
  | enabled, .postXml _ body =>
    (if obeys then body = Http.poeAdminBody (Http.portInterfaceName 5) true else enabled,
      .ok "<statusCode>0</statusCode>".toList)
  | enabled, _ => (enabled, .error .http)

theorem sessionErrors_searchingUi (obeys : Bool) : Http.SessionErrors (searchingUi obeys) := by
  intro d c
  cases c <;> exact fun h => nomatch h

private theorem steady_runs :
    (((poeSnmpWriter.cyclePoe 5 false 0 0).run (steadyAgent 3) ()).result =
        .error .writeVerification ∧
      Snmp.lastPoeAdmin 5 ((poeSnmpWriter.cyclePoe 5 false 0 0).run (steadyAgent 3) ()) =
        some false) ∧
    ((poeGoAheadWriter.cyclePoe 5 false 0).run (searchingUi false) true).result =
        .error .writeVerification ∧
      Http.lastPoeAdmin 5 ((poeGoAheadWriter.cyclePoe 5 false 0).run (searchingUi false) true) =
        some false := by
  decide +kernel

/-- A port that keeps delivering, and one that does not take the off write. -/
theorem rearm_enables_iff_steady :
    (Snmp.lastPoeAdmin 5 ((poeSnmpWriter.cyclePoe 5 false 0 0).run (steadyAgent 3) ()) =
        some true ↔ poeSnmpWriter.TurnsOff (steadyAgent 3) () 5 0) ∧
      (Http.lastPoeAdmin 5 ((poeGoAheadWriter.cyclePoe 5 false 0).run (searchingUi false) true) =
        some true ↔ poeGoAheadWriter.ReadsOff (searchingUi false) true 5) := by
  obtain ⟨hsnmp, hgoahead⟩ := rearm_enables_iff (steadyAgent 3) () (clientErrors_steadyAgent 3)
    (searchingUi false) true (sessionErrors_searchingUi false) poeSnmpWriter poeGoAheadWriter 5 false
    0 0
  exact ⟨hsnmp _ List.mem_cons_self (Or.inr steady_runs.1.1),
    hgoahead _ List.mem_cons_self (Or.inr steady_runs.2.1)⟩

/-- A port that is still delivering at the first deadline is left switched off, and so is one that
does not show the off write. -/
theorem rearm_leavesOff :
    ((poeSnmpWriter.cyclePoe 5 false 0 0).run (steadyAgent 3) ()).result =
        .error .writeVerification ∧
      Snmp.lastPoeAdmin 5 ((poeSnmpWriter.cyclePoe 5 false 0 0).run (steadyAgent 3) ()) =
        some false ∧
      ((poeGoAheadWriter.cyclePoe 5 false 0).run (searchingUi false) true).result =
        .error .writeVerification ∧
      Http.lastPoeAdmin 5 ((poeGoAheadWriter.cyclePoe 5 false 0).run (searchingUi false) true) =
        some false :=
  ⟨steady_runs.1.1, steady_runs.1.2, steady_runs.2⟩

/-! ## §2 When a port is back -/

/-- `CliWriter.cycle_poe` up to its loop: the status before the reset. -/
def cliCycleStart (w : Cli.CliWriter) (port : ℤ) (force : Bool) :
    Cli.CliScript (Option PoEStatus) := do
  w.guardPort port force
  w.requirePoe
  let before ← w.poeStatus port
  w.onInterface port [Cli.CliModelSpec.poeResetCmd]
  pure before

/-- `SnmpWriter.cycle_poe` up to its second loop: the status before the off write. -/
def snmpCycleStart (w : Snmp.SnmpWriter) (port : ℤ) (force : Bool) (offTries : ℕ) :
    Snmp.SnmpScript (Option PoEStatus) := do
  w.guard port force
  let before ← w.switchOff port
  pollUntil (w.looksOff port) id (w.timedOut port) offTries
  Snmp.setMany [Snmp.poeAdminVarbind port true]
  pure before

/-- The GoAhead `cycle_poe` up to its loop: the status before the off write. -/
def goAheadCycleStart (w : Http.GoAheadWriter) (port : ℤ) (force : Bool) :
    Http.HttpScript (Option PoEStatus) := do
  w.guard port force
  let before ← w.poeStatus port
  w.goaheadPoeAdmin port false
  w.goaheadPoeAdmin port true
  pure before

theorem cyclePoe_eq_cliCycleStart (w : Cli.CliWriter) (port : ℤ) (force : Bool) (tries : ℕ) :
    w.cyclePoe port force tries = cliCycleStart w port force >>= fun _ =>
      pollUntil (w.poeStatus port) (fun now => now.any (·.delivering))
        (w.poeStatus port >>= fun _ => raise .writeVerification) tries := by
  simp only [cliCycleStart, Script.bind_assoc]
  rfl

theorem cyclePoe_eq_snmpCycleStart (w : Snmp.SnmpWriter) (port : ℤ) (force : Bool)
    (offTries onTries : ℕ) :
    w.cyclePoe port force offTries onTries = snmpCycleStart w port force offTries >>= fun before =>
      pollUntil (w.poeStatus port) (poeCycleComplete before)
        (w.poeStatus port >>= fun _ => raise .writeVerification) onTries := by
  simp only [snmpCycleStart, Script.bind_assoc]
  rfl

theorem cyclePoe_eq_goAheadCycleStart (w : Http.GoAheadWriter) (port : ℤ) (force : Bool)
    (tries : ℕ) :
    w.cyclePoe port force tries = goAheadCycleStart w port force >>= fun before =>
      pollUntil (w.poeStatus port) (poeCycleComplete before)
        (w.poeStatus port >>= fun _ => raise .writeVerification) tries := by
  simp only [goAheadCycleStart, Script.bind_assoc]
  rfl

/-- A run of a power cycle up to its polling, and the statuses polled from there. -/
structure CycleTrace {δ Q A : Type} (m : Machine δ Q A) (d : δ)
    (start look : Script Q A LibError (Option PoEStatus)) (before : Option PoEStatus)
    (polled : ℕ → Option PoEStatus) : Prop where
  started : (start.run m d).result = .ok before
  seen : ∀ i, lookAt m look i (start.run m d).device = .ok (polled i)

/-- A port that delivers is back, whatever it did before. -/
theorem poeCycleComplete_of_delivering (before now : Option PoEStatus)
    (h : now.any (·.delivering) = true) : poeCycleComplete before now = true := by
  cases now with
  | none => cases h
  | some now =>
    have hdelivering : now.detect = .delivering := of_decide_eq_true h
    simp [poeCycleComplete, hdelivering, PoEStatus.delivering]

theorem cliPoeStatus_sent_ne_nil {δ : Type} (m : Machine δ Cli.CliCall (Except LibError Text))
    (w : Cli.CliWriter) (hpoe : w.model.poePortCount ≠ 0) (port : ℤ) (d : δ) :
    ((w.poeStatus port).run m d).sent ≠ [] := by
  have hask : w.getPoe = Cli.sessionRun w.spec.poeCmd >>= fun text => done (w.pages.poe text) := by
    rw [Cli.CliWriter.getPoe, ensure_of_pos hpoe]
    rfl
  rw [Cli.CliWriter.poeStatus, hask]
  exact sent_ask_ne_nil _ _

/-- **When a port is back.**  On one status before the cycle, one sequence of statuses polled after
it and one deadline, the three writers decide alike, for the first status that completes the cycle,
exactly where that status is a delivering one or comes too late. -/
theorem cyclePoe_decides_iff {δ ε ζ : Type}
    {m : Machine δ Cli.CliCall (Except LibError Text)} {d : δ} {w : Cli.CliWriter}
    {n : Machine ε Snmp.SnmpRequest Snmp.SnmpReply} {e : ε} {s : Snmp.SnmpWriter}
    {k : Machine ζ Http.Call (Except LibError Text)} {z : ζ} {g : Http.GoAheadWriter}
    {port : ℤ} {force : Bool} {offTries : ℕ} {before : Option PoEStatus}
    {polled : ℕ → Option PoEStatus}
    (hcli : CycleTrace m d (cliCycleStart w port force) (w.poeStatus port) before polled)
    (hsnmp : CycleTrace n e (snmpCycleStart s port force offTries) (s.poeStatus port) before polled)
    (hgoahead : CycleTrace k z (goAheadCycleStart g port force) (g.poeStatus port) before polled)
    (tries : ℕ) :
    (Decides m (cliCycleStart w port force) (w.poeStatus port) .writeVerification d
        ((w.cyclePoe port force tries).run m d)
        (firstGood (poeCycleComplete before) polled tries) ∧
      Decides n (snmpCycleStart s port force offTries) (s.poeStatus port) .writeVerification e
        ((s.cyclePoe port force offTries tries).run n e)
        (firstGood (poeCycleComplete before) polled tries) ∧
      Decides k (goAheadCycleStart g port force) (g.poeStatus port) .writeVerification z
        ((g.cyclePoe port force tries).run k z)
        (firstGood (poeCycleComplete before) polled tries)) ↔
      ∀ i, firstGood (poeCycleComplete before) polled tries = some i →
        (polled i).any (·.delivering) = true := by
  have hpoe : w.model.poePortCount ≠ 0 := by
    intro hzero
    have hlook := hcli.seen 0
    rw [lookAt, Cli.CliWriter.poeStatus, Cli.CliWriter.getPoe, ensure_of_neg (by simpa using hzero)]
      at hlook
    cases hlook
  rw [cyclePoe_eq_cliCycleStart, cyclePoe_eq_snmpCycleStart, cyclePoe_eq_goAheadCycleStart,
    ← firstGood_congr fun now => poeCycleComplete_of_delivering before now]
  have hdecides : Decides m (cliCycleStart w port force) (w.poeStatus port) .writeVerification d
      ((cliCycleStart w port force >>= fun _ =>
        pollUntil (w.poeStatus port) (fun now => now.any (·.delivering))
          (w.poeStatus port >>= fun _ => raise .writeVerification) tries).run m d)
      (firstGood (fun now => now.any (·.delivering)) polled tries) :=
    decides_pollUntil hcli.started hcli.seen tries
  constructor
  · rintro ⟨hrule, -, -⟩
    exact hdecides.unique (cliPoeStatus_sent_ne_nil m w hpoe port) hrule
  · intro hsame
    refine ⟨hsame ▸ hdecides, ?_, ?_⟩
    · exact decides_pollUntil hsnmp.started hsnmp.seen tries
    · exact decides_pollUntil hgoahead.started hgoahead.seen tries

/-- A port with nothing attached. -/
def searchingStatus : PoEStatus :=
  { port := 5
    adminEnabled := true
    detect := .searching
    powerMw := none }

/-- A writer whose PoE page always shows that port. -/
def poeCliWriter : Cli.CliWriter :=
  { Cli.CliWriter.bareWriter with
    pages := { Cli.CliWriter.bareWriter.pages with poe := fun _ => .ok [searchingStatus] } }

/-- A session on which every command is accepted. -/
def acceptingSession : Machine Unit Cli.CliCall (Except LibError Text) := fun _ _ => ((), .ok [])

private theorem searching_starts :
    (((cliCycleStart poeCliWriter 5 false).run acceptingSession ()).result =
        .ok (some searchingStatus) ∧
      ((poeCliWriter.poeStatus 5).run acceptingSession ()).result = .ok (some searchingStatus)) ∧
    (((snmpCycleStart poeSnmpWriter 5 false 0).run (steadyAgent 2) ()).result =
        .ok (some searchingStatus) ∧
      ((poeSnmpWriter.poeStatus 5).run (steadyAgent 2) ()).result = .ok (some searchingStatus)) ∧
    (((goAheadCycleStart poeGoAheadWriter 5 false).run (searchingUi true) true).result =
        .ok (some searchingStatus) ∧
      ((goAheadCycleStart poeGoAheadWriter 5 false).run (searchingUi true) true).device = true) ∧
    ((poeGoAheadWriter.poeStatus 5).run (searchingUi true) true).result =
        .ok (some searchingStatus) ∧
      ((poeGoAheadWriter.poeStatus 5).run (searchingUi true) true).device = true := by
  decide +kernel

private theorem searching_traces :
    CycleTrace acceptingSession () (cliCycleStart poeCliWriter 5 false) (poeCliWriter.poeStatus 5)
        (some searchingStatus) (fun _ => some searchingStatus) ∧
      CycleTrace (steadyAgent 2) () (snmpCycleStart poeSnmpWriter 5 false 0)
        (poeSnmpWriter.poeStatus 5) (some searchingStatus) (fun _ => some searchingStatus) ∧
      CycleTrace (searchingUi true) true (goAheadCycleStart poeGoAheadWriter 5 false)
        (poeGoAheadWriter.poeStatus 5) (some searchingStatus) (fun _ => some searchingStatus) := by
  obtain ⟨⟨hcli, hclilook⟩, ⟨hsnmp, hsnmplook⟩, ⟨hgoahead, hdevice⟩, hgoaheadlook⟩ :=
    searching_starts
  refine ⟨⟨hcli, lookAt_of_ends ⟨hclilook, rfl⟩⟩, ⟨hsnmp, lookAt_of_ends ⟨hsnmplook, rfl⟩⟩,
    ⟨hgoahead, ?_⟩⟩
  rw [hdevice]
  exact lookAt_of_ends hgoaheadlook

/-- Three devices on which a port with nothing attached goes on searching. -/
theorem cyclePoe_decides_iff_searching :
    (Decides acceptingSession (cliCycleStart poeCliWriter 5 false) (poeCliWriter.poeStatus 5)
        .writeVerification () ((poeCliWriter.cyclePoe 5 false 2).run acceptingSession ())
        (firstGood (poeCycleComplete (some searchingStatus)) (fun _ => some searchingStatus) 2) ∧
      Decides (steadyAgent 2) (snmpCycleStart poeSnmpWriter 5 false 0) (poeSnmpWriter.poeStatus 5)
        .writeVerification () ((poeSnmpWriter.cyclePoe 5 false 0 2).run (steadyAgent 2) ())
        (firstGood (poeCycleComplete (some searchingStatus)) (fun _ => some searchingStatus) 2) ∧
      Decides (searchingUi true) (goAheadCycleStart poeGoAheadWriter 5 false)
        (poeGoAheadWriter.poeStatus 5) .writeVerification true
        ((poeGoAheadWriter.cyclePoe 5 false 2).run (searchingUi true) true)
        (firstGood (poeCycleComplete (some searchingStatus)) (fun _ => some searchingStatus) 2)) ↔
      ∀ i, firstGood (poeCycleComplete (some searchingStatus)) (fun _ => some searchingStatus) 2 =
        some i → (some searchingStatus).any (·.delivering) = true :=
  cyclePoe_decides_iff searching_traces.1 searching_traces.2.1 searching_traces.2.2 2

/-- Nothing was powered before the cycle and the port searches after it: two writers return at the
first look, the third one times out. -/
theorem cyclePoe_disagrees :
    (CycleTrace acceptingSession () (cliCycleStart poeCliWriter 5 false) (poeCliWriter.poeStatus 5)
        (some searchingStatus) (fun _ => some searchingStatus) ∧
      CycleTrace (steadyAgent 2) () (snmpCycleStart poeSnmpWriter 5 false 0)
        (poeSnmpWriter.poeStatus 5) (some searchingStatus) (fun _ => some searchingStatus) ∧
      CycleTrace (searchingUi true) true (goAheadCycleStart poeGoAheadWriter 5 false)
        (poeGoAheadWriter.poeStatus 5) (some searchingStatus) fun _ => some searchingStatus) ∧
    ((poeCliWriter.cyclePoe 5 false 2).run acceptingSession ()).result =
        .error .writeVerification ∧
      ((poeSnmpWriter.cyclePoe 5 false 0 2).run (steadyAgent 2) ()).result = .ok () ∧
      ((poeGoAheadWriter.cyclePoe 5 false 2).run (searchingUi true) true).result = .ok () :=
  ⟨searching_traces, by decide +kernel⟩

end NetgearSwitch
