import NetgearSwitch.Cli.Commands
import NetgearSwitch.Cli.Parse
import NetgearSwitch.Errors
import NetgearSwitch.Lib.Polling

/-!
# The CLI writer

`CliWriter` of `cli_write.py`: every operation is a script over a `CliSession`, which answers a
command with its output or fails.  `CliOperation` lists the operations with their arguments.

The parsers of the pages that are not about VLANs are a parameter, `CliPages`: nothing here
depends on what they make of a page.  The polling loops take the number of times the clock is
found short of the deadline.

§1 session and pages · §2 reads · §3 commands and modes · §4 the operations · §5 what they ask
for
-/

namespace NetgearSwitch.Cli

open PyText Script CliModelSpec

/-! ## §1 Session and pages -/

/-- What is asked of a `CliSession`. -/
inductive CliCall
  | run (command : Text)
  | writeMemory (command : Text) (prestuff : Bool)
  deriving DecidableEq

abbrev CliScript := Script CliCall (Except LibError Text) LibError

/-- The other parsers of `protocols/cli/parse.py`, page by page. -/
structure CliPages where
  portStatus : Text → Except LibError (List PortStatus)
  poe : Text → Except LibError (List PoEStatus)
  mgmtIp : Text → Except LibError MgmtIpConfig
  syslog : Text → Text → Except LibError SyslogConfig
  hostname : Text → Except LibError Text
  portDescription : Text → Except LibError (Option Text)

structure CliWriter where
  spec : CliModelSpec
  pages : CliPages
  protectedPorts : Finset ℤ := ∅

/-- `session.run`. -/
def sessionRun (command : Text) : CliScript Text := do
  let answer ← call (.run command)
  done answer

namespace CliWriter

variable (w : CliWriter)

def model : SwitchModel := getModel w.spec.modelKey

/-! ## §2 Reads -/

/-- The details of the VLANs that `show vlan` lists. -/
def vlanDetails : List (ℤ × Text) → CliScript (List VLANInfo)
  | [] => pure []
  | (vid, name) :: brief => do
    let detail ← sessionRun (vlanDetail vid)
    let out ← vlanDetails brief
    pure (parseVlanDetail detail (some name) :: out)

def getVlans : CliScript (List VLANInfo) := do
  let text ← sessionRun w.spec.vlanBriefCmd
  vlanDetails (parseVlanBrief text)

def getPvids : CliScript (List (ℤ × ℤ)) := do
  let text ← sessionRun w.spec.pvidCmd
  pure (parsePvids text)

def getPorts : CliScript (List PortStatus) := do
  let text ← sessionRun portStatusCmd
  done (w.pages.portStatus text)

def getPoe : CliScript (List PoEStatus) := do
  ensure (w.model.poePortCount ≠ 0) .unsupportedCapability
  let text ← sessionRun w.spec.poeCmd
  done (w.pages.poe text)

def getMgmtIp : CliScript MgmtIpConfig := do
  let text ← sessionRun w.spec.networkCmd
  done (w.pages.mgmtIp text)

def getSyslog : CliScript SyslogConfig := do
  let text ← sessionRun loggingCmd
  let hosts ← sessionRun loggingHostsCmd
  done (w.pages.syslog text hosts)

def getHostname : CliScript Text := do
  let text ← sessionRun hostsCmd
  done (w.pages.hostname text)

/-- `_vlan`. -/
def vlan (v : ℤ) : CliScript (Option VLANInfo) := do
  let vlans ← w.getVlans
  pure (vlans.find? (·.vlanId = v))

/-- `_port_mode`. -/
def portMode (info : VLANInfo) (port : ℤ) : VlanMode :=
  if port ∉ info.memberPorts then .excluded
  else if port ∈ info.taggedPorts then .tagged
  else .untagged

/-- `_port_status`. -/
def portStatus (port : ℤ) : CliScript (Option PortStatus) := do
  let ports ← w.getPorts
  pure (ports.find? (·.port = port))

/-- The port's row of `show port all`, as `_speed_config` and `_flow_control` require it. -/
def requirePort (port : ℤ) : CliScript PortStatus := do
  let status ← w.portStatus port
  done (orRaise .cliCommand status)

/-- `_poe_status`. -/
def poeStatus (port : ℤ) : CliScript (Option PoEStatus) := do
  let poe ← w.getPoe
  pure (poe.find? (·.port = port))

/-- The label `show port description` reports. -/
def described (port : ℤ) : CliScript (Option Text) := do
  let text ← sessionRun (w.spec.portDescriptionShow port)
  done (w.pages.portDescription text)

/-! ## §3 Commands and modes -/

/-- `_guard`. -/
def guardPort (port : ℤ) (force : Bool) : CliScript Unit :=
  ensure (port ∉ w.protectedPorts ∨ force) .protectedPort

/-- `_run`: any output is a refusal. -/
def runCommand (command : Text) : CliScript Unit := do
  let out ← sessionRun command
  ensure (strip out = []) .cliCommand

def runAll : List Text → CliScript Unit
  | [] => pure ()
  | command :: commands => do
    runCommand command
    runAll commands

/-- The `try` block of `_in_mode`: how many levels were entered, and how it ended. -/
def descend (body : List Text) (entered : ℕ) : List Text → CliScript (ℕ × Except LibError Unit)
  | [] => do
    let r ← (runAll body).attempt
    pure (entered, r)
  | command :: commands => do
    let r ← (runCommand command).attempt
    match r with
    | .ok _ => descend body (entered + 1) commands
    | .error e => pure (entered, .error e)

/-- One `exit` for each level, on the raw session. -/
def unwind : ℕ → CliScript Unit
  | 0 => pure ()
  | n + 1 => do
    let _ ← sessionRun exitCmd
    unwind n

/-- `_in_mode`. -/
def inMode (enter body : List Text) : CliScript Unit := do
  let (entered, r) ← descend body 0 enter
  unwind entered
  done r

def onInterface (port : ℤ) (body : List Text) : CliScript Unit :=
  inMode [configureCmd, w.spec.interface port] body

/-- `_general_mode`. -/
def generalMode : List Text := w.spec.switchportGeneralCmd.toList

/-! ## §4 The operations -/

def createVlan (v : ℤ) (name : Text) : CliScript Unit := do
  let _ ← w.vlan v
  inMode [vlanDatabaseCmd] [vlanCreate v, vlanName v name]
  let after ← w.vlan v
  ensure (after.any fun info => info.name.getD [] = name) .writeVerification

def deleteVlan (v : ℤ) (force : Bool) : CliScript Unit := do
  let before ← w.vlan v
  let info ← done (orRaise .cliCommand before)
  ensure (force ∨ info.memberPorts ∩ w.protectedPorts = ∅) .protectedPort
  inMode [vlanDatabaseCmd] [vlanDelete v]
  let after ← w.vlan v
  ensure (after = none) .writeVerification

/-- The commands of a membership write. -/
def membershipBody (v : ℤ) : VlanMode → List Text
  | .excluded => w.generalMode ++ [vlanParticipation v false]
  | .untagged => w.generalMode ++ [vlanParticipation v true, vlanTagging v false]
  | .tagged => w.generalMode ++ [vlanParticipation v true, vlanTagging v true]

def setVlanMembership (v port : ℤ) (mode : VlanMode) (force : Bool) : CliScript Unit := do
  w.guardPort port force
  let before ← w.vlan v
  ensure before.isSome .cliCommand
  w.onInterface port (w.membershipBody v mode)
  let after ← w.vlan v
  ensure (after.any fun info => portMode info port = mode) .writeVerification

def setPortDescription (port : ℤ) (description : Text) (force : Bool) : CliScript Unit := do
  w.guardPort port force
  let _ ← w.described port
  w.onInterface port [portDescription description]
  let after ← w.described port
  ensure (after = if description = [] then none else some description) .writeVerification

/-- A forced gigabit, which the grammar does not have. -/
def forcedGigabit : PortSpeed → Bool
  | .auto => false
  | .forced mbps _ => mbps = 1000

def setPortSpeed (port : ℤ) (speed : PortSpeed) (force : Bool) : CliScript Unit := do
  w.guardPort port force
  ensure (!forcedGigabit speed) .cliCommand
  let _ ← w.requirePort port
  w.onInterface port [portSpeed speed]
  let after ← w.requirePort port
  ensure (after.speedConfig = some speed) .writeVerification

def setFlowControl (port : ℤ) (enabled force : Bool) : CliScript Unit := do
  w.guardPort port force
  let _ ← w.requirePort port
  w.onInterface port [portFlowControl enabled]
  let after ← w.requirePort port
  ensure (after.flowControl = some enabled) .writeVerification

def setPvid (port v : ℤ) (force : Bool) : CliScript Unit := do
  w.guardPort port force
  let vlans ← w.getVlans
  ensure (vlans.any (·.vlanId = v)) .cliCommand
  let _ ← w.getPvids
  w.onInterface port (w.generalMode ++ [vlanPvid v])
  let after ← w.getPvids
  -- `dict(...)`: the last row of a port counts
  ensure ((after.reverse.find? (·.1 = port)).map Prod.snd = some v) .writeVerification

/-- `_require_poe`. -/
def requirePoe : CliScript Unit := ensure (w.model.poePortCount ≠ 0) .unsupportedCapability

def setPoe (port : ℤ) (on force : Bool) (tries : ℕ) : CliScript Unit := do
  w.requirePoe
  ensure (on ∨ port ∉ w.protectedPorts ∨ force) .protectedPort
  let _ ← w.poeStatus port
  w.onInterface port [poeAdmin on]
  pollUntil (w.poeStatus port) (fun after => after.any (·.adminEnabled = on))
    (raise .writeVerification) tries

/-- `_poe_reset`. -/
def poeReset (port : ℤ) (tries : ℕ) (recovered : Option PoEStatus → Bool) : CliScript Unit := do
  w.requirePoe
  let _ ← w.poeStatus port
  w.onInterface port [poeResetCmd]
  pollUntil (w.poeStatus port) recovered
    -- the failure reports one more look at the port
    (do let _ ← w.poeStatus port
        raise .writeVerification) tries

def cyclePoe (port : ℤ) (force : Bool) (tries : ℕ) : CliScript Unit := do
  w.guardPort port force
  w.poeReset port tries fun status => status.any (·.delivering)

def clearPoeFault (port : ℤ) (force : Bool) (tries : ℕ) : CliScript Unit := do
  w.guardPort port force
  w.poeReset port tries fun status =>
    status.any fun s => s.detect = .delivering || s.detect = .searching

def setPortEnabled (port : ℤ) (enabled force : Bool) : CliScript Unit := do
  ensure (enabled ∨ port ∉ w.protectedPorts ∨ force) .protectedPort
  let _ ← w.portStatus port
  w.onInterface port [portAdmin enabled]
  let after ← w.portStatus port
  ensure (after.any (·.adminEnabled = enabled)) .writeVerification

def setHostname (name : Text) : CliScript Unit := do
  ensure (strip name ≠ []) .valueError
  let _ ← w.getHostname
  inMode [configureCmd] [hostnameConfig name]
  let after ← w.getHostname
  ensure (after = name) .writeVerification

def setMgmtIp (address netmask gateway : Text) (force : Bool) : CliScript Unit := do
  ensure force .protectedPort
  let _ ← w.getMgmtIp
  runAll (w.spec.mgmtIp address netmask gateway).1
  if (w.spec.mgmtIp address netmask gateway).2 = [] then pure ()
  else inMode [configureCmd] (w.spec.mgmtIp address netmask gateway).2
  let after ← w.getMgmtIp
  ensure (after.address = some address ∧ after.netmask = some netmask ∧
    after.gateway = some gateway) .writeVerification

/-- `reboot`: a session that dies is the sign of success. -/
def reboot (force : Bool) : CliScript Unit := do
  ensure force .protectedPort
  let answer ← call (.writeMemory reloadCmd true)
  match answer with
  | .ok _ => pure ()
  | .error e => ensure (e = .cliTransport) e

def setSyslogEnabled (enabled : Bool) : CliScript Unit := do
  let _ ← w.getSyslog
  inMode [configureCmd] [loggingSyslog enabled]
  let after ← w.getSyslog
  ensure (after.enabled = enabled) .writeVerification

def addSyslogCollector (host : Text) (port severity : ℤ) : CliScript Unit := do
  let before ← w.getSyslog
  ensure (!before.servers.any (·.host = host)) .cliCommand
  let command ← done (orRaise .valueError (loggingHostAdd host port severity))
  inMode [configureCmd] [command]
  let after ← w.getSyslog
  ensure ((after.servers.find? (·.host = host)).any fun s => s.port = port && s.severity = severity)
    .writeVerification

def removeSyslogCollector (host : Text) : CliScript Unit := do
  let before ← w.getSyslog
  let row ← done (orRaise .cliCommand (before.servers.find? (·.host = host)))
  let index ← done (orRaise .cliCommand row.index)
  inMode [configureCmd] [loggingHostRemove index]
  let after ← w.getSyslog
  ensure (!after.servers.any (·.host = host)) .writeVerification

end CliWriter

/-- A call of one of the writer's operations. -/
inductive CliOperation
  | createVlan (v : ℤ) (name : Text)
  | deleteVlan (v : ℤ) (force : Bool)
  | setVlanMembership (v port : ℤ) (mode : VlanMode) (force : Bool)
  | setPortDescription (port : ℤ) (description : Text) (force : Bool)
  | setPortSpeed (port : ℤ) (speed : PortSpeed) (force : Bool)
  | setFlowControl (port : ℤ) (enabled force : Bool)
  | setPvid (port v : ℤ) (force : Bool)
  | setPoe (port : ℤ) (on force : Bool) (tries : ℕ)
  | cyclePoe (port : ℤ) (force : Bool) (tries : ℕ)
  | clearPoeFault (port : ℤ) (force : Bool) (tries : ℕ)
  | setPortEnabled (port : ℤ) (enabled force : Bool)
  | setHostname (name : Text)
  | setMgmtIp (address netmask gateway : Text) (force : Bool)
  | reboot (force : Bool)
  | setSyslogEnabled (enabled : Bool)
  | addSyslogCollector (host : Text) (port severity : ℤ)
  | removeSyslogCollector (host : Text)
  deriving DecidableEq

namespace CliWriter

variable (w : CliWriter)

/-- What the writer does on a call. -/
def perform : CliOperation → CliScript Unit
  | .createVlan v name => w.createVlan v name
  | .deleteVlan v force => w.deleteVlan v force
  | .setVlanMembership v port mode force => w.setVlanMembership v port mode force
  | .setPortDescription port description force => w.setPortDescription port description force
  | .setPortSpeed port speed force => w.setPortSpeed port speed force
  | .setFlowControl port enabled force => w.setFlowControl port enabled force
  | .setPvid port v force => w.setPvid port v force
  | .setPoe port on force tries => w.setPoe port on force tries
  | .cyclePoe port force tries => w.cyclePoe port force tries
  | .clearPoeFault port force tries => w.clearPoeFault port force tries
  | .setPortEnabled port enabled force => w.setPortEnabled port enabled force
  | .setHostname name => w.setHostname name
  | .setMgmtIp address netmask gateway force => w.setMgmtIp address netmask gateway force
  | .reboot force => reboot force
  | .setSyslogEnabled enabled => w.setSyslogEnabled enabled
  | .addSyslogCollector host port severity => w.addSyslogCollector host port severity
  | .removeSyslogCollector host => w.removeSyslogCollector host

/-! ## §5 What they ask for -/

/-- The commands of the reads. -/
inductive ReadCommand : Text → Prop
  | vlanBrief : ReadCommand w.spec.vlanBriefCmd
  | vlanDetail (v : ℤ) : ReadCommand (CliModelSpec.vlanDetail v)
  | pvid : ReadCommand w.spec.pvidCmd
  | portStatus : ReadCommand portStatusCmd
  | poe : ReadCommand w.spec.poeCmd
  | network : ReadCommand w.spec.networkCmd
  | logging : ReadCommand loggingCmd
  | loggingHosts : ReadCommand loggingHostsCmd
  | hosts : ReadCommand hostsCmd
  | portDescription (port : ℤ) : ReadCommand (w.spec.portDescriptionShow port)

/-- A call that only reads. -/
def IsRead (q : CliCall) : Prop := ∃ c, q = .run c ∧ w.ReadCommand c

/-- The commands an operation may issue to change something, with those that enter and leave the
mode they are given in. -/
def changes : CliOperation → List Text
  | .createVlan v name => [vlanDatabaseCmd, vlanCreate v, vlanName v name, exitCmd]
  | .deleteVlan v _ => [vlanDatabaseCmd, vlanDelete v, exitCmd]
  | .setVlanMembership v port mode _ =>
    [configureCmd, w.spec.interface port] ++ w.membershipBody v mode ++ [exitCmd]
  | .setPortDescription port description _ =>
    [configureCmd, w.spec.interface port] ++ [portDescription description] ++ [exitCmd]
  | .setPortSpeed port speed _ =>
    [configureCmd, w.spec.interface port] ++ [portSpeed speed] ++ [exitCmd]
  | .setFlowControl port enabled _ =>
    [configureCmd, w.spec.interface port] ++ [portFlowControl enabled] ++ [exitCmd]
  | .setPvid port v _ =>
    [configureCmd, w.spec.interface port] ++ (w.generalMode ++ [vlanPvid v]) ++ [exitCmd]
  | .setPoe port on _ _ => [configureCmd, w.spec.interface port] ++ [poeAdmin on] ++ [exitCmd]
  | .cyclePoe port _ _ | .clearPoeFault port _ _ =>
    [configureCmd, w.spec.interface port] ++ [poeResetCmd] ++ [exitCmd]
  | .setPortEnabled port enabled _ =>
    [configureCmd, w.spec.interface port] ++ [portAdmin enabled] ++ [exitCmd]
  | .setHostname name => [configureCmd, hostnameConfig name, exitCmd]
  | .setMgmtIp address netmask gateway _ =>
    (w.spec.mgmtIp address netmask gateway).1 ++ [configureCmd] ++
      (w.spec.mgmtIp address netmask gateway).2 ++ [exitCmd]
  | .reboot _ => []
  | .setSyslogEnabled enabled => [configureCmd, loggingSyslog enabled, exitCmd]
  | .addSyslogCollector host port severity =>
    [configureCmd] ++ (loggingHostAdd host port severity).toList ++ [exitCmd]
  | .removeSyslogCollector _ => [configureCmd, exitCmd]

/-- A command an operation may issue to change something; the row to remove is the device's. -/
def MayChange (op : CliOperation) (c : Text) : Prop :=
  c ∈ w.changes op ∨ ∃ host index, op = .removeSyslogCollector host ∧ c = loggingHostRemove index

/-- A call an operation may make. -/
def MayAsk (op : CliOperation) (q : CliCall) : Prop :=
  w.IsRead q ∨ (∃ c, q = .run c ∧ w.MayChange op c) ∨
    (op = .reboot true ∧ q = .writeMemory reloadCmd true)

section Asks

variable {w} {φ : CliCall → Prop} {α : Type}

theorem asks_sessionRun {c : Text} (h : φ (.run c)) : (sessionRun c).Asks φ :=
  asks_bind (asks_call h) fun _ => asks_done _

theorem asks_runCommand {c : Text} (h : φ (.run c)) : (runCommand c).Asks φ :=
  asks_bind (asks_sessionRun h) fun _ => asks_done _

theorem asks_runAll {body : List Text} (h : ∀ c ∈ body, φ (.run c)) : (runAll body).Asks φ := by
  induction body with
  | nil => exact asks_done _
  | cons c body ih =>
    obtain ⟨hc, hbody⟩ := List.forall_mem_cons.mp h
    exact asks_bind (asks_runCommand hc) fun _ => ih hbody

theorem asks_read {c : Text} (h : w.ReadCommand c) : (sessionRun c).Asks w.IsRead :=
  asks_sessionRun ⟨c, rfl, h⟩

theorem asks_vlanDetails (brief : List (ℤ × Text)) : (vlanDetails brief).Asks w.IsRead := by
  induction brief with
  | nil => exact asks_done _
  | cons e brief ih =>
    exact asks_bind (asks_read (.vlanDetail e.1)) fun _ => asks_bind ih fun _ => asks_done _

theorem asks_getVlans : w.getVlans.Asks w.IsRead :=
  asks_bind (asks_read .vlanBrief) fun _ => asks_vlanDetails _

theorem asks_vlan (v : ℤ) : (w.vlan v).Asks w.IsRead :=
  asks_bind asks_getVlans fun _ => asks_done _

theorem asks_getPvids : w.getPvids.Asks w.IsRead :=
  asks_bind (asks_read .pvid) fun _ => asks_done _

theorem asks_portStatus (port : ℤ) : (w.portStatus port).Asks w.IsRead :=
  asks_bind (asks_bind (asks_read .portStatus) fun _ => asks_done _) fun _ => asks_done _

theorem asks_requirePort (port : ℤ) : (w.requirePort port).Asks w.IsRead :=
  asks_bind (asks_portStatus port) fun _ => asks_done _

theorem asks_poeStatus (port : ℤ) : (w.poeStatus port).Asks w.IsRead := by
  apply asks_bind
  · apply asks_bind (asks_done _)
    intro _
    exact asks_bind (asks_read .poe) fun _ => asks_done _
  · intro _
    exact asks_done _

theorem asks_getMgmtIp : w.getMgmtIp.Asks w.IsRead :=
  asks_bind (asks_read .network) fun _ => asks_done _

theorem asks_getSyslog : w.getSyslog.Asks w.IsRead :=
  asks_bind (asks_read .logging) fun _ => asks_bind (asks_read .loggingHosts) fun _ => asks_done _

theorem asks_getHostname : w.getHostname.Asks w.IsRead :=
  asks_bind (asks_read .hosts) fun _ => asks_done _

theorem asks_described (port : ℤ) : (w.described port).Asks w.IsRead :=
  asks_bind (asks_read (.portDescription port)) fun _ => asks_done _

theorem asks_descend {enter body : List Text} (henter : ∀ c ∈ enter, φ (.run c))
    (hbody : ∀ c ∈ body, φ (.run c)) (k : ℕ) : (descend body k enter).Asks φ := by
  induction enter generalizing k with
  | nil => exact asks_bind (asks_attempt (asks_runAll hbody)) fun _ => asks_done _
  | cons c cs ih =>
    obtain ⟨hc, hcs⟩ := List.forall_mem_cons.mp henter
    apply asks_bind (asks_attempt (asks_runCommand hc))
    intro r
    cases r with
    | ok _ => exact ih hcs (k + 1)
    | error e => exact asks_done _

theorem asks_unwind (h : φ (.run exitCmd)) (n : ℕ) : (unwind n).Asks φ := by
  induction n with
  | zero => exact asks_done _
  | succ n ih => exact asks_bind (asks_sessionRun h) fun _ => ih

theorem asks_inMode {enter body : List Text}
    (h : ∀ c ∈ enter ++ body ++ [exitCmd], φ (.run c)) : (inMode enter body).Asks φ := by
  rw [List.forall_mem_append, List.forall_mem_append, List.forall_mem_singleton] at h
  obtain ⟨⟨henter, hbody⟩, hexit⟩ := h
  apply asks_bind (asks_descend henter hbody 0)
  intro _
  exact asks_bind (asks_unwind hexit _) fun _ => asks_done _

variable {op : CliOperation} {β : Type}

/-- Go on from a look at the switch. -/
theorem mayAsk_after {p : CliScript α} {f : α → CliScript β} (hp : p.Asks w.IsRead)
    (hf : ∀ a, (f a).Asks (w.MayAsk op)) : (p >>= f).Asks (w.MayAsk op) :=
  asks_bind (hp.imp fun _ h => Or.inl h) hf

/-- The operation's own commands, inside their mode, before a last look at the switch. -/
theorem mayAsk_change {enter body : List Text} {f : Unit → CliScript β}
    (hchanges : ∀ c ∈ enter ++ body ++ [exitCmd], w.MayChange op c)
    (hf : ∀ a, (f a).Asks w.IsRead) : (inMode enter body >>= f).Asks (w.MayAsk op) := by
  apply asks_bind
  · apply asks_inMode
    intro c hc
    exact Or.inr (Or.inl ⟨c, rfl, hchanges c hc⟩)
  · intro a
    exact (hf a).imp fun _ h => Or.inl h

theorem mayAsk_poeReset {port : ℤ} {tries : ℕ} {recovered : Option PoEStatus → Bool}
    (hchanges : ∀ c ∈ [configureCmd, w.spec.interface port] ++ [poeResetCmd] ++ [exitCmd],
      w.MayChange op c) : (w.poeReset port tries recovered).Asks (w.MayAsk op) := by
  apply mayAsk_after (asks_done _)
  intro _
  apply mayAsk_after (asks_poeStatus port)
  intro _
  apply mayAsk_change hchanges
  intro _
  exact asks_pollUntil _ (asks_poeStatus port)
    (asks_bind (asks_poeStatus port) fun _ => asks_done _) tries

theorem asks_createVlan (v : ℤ) (name : Text) :
    (w.createVlan v name).Asks (w.MayAsk (.createVlan v name)) := by
  apply mayAsk_after (asks_vlan v)
  intro _
  apply mayAsk_change (fun _ hc => Or.inl hc)
  intro _
  exact asks_bind (asks_vlan v) fun _ => asks_done _

theorem asks_deleteVlan (v : ℤ) (force : Bool) :
    (w.deleteVlan v force).Asks (w.MayAsk (.deleteVlan v force)) := by
  apply mayAsk_after (asks_vlan v)
  intro _
  apply mayAsk_after (asks_done _)
  intro _
  apply mayAsk_after (asks_done _)
  intro _
  apply mayAsk_change (fun _ hc => Or.inl hc)
  intro _
  exact asks_bind (asks_vlan v) fun _ => asks_done _

theorem asks_setVlanMembership (v port : ℤ) (mode : VlanMode) (force : Bool) :
    (w.setVlanMembership v port mode force).Asks
      (w.MayAsk (.setVlanMembership v port mode force)) := by
  apply mayAsk_after (asks_done _)
  intro _
  apply mayAsk_after (asks_vlan v)
  intro _
  apply mayAsk_after (asks_done _)
  intro _
  apply mayAsk_change (fun _ hc => Or.inl hc)
  intro _
  exact asks_bind (asks_vlan v) fun _ => asks_done _

theorem asks_setPortDescription (port : ℤ) (description : Text) (force : Bool) :
    (w.setPortDescription port description force).Asks
      (w.MayAsk (.setPortDescription port description force)) := by
  apply mayAsk_after (asks_done _)
  intro _
  apply mayAsk_after (asks_described port)
  intro _
  apply mayAsk_change (fun _ hc => Or.inl hc)
  intro _
  exact asks_bind (asks_described port) fun _ => asks_done _

theorem asks_setPortSpeed (port : ℤ) (speed : PortSpeed) (force : Bool) :
    (w.setPortSpeed port speed force).Asks (w.MayAsk (.setPortSpeed port speed force)) := by
  apply mayAsk_after (asks_done _)
  intro _
  apply mayAsk_after (asks_done _)
  intro _
  apply mayAsk_after (asks_requirePort port)
  intro _
  apply mayAsk_change (fun _ hc => Or.inl hc)
  intro _
  exact asks_bind (asks_requirePort port) fun _ => asks_done _

theorem asks_setFlowControl (port : ℤ) (enabled force : Bool) :
    (w.setFlowControl port enabled force).Asks (w.MayAsk (.setFlowControl port enabled force)) := by
  apply mayAsk_after (asks_done _)
  intro _
  apply mayAsk_after (asks_requirePort port)
  intro _
  apply mayAsk_change (fun _ hc => Or.inl hc)
  intro _
  exact asks_bind (asks_requirePort port) fun _ => asks_done _

theorem asks_setPvid (port v : ℤ) (force : Bool) :
    (w.setPvid port v force).Asks (w.MayAsk (.setPvid port v force)) := by
  apply mayAsk_after (asks_done _)
  intro _
  apply mayAsk_after asks_getVlans
  intro _
  apply mayAsk_after (asks_done _)
  intro _
  apply mayAsk_after asks_getPvids
  intro _
  apply mayAsk_change (fun _ hc => Or.inl hc)
  intro _
  exact asks_bind asks_getPvids fun _ => asks_done _

theorem asks_setPoe (port : ℤ) (on force : Bool) (tries : ℕ) :
    (w.setPoe port on force tries).Asks (w.MayAsk (.setPoe port on force tries)) := by
  apply mayAsk_after (asks_done _)
  intro _
  apply mayAsk_after (asks_done _)
  intro _
  apply mayAsk_after (asks_poeStatus port)
  intro _
  apply mayAsk_change (fun _ hc => Or.inl hc)
  intro _
  exact asks_pollUntil _ (asks_poeStatus port) (asks_done _) tries

theorem asks_setPortEnabled (port : ℤ) (enabled force : Bool) :
    (w.setPortEnabled port enabled force).Asks (w.MayAsk (.setPortEnabled port enabled force)) := by
  apply mayAsk_after (asks_done _)
  intro _
  apply mayAsk_after (asks_portStatus port)
  intro _
  apply mayAsk_change (fun _ hc => Or.inl hc)
  intro _
  exact asks_bind (asks_portStatus port) fun _ => asks_done _

theorem asks_setHostname (name : Text) :
    (w.setHostname name).Asks (w.MayAsk (.setHostname name)) := by
  apply mayAsk_after (asks_done _)
  intro _
  apply mayAsk_after asks_getHostname
  intro _
  apply mayAsk_change (fun _ hc => Or.inl hc)
  intro _
  exact asks_bind asks_getHostname fun _ => asks_done _

theorem asks_setMgmtIp (address netmask gateway : Text) (force : Bool) :
    (w.setMgmtIp address netmask gateway force).Asks
      (w.MayAsk (.setMgmtIp address netmask gateway force)) := by
  apply mayAsk_after (asks_done _)
  intro _
  apply mayAsk_after asks_getMgmtIp
  intro _
  apply asks_bind
  · apply asks_runAll
    intro c hc
    exact Or.inr (Or.inl ⟨c, rfl, Or.inl (by simp [changes, hc])⟩)
  · intro _
    have hlast : ∀ _ : Unit, (do
        let after ← w.getMgmtIp
        ensure (after.address = some address ∧ after.netmask = some netmask ∧
          after.gateway = some gateway) .writeVerification : CliScript Unit).Asks w.IsRead :=
      fun _ => asks_bind asks_getMgmtIp fun _ => asks_done _
    dsimp only
    split_ifs
    · exact (hlast ()).imp fun _ h => Or.inl h
    · apply mayAsk_change _ hlast
      intro c hc
      refine Or.inl ?_
      simp only [changes, List.append_assoc]
      exact List.mem_append_right _ (by simpa using hc)

theorem asks_reboot (force : Bool) : (reboot force).Asks (w.MayAsk (.reboot force)) := by
  cases force with
  | false => exact asks_done _
  | true =>
    have hreload : w.MayAsk (.reboot true) (.writeMemory reloadCmd true) :=
      Or.inr (Or.inr ⟨rfl, rfl⟩)
    apply asks_bind (asks_call hreload)
    intro answer
    cases answer with
    | ok _ => exact asks_done _
    | error e => exact asks_done _

theorem asks_setSyslogEnabled (enabled : Bool) :
    (w.setSyslogEnabled enabled).Asks (w.MayAsk (.setSyslogEnabled enabled)) := by
  apply mayAsk_after asks_getSyslog
  intro _
  apply mayAsk_change (fun _ hc => Or.inl hc)
  intro _
  exact asks_bind asks_getSyslog fun _ => asks_done _

theorem asks_addSyslogCollector (host : Text) (port severity : ℤ) :
    (w.addSyslogCollector host port severity).Asks
      (w.MayAsk (.addSyslogCollector host port severity)) := by
  apply mayAsk_after asks_getSyslog
  intro _
  apply mayAsk_after (asks_done _)
  intro _
  cases hcommand : loggingHostAdd host port severity with
  | none => exact asks_done _
  | some command =>
    apply mayAsk_change
    · intro c hc
      exact Or.inl (by simpa [changes, hcommand] using hc)
    · intro _
      exact asks_bind asks_getSyslog fun _ => asks_done _

theorem asks_removeSyslogCollector (host : Text) :
    (w.removeSyslogCollector host).Asks (w.MayAsk (.removeSyslogCollector host)) := by
  apply mayAsk_after asks_getSyslog
  intro _
  apply mayAsk_after (asks_done _)
  intro _
  apply mayAsk_after (asks_done _)
  intro index
  apply mayAsk_change
  · intro c hc
    simp only [List.mem_append, List.mem_singleton] at hc
    rcases hc with (rfl | rfl) | rfl
    · exact Or.inl (by simp [changes])
    · exact Or.inr ⟨host, index, rfl, rfl⟩
    · exact Or.inl (by simp [changes])
  · intro _
    exact asks_bind asks_getSyslog fun _ => asks_done _

/-- Whatever the device answers, an operation asks for nothing else. -/
theorem asks_perform (op : CliOperation) : (w.perform op).Asks (w.MayAsk op) := by
  cases op with
  | createVlan v name => exact asks_createVlan v name
  | deleteVlan v force => exact asks_deleteVlan v force
  | setVlanMembership v port mode force => exact asks_setVlanMembership v port mode force
  | setPortDescription port description force => exact asks_setPortDescription port description force
  | setPortSpeed port speed force => exact asks_setPortSpeed port speed force
  | setFlowControl port enabled force => exact asks_setFlowControl port enabled force
  | setPvid port v force => exact asks_setPvid port v force
  | setPoe port on force tries => exact asks_setPoe port on force tries
  | cyclePoe port force tries =>
    apply mayAsk_after (asks_done _)
    intro _
    exact mayAsk_poeReset fun _ hc => Or.inl hc
  | clearPoeFault port force tries =>
    apply mayAsk_after (asks_done _)
    intro _
    exact mayAsk_poeReset fun _ hc => Or.inl hc
  | setPortEnabled port enabled force => exact asks_setPortEnabled port enabled force
  | setHostname name => exact asks_setHostname name
  | setMgmtIp address netmask gateway force => exact asks_setMgmtIp address netmask gateway force
  | reboot force => exact asks_reboot force
  | setSyslogEnabled enabled => exact asks_setSyslogEnabled enabled
  | addSyslogCollector host port severity => exact asks_addSyslogCollector host port severity
  | removeSyslogCollector host => exact asks_removeSyslogCollector host

end Asks

/-- A GSM7252PS writer to which the pages that are not about VLANs are unreadable. -/
def bareWriter : CliWriter where
  spec := { modelKey := .gsm7252ps, switchportGeneralCmd := none }
  pages :=
    { portStatus := fun _ => .error .valueError
      poe := fun _ => .error .valueError
      mgmtIp := fun _ => .error .cliCommand
      syslog := fun _ _ => .error .cliCommand
      hostname := fun _ => .error .cliCommand
      portDescription := fun _ => .error .cliCommand }

end CliWriter

end NetgearSwitch.Cli
