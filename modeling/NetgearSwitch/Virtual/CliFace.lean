import NetgearSwitch.Cli.Commands
import NetgearSwitch.Virtual.ApplyWrite
import NetgearSwitch.Virtual.CliFastpath

/-!
# The CLI face

`VirtualCliFace` of `virtual/faces/cli.py`: a stack of command modes over the state, and `run`,
which dispatches one command text.  The regular expressions of the source are recognisers to a
command type, one type a mode.  A number is `\d+` read by `int()`: any decimal digits, and a
`ValueError` from `run` where there are more than 4300 of them.  `\w` is read in ASCII, which
touches nothing but the wording of a refusal.

The face keeps its own switchport mode per port (`PortSim.switchportMode`) and edits the VLAN
sets directly; it does not touch the vendor switchport table.
-/

namespace NetgearSwitch.Virtual

open PyText Cli CliModelSpec

/-! ## §1 Commands -/

/-- A command split at its single spaces. -/
def words (c : Text) : List Text := c.splitOn ' '

/-- `int()` of a `(\d+)`. -/
def number? (t : Text) : Option ℤ :=
  if isNumber t then (intOfDecimals t).map fun n : ℕ => (n : ℤ) else none

/-- The number of a `(\d+)` of any length, also where `int()` refuses it. -/
def anyNumber? (t : Text) : Option ℤ := if isNumber t then some (decimalsValue t : ℤ) else none

/-- `\S+`. -/
def isToken (t : Text) : Bool := !t.isEmpty && t.all fun c => !isSpace c

/-- `\d+\.\d+\.\d+\.\d+`. -/
def isDottedQuad (t : Text) : Bool :=
  let parts := t.splitOn '.'
  parts.length = 4 && parts.all isNumber

/-- The commands of `vlan database`. -/
inductive VlanDbCommand
  | create (vid : ℤ)
  | rename (vid : ℤ) (name : Text)
  | delete (vid : ℤ)
  deriving DecidableEq

/-- The patterns of `_vlan_db_command`, with what reads their numbers. -/
def VlanDbCommand.ofTextWith (number : Text → Option ℤ) (c : Text) : Option VlanDbCommand :=
  match words c with
  | [a, n] => if a = "vlan".toList then (number n).map .create else none
  | [a, b, n] =>
    if a = "no".toList ∧ b = "vlan".toList then (number n).map .delete else none
  | [a, b, n, name] =>
    if a = "vlan".toList ∧ b = "name".toList ∧ isToken name then
      (number n).map fun vid => .rename vid name
    else none
  | _ => none

def VlanDbCommand.ofText (c : Text) : Option VlanDbCommand := ofTextWith number? c

example : VlanDbCommand.ofText "vlan ٥".toList = some (.create 5) := by decide +kernel

/-- The commands of `interface <iface>`. -/
inductive InterfaceCommand
  | switchportMode (mode : CliSwitchportMode)
  | poeReset
  | poe (on : Bool)
  | shutdown (enabled : Bool)
  | participation (included : Bool) (vid : ℤ)
  | tagging (tagged : Bool) (vid : ℤ)
  | pvid (vid : ℤ)
  | flowControl (on : Bool)
  | speedAuto
  | speedForced (rate : Text)
  | description (text : Text)
  | noDescription
  deriving DecidableEq

/-- The switchport mode a word names. -/
def CliSwitchportMode.ofText (t : Text) : Option CliSwitchportMode :=
  if t = "access".toList then some .access
  else if t = "general".toList then some .general
  else if t = "trunk".toList then some .trunk
  else none

/-- `description '([^']*)'`. -/
def quotedDescription (c : Text) : Option Text :=
  let stem := "description '".toList
  let body := (c.drop stem.length).dropLast
  if c.take stem.length = stem ∧ (c.drop stem.length).getLast? = some '\'' ∧ '\'' ∉ body then
    some body
  else none

/-- `\d+G?`. -/
def isRate (t : Text) : Bool := isNumber t || t.getLast? = some 'G' && isNumber t.dropLast

/-- The patterns of `_interface_command`, with what reads their numbers. -/
def InterfaceCommand.ofTextWith (number : Text → Option ℤ) (c : Text) : Option InterfaceCommand :=
  match quotedDescription c with
  | some text => some (.description text)
  | none =>
    match words c with
    | [a] =>
      if a = "poe".toList then some (.poe true)
      else if a = "shutdown".toList then some (.shutdown false)
      else if a = "flowcontrol".toList then some (.flowControl true)
      else none
    | [a, b] =>
      if a = "poe".toList ∧ b = "reset".toList then some .poeReset
      else if a = "no".toList ∧ b = "poe".toList then some (.poe false)
      else if a = "no".toList ∧ b = "shutdown".toList then some (.shutdown true)
      else if a = "no".toList ∧ b = "flowcontrol".toList then some (.flowControl false)
      else if a = "speed".toList ∧ b = "auto".toList then some .speedAuto
      else if a = "no".toList ∧ b = "description".toList then some .noDescription
      else none
    | [a, b, n] =>
      if a = "switchport".toList ∧ b = "mode".toList then
        (CliSwitchportMode.ofText n).map .switchportMode
      else if a = "vlan".toList ∧ b = "tagging".toList then (number n).map (.tagging true)
      else if a = "vlan".toList ∧ b = "pvid".toList then (number n).map .pvid
      else if a = "speed".toList ∧ isRate b ∧
          (n = "full-duplex".toList ∨ n = "half-duplex".toList) then
        some (.speedForced b)
      else none
    | [a, b, d, n] =>
      if a = "no".toList ∧ b = "vlan".toList ∧ d = "tagging".toList then
        (number n).map (.tagging false)
      else if a = "vlan".toList ∧ b = "participation".toList ∧ d = "include".toList then
        (number n).map (.participation true)
      else if a = "vlan".toList ∧ b = "participation".toList ∧ d = "exclude".toList then
        (number n).map (.participation false)
      else none
    | _ => none

def InterfaceCommand.ofText (c : Text) : Option InterfaceCommand := ofTextWith number? c

/-- The commands of global configuration mode. -/
inductive ConfigCommand
  | hostname (name : Text)
  | loggingSyslog (on : Bool)
  | loggingHostAdd (address : Text) (port : ℤ) (severity : Text)
  | loggingHostNegation
  | loggingHostRemove (index : ℤ)
  | interface (name : Text)
  | ipManagementAddress (address netmask : Text)
  | ipDefaultGateway (address : Text)
  deriving DecidableEq

/-- `hostname\s+("?[^"]+"?)`: the name without its quotes. -/
def hostnameArgument (c : Text) : Option Text :=
  let stem := "hostname".toList
  let rest := c.drop stem.length
  let argument := rest.dropWhile isSpace
  let blanks := rest.length - argument.length
  let name := if argument.head? = some '"' then argument.drop 1 else argument
  let name := if name.getLast? = some '"' then name.dropLast else name
  if c.take stem.length ≠ stem ∨ blanks = 0 then none
  else if name ≠ [] ∧ '"' ∉ name then some name
  -- one of the blanks can stand for the name in front of a lone quote
  else if argument = ['"'] ∧ 2 ≤ blanks then some []
  else none

/-- `logging host "([^"]+)" (ipv4|ipv6|dns) (\d+) (\w+)`.  A word with a letter outside ASCII names
no severity, and is refused either way. -/
def loggingHostArgument (number : Text → Option ℤ) (c : Text) : Option ConfigCommand :=
  match c.splitOn '"' with
  | [stem, address, rest] =>
    match words rest with
    | [[], kind, port, word] =>
      if stem = "logging host ".toList ∧ address ≠ [] ∧
          (kind = "ipv4".toList ∨ kind = "ipv6".toList ∨ kind = "dns".toList) ∧
          word ≠ [] ∧ word.all (fun ch => ch.isAlphanum || ch = '_') then
        (number port).map fun n => .loggingHostAdd address n word
      else none
    | _ => none
  | _ => none

/-- `no logging host\b.*`. -/
def isLoggingHostNegation (c : Text) : Bool :=
  let stem := "no logging host".toList
  c.take stem.length = stem &&
    (c.drop stem.length).head?.all fun ch => !(ch.isAlphanum || ch = '_')

/-- The patterns of global configuration mode in `_config_command`, with what reads their
numbers. -/
def ConfigCommand.ofTextWith (number : Text → Option ℤ) (c : Text) : Option ConfigCommand :=
  match hostnameArgument c with
  | some name => some (.hostname name)
  | none =>
    match loggingHostArgument number c with
    | some command => some command
    | none =>
      if isLoggingHostNegation c then some .loggingHostNegation
      else match words c with
        | [a, b] =>
          if a = "logging".toList ∧ b = "syslog".toList then some (.loggingSyslog true)
          else if a = "interface".toList ∧ isToken b then some (.interface b)
          else none
        | [a, b, d] =>
          if a = "no".toList ∧ b = "logging".toList ∧ d = "syslog".toList then
            some (.loggingSyslog false)
          else if a = "ip".toList ∧ b = "default-gateway".toList ∧ isDottedQuad d then
            some (.ipDefaultGateway d)
          else none
        | [a, b, d, n] =>
          if a = "logging".toList ∧ b = "host".toList ∧ d = "remove".toList then
            (number n).map .loggingHostRemove
          else none
        | [a, b, d, x, y] =>
          if a = "ip".toList ∧ b = "management".toList ∧ d = "address".toList ∧
              isDottedQuad x ∧ isDottedQuad y then
            some (.ipManagementAddress x y)
          else none
        | _ => none

def ConfigCommand.ofText (c : Text) : Option ConfigCommand := ofTextWith number? c

/-- `network parms <address> <netmask> [<gateway>]`. -/
def networkParms (c : Text) : Option (Text × Text × Option Text) :=
  match words c with
  | [a, b, address, netmask] =>
    if a = "network".toList ∧ b = "parms".toList ∧ isDottedQuad address ∧ isDottedQuad netmask then
      some (address, netmask, none)
    else none
  | [a, b, address, netmask, gateway] =>
    if a = "network".toList ∧ b = "parms".toList ∧ isDottedQuad address ∧
        isDottedQuad netmask ∧ isDottedQuad gateway then
      some (address, netmask, some gateway)
    else none
  | _ => none

/-! ## §2 The face -/

inductive CliMode
  | vlanDb
  | config
  | interface
  deriving DecidableEq, Repr

/-- An in-process CLI session.  The innermost mode is the head of `modes`; no mode is EXEC. -/
structure VirtualCliFace where
  state : VirtualSwitchState
  modes : List CliMode := []
  ifacePort : Option ℤ := none
  deriving DecidableEq

/-- What a command answers: a text, or an answer to `show` that no modelled reader reads.  A
number of more than 4300 digits raises. -/
inductive CliReply
  | text (t : Text)
  | page
  | raised
  deriving DecidableEq

def accepted : Text := []
def invalid : Text := "% Invalid input detected at '^' marker.".toList
def noSuchVlan (vlan : ℤ) : Text :=
  "ERROR: VLAN ".toList ++ intText vlan ++ " does not exist".toList
def defaultVlanKept : Text := "ERROR: The default VLAN cannot be deleted".toList
def noSuchLoggingHost (index : ℤ) : Text :=
  "Error! Logging Host with index of ".toList ++ intText index ++ " is non-existent.".toList
def commandNotFound : Text :=
  "Command not found / Incomplete command. Use ? to list commands.".toList

namespace VirtualSwitchState

/-- `_general`: does `port` honour the per-port VLAN commands? -/
def general (s : VirtualSwitchState) (port : ℤ) : Bool :=
  (s.ports.get? port).any fun sim => sim.switchportMode ≠ .access

def hasSwitchportModes (s : VirtualSwitchState) : Bool := s.modelKey ≠ .gsm7252ps

def usesIpManagementDialect (s : VirtualSwitchState) : Bool :=
  s.modelKey = .m4300_24x || s.modelKey = .m4300_16x

def poeCapable (s : VirtualSwitchState) : Bool := 0 < s.model.poePortCount

/-- `apply_poe_reset`. -/
def applyPoeReset (s : VirtualSwitchState) (port : ℤ) : VirtualSwitchState :=
  { s with poe := s.poe.modify port fun psim =>
      { psim with admin := true, detect := if psim.powerMw ≠ 0 then 3 else 2 } }

/-- `_vlan_db_command`. -/
def vlanDbCommand (s : VirtualSwitchState) : VlanDbCommand → VirtualSwitchState × Text
  | .create vid =>
    (if vid ∈ s.vlans then s else { s with vlans := s.vlans.set vid { name := [] } }, accepted)
  | .rename vid name =>
    match s.vlans.get? vid with
    | none => (s, noSuchVlan vid)
    | some vsim => ({ s with vlans := s.vlans.set vid { vsim with name := name } }, accepted)
  | .delete vid =>
    if vid = 1 then (s, defaultVlanKept)
    else if vid ∈ s.vlans then
      ({ s with
          vlans := s.vlans.pop vid
          pvids := s.pvids.mapValues fun _ pvid => if pvid = vid then 1 else pvid }, accepted)
    else (s, noSuchVlan vid)

/-- `_interface_command` on the selected port. -/
def interfaceCommand (s : VirtualSwitchState) (port : ℤ) :
    InterfaceCommand → VirtualSwitchState × Text
  | .switchportMode mode =>
    if s.hasSwitchportModes then
      ({ s with ports := s.ports.modify port fun sim => { sim with switchportMode := mode } },
        accepted)
    else (s, invalid)
  | .poeReset => if s.poeCapable then (s.applyPoeReset port, accepted) else (s, invalid)
  | .poe on => if s.poeCapable then (s.applyPoeAdmin port on, accepted) else (s, invalid)
  | .shutdown enabled =>
    if port ∈ s.ports then
      ({ s with ports := s.ports.modify port fun sim =>
          { sim with admin := enabled, link := enabled && sim.link } }, accepted)
    else (s, invalid)
  | .participation included vid =>
    match s.vlans.get? vid with
    | none => (s, noSuchVlan vid)
    | some vsim =>
      -- accepted but inert in access mode
      if !s.general port then (s, accepted)
      else if included then
        ({ s with vlans := s.vlans.set vid { vsim with
            member := insert port vsim.member, untagged := insert port vsim.untagged } }, accepted)
      else
        ({ s with vlans := s.vlans.set vid { vsim with
            member := vsim.member.erase port, untagged := vsim.untagged.erase port } }, accepted)
  | .tagging tagged vid =>
    match s.vlans.get? vid with
    | none => (s, noSuchVlan vid)
    | some vsim =>
      if !s.general port then (s, accepted)
      else if tagged then
        ({ s with vlans := s.vlans.set vid { vsim with
            untagged := vsim.untagged.erase port } }, accepted)
      else
        ({ s with vlans := s.vlans.set vid { vsim with
            untagged := insert port vsim.untagged } }, accepted)
  | .pvid vid =>
    if vid ∈ s.vlans then
      if s.general port then ({ s with pvids := s.pvids.set port vid }, accepted)
      else (s, accepted)
    else (s, noSuchVlan vid)
  | .flowControl on =>
    ({ s with ports := s.ports.modify port fun sim => { sim with flowControl := on } }, accepted)
  | .speedAuto => (s, accepted)
  | .speedForced rate => if rate = "1000".toList then (s, invalid) else (s, accepted)
  | .description text =>
    ({ s with ports := s.ports.modify port fun sim =>
        { sim with description := if text = [] then none else some text } }, accepted)
  | .noDescription =>
    ({ s with ports := s.ports.modify port fun sim => { sim with description := none } }, accepted)

end VirtualSwitchState

namespace VirtualCliFace

/-- The commands of global configuration mode, in `_config_command`. -/
def globalCommand (f : VirtualCliFace) : ConfigCommand → VirtualCliFace × Text
  | .hostname name => ({ f with state := { f.state with hostname := name } }, accepted)
  | .loggingSyslog on =>
    let syslog := { f.state.syslog with adminMode := if on then 1 else 2 }
    ({ f with state := { f.state with syslog := syslog } }, accepted)
  | .loggingHostAdd address port word =>
    match syslogSeverity word with
    | none => (f, invalid)
    | some severity =>
      let collectors := f.state.syslog.collectors
      -- a new index, never a renumbering
      let highest := match collectors.map (·.index) with
        | [] => 0
        | i :: is => is.foldl max i
      let row : SyslogCollectorSim :=
        { host := address, port := port, severity := severity, index := highest + 1 }
      let syslog := { f.state.syslog with collectors := collectors ++ [row] }
      ({ f with state := { f.state with syslog := syslog } }, accepted)
  | .loggingHostNegation => (f, invalid)
  | .loggingHostRemove index =>
    match f.state.syslog.collectors.find? (·.index = index) with
    | none => (f, noSuchLoggingHost index)
    | some row =>
      let syslog := { f.state.syslog with collectors := f.state.syslog.collectors.erase row }
      ({ f with state := { f.state with syslog := syslog } }, accepted)
  | .interface name =>
    match f.state.portForIface name with
    | none => (f, invalid)
    | some port => ({ f with ifacePort := some port, modes := .interface :: f.modes }, accepted)
  | .ipManagementAddress address netmask =>
    if f.state.usesIpManagementDialect then
      let mgmt := { f.state.mgmt with address := address, netmask := netmask, mode := .static }
      ({ f with state := { f.state with mgmt := mgmt } }, accepted)
    else (f, invalid)
  | .ipDefaultGateway gateway =>
    if f.state.usesIpManagementDialect then
      ({ f with state := { f.state with mgmt := { f.state.mgmt with gateway := gateway } } },
        accepted)
    else (f, invalid)

/-- `_config_command`: mode changes and configuration commands; `none` for anything else. -/
def configCommand (f : VirtualCliFace) (c : Text) : Option (VirtualCliFace × Text) :=
  if c = "exit".toList then
    match f.modes with
    | [] => some (f, accepted)
    | _ :: modes =>
      let ifacePort := if modes.head? = some .interface then f.ifacePort else none
      some ({ f with modes := modes, ifacePort := ifacePort }, accepted)
  else if c = "end".toList then
    some ({ f with modes := [], ifacePort := none }, accepted)
  else if c = "vlan database".toList then
    match f.modes.head? with
    | none | some .config => some ({ f with modes := .vlanDb :: f.modes }, accepted)
    | some _ => some (f, invalid)
  else if c = "config".toList ∨ c = "configure".toList ∨ c = "config terminal".toList ∨
      c = "configure terminal".toList then
    match f.modes.head? with
    | none => some ({ f with modes := .config :: f.modes }, accepted)
    | some _ => some (f, invalid)
  else
    match networkParms c with
    | some (address, netmask, gateway) =>
      if f.modes.head? ≠ none ∨ f.state.usesIpManagementDialect then some (f, invalid)
      else
        let mgmt := { f.state.mgmt with
          address := address, netmask := netmask, mode := .static
          gateway := gateway.getD f.state.mgmt.gateway }
        some ({ f with state := { f.state with mgmt := mgmt } }, accepted)
    | none =>
      match f.modes.head?, f.ifacePort with
      | some .vlanDb, _ =>
        (VlanDbCommand.ofText c).map fun command =>
          let (s, reply) := f.state.vlanDbCommand command
          ({ f with state := s }, reply)
      | some .config, _ => (ConfigCommand.ofText c).map f.globalCommand
      | some .interface, some port =>
        (InterfaceCommand.ofText c).map fun command =>
          let (s, reply) := f.state.interfaceCommand port command
          ({ f with state := s }, reply)
      | _, _ => none

/-- What a command of the mode gets that is one but for the length of its number.  The severity of
a collector is looked up before its port is read. -/
def overlongReply? (f : VirtualCliFace) (c : Text) : Option CliReply :=
  match f.modes.head?, f.ifacePort with
  | some .vlanDb, _ => (VlanDbCommand.ofTextWith anyNumber? c).map fun _ => .raised
  | some .config, _ =>
    (ConfigCommand.ofTextWith anyNumber? c).map fun command =>
      match command with
      | .loggingHostAdd _ _ word => if syslogSeverity word = none then .text invalid else .raised
      | _ => .raised
  | some .interface, some _ => (InterfaceCommand.ofTextWith anyNumber? c).map fun _ => .raised
  | _, _ => none

/-- `enable`, `disable` and `terminal length <n>`. -/
def isSetup (c : Text) : Bool :=
  c = "enable".toList || c = "disable".toList ||
    match words c with
    | [a, b, n] => a = "terminal".toList && b = "length".toList && isNumber n
    | _ => false

/-- The `show` commands of fixed text whose pages no modelled reader needs in full. -/
def pageCmds (spec : CliModelSpec) : List Text :=
  [versionCmd, portStatusCmd, macTableCmd, lldpCmd, environmentCmd, spec.networkCmd, hostsCmd,
    loggingHostsCmd, loggingCmd]

/-- The `show` commands, which answer in any mode, and the text for everything unknown. -/
def showCommand (f : VirtualCliFace) (c : Text) : VirtualCliFace × CliReply :=
  match cliSpec f.state.modelKey with
  | none => (f, .page)
  | some spec =>
    if c = spec.vlanBriefCmd then (f, .text f.state.renderVlanBrief)
    else if c = spec.pvidCmd then (f, .text f.state.renderPvids)
    else if c = spec.poeCmd then ({ f with state := f.state.readPoeStatus }, .page)
    else if c ∈ pageCmds spec then (f, .page)
    else match words c with
      | [a, b, n] =>
        if a = "show".toList ∧ b = "vlan".toList ∧ isNumber n then
          match intOfDecimals n with
          | none => (f, .raised)
          | some vid => (f, .text (f.state.renderVlanDetail vid))
        else (f, .text commandNotFound)
      | [a, b, d, name] =>
        if a = "show".toList ∧ b = "port".toList ∧ d = "description".toList ∧ isToken name then
          (f, .page)
        else if a = "show".toList ∧ b = "interface".toList ∧ d = "ethernet".toList ∧
            isToken name then
          (f, if f.state.portForIface name = none then .text invalid else .page)
        else (f, .text commandNotFound)
      | _ => (f, .text commandNotFound)

/-- `run`. -/
def run (f : VirtualCliFace) (command : Text) : VirtualCliFace × CliReply :=
  let c := strip command
  if isSetup c then (f, .text [])
  -- recorded for the certificate deployment only
  else if c = "no ip http secure-server".toList ∨ c = "ip http secure-server".toList then
    (f, .text [])
  else
    match f.configCommand c with
    | some (f', reply) => (f', .text reply)
    | none =>
      match f.overlongReply? c with
      | some reply => (f, reply)
      | none => f.showCommand c

end VirtualCliFace

/-! ## §3 What a command does to the state

Only the VLAN database and interface commands touch the VLAN tables; `CliEffect` separates them
from the rest, whatever the mode. -/

/-- What one command turns the state of `f` into. -/
inductive CliEffect (f : VirtualCliFace) (c : Text) : VirtualSwitchState → Prop
  /-- VLANs, PVIDs, ports and the switchport table are not touched. -/
  | unrelated (poe : PyDict ℤ PoeSim) (mgmt : MgmtSim) (hostname : Text) (syslog : SyslogSim) :
      CliEffect f c { f.state with poe := poe, mgmt := mgmt, hostname := hostname, syslog := syslog }
  | vlanDb (command : VlanDbCommand) (hmode : f.modes.head? = some .vlanDb)
      (hcommand : VlanDbCommand.ofText c = some command) :
      CliEffect f c (f.state.vlanDbCommand command).1
  | interface (port : ℤ) (command : InterfaceCommand) (hmode : f.modes.head? = some .interface)
      (hport : f.ifacePort = some port) (hcommand : InterfaceCommand.ofText c = some command) :
      CliEffect f c (f.state.interfaceCommand port command).1

namespace VirtualCliFace

theorem CliEffect.unchanged (f : VirtualCliFace) (c : Text) : CliEffect f c f.state :=
  .unrelated f.state.poe f.state.mgmt f.state.hostname f.state.syslog

theorem effect_of_globalCommand (f : VirtualCliFace) (c : Text) (command : ConfigCommand) :
    CliEffect f c (f.globalCommand command).1.state := by
  cases command with
  | hostname name => exact .unrelated f.state.poe f.state.mgmt name f.state.syslog
  | loggingSyslog on => exact .unrelated f.state.poe f.state.mgmt f.state.hostname _
  | loggingHostAdd address port word =>
    simp only [globalCommand]
    split
    · exact CliEffect.unchanged f c
    · exact .unrelated f.state.poe f.state.mgmt f.state.hostname _
  | loggingHostNegation => exact CliEffect.unchanged f c
  | loggingHostRemove index =>
    simp only [globalCommand]
    split
    · exact CliEffect.unchanged f c
    · exact .unrelated f.state.poe f.state.mgmt f.state.hostname _
  | interface name =>
    simp only [globalCommand]
    split <;> exact CliEffect.unchanged f c
  | ipManagementAddress address netmask =>
    simp only [globalCommand]
    split_ifs
    · exact .unrelated f.state.poe _ f.state.hostname f.state.syslog
    · exact CliEffect.unchanged f c
  | ipDefaultGateway gateway =>
    simp only [globalCommand]
    split_ifs
    · exact .unrelated f.state.poe _ f.state.hostname f.state.syslog
    · exact CliEffect.unchanged f c

theorem effect_of_configCommand {f f' : VirtualCliFace} {c reply : Text}
    (h : f.configCommand c = some (f', reply)) : CliEffect f c f'.state := by
  unfold configCommand at h
  by_cases hexit : c = "exit".toList
  · rw [if_pos hexit] at h
    split at h
    · cases h
      exact CliEffect.unchanged _ c
    · cases h
      exact CliEffect.unchanged f c
  rw [if_neg hexit] at h
  by_cases hend : c = "end".toList
  · rw [if_pos hend] at h
    cases h
    exact CliEffect.unchanged f c
  rw [if_neg hend] at h
  by_cases hdatabase : c = "vlan database".toList
  · rw [if_pos hdatabase] at h
    split at h <;> cases h <;> exact CliEffect.unchanged _ c
  rw [if_neg hdatabase] at h
  split at h
  · split at h <;> cases h <;> exact CliEffect.unchanged _ c
  · split at h
    · split at h
      · cases h
        exact CliEffect.unchanged f c
      · cases h
        exact .unrelated f.state.poe _ f.state.hostname f.state.syslog
    · split at h
      · next hmode =>
        obtain ⟨command, hcommand, heq⟩ := Option.map_eq_some_iff.mp h
        cases heq
        exact .vlanDb command hmode hcommand
      · obtain ⟨command, _, heq⟩ := Option.map_eq_some_iff.mp h
        have hstate := effect_of_globalCommand f c command
        rw [heq] at hstate
        exact hstate
      · next port hmode hport =>
        obtain ⟨command, hcommand, heq⟩ := Option.map_eq_some_iff.mp h
        cases heq
        exact .interface port command hmode hport hcommand
      · cases h

theorem effect_of_showCommand (f : VirtualCliFace) (c : Text) :
    CliEffect f c (f.showCommand c).1.state := by
  unfold showCommand
  split
  · exact CliEffect.unchanged f c
  · split_ifs
    · exact CliEffect.unchanged f c
    · exact CliEffect.unchanged f c
    · exact .unrelated _ f.state.mgmt f.state.hostname f.state.syslog
    · exact CliEffect.unchanged f c
    · split
      · split_ifs
        · split <;> exact CliEffect.unchanged f c
        · exact CliEffect.unchanged f c
      · split_ifs <;> exact CliEffect.unchanged f c
      · exact CliEffect.unchanged f c

/-- Every command has one of the listed effects. -/
theorem effect_of_run (f : VirtualCliFace) (command : Text) :
    CliEffect f (strip command) (f.run command).1.state := by
  unfold run
  dsimp only
  split_ifs
  · exact CliEffect.unchanged f _
  · exact CliEffect.unchanged f _
  · split
    · next f' reply h => exact effect_of_configCommand h
    · split
      · exact CliEffect.unchanged f _
      · exact effect_of_showCommand f _

theorem modelKey_vlanDbCommand (s : VirtualSwitchState) (command : VlanDbCommand) :
    (s.vlanDbCommand command).1.modelKey = s.modelKey := by
  cases command with
  | create vid =>
    simp only [VirtualSwitchState.vlanDbCommand]
    split_ifs <;> rfl
  | rename vid name =>
    simp only [VirtualSwitchState.vlanDbCommand]
    split <;> rfl
  | delete vid =>
    simp only [VirtualSwitchState.vlanDbCommand]
    split_ifs <;> rfl

theorem modelKey_interfaceCommand (s : VirtualSwitchState) (port : ℤ)
    (command : InterfaceCommand) : (s.interfaceCommand port command).1.modelKey = s.modelKey := by
  cases command with
  | participation included vid =>
    simp only [VirtualSwitchState.interfaceCommand]
    split
    · rfl
    · split_ifs <;> rfl
  | tagging tagged vid =>
    simp only [VirtualSwitchState.interfaceCommand]
    split
    · rfl
    · split_ifs <;> rfl
  | poe on =>
    obtain ⟨ports, poe, _, heq⟩ := VirtualSwitchState.keys_ports_applyPoeAdmin s port on
    simp only [VirtualSwitchState.interfaceCommand, heq]
    split_ifs <;> rfl
  | flowControl on => rfl
  | speedAuto => rfl
  | description text => rfl
  | noDescription => rfl
  | _ =>
    simp only [VirtualSwitchState.interfaceCommand]
    split_ifs <;> rfl

/-- No command changes the model. -/
theorem modelKey_run (f : VirtualCliFace) (command : Text) :
    (f.run command).1.state.modelKey = f.state.modelKey := by
  have heffect := effect_of_run f command
  generalize (f.run command).1.state = s at heffect
  cases heffect with
  | unrelated => rfl
  | vlanDb c _ _ => exact modelKey_vlanDbCommand f.state c
  | interface port c _ _ _ => exact modelKey_interfaceCommand f.state port c

end VirtualCliFace

end NetgearSwitch.Virtual
