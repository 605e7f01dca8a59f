import NetgearSwitch.Lib.IpAddress
import NetgearSwitch.Registry

/-!
# FASTPATH CLI commands

`protocols/cli/commands.py`: the per-model command texts of the read and write operations and
the interface names the firmware addresses its ports by.  Commands no modelled operation issues
are left out.
-/

namespace NetgearSwitch.Cli

open PyText

/-- `CliModelSpec`. -/
structure CliModelSpec where
  modelKey : ModelKey
  vlanBriefCmd : Text := "show vlan brief".toList
  pvidCmd : Text := "show vlan port all".toList
  poeCmd : Text := "show poe port info all".toList
  networkCmd : Text := "show network".toList
  /-- The stem in front of a port number, up to the first uplink port. -/
  ifaceStem : Text := "1/0/".toList
  uplink : Option (Text × ℤ) := none
  switchportGeneralCmd : Option Text := some "switchport mode general".toList
  /-- The management address is written in global configuration mode, by `ip management address`
  and `ip default-gateway`, rather than by the privileged-EXEC `network parms`. -/
  mgmtIpInConfig : Bool := false

/-- `cli_spec`; `none` where the model has no CLI. -/
def cliSpec : ModelKey → Option CliModelSpec
  | .gsm7252ps => some { modelKey := .gsm7252ps, switchportGeneralCmd := none }
  | .m4300_24x =>
    some { modelKey := .m4300_24x, vlanBriefCmd := "show vlan".toList
           networkCmd := "show ip management".toList, mgmtIpInConfig := true }
  | .m4300_16x =>
    some { modelKey := .m4300_16x, vlanBriefCmd := "show vlan".toList
           networkCmd := "show ip management".toList, mgmtIpInConfig := true }
  | .gsm7228ps =>
    some { modelKey := .gsm7228ps, vlanBriefCmd := "show vlan".toList
           ifaceStem := "1/g".toList, uplink := some ("1/xg".toList, 49) }
  | _ => none

namespace CliModelSpec

/-- `iface(port)`: the interface name the firmware addresses a port by. -/
def iface (spec : CliModelSpec) (port : ℤ) : Text :=
  match spec.uplink with
  | some (stem, first) => (if first ≤ port then stem else spec.ifaceStem) ++ intText port
  | none => spec.ifaceStem ++ intText port

def vlanDatabaseCmd : Text := "vlan database".toList
def configureCmd : Text := "configure".toList
def exitCmd : Text := "exit".toList

def vlanDetail (vlan : ℤ) : Text := "show vlan ".toList ++ intText vlan
def vlanCreate (vlan : ℤ) : Text := "vlan ".toList ++ intText vlan
def vlanName (vlan : ℤ) (name : Text) : Text :=
  "vlan name ".toList ++ intText vlan ++ [' '] ++ name
def vlanDelete (vlan : ℤ) : Text := "no vlan ".toList ++ intText vlan

def interface (spec : CliModelSpec) (port : ℤ) : Text := "interface ".toList ++ spec.iface port

def vlanParticipation (vlan : ℤ) (included : Bool) : Text :=
  "vlan participation ".toList ++ (if included then "include" else "exclude").toList ++ [' '] ++
    intText vlan

def vlanTagging (vlan : ℤ) (tagged : Bool) : Text :=
  (if tagged then "vlan tagging " else "no vlan tagging ").toList ++ intText vlan

def vlanPvid (vlan : ℤ) : Text := "vlan pvid ".toList ++ intText vlan

def versionCmd : Text := "show version".toList
def portStatusCmd : Text := "show port all".toList
def macTableCmd : Text := "show mac-addr-table".toList
def lldpCmd : Text := "show lldp remote-device all".toList
def environmentCmd : Text := "show environment".toList
def hostsCmd : Text := "show hosts".toList
def loggingCmd : Text := "show logging".toList
def loggingHostsCmd : Text := "show logging hosts".toList
def poeResetCmd : Text := "poe reset".toList
def reloadCmd : Text := "reload".toList

/-- `port_description`: set a description, or clear it. -/
def portDescription (text : Text) : Text :=
  if text = [] then "no description".toList
  else "description '".toList ++ text ++ ['\'']

def portDescriptionShow (spec : CliModelSpec) (port : ℤ) : Text :=
  "show port description ".toList ++ spec.iface port

/-- `fastpath_rate`: 10000 is `10G`. -/
def fastpathRate (mbps : ℤ) : Text :=
  if 1000 ≤ mbps ∧ mbps % 1000 = 0 then intText (mbps / 1000) ++ ['G'] else intText mbps

def portSpeed : PortSpeed → Text
  | .auto => "speed auto".toList
  | .forced mbps fullDuplex =>
    "speed ".toList ++ fastpathRate mbps ++ [' '] ++
      (if fullDuplex then "full" else "half").toList ++ "-duplex".toList

def portFlowControl (enabled : Bool) : Text :=
  (if enabled then "flowcontrol" else "no flowcontrol").toList

def poeAdmin (on : Bool) : Text := (if on then "poe" else "no poe").toList

def portAdmin (enabled : Bool) : Text := (if enabled then "no shutdown" else "shutdown").toList

def hostnameConfig (name : Text) : Text := "hostname ".toList ++ name

def loggingSyslog (enabled : Bool) : Text :=
  (if enabled then "logging syslog" else "no logging syslog").toList

/-- `address_kind`: the kind of address a `logging host` line names. -/
def addressKind (address : Text) : Text :=
  match IpAddress.version address with
  | some n => "ipv".toList ++ natText n
  | none => "dns".toList

/-- `syslog_severity_word`; `none` where it raises `ValueError`. -/
def syslogSeverityWord (level : ℤ) : Option Text :=
  [((0 : ℤ), "emergency"), (1, "alert"), (2, "critical"), (3, "error"), (4, "warning"),
    (5, "notice"), (6, "info"), (7, "debug")].findSome? fun e =>
      if e.1 = level then some e.2.toList else none

/-- `logging_host_add`. -/
def loggingHostAdd (address : Text) (port severity : ℤ) : Option Text :=
  (syslogSeverityWord severity).map fun word =>
    "logging host \"".toList ++ address ++ "\" ".toList ++ addressKind address ++ [' '] ++
      intText port ++ [' '] ++ word

def loggingHostRemove (index : ℤ) : Text := "logging host remove ".toList ++ intText index

/-- `mgmt_ip`: the privileged-EXEC commands and the configuration commands. -/
def mgmtIp (spec : CliModelSpec) (address netmask gateway : Text) : List Text × List Text :=
  if spec.mgmtIpInConfig then
    ([], ["ip management address ".toList ++ address ++ [' '] ++ netmask,
      "ip default-gateway ".toList ++ gateway])
  else
    (["network parms ".toList ++ address ++ [' '] ++ netmask ++ [' '] ++ gateway], [])

end CliModelSpec

end NetgearSwitch.Cli
