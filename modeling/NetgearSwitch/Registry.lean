import NetgearSwitch.Lib.PyText
import Mathlib.Data.Finset.Insert

/-!
# The model registry

The models of `registry.py`, with the fields the rest of the development reads: port count,
backends, vendor OID subtree, and the three fields that say how the model's SNMP agent takes
VLAN writes.  `gsm7228ps` is also reachable under the alias `s3300`; the alias resolves to the
same entry.
-/

namespace NetgearSwitch

/-- An OID as the wire carries it. -/
abbrev Oid := List ℕ

/-- Fully Managed vendor subtree (M4300, GSM7252PS). -/
def fmBase : Oid := [1, 3, 6, 1, 4, 1, 4526, 10]

/-- Smart Managed Pro vendor subtree (S3300/GSM7228PS). -/
def smpBase : Oid := [1, 3, 6, 1, 4, 1, 4526, 11]

inductive Backend
  | snmp
  | nsdp
  | http
  | ssh
  | telnet
  | console
  deriving DecidableEq, Repr

/-- How the model's SNMP agent accepts a VLAN port-membership write. -/
inductive SnmpVlanWrite
  | qbridge
  | fastpathSwitchport
  deriving DecidableEq, Repr

inductive ModelKey
  | m4300_24x
  | m4300_16x
  | gsm7252ps
  | gsm7228ps
  | gs110emx
  | gs305ep
  | m7300
  | xs748t
  | gs728tpp
  | gs105pe
  deriving DecidableEq, Repr

structure SwitchModel where
  key : ModelKey
  displayName : Text
  portCount : ℕ
  poePortCount : ℕ
  backends : Finset Backend
  snmpVendorBase : Option Oid
  snmpVlanWrite : SnmpVlanWrite := .qbridge
  /-- Write the egress and untagged PortLists in separate PDUs, egress first. -/
  snmpVlanSplitMembershipWrites : Bool := false
  snmpCanCreateVlan : Bool := true

/-- `get_model`. -/
def getModel : ModelKey → SwitchModel
  | .m4300_24x =>
    { key := .m4300_24x, displayName := "M4300-24X (XSM4324CS)".toList, portCount := 28
      poePortCount := 0, backends := {.snmp, .http, .ssh, .telnet}
      snmpVendorBase := some fmBase, snmpVlanWrite := .fastpathSwitchport }
  | .m4300_16x =>
    { key := .m4300_16x, displayName := "M4300-16X (XSM4316)".toList, portCount := 16
      poePortCount := 16, backends := {.snmp, .http, .ssh, .telnet}
      snmpVendorBase := some fmBase, snmpVlanWrite := .fastpathSwitchport }
  | .gsm7252ps =>
    { key := .gsm7252ps, displayName := "GSM7252PS".toList, portCount := 52
      poePortCount := 48, backends := {.snmp, .http, .ssh, .telnet}
      snmpVendorBase := some fmBase }
  | .gsm7228ps =>
    { key := .gsm7228ps, displayName := "GSM7228PS (S3300)".toList, portCount := 52
      poePortCount := 48, backends := {.snmp, .http, .telnet}
      snmpVendorBase := some smpBase, snmpVlanSplitMembershipWrites := true }
  | .gs110emx =>
    { key := .gs110emx, displayName := "GS110EMX".toList, portCount := 10
      poePortCount := 0, backends := {.nsdp, .http}, snmpVendorBase := none }
  | .gs305ep =>
    { key := .gs305ep, displayName := "GS305EP".toList, portCount := 5
      poePortCount := 4, backends := {.nsdp, .http}, snmpVendorBase := none }
  | .m7300 =>
    { key := .m7300, displayName := "M7300-24XF".toList, portCount := 24
      poePortCount := 0, backends := {.snmp}, snmpVendorBase := some fmBase }
  | .xs748t =>
    { key := .xs748t, displayName := "XS748T".toList, portCount := 48
      poePortCount := 0, backends := {.snmp}, snmpVendorBase := some smpBase }
  | .gs728tpp =>
    { key := .gs728tpp, displayName := "GS728TPP".toList, portCount := 28
      poePortCount := 24, backends := {.snmp, .http}, snmpVendorBase := none
      snmpCanCreateVlan := false }
  | .gs105pe =>
    { key := .gs105pe, displayName := "GS105PE".toList, portCount := 5
      poePortCount := 0, backends := {.nsdp, .http}, snmpVendorBase := none }

/-- A port's participation in one VLAN. -/
inductive VlanMode
  | untagged
  | tagged
  | excluded
  deriving DecidableEq, Repr

/-- One VLAN as a reader reports it. -/
structure VLANInfo where
  vlanId : ℤ
  name : Option Text
  memberPorts : Finset ℤ
  taggedPorts : Finset ℤ
  untaggedPorts : Finset ℤ
  deriving DecidableEq

/-- A port's configured speed: a forced port names both its rate and its duplex. -/
inductive PortSpeed
  | auto
  | forced (mbps : ℤ) (fullDuplex : Bool)
  deriving DecidableEq, Repr

/-- One port as a reader reports it. -/
structure PortStatus where
  port : ℤ
  name : Option Text
  adminEnabled : Bool
  linkUp : Bool
  speedMbps : Option ℤ
  description : Option Text := none
  fullDuplex : Option Bool := none
  flowControl : Option Bool := none
  speedConfig : Option PortSpeed := none
  operStatus : Option ℤ := none
  deriving DecidableEq

inductive PoEDetect
  | disabled
  | searching
  | delivering
  | fault
  | unknown
  deriving DecidableEq, Repr

/-- One PoE port as a reader reports it. -/
structure PoEStatus where
  port : ℤ
  adminEnabled : Bool
  detect : PoEDetect
  powerMw : Option ℤ
  deriving DecidableEq

def PoEStatus.delivering (s : PoEStatus) : Bool := s.detect = .delivering

/-- `poe_cycle_complete`: a port that powered a device powers it again, any other one detects. -/
def poeCycleComplete (before now : Option PoEStatus) : Bool :=
  match now with
  | none => false
  | some now =>
    if before.any (·.delivering) then now.delivering
    else now.detect = .delivering || now.detect = .searching

/-- The management address as a reader reports it. -/
structure MgmtIpConfig where
  address : Option Text
  netmask : Option Text
  gateway : Option Text
  deriving DecidableEq

/-- `syslog_severity`; `none` where it raises `ValueError`. -/
def syslogSeverity (name : Text) : Option ℤ :=
  [("emergency", 0), ("alert", 1), ("critical", 2), ("error", 3), ("warning", 4), ("notice", 5),
    ("info", 6), ("informational", 6), ("debug", 7)].findSome? fun e =>
      if (PyText.strip name).map Char.toLower = e.1.toList then some e.2 else none

structure SyslogServer where
  host : Text
  port : ℤ
  severity : ℤ
  active : Bool
  /-- The row's own index in the switch's table, which may have gaps. -/
  index : Option ℤ := none
  deriving DecidableEq

structure SyslogConfig where
  enabled : Bool
  localPort : ℤ
  servers : List SyslogServer
  deriving DecidableEq

end NetgearSwitch
