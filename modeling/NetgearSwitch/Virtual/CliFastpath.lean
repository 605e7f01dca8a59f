import NetgearSwitch.Lib.PyLines
import NetgearSwitch.Virtual.State

/-!
# FASTPATH `show` pages of the virtual switch

The VLAN and logging pages of `virtual/cli_fastpath.py`, and the interface names they print.  Only
physical ports appear on a page.
-/

namespace NetgearSwitch.Virtual

open PyText

/-- `s.ljust(w)`. -/
def ljust (t : Text) (w : ℕ) : Text := t ++ List.replicate (w - t.length) ' '

/-- One line of a table: the cells padded to their column widths. -/
def tableLine (widths : List ℕ) (cells : List Text) : Text :=
  joinText [' '] (List.zipWith ljust cells widths)

/-- `_table`: a fixed-width table under a ruler. -/
def table (headers : List Text) (widths : List ℕ) (rows : List (List Text)) : Text :=
  joinText ['\n'] (tableLine widths headers ::
    joinText [' '] (widths.map fun w => List.replicate w '-') :: rows.map (tableLine widths))

namespace VirtualSwitchState

/-- Is `p` one of the model's physical ports? -/
def IsPhysical (s : VirtualSwitchState) (p : ℤ) : Prop :=
  p ∈ s.ports ∧ 1 ≤ p ∧ p ≤ s.model.portCount

instance (s : VirtualSwitchState) (p : ℤ) : Decidable (s.IsPhysical p) :=
  inferInstanceAs (Decidable (_ ∧ _))

/-- `_phys_ports`. -/
def physPorts (s : VirtualSwitchState) : List ℤ :=
  PySet.sorted (s.ports.keys.toFinset.filter s.IsPhysical)

@[simp] theorem mem_physPorts {s : VirtualSwitchState} {p : ℤ} :
    p ∈ s.physPorts ↔ s.IsPhysical p := by
  simp only [physPorts, PySet.mem_sorted, Finset.mem_filter, List.mem_toFinset]
  exact ⟨And.right, fun h => ⟨PyDict.mem_def.mp h.1, h⟩⟩

/-- `_iface`: the interface name printed for a port. -/
def iface (s : VirtualSwitchState) (p : ℤ) : Text :=
  match s.ports.get? p with
  | some sim => if sim.name = [] then "1/0/".toList ++ intText p else sim.name
  | none => "1/0/".toList ++ intText p

/-- `port_for_iface`: the first port printed under a name. -/
def portForIface (s : VirtualSwitchState) (name : Text) : Option ℤ :=
  s.ports.keys.find? fun p => s.iface p = strip name

/-- `render_vlan_brief`. -/
def renderVlanBrief (s : VirtualSwitchState) : Text :=
  table ["VLAN ID".toList, "VLAN Name".toList, "VLAN Type".toList] [7, 32, 19]
    (s.vlans.sortedItems.map fun (vid, vsim) =>
      [intText vid, vsim.name, (if vid = 1 then "Default" else "Static").toList])

/-- The row of one port on `show vlan <id>`. -/
def vlanDetailRow (s : VirtualSwitchState) (member untagged : Finset ℤ) (p : ℤ) : List Text :=
  if p ∈ member then
    [s.iface p, "Include".toList, "Include".toList,
      (if p ∈ untagged then "Untagged" else "Tagged").toList]
  else [s.iface p, "Exclude".toList, "Autodetect".toList, "Untagged".toList]

/-- `render_vlan_detail`. -/
def renderVlanDetail (s : VirtualSwitchState) (vid : ℤ) : Text :=
  let vsim := s.vlans.get? vid
  let member := (vsim.map VlanSim.member).getD ∅
  let untagged := (vsim.map VlanSim.untagged).getD ∅
  joinText ['\n'] ["VLAN ID: ".toList ++ intText vid,
    "VLAN Name: ".toList ++ (vsim.map VlanSim.name).getD [],
    (if vid ≠ 1 then "VLAN Type: Static" else "VLAN Type: Default").toList, []] ++ ['\n'] ++
  table ["Interface".toList, "Current".toList, "Configured".toList, "Tagging".toList]
    [10, 8, 11, 8] (s.physPorts.map (s.vlanDetailRow member untagged))

/-- `render_pvids`. -/
def renderPvids (s : VirtualSwitchState) : Text :=
  table ["Interface".toList, "Port".toList, "Port".toList, "Acceptable".toList,
      "Ingress".toList, "Ingress".toList, "GVRP".toList, "Default".toList]
    [9, 10, 8, 11, 10, 9, 7, 8]
    (s.physPorts.map fun p =>
      let pvid := intText ((s.pvids.get? p).getD 1)
      [s.iface p, pvid, pvid, "Admit All".toList, "Disable".toList, "Disable".toList,
        "Enable".toList, "0".toList])

/-- The lines of `show logging`. -/
def loggingLines (s : VirtualSwitchState) : List Text := [
  "Logging Client Local Port           : ".toList ++ intText s.syslog.localPort,
  "Logging Client Source Interface     : serviceport".toList,
  "CLI Command Logging                 : disabled".toList,
  "Console Logging                     : disabled".toList,
  "Console Logging Severity Filter     : error".toList,
  "Buffered Logging                    : enabled".toList,
  "Buffered Logging Severity Filter    : notice".toList,
  [],
  "Syslog Logging                      : ".toList ++
    (if s.syslog.adminMode = 1 then "enabled" else "disabled").toList,
  [],
  "Log Messages Received               : 9850".toList,
  "Log Messages Dropped                : 0".toList,
  "Log Messages Relayed                : 118".toList]

/-- `render_logging`. -/
def renderLogging (s : VirtualSwitchState) : Text := joinText ['\n'] s.loggingLines

/-- `_SEVERITY_WORDS`, or the number itself. -/
def severityWord (level : ℤ) : Text :=
  (([((0 : ℤ), "emergency"), (1, "alert"), (2, "critical"), (3, "error"), (4, "warning"),
    (5, "notice"), (6, "info"), (7, "debug")].find? (·.1 = level)).map fun e => e.2.toList).getD
      (intText level)

/-- The row of one collector on `show logging hosts`, under its own index. -/
def loggingHostRow (c : SyslogCollectorSim) : Text :=
  ljust (intText c.index) 5 ++ [' '] ++ ljust c.host 24 ++ [' '] ++
    ljust (severityWord c.severity) 10 ++ [' '] ++ ljust (intText c.port) 6 ++ [' '] ++
    ljust (if c.status = 1 then "Active" else "Inactive").toList 9 ++ " udp".toList

/-- `render_logging_hosts`. -/
def renderLoggingHosts (s : VirtualSwitchState) : Text :=
  joinText ['\n'] ([
    "Index   IP Address/Hostname     Severity    Port   Status  Mode   Auth    Cert#".toList,
    "----- ------------------------ ---------- ------ --------- ----- -------- -----".toList] ++
    s.syslog.collectors.map loggingHostRow)

/-- `render_poe` reads the status of every PSE port; reading the status of a port just
re-enabled uses up its lag. -/
def readPoeStatus (s : VirtualSwitchState) : VirtualSwitchState :=
  { s with poe := s.poe.mapValues fun _ psim =>
      { psim with cliStatusLagReads := if 0 < psim.cliStatusLagReads then
          psim.cliStatusLagReads - 1 else psim.cliStatusLagReads } }

end VirtualSwitchState

end NetgearSwitch.Virtual
