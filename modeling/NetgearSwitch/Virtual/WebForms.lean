import NetgearSwitch.Http.Endpoints
import NetgearSwitch.Lib.PyLines
import NetgearSwitch.Virtual.State

/-!
# Forms posted to the FASTPATH pages

What the web face of a managed model does to the state when a form arrives: the XUI list pages
of `virtual/web_fastpath_xui.py` and `virtual/web_gsm7252ps.py`, whose rows are chosen by a
checkbox each, and the VLAN membership page of `virtual/web_fastpath_vlan.py`.  A refusal is a
message on an otherwise normal page; a handler that raises drops the connection.  In either case
what was already applied stays applied.
-/

namespace NetgearSwitch.Virtual

open Http PyText

/-- The fields of a form, as `parse_qs` hands them over. -/
abbrev Form := PyDict Text Text

/-- How a POST is answered. -/
inductive WebReply
  | accepted
  | refused (errMsg : Text)
  | raised
  deriving DecidableEq, Repr

/-! ## §1 XUI list pages -/

/-- `is_apply`. -/
def isApply (form : Form) : Bool := form.get? "submit_flag".toList = some "8".toList

/-- `checked_rows`: the row prefixes, each with its trailing dot. -/
def checkedRows (form : Form) (checkbox : Text) : List Text :=
  let suffix := '.' :: checkbox
  form.keys.filterMap fun name =>
    if suffix <:+ name then some (name.take (name.length - suffix.length + 1)) else none

/-- `has_list_unit`. -/
def hasListUnit (form : Form) : Bool :=
  ["v_1_1_1", "v_1_3_1"].any fun name => (form.get? name.toList).any (· ≠ [])

/-- `pressed`. -/
def pressed (form : Form) (candidates : List String) : Option String :=
  candidates.find? fun c => c.toList ∈ form

/-- `ports[int(row.split(".")[1])]`; `none` where that raises, `some none` for a row past the
last port, which is skipped. -/
def rowPort (ports : List ℤ) (row : Text) : Option (Option ℤ) :=
  ((row.splitOn '.')[1]?).bind fun field => (pyInt field).bind fun row0 =>
    if (ports.length : ℤ) ≤ row0 then some none else (PyList.get? ports row0).map some

def failedToSet (label : String) (value : Text) : Text :=
  "Error! Failed to Set '".toList ++ label.toList ++ "' with '".toList ++ value ++ ['\'']

namespace VirtualSwitchState

/-- `_physical_ports` of the FASTPATH pages. -/
def gridPorts (s : VirtualSwitchState) : List ℤ :=
  (PySet.sorted s.ports.keys.toFinset).filter fun p => p ≤ s.model.portCount

/-- The loop of `apply_port_admin` over the checked rows. -/
def applyPortAdminRows (form : Form) (ports : List ℤ) :
    List Text → VirtualSwitchState → VirtualSwitchState × WebReply
  | [], s => (s, .accepted)
  | row :: rows, s =>
    match form.get? (row ++ "v_1_2_6".toList) with
    | none => applyPortAdminRows form ports rows s
    | some value =>
      if value ≠ "Enable".toList ∧ value ≠ "Disable".toList then
        (s, .refused (failedToSet "Admin <br/> Mode" value))
      else
        match rowPort ports row with
        | none => (s, .raised)
        | some none => applyPortAdminRows form ports rows s
        | some (some port) =>
          applyPortAdminRows form ports rows { s with ports := s.ports.modify port fun sim =>
            { sim with admin := value = "Enable".toList } }

/-- `apply_port_admin`. -/
def applyPortAdmin (s : VirtualSwitchState) (form : Form) (checkbox : Text) (ports : List ℤ) :
    VirtualSwitchState × WebReply :=
  if isApply form then applyPortAdminRows form ports (checkedRows form checkbox) s
  else (s, .accepted)

/-- `apply_ports`, with the checkbox of each family's page. -/
def applyPorts (s : VirtualSwitchState) (form : Form) (checkbox : Text) :
    VirtualSwitchState × WebReply :=
  s.applyPortAdmin form checkbox s.gridPorts

/-- `_no_list_unit_refusal`. -/
def noListUnitRefusal (form : Form) (row : Text) : Text :=
  joinText "\r\n".toList <|
    [("v_1_2_2", "Admin <br/> Mode"), ("v_1_2_20", "Port Reset")].filterMap fun (column, label) =>
      (form.get? (row ++ column.toList)).map (failedToSet label)

/-- The RESET column of a row. -/
def resetPoe (sim : PoeSim) : PoeSim := { sim with detect := if sim.powerMw ≠ 0 then 3 else 2 }

/-- The Admin Mode column of a row. -/
def setPoeAdmin (on : Bool) (sim : PoeSim) : PoeSim :=
  { sim with
    admin := on
    detect := if !on then 1 else if sim.detect = 1 then 2 else sim.detect }

/-- The loop of `apply_poe` over the checked rows. -/
def applyPoeRows (form : Form) (unitRequired : Bool) (ports : List ℤ) :
    List Text → VirtualSwitchState → VirtualSwitchState × WebReply
  | [], s => (s, .accepted)
  | row :: rows, s =>
    if unitRequired && !hasListUnit form then (s, .refused (noListUnitRefusal form row))
    else
      match rowPort ports row with
      | none => (s, .raised)
      | some none => applyPoeRows form unitRequired ports rows s
      | some (some port) =>
        if pressed form ["v_2_1_3", "v_2_1_2"] = some "v_2_1_3" then
          match form.get? (row ++ "v_1_2_20".toList) with
          | none => applyPoeRows form unitRequired ports rows s
          | some value =>
            if value = "Reset".toList then
              applyPoeRows form unitRequired ports rows
                { s with poe := s.poe.modify port resetPoe }
            else if value = "None".toList then applyPoeRows form unitRequired ports rows s
            else (s, .refused (failedToSet "Port Reset" value))
        else
          match form.get? (row ++ "v_1_2_2".toList) with
          | none => applyPoeRows form unitRequired ports rows s
          | some admin =>
            if admin ≠ "Enable".toList ∧ admin ≠ "Disable".toList then
              (s, .refused (failedToSet "Admin <br/> Mode" admin))
            else applyPoeRows form unitRequired ports rows
              { s with poe := s.poe.modify port (setPoeAdmin (admin = "Enable".toList)) }

/-- `apply_poe`. -/
def applyPoe (s : VirtualSwitchState) (form : Form) (checkbox : Text) (unitRequired : Bool) :
    VirtualSwitchState × WebReply :=
  if isApply form then
    applyPoeRows form unitRequired (PySet.sorted s.poe.keys.toFinset) (checkedRows form checkbox) s
  else (s, .accepted)

/-- `p.isdigit() and 0 <= int(p) <= 255`; `none` where it raises. -/
def isOctet? (p : Text) : Option Bool :=
  if isDigitText p then (intOfDigits p).map fun n => decide (n ≤ 255) else some false

/-- `all(…)` of the parts, which stops at the first one that is none; `none` where it raises. -/
def allOctets? : List Text → Option Bool
  | [] => some true
  | p :: ps => (isOctet? p).bind fun octet => if octet then allOctets? ps else some false

/-- `_bad_ipv4`; `none` where it raises. -/
def badIpv4 (text : Text) : Option Bool :=
  let parts := text.splitOn '.'
  if parts.length ≠ 4 then some true else (allOctets? parts).map not

def badAddress (label : String) (value : Text) : Text :=
  "Error: Unable to set '".toList ++ label.toList ++ "' with '".toList ++ value ++
    "'. IP address should be in x.x.x.x form with each octet(x) in the range 0-255.".toList

/-- The loop of `apply_mgmt_ip` over the addresses: the answer it stops with. -/
def mgmtIpRefusal (form : Form) : List (Text × String) → Option WebReply
  | [] => none
  | (field, label) :: fields =>
    match form.get? field with
    | none => mgmtIpRefusal form fields
    | some value =>
      match badIpv4 value with
      | none => some .raised
      | some true => some (.refused (badAddress label value))
      | some false => mgmtIpRefusal form fields

/-- `apply_mgmt_ip`. -/
def applyMgmtIp (s : VirtualSwitchState) (fields : XuiMgmtIpFields) (form : Form) :
    VirtualSwitchState × WebReply :=
  if !isApply form then (s, .accepted)
  else
    match mgmtIpRefusal form [(fields.address, "IP Address"), (fields.netmask, "Subnet Mask"),
      (fields.gateway, "Default Gateway")] with
    | some reply => (s, reply)
    | none =>
      let mode := form.get? fields.mode
      if mode = some fields.dhcpValue then ({ s with mgmt := { s.mgmt with mode := .dhcp } }, .accepted)
      else
        let mgmt : MgmtSim :=
          { address := (form.get? fields.address).getD s.mgmt.address
            netmask := (form.get? fields.netmask).getD s.mgmt.netmask
            gateway := (form.get? fields.gateway).getD s.mgmt.gateway
            mode := if mode = some fields.staticValue then .static else s.mgmt.mode }
        ({ s with mgmt := mgmt }, .accepted)

/-- `apply_syslog_rows`: adding a collector is refused, deleting one takes its row. -/
def applySyslogRows (s : VirtualSwitchState) (form : Form) : VirtualSwitchState × WebReply :=
  let address := strip ((form.get? "v_g_2_1_1".toList).getD [])
  if address ≠ [] then (s, .refused (failedToSet "Host Address" address))
  else
    let deleted := form.items.find? fun (name, value) =>
      ".v_2_1_5".toList <:+ name && strip value = "Delete".toList
    match deleted with
    | none => (s, .accepted)
    | some (name, _) =>
      let row := name.take (name.length - "v_2_1_5".length)
      let target := strip ((form.get? (row ++ "v_2_1_1".toList)).getD [])
      if s.syslog.collectors.any fun c => c.host = target then
        let collectors := s.syslog.collectors.eraseP fun c => c.host = target
        ({ s with syslog := { s.syslog with collectors := collectors } }, .accepted)
      else
        (s, .refused ("Error! Logging Host ".toList ++ target ++ " is non-existent.".toList))

/-! ## §2 The VLAN membership page -/

end VirtualSwitchState

/-- `_FASTPATH_MEM_TO_MODE`. -/
def fastpathMemToMode (code : Text) : Option VlanMode :=
  if code = "1".toList then some .tagged
  else if code = "2".toList then some .untagged
  else if code = "3".toList then some .excluded
  else none

/-- The codes of a submitted `hiddenMem`, the empty ones left out. -/
def hiddenMemCodes (form : Form) : List Text :=
  (((form.get? "hiddenMem".toList).getD []).splitOn ',').filter (· ≠ [])

/-- `submt` asks for an apply. -/
def isMembershipApply (form : Form) : Bool := form.get? "submt".toList = some "16".toList

/-- The mode a port is configured in. -/
def VlanSim.configuredMode (vsim : VlanSim) (port : ℤ) : VlanMode :=
  if port ∉ vsim.configured then .excluded
  else if port ∈ vsim.untagged ∨ port ∈ vsim.configuredOnly then .untagged
  else .tagged

/-- What an apply does to a physical port whose code says `mode`. -/
def VlanSim.applyMode (vsim : VlanSim) (port : ℤ) : VlanMode → VlanSim
  | .excluded => { vsim with
      configuredOnly := vsim.configuredOnly.erase port
      member := vsim.member.erase port }
  | .untagged => { vsim with
      configuredOnly := vsim.configuredOnly.erase port
      member := insert port vsim.member
      untagged := insert port vsim.untagged }
  | .tagged => { vsim with
      configuredOnly := vsim.configuredOnly.erase port
      member := insert port vsim.member
      untagged := vsim.untagged.erase port }

/-- `codes[i] if i < len(codes) else None`, read as a mode; `none` where indexing raises. -/
def modeAt (codes : List Text) (i : ℤ) : Option (Option VlanMode) :=
  if (codes.length : ℤ) ≤ i then some none else (PyList.get? codes i).map fastpathMemToMode

/-- The loop of `apply_membership` over the physical ports; `false` where it raises. -/
def VlanSim.applyPortCodes (codes : List Text) : List ℤ → VlanSim → VlanSim × Bool
  | [], vsim => (vsim, true)
  | port :: ports, vsim =>
    match modeAt codes (port - 1) with
    | none => (vsim, false)
    | some none => vsim.applyPortCodes codes ports
    | some (some mode) => (vsim.applyMode port mode).applyPortCodes codes ports

/-- The loop over the LAGs of the VLAN: an excluded one is taken out. -/
def VlanSim.applyLagCodes (codes : List Text) : ℕ → List ℤ → VlanSim → VlanSim
  | _, [], vsim => vsim
  | slot, lag :: lags, vsim =>
    if (codes[slot]?).bind fastpathMemToMode = some .excluded then
      { vsim with
        member := vsim.member.erase lag
        configuredOnly := vsim.configuredOnly.erase lag }.applyLagCodes codes (slot + 1) lags
    else vsim.applyLagCodes codes (slot + 1) lags

namespace VirtualSwitchState

/-- `_shown_vlan`: the VLAN asked for, or the lowest; `none` where it raises. -/
def shownVlan (s : VirtualSwitchState) (form : Form) : Option ℤ :=
  let requested := (form.get? "vlanId".toList).getD []
  let lowest := ((PySet.sorted s.vlanIds).head?).getD 1
  if isDigitText requested then
    (intOfDigits requested).map fun n : ℕ => if (n : ℤ) ∈ s.vlans then (n : ℤ) else lowest
  else some lowest

/-- `refusal` for the VLAN that is shown: a locked port would change its mode. -/
def membershipRefusal (s : VirtualSwitchState) (vid : ℤ) (form : Form) : Option Text :=
  let codes := hiddenMemCodes form
  let was (port : ℤ) := ((s.vlans.get? vid).map fun vsim => vsim.configuredMode port).getD .excluded
  let moved (port : ℤ) : Bool :=
    0 < port && ((codes[(port - 1).toNat]?).bind fastpathMemToMode).any (· ≠ was port)
  if isMembershipApply form && decide (∃ port ∈ s.vlanMembershipLockedPorts, moved port) then
    some ("Unable to set VLAN membership for VLAN ( ".toList ++ intText vid ++ " )".toList)
  else none

/-- `apply_membership` to the VLAN that is shown; `false` where it raises. -/
def applyMembership (s : VirtualSwitchState) (vid : ℤ) (form : Form) : VirtualSwitchState × Bool :=
  if !isMembershipApply form || (s.membershipRefusal vid form).isSome then (s, true)
  else
    match s.vlans.get? vid with
    | none => (s, true)
    | some vsim =>
      let codes := hiddenMemCodes form
      match vsim.applyPortCodes codes s.gridPorts with
      | (vsim, false) => ({ s with vlans := s.vlans.set vid vsim }, false)
      | (vsim, true) =>
        let lags := (PySet.sorted vsim.configured).filter fun p => (s.model.portCount : ℤ) < p
        let vsim := vsim.applyLagCodes codes s.gridPorts.length lags
        ({ s with vlans := s.vlans.set vid vsim }, true)

/-! ## §3 The POST handler -/

/-- `_render_fastpath_vlan_page`: `none` for another page.  The check, the apply and the page that is
shown all look the VLAN up, and raise alike. -/
def postVlanPage (s : VirtualSwitchState) (spec : HttpModelSpec) (path : Text) (form : Form) :
    Option (VirtualSwitchState × WebReply) :=
  if (some path ≠ spec.vlanMembershipPath ∧ some path ≠ spec.vlanMembershipPostPath) ∨
      s.vlanMembershipPage = none then none
  else some <|
    match s.shownVlan form with
    | none => (s, .raised)
    | some vid =>
      match s.applyMembership vid form with
      | (s', false) => (s', .raised)
      | (s', true) => (s', ((s.membershipRefusal vid form).map WebReply.refused).getD .accepted)

/-- `_render_fastpath_xui_page`: `none` for another page.  A page is posted to at its own path
or at `/a1` below it. -/
def postXuiPage (s : VirtualSwitchState) (spec : HttpModelSpec) (path : Text) (form : Form) :
    Option (VirtualSwitchState × WebReply) :=
  let isPage (page : Option Text) : Bool := page.any fun p => path = p || path = p ++ "/a1".toList
  if isPage spec.syslogPath then
    if spec.htmlDialect = .m4300 then some (s.applySyslogRows form) else none
  else
    let checkboxes : Option (String × String × Bool) :=
      match spec.htmlDialect with
      | .m4300 => some ("gecb_1_2", "gecb_1_2", false)
      | .s3300 => some ("gecb10", "gecb164", false)
      | .xeFastpath => some ("gecb5", "gecb234", true)
      | _ => none
    checkboxes.bind fun (portsCheckbox, poeCheckbox, unitRequired) =>
      if isPage spec.mgmtIpPath then spec.mgmtIpFields.map fun fields => s.applyMgmtIp fields form
      else if isPage spec.portConfigPath then some (s.applyPorts form portsCheckbox.toList)
      else if isPage spec.poeConfigPath then
        some (s.applyPoe form poeCheckbox.toList unitRequired)
      else none

/-- `do_POST` of a managed model, past the login: any other page is only shown. -/
def postForm (s : VirtualSwitchState) (spec : HttpModelSpec) (path : Text) (form : Form) :
    VirtualSwitchState × WebReply :=
  match s.postVlanPage spec path form with
  | some answer => answer
  | none => (s.postXuiPage spec path form).getD (s, .accepted)

end VirtualSwitchState

end NetgearSwitch.Virtual
