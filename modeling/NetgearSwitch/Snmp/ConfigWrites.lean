import NetgearSwitch.Snmp.PortListWrites
import NetgearSwitch.Snmp.PoeRearm

/-!
# Plain SNMP writes

The writes of `snmp_write.py` that set a value and read it back: `create_vlan`, `delete_vlan`,
`set_pvid`, `set_port_enabled` and `set_port_description`.

§1 the writes · §2 how a verified write ends · §3 the store the writes are about
-/

namespace NetgearSwitch.Snmp

open Script

/-! ## §1 The writes -/

namespace SnmpReader

/-- `get_pvids`. -/
def getPvids : SnmpScript (List (ℤ × ℤ)) := do
  let rows ← request (.walk dot1qPvid)
  let ifTypes ← request (.walk ifType)
  done (parsePvids rows ifTypes)

end SnmpReader

/-- Read, SET, read again, and compare. -/
def settle {α : Type} (read : SnmpScript α) (varbinds : List SetVarbind) (landed : α → Bool) :
    SnmpScript Unit := do
  let _ ← read
  setMany varbinds
  let after ← read
  ensure (landed after = true) .writeVerification

namespace SnmpWriter

variable (w : SnmpWriter)

/-- `_port_status`. -/
def portStatus (port : ℤ) : SnmpScript (Option PortStatus) := do
  let rows ← SnmpReader.getPorts
  pure (rows.find? (·.port = port))

/-- `create_vlan`. -/
def createVlan (v : ℤ) (name : Text) : SnmpScript Unit := do
  ensure (w.model.snmpCanCreateVlan = true) .unsupportedCapability
  settle (vlan v)
    [⟨instanceOid dot1qVlanStaticRowStatus v, .int rowStatusCreateAndGo⟩,
      ⟨instanceOid dot1qVlanStaticName v, .str name⟩]
    fun after => after.any fun info => info.name.getD [] = name

/-- `delete_vlan`. -/
def deleteVlan (v : ℤ) (force : Bool) : SnmpScript Unit := do
  let before ← vlan v
  let before ← done (orRaise .snmp before)
  ensure (force = true ∨ before.memberPorts ∩ w.protectedPorts = ∅) .protectedPort
  setMany [⟨instanceOid dot1qVlanStaticRowStatus v, .int rowStatusDestroy⟩]
  let after ← vlan v
  ensure (after = none) .writeVerification

/-- `set_pvid`. -/
def setPvid (port v : ℤ) (force : Bool) : SnmpScript Unit := do
  w.guard port force
  let vlans ← SnmpReader.getVlans
  ensure (vlans.any (·.vlanId = v) = true) .snmp
  settle SnmpReader.getPvids [⟨instanceOid dot1qPvid port, .int v⟩] fun after => (port, v) ∈ after

/-- `set_port_enabled`: only disabling a port is guarded. -/
def setPortEnabled (port : ℤ) (enabled force : Bool) : SnmpScript Unit := do
  if enabled then pure () else w.guard port force
  settle (portStatus port) [⟨instanceOid ifAdminStatus port, .int (if enabled then 1 else 2)⟩]
    fun after => after.any fun status => status.adminEnabled = enabled

/-- `set_port_description`. -/
def setPortDescription (port : ℤ) (description : Text) (force : Bool) : SnmpScript Unit := do
  w.guard port force
  settle (portStatus port) [⟨instanceOid ifAlias port, .str description⟩]
    fun after => after.any fun status => status.description = textOrNone (some description)

end SnmpWriter

/-! ## §2 How a verified write ends -/

section Ends

variable {δ : Type} {m : Machine δ SnmpRequest SnmpReply} {d d' : δ}

/-- A device that answers the read, takes the SETs and answers the read as it was to. -/
theorem ends_settle {α : Type} {read : SnmpScript α} {varbinds : List SetVarbind}
    {landed : α → Bool} {before after : α} (hbefore : Ends m read d (.ok before) d)
    (hset : Ends m (setMany varbinds) d (.ok ()) d') (hafter : Ends m read d' (.ok after) d')
    (hlanded : landed after = true) : Ends m (settle read varbinds landed) d (.ok ()) d' :=
  hbefore.bind (hset.bind (hafter.bind (ends_ensure hlanded _)))

theorem ends_guard {w : SnmpWriter} {port : ℤ} {force : Bool}
    (h : ¬ (port ∈ w.protectedPorts ∧ ¬ force)) : Ends m (w.guard port force) d (.ok ()) d :=
  ends_ensure h _

theorem ends_guard_refused {w : SnmpWriter} {port : ℤ} {force : Bool}
    (h : port ∈ w.protectedPorts ∧ ¬ force) :
    Ends m (w.guard port force) d (.error .protectedPort) d :=
  ends_ensure_of_not (not_not.mpr h) _

end Ends

/-! ## §3 The store

What the writes are for: a table of VLANs, of PVIDs and of ports, on which a write takes its effect
or is refused. -/

/-- What a client knows of a VLAN. -/
structure VlanEntry where
  name : Text
  lists : PortListColumn → Finset ℤ

/-- The entry as `get_vlans` has it. -/
def VlanEntry.info (v : ℤ) (e : VlanEntry) : VLANInfo where
  vlanId := v
  name := textOrNone (some e.name)
  memberPorts := e.lists .egress
  taggedPorts := e.lists .egress \ e.lists .untagged
  untaggedPorts := e.lists .untagged

/-- What a client knows of a port. -/
structure PortEntry where
  enabled : Bool
  linkUp : Bool
  description : Option Text

/-- The configuration of a switch. -/
structure ConfigStore where
  vlans : ℤ → Option VlanEntry
  pvids : ℤ → Option ℤ
  ports : ℤ → Option PortEntry

/-- What a write may be refused for. -/
structure ConfigRules where
  canCreateVlan : Bool
  protectedPorts : Finset ℤ

/-- One write. -/
inductive ConfigWrite
  | createVlan (v : ℤ) (name : Text)
  | deleteVlan (v : ℤ)
  | setVlanMembership (v port : ℤ) (mode : VlanMode)
  | setPvid (port v : ℤ)
  | setPortEnabled (port : ℤ) (enabled : Bool)
  | setPortDescription (port : ℤ) (description : Text)

/-- The lists of a VLAN after a write of one port. -/
def editLists (port : ℤ) (mode : VlanMode) (lists : PortListColumn → Finset ℤ) :
    PortListColumn → Finset ℤ :=
  fun c => if c.present mode then insert port (lists c) else (lists c).erase port

namespace ConfigStore

/-- What a write does to the store. -/
def effect (c : ConfigStore) : ConfigWrite → ConfigStore
  | .createVlan v name =>
    { c with
      vlans := Function.update c.vlans v
        (some ⟨name, (c.vlans v).elim (fun _ => ∅) VlanEntry.lists⟩) }
  | .deleteVlan v => { c with vlans := Function.update c.vlans v none }
  | .setVlanMembership v port mode =>
    { c with
      vlans := Function.update c.vlans v
        ((c.vlans v).map fun e => { e with lists := editLists port mode e.lists }) }
  | .setPvid port v => { c with pvids := Function.update c.pvids port (some v) }
  | .setPortEnabled port enabled =>
    { c with
      ports := Function.update c.ports port
        ((c.ports port).map fun e => { e with enabled := enabled, linkUp := enabled && e.linkUp }) }
  | .setPortDescription port description =>
    { c with
      ports := Function.update c.ports port
        ((c.ports port).map fun e => { e with description := textOrNone (some description) }) }

/-- Why a write is refused. -/
def refusal (r : ConfigRules) (c : ConfigStore) (force : Bool) : ConfigWrite → Option LibError
  | .createVlan _ _ => if r.canCreateVlan = true then none else some .unsupportedCapability
  | .deleteVlan v => (c.vlans v).elim (some .snmp) fun e =>
    if force = true ∨ e.lists .egress ∩ r.protectedPorts = ∅ then none else some .protectedPort
  | .setVlanMembership v port _ | .setPvid port v =>
    if port ∈ r.protectedPorts ∧ ¬ force then some .protectedPort
    else if (c.vlans v).isSome then none else some .snmp
  | .setPortEnabled port enabled =>
    if enabled = false ∧ port ∈ r.protectedPorts ∧ ¬ force then some .protectedPort else none
  | .setPortDescription port _ =>
    if port ∈ r.protectedPorts ∧ ¬ force then some .protectedPort else none

/-- A write, forced or not. -/
def write (r : ConfigRules) (c : ConfigStore) (o : ConfigWrite × Bool) :
    ConfigStore × Except LibError Unit :=
  (c.refusal r o.2 o.1).elim (c.effect o.1, .ok ()) fun e => (c, .error e)

end ConfigStore

namespace SnmpWriter

/-- The writer's own call. -/
def write (w : SnmpWriter) (o : ConfigWrite × Bool) : SnmpScript Unit :=
  match o.1 with
  | .createVlan v name => w.createVlan v name
  | .deleteVlan v => w.deleteVlan v o.2
  | .setVlanMembership v port mode => w.setVlanMembership v port mode o.2
  | .setPvid port v => w.setPvid port v o.2
  | .setPortEnabled port enabled => w.setPortEnabled port enabled o.2
  | .setPortDescription port description => w.setPortDescription port description o.2

/-- The rules a writer goes by. -/
def rules (w : SnmpWriter) : ConfigRules := ⟨w.model.snmpCanCreateVlan, w.protectedPorts⟩

end SnmpWriter

end NetgearSwitch.Snmp
