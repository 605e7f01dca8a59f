import NetgearSwitch.Lib.PyDict
import NetgearSwitch.Lib.Bitmap
import NetgearSwitch.Lib.PyCodec
import NetgearSwitch.Registry

/-!
# The virtual switch state

`VirtualSwitchState` of `virtual/state.py` and the `*Sim` records it is made of.  A Python
`int` is an integer, a `set` a finite set and a `dict` an insertion-ordered dictionary.  The
fields that no modelled function reads (counters of reboots, uploaded certificates, web users
and services) are left out.
-/

namespace NetgearSwitch.Virtual

/-- The CLI-only switchport mode of a port. -/
inductive CliSwitchportMode
  | access
  | general
  | trunk
  deriving DecidableEq, Repr

/-- One switch port.  A counter the port does not expose is `none`. -/
structure PortSim where
  name : Text
  admin : Bool
  link : Bool
  speed : ℤ
  ifType : ℤ := 6
  rxOctets : Option ℤ := none
  txOctets : Option ℤ := none
  rxUcast : Option ℤ := none
  txUcast : Option ℤ := none
  rxErrors : Option ℤ := none
  txErrors : Option ℤ := none
  switchportMode : CliSwitchportMode := .general
  description : Option Text := none
  flowControl : Bool := true
  servesEtherlike : Bool := false
  /-- Negotiating is `1` and forced `2`; the rate and the duplex mode are what was forced last. -/
  autonegAdmin : Text := "1".toList
  speedAdmin : Text := "1000".toList
  duplexAdminMode : Text := "3".toList
  deriving DecidableEq

/-- One syslog collector row of the vendor host table; `index` is the row's own index. -/
structure SyslogCollectorSim where
  host : Text
  port : ℤ
  severity : ℤ
  status : ℤ := 1
  index : ℤ := 1
  deriving DecidableEq

/-- The remote-logging state. -/
structure SyslogSim where
  adminMode : ℤ := 2
  localPort : ℤ := 514
  collectors : List SyslogCollectorSim := []
  deriving DecidableEq

/-- One VLAN: its current members and untagged ports, the ports configured into it that do
not currently participate, and whether it has a row in the static table. -/
structure VlanSim where
  name : Text
  member : Finset ℤ := ∅
  untagged : Finset ℤ := ∅
  configuredOnly : Finset ℤ := ∅
  staticRow : Bool := true
  deriving DecidableEq

/-- The configured egress set: current members plus `configuredOnly`. -/
def VlanSim.configured (v : VlanSim) : Finset ℤ := v.member ∪ v.configuredOnly

/-- One PoE port. -/
structure PoeSim where
  admin : Bool
  detect : ℤ
  powerMw : ℤ := 0
  cliStatusLagReads : ℤ := 0
  deriving DecidableEq

inductive SensorKind
  | fan
  | power
  | temperature
  deriving DecidableEq

structure SensorSim where
  kind : SensorKind
  inst : Text
  raw : Text
  deriving DecidableEq

structure EntitySim where
  index : ℤ
  physClass : ℤ
  name : Text
  descr : Text
  deriving DecidableEq

structure MacSim where
  vlan : ℤ
  macBytes : List ℤ
  bridgePort : ℤ
  deriving DecidableEq

structure LldpSim where
  timeMark : ℤ
  localPort : ℤ
  remIdx : ℤ
  chassis : Text
  portId : Text
  portDesc : Text
  sysName : Text
  deriving DecidableEq

inductive IpMode
  | static
  | dhcp
  deriving DecidableEq

structure MgmtSim where
  address : Text := "0.0.0.0".toList
  netmask : Text := "0.0.0.0".toList
  gateway : Text := "0.0.0.0".toList
  mode : IpMode := .dhcp
  deriving DecidableEq

/-- The port-grid generation of a FASTPATH membership page. -/
inductive GridStyle
  | gif
  | png
  deriving DecidableEq

/-- The measured shape of one model's FASTPATH "VLAN Membership" page. -/
structure VlanMembershipPageSim where
  slots : ℕ
  lagSlot : ℕ
  grid : GridStyle
  trailingComma : Bool := false
  csrf : Bool := false
  escape : Bool := false
  deriving DecidableEq

/-- The authoritative state of one virtual switch. -/
structure VirtualSwitchState where
  modelKey : ModelKey
  ports : PyDict ℤ PortSim := ∅
  vlans : PyDict ℤ VlanSim := ∅
  pvids : PyDict ℤ ℤ := ∅
  poe : PyDict ℤ PoeSim := ∅
  sensors : List SensorSim := []
  entityComponents : List EntitySim := []
  macs : List MacSim := []
  bridgePorts : PyDict ℤ ℤ := ∅
  lldp : List LldpSim := []
  mgmt : MgmtSim := {}
  modelName : Text := []
  serial : Text := []
  firmware : Text := []
  hostname : Text := []
  syslog : SyslogSim := {}
  nsdpPassword : Text := "password".toList
  nsdpAuthVersion : ℤ := 1
  nsdpLastSalt : Option Bytes := none
  nsdpAuthFailures : ℤ := 0
  nsdpQosEngine : Option ℤ := none
  nsdpPortMirroringDest : Option ℤ := none
  nsdpPortMirroringSources : Finset ℤ := ∅
  nsdpIgmpSnoopingEnabled : Option Bool := none
  nsdpIgmpSnoopingVlan : Option ℤ := none
  nsdpBroadcastFiltering : Option Bool := none
  nsdpLoopDetection : Option Bool := none
  nsdpMac : Bytes := [0x28, 0xC6, 0x8E, 0x00, 0x00, 0x01]
  sysDescr : Text := []
  sysObjectId : Text := []
  dot1dBaseMacAscii : Bool := false
  vlanPortlistWidth : Option ℕ := none
  switchportMode : PyDict ℤ ℤ := ∅
  switchportAccessVlan : PyDict ℤ ℤ := ∅
  switchportNativeVlan : PyDict ℤ ℤ := ∅
  switchportAllowedVlans : PyDict ℤ Bytes := ∅
  switchportGeneralUntagged : PyDict ℤ (Finset ℤ) := ∅
  switchportGeneralTagged : PyDict ℤ (Finset ℤ) := ∅
  /-- Transient, not device state: the VLANs whose egress list the PDU in progress wrote. -/
  pduEgressWrites : Finset ℤ := ∅
  vlanMembershipPage : Option VlanMembershipPageSim := none
  vlanMembershipLockedPorts : Finset ℤ := ∅
  deriving DecidableEq

namespace VirtualSwitchState

/-- The registry entry of the switch. -/
abbrev model (s : VirtualSwitchState) : SwitchModel := getModel s.modelKey

/-- Is this model's VLAN membership owned by switchport mode? -/
def switchportModel (s : VirtualSwitchState) : Bool :=
  s.model.snmpVlanWrite = .fastpathSwitchport

/-- The existing VLAN ids, `set(self.vlans)`. -/
def vlanIds (s : VirtualSwitchState) : Finset ℤ := s.vlans.keys.toFinset

@[simp] theorem mem_vlanIds {s : VirtualSwitchState} {v : ℤ} : v ∈ s.vlanIds ↔ v ∈ s.vlans := by
  simp [vlanIds, PyDict.mem_def]

/-! ## Where a port stands in a VLAN -/

/-- Is `p` a current member of VLAN `v`? -/
def isMember (s : VirtualSwitchState) (p v : ℤ) : Prop :=
  ∃ sim, s.vlans.get? v = some sim ∧ p ∈ sim.member

/-- Is `p` untagged in VLAN `v`? -/
def isUntagged (s : VirtualSwitchState) (p v : ℤ) : Prop :=
  ∃ sim, s.vlans.get? v = some sim ∧ p ∈ sim.untagged

/-- Is `p` configured into VLAN `v` without currently participating? -/
def isConfiguredOnly (s : VirtualSwitchState) (p v : ℤ) : Prop :=
  ∃ sim, s.vlans.get? v = some sim ∧ p ∈ sim.configuredOnly

/-- How `p` takes part in VLAN `v`. -/
def Participates (s : VirtualSwitchState) (p v : ℤ) : VlanMode → Prop
  | .untagged => s.isMember p v ∧ s.isUntagged p v
  | .tagged => s.isMember p v ∧ ¬ s.isUntagged p v
  | .excluded => ¬ s.isMember p v ∧ ¬ s.isUntagged p v

/-- The VLANs `p` is untagged in. -/
def untaggedVlans (s : VirtualSwitchState) (p : ℤ) : Finset ℤ :=
  s.vlanIds.filter fun v => (s.vlans.get? v).any fun sim => p ∈ sim.untagged

/-- The VLANs `p` is a tagged member of. -/
def taggedVlans (s : VirtualSwitchState) (p : ℤ) : Finset ℤ :=
  s.vlanIds.filter fun v => (s.vlans.get? v).any fun sim => p ∈ sim.member \ sim.untagged

theorem mem_untaggedVlans {s : VirtualSwitchState} {p v : ℤ} :
    v ∈ s.untaggedVlans p ↔ s.isUntagged p v := by
  simp only [untaggedVlans, Finset.mem_filter, mem_vlanIds, Option.any_eq_true,
    decide_eq_true_eq, isUntagged]
  constructor
  · exact And.right
  · rintro ⟨sim, hsim, hp⟩
    exact ⟨PyDict.mem_iff.mpr ⟨sim, hsim⟩, sim, hsim, hp⟩

theorem mem_taggedVlans {s : VirtualSwitchState} {p v : ℤ} :
    v ∈ s.taggedVlans p ↔ s.isMember p v ∧ ¬ s.isUntagged p v := by
  simp only [taggedVlans, Finset.mem_filter, mem_vlanIds, Option.any_eq_true,
    decide_eq_true_eq, Finset.mem_sdiff, isMember, isUntagged]
  constructor
  · rintro ⟨_, sim, hsim, hp, hnot⟩
    refine ⟨⟨sim, hsim, hp⟩, ?_⟩
    rintro ⟨sim', hsim', hp'⟩
    rw [hsim] at hsim'
    cases hsim'
    exact hnot hp'
  · rintro ⟨⟨sim, hsim, hp⟩, hnot⟩
    exact ⟨PyDict.mem_iff.mpr ⟨sim, hsim⟩, sim, hsim, hp, fun h => hnot ⟨sim, hsim, h⟩⟩

theorem untaggedVlans_subset (s : VirtualSwitchState) (p : ℤ) : s.untaggedVlans p ⊆ s.vlanIds :=
  Finset.filter_subset _ _

theorem taggedVlans_subset (s : VirtualSwitchState) (p : ℤ) : s.taggedVlans p ⊆ s.vlanIds :=
  Finset.filter_subset _ _

theorem disjoint_taggedVlans (s : VirtualSwitchState) (p : ℤ) :
    Disjoint (s.taggedVlans p) (s.untaggedVlans p) :=
  Finset.disjoint_left.mpr fun _ ht hu =>
    (mem_taggedVlans.mp ht).2 (mem_untaggedVlans.mp hu)

/-- Port `q` stands in every VLAN exactly as it did before: current membership,
configured-only status and untagged bit. -/
def PortUnchanged (q : ℤ) (s s' : VirtualSwitchState) : Prop :=
  ∀ w, (s'.isMember q w ↔ s.isMember q w) ∧ (s'.isConfiguredOnly q w ↔ s.isConfiguredOnly q w) ∧
    (s'.isUntagged q w ↔ s.isUntagged q w)

theorem PortUnchanged.refl (q : ℤ) (s : VirtualSwitchState) : PortUnchanged q s s :=
  fun _ => ⟨Iff.rfl, Iff.rfl, Iff.rfl⟩

theorem PortUnchanged.trans {q : ℤ} {s s' s'' : VirtualSwitchState} (h : PortUnchanged q s s')
    (h' : PortUnchanged q s' s'') : PortUnchanged q s s'' := fun w =>
  ⟨(h' w).1.trans (h w).1, (h' w).2.1.trans (h w).2.1, (h' w).2.2.trans (h w).2.2⟩

/-- Only the VLAN table decides where a port stands. -/
theorem PortUnchanged.of_vlans_eq {s s' : VirtualSwitchState} (q : ℤ) (h : s'.vlans = s.vlans) :
    PortUnchanged q s s' := by
  intro w
  simp only [isMember, isConfiguredOnly, isUntagged, h, and_self]

/-- Mutating every VLAN in place leaves `q` where it was, if no VLAN's new record differs from
its old one at `q`. -/
theorem PortUnchanged.of_map {s s' : VirtualSwitchState} {q : ℤ} {f : ℤ → VlanSim → VlanSim}
    (h : ∀ w, s'.vlans.get? w = (s.vlans.get? w).map (f w))
    (hf : ∀ w sim, (q ∈ (f w sim).member ↔ q ∈ sim.member) ∧
      (q ∈ (f w sim).configuredOnly ↔ q ∈ sim.configuredOnly) ∧
      (q ∈ (f w sim).untagged ↔ q ∈ sim.untagged)) : PortUnchanged q s s' := by
  have hone : ∀ (P : VlanSim → Prop) w, (∀ sim, P (f w sim) ↔ P sim) →
      ((∃ sim, s'.vlans.get? w = some sim ∧ P sim) ↔ ∃ sim, s.vlans.get? w = some sim ∧ P sim) := by
    intro P w hP
    rw [h w]
    cases s.vlans.get? w with
    | none => simp
    | some sim => simp [hP]
  exact fun w => ⟨hone _ w fun sim => (hf w sim).1, hone _ w fun sim => (hf w sim).2.1,
    hone _ w fun sim => (hf w sim).2.2⟩

end VirtualSwitchState

end NetgearSwitch.Virtual
