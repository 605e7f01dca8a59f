import NetgearSwitch.Virtual.OidRows

/-!
# What SNMP reads of the virtual switch

The ports, PVIDs and VLANs a manager parses out of the rows of `oid_map`, next to the state the
rows were projected from.  A name travels as its latin-1 octets and is read as UTF-8, and a
VLAN is read only where its id is a table index.
-/

namespace NetgearSwitch.Virtual

open Snmp PyText

/-! ## §1 What a manager should see -/

/-- A text read back: its latin-1 octets as UTF-8. -/
def readBack (t : Text) : Text :=
  PyCodec.utf8DecodeReplace ((PyCodec.latin1Encode t).getD [])

theorem readBack_of_ascii {t : Text} (h : ∀ c ∈ t, c.toNat < 128) : readBack t = t := by
  rw [readBack, PyCodec.latin1Encode_of_ascii h, Option.getD_some,
    PyCodec.utf8DecodeReplace_of_ascii h]

/-- The entry of a port. -/
def PortSim.status (port : ℤ) (sim : PortSim) : PortStatus where
  port := port
  name := textOrNone (some (readBack sim.name))
  adminEnabled := sim.admin
  linkUp := sim.link
  fullDuplex := if sim.servesEtherlike && sim.link then some true else none
  flowControl := if sim.servesEtherlike then some sim.flowControl else none
  speedMbps := if sim.link && sim.speed ≠ 0 then some sim.speed else none
  description := textOrNone (sim.description.map readBack)
  operStatus := some (truthValue sim.link)

/-- The entry of a VLAN on the ports `physical`. -/
def VlanSim.info (physical : Finset ℤ) (vid : ℤ) (vsim : VlanSim) : VLANInfo :=
  let member := (if vsim.staticRow then vsim.configured else vsim.member) ∩ physical
  let untagged := vsim.untagged ∩ physical
  { vlanId := vid
    name := if vsim.staticRow then textOrNone (some (readBack vsim.name)) else none
    memberPorts := member
    taggedPorts := member \ untagged
    untaggedPorts := untagged }

namespace VirtualSwitchState

/-- The ports with an Ethernet interface. -/
def ethernetPorts (s : VirtualSwitchState) : Finset ℤ :=
  s.ports.keys.toFinset.filter fun p => (s.ports.get? p).any fun sim => sim.ifType = ethernetCsmacd

def portStatuses (s : VirtualSwitchState) : List PortStatus :=
  (PySet.sorted s.ethernetPorts).filterMap fun p => (s.ports.get? p).map (PortSim.status p)

def vlanInfos (s : VirtualSwitchState) : List VLANInfo :=
  (PySet.sorted s.vlanIds).filterMap fun v => (s.vlans.get? v).map (VlanSim.info s.ethernetPorts v)

def ethernetPvids (s : VirtualSwitchState) : List (ℤ × ℤ) :=
  s.pvids.sortedItems.filter fun e => e.1 ∈ s.ethernetPorts

/-- Every VLAN's ports are numbered from 1. -/
def PositiveMembers (s : VirtualSwitchState) : Prop :=
  ∀ v vsim, s.vlans.get? v = some vsim →
    (∀ p ∈ vsim.configured, 1 ≤ p) ∧ ∀ p ∈ vsim.untagged, 1 ≤ p

/-! ## §2 The columns -/

end VirtualSwitchState

/-- The integer of a value. -/
def MibValue.readInt (v : MibValue) : ℤ := (PyText.spelledInt v.value).getD 0

/-- A value that is received as an integer. -/
def MibValue.IsInt (v : MibValue) : Prop := v.toSnmpValue? = some (.int v.readInt)

theorem isInt_integer (n : ℤ) : (intValue .integer n).IsInt := by
  simp [MibValue.IsInt, MibValue.toSnmpValue?, MibValue.readInt, intValue]

theorem isInt_gauge (n : ℤ) : (intValue .gauge32 n).IsInt := by
  simp [MibValue.IsInt, MibValue.toSnmpValue?, MibValue.readInt, intValue]

@[simp] theorem readInt_intValue (type : SnmpType) (n : ℤ) : (intValue type n).readInt = n := by
  simp [MibValue.readInt, intValue]

/-- The octets of a value. -/
def MibValue.readBytes (v : MibValue) : SnmpValue := .bytes ((PyCodec.latin1Encode v.value).getD [])

@[simp] theorem readBytes_bytesValue (b : Bytes) : (bytesValue b).readBytes = .bytes b := by
  simp [MibValue.readBytes, bytesValue, textValue]

namespace VirtualSwitchState

/-- The rows are those of a state with the same tables, its switchport rows filled in. -/
theorem snmpRows_eq_some {s : VirtualSwitchState} {rows : List SnmpRow}
    (h : s.snmpRows = some rows) : ∃ (s' : VirtualSwitchState) (switchport vlans : List MibRow),
      s'.ports = s.ports ∧ s'.vlans = s.vlans ∧ s'.pvids = s.pvids ∧
      (∀ row ∈ switchport, Under otherRoots row) ∧ s'.vlanRows = some vlans ∧
      (PyDict.ofList (s'.allRows switchport vlans)).items.mapM snmpRow? = some rows := by
  obtain ⟨m, hm, hrows⟩ := Option.bind_eq_some_iff.mp h
  rw [oidMap] at hm
  split at hm
  · cases hm
  · next s' switchport htable =>
    obtain ⟨vlans, hvlans, rfl⟩ := Option.map_eq_some_iff.mp hm
    refine ⟨s', switchport, vlans, ?_⟩
    split_ifs at htable
    · obtain ⟨hports, hvl, hpvids, _⟩ := switchportRows_frame htable
      exact ⟨hports, hvl, hpvids, under_switchportRows htable, hvlans, hrows⟩
    · cases htable
      exact ⟨rfl, rfl, rfl, List.forall_mem_nil _, hvlans, hrows⟩

section Read

variable {γ : Type} {all : List MibRow} {rows : List SnmpRow} {column : Oid} {d : PyDict ℤ γ}
  {val : ℤ → γ → Option MibValue}

theorem indexIntColumn_of_columnOf (hrows : (PyDict.ofList all).items.mapM snmpRow? = some rows)
    (hcolumn : ColumnOf all column (fun k => [k]) d val) (hne : column ≠ [])
    (hval : ∀ k c v, val k c = some v → v.IsInt) :
    indexIntColumn rows column = .ok (d.filterMap fun k c => (val k c).map MibValue.readInt) := by
  refine readColumn_of_columnOf hrows hcolumn hne (fun _ => List.cons_ne_nil _ _)
    List.singleton_injective ?_
  intro k c v w _ hv hw
  cases hw.symm.trans (hval k c v hv)
  simp [intEntry, not_mem_intText, SnmpValue.toInt]

theorem indexStrColumn_of_columnOf (hrows : (PyDict.ofList all).items.mapM snmpRow? = some rows)
    (hcolumn : ColumnOf all column (fun k => [k]) d val) (hne : column ≠ [])
    (hval : ∀ k c v, val k c = some v → v.type = .octetstr) :
    indexStrColumn rows column =
      .ok (d.filterMap fun k c => (val k c).map fun v => readBack v.value) := by
  refine readColumn_of_columnOf hrows hcolumn hne (fun _ => List.cons_ne_nil _ _)
    List.singleton_injective ?_
  intro k c v w _ hv hw
  rw [MibValue.toSnmpValue?, hval k c v hv] at hw
  obtain ⟨b, hb, rfl⟩ := Option.map_eq_some_iff.mp hw
  simp [strEntry, not_mem_intText, readBack, hb]

theorem vlanBitmapMap_of_columnOf (hrows : (PyDict.ofList all).items.mapM snmpRow? = some rows)
    (hcolumn : ColumnOf all column (fun k => [k]) d val) (hne : column ≠ [])
    (hval : ∀ k c v, val k c = some v → v.type = .octetstr) (hpos : ∀ k ∈ d, 0 ≤ k) :
    vlanBitmapMap rows column = .ok (d.filterMap fun k c => (val k c).map MibValue.readBytes) := by
  refine readColumn_of_columnOf hrows hcolumn hne (fun _ => List.cons_ne_nil _ _)
    List.singleton_injective ?_
  intro k c v w hc hv hw
  obtain ⟨n, rfl⟩ := Int.eq_ofNat_of_zero_le (hpos k (PyDict.mem_iff.mpr ⟨c, hc⟩))
  rw [MibValue.toSnmpValue?, hval n c v hv] at hw
  obtain ⟨b, hb, rfl⟩ := Option.map_eq_some_iff.mp hw
  have htext : intText n = natText n := rfl
  simp [bitmapEntry, htext, isDigits_natText, MibValue.readBytes, hb]

theorem currentVlanBitmapMap_of_columnOf
    (hrows : (PyDict.ofList all).items.mapM snmpRow? = some rows)
    (hcolumn : ColumnOf all column (fun k => [0, k]) d val) (hne : column ≠ [])
    (hval : ∀ k c v, val k c = some v → v.type = .octetstr) (hpos : ∀ k ∈ d, 0 ≤ k) :
    currentVlanBitmapMap rows column =
      .ok (d.filterMap fun k c => (val k c).map MibValue.readBytes) := by
  refine readColumn_of_columnOf hrows hcolumn hne (fun _ => List.cons_ne_nil _ _) ?_ ?_
  · intro k k' h
    simpa using h
  intro k c v w hc hv hw
  obtain ⟨n, rfl⟩ := Int.eq_ofNat_of_zero_le (hpos k (PyDict.mem_iff.mpr ⟨c, hc⟩))
  rw [MibValue.toSnmpValue?, hval n c v hv] at hw
  obtain ⟨b, hb, rfl⟩ := Option.map_eq_some_iff.mp hw
  have hsplit : (joinDot ([0, (n : ℤ)].map intText)).splitOn '.' = [natText 0, natText n] := by
    refine splitOn_joinDot (List.cons_ne_nil _ _) ?_
    intro p hp
    exact not_mem_map_intText hp
  unfold currentBitmapEntry
  rw [hsplit]
  simp [isDigits_natText, MibValue.readBytes, hb]

end Read

theorem get?_of_mem_ethernetPorts {s : VirtualSwitchState} {p : ℤ} (h : p ∈ s.ethernetPorts) :
    ∃ sim, s.ports.get? p = some sim := by
  have hp := (Finset.mem_filter.mp h).2
  cases hsim : s.ports.get? p with
  | none =>
    rw [hsim] at hp
    cases hp
  | some sim => exact ⟨sim, rfl⟩

/-! ## §3 What the parsers answer -/

/-- The rows of a state whose two tables were emitted. -/
structure Projected (s : VirtualSwitchState) (rows : List SnmpRow) : Prop where
  emitted : ∃ switchport vlans : List MibRow, (∀ row ∈ switchport, Under otherRoots row) ∧
    s.vlanRows = some vlans ∧
      (PyDict.ofList (s.allRows switchport vlans)).items.mapM snmpRow? = some rows

theorem mapM_eq_ok_filterMap {α β : Type} {f : α → Except LibError β} {g : α → Option β} :
    ∀ {l : List α}, (∀ a ∈ l, ∃ b, f a = .ok b ∧ g a = some b) → l.mapM f = .ok (l.filterMap g)
  | [], _ => rfl
  | a :: l, h => by
    obtain ⟨b, hf, hg⟩ := h a List.mem_cons_self
    have ih := mapM_eq_ok_filterMap fun x hx => h x (List.mem_cons_of_mem _ hx)
    rw [List.mapM_cons, hf, ih, List.filterMap_cons, hg]
    rfl

namespace Projected

variable {s : VirtualSwitchState} {rows : List SnmpRow}

/-- An integer column of the ports, each with what `read` has for it. -/
theorem indexIntColumn_port (h : Projected s rows) (c : PortColumn) (read : PortSim → Option ℤ)
    (hint : ∀ sim v, c.value sim = some v → v.IsInt)
    (hread : ∀ sim, (c.value sim).map MibValue.readInt = read sim) :
    indexIntColumn rows c.oid = .ok (s.ports.filterMap fun _ => read) := by
  obtain ⟨switchport, vlans, hswitchport, hvlans, hrows⟩ := h.emitted
  rw [indexIntColumn_of_columnOf hrows (s.columnOf_allRows_port hswitchport hvlans c)
    (by cases c <;> decide) fun _ sim v hv => hint sim v hv]
  simp only [hread]

theorem indexStrColumn_port (h : Projected s rows) (c : PortColumn) (read : PortSim → Option Text)
    (hread : ∀ sim, c.value sim = (read sim).map textValue) :
    indexStrColumn rows c.oid = .ok (s.ports.filterMap fun _ sim => (read sim).map readBack) := by
  obtain ⟨switchport, vlans, hswitchport, hvlans, hrows⟩ := h.emitted
  rw [indexStrColumn_of_columnOf hrows (s.columnOf_allRows_port hswitchport hvlans c)
    (by cases c <;> decide)]
  · simp only [hread, Option.map_map]
    rfl
  · intro _ sim v hv
    rw [hread] at hv
    obtain ⟨t, _, rfl⟩ := Option.map_eq_some_iff.mp hv
    rfl

theorem physicalPorts (h : Projected s rows) (hports : s.ports.items ≠ []) :
    Snmp.physicalPorts rows = .ok (some s.ethernetPorts) := by
  have htypes : indexIntColumn rows Snmp.ifType =
      .ok (s.ports.filterMap fun _ sim => some sim.ifType) := by
    refine h.indexIntColumn_port .ifType (fun sim => some sim.ifType) ?_ ?_
    · rintro sim v ⟨⟩
      exact isInt_integer _
    · simp [PortColumn.value]
  have hitems : (s.ports.filterMap fun _ sim => some sim.ifType).items ≠ [] := by
    simpa [PyDict.filterMap] using hports
  rw [Snmp.physicalPorts, htypes]
  change Except.ok (if _ = [] then none else some _) = _
  rw [if_neg hitems]
  congr 2
  ext p
  rw [ethernetPorts, Finset.mem_filter, Finset.mem_filter, List.mem_toFinset, List.mem_toFinset,
    ← PyDict.mem_def, ← PyDict.mem_def, PyDict.mem_iff, PyDict.mem_iff, PyDict.get?_filterMap]
  cases s.ports.get? p <;> simp

theorem parsePvids (h : Projected s rows) (hports : s.ports.items ≠ []) :
    Snmp.parsePvids rows rows = .ok s.ethernetPvids := by
  obtain ⟨switchport, vlans, hswitchport, hvlans, hrows⟩ := h.emitted
  have hpvids : indexIntColumn rows Snmp.dot1qPvid = .ok s.pvids := by
    rw [indexIntColumn_of_columnOf hrows (s.columnOf_allRows_pvid hswitchport hvlans) (by decide)]
    · refine congrArg Except.ok (PyDict.ext ?_)
      simp [PyDict.filterMap]
    · rintro p pv v ⟨⟩
      exact isInt_gauge _
  rw [Snmp.parsePvids, hpvids, h.physicalPorts hports]
  rfl

/-- The columns `parse_port_status` reads, of a state. -/
def portColumns (s : VirtualSwitchState) : PortColumns where
  admin := s.ports.filterMap fun _ sim => some (truthValue sim.admin)
  oper := s.ports.filterMap fun _ sim => some (truthValue sim.link)
  speed := s.ports.filterMap fun _ sim => some sim.speed
  name := s.ports.filterMap fun _ sim => (some sim.name).map readBack
  aliases := s.ports.filterMap fun _ sim => sim.description.map readBack
  duplex := s.ports.filterMap fun _ sim =>
    if sim.servesEtherlike then some (if sim.link then 3 else 1) else none
  pause := s.ports.filterMap fun _ sim =>
    if sim.servesEtherlike then some (if sim.flowControl then 4 else 1) else none

theorem status_portColumns {p : ℤ} {sim : PortSim} (hsim : s.ports.get? p = some sim) :
    (portColumns s).status p = sim.status p := by
  unfold PortColumns.status portColumns PortSim.status
  simp only [PyDict.get?_filterMap, hsim, Option.bind_some]
  cases sim.link <;> cases sim.admin <;> cases sim.servesEtherlike <;> cases sim.flowControl <;>
    by_cases hspeed : sim.speed = 0 <;> simp [truthValue, duplexStatus, Option.filter_some, hspeed]

theorem parsePortStatus (h : Projected s rows) (hports : s.ports.items ≠ []) :
    Snmp.parsePortStatus rows rows rows rows rows rows rows rows = .ok s.portStatuses := by
  have hadmin : indexIntColumn rows Snmp.ifAdminStatus = .ok (portColumns s).admin := by
    refine h.indexIntColumn_port .admin (fun sim => some (truthValue sim.admin)) ?_ ?_
    · rintro sim v ⟨⟩
      exact isInt_integer _
    · simp [PortColumn.value]
  have hoper : indexIntColumn rows ifOperStatus = .ok (portColumns s).oper := by
    refine h.indexIntColumn_port .oper (fun sim => some (truthValue sim.link)) ?_ ?_
    · rintro sim v ⟨⟩
      exact isInt_integer _
    · simp [PortColumn.value]
  have hspeed : indexIntColumn rows ifHighSpeed = .ok (portColumns s).speed := by
    refine h.indexIntColumn_port .speed (fun sim => some sim.speed) ?_ ?_
    · rintro sim v ⟨⟩
      exact isInt_gauge _
    · simp [PortColumn.value]
  have hname : indexStrColumn rows ifName = .ok (portColumns s).name :=
    h.indexStrColumn_port .name (fun sim => some sim.name) fun _ => rfl
  have haliases : indexStrColumn rows Snmp.ifAlias = .ok (portColumns s).aliases :=
    h.indexStrColumn_port .aliases PortSim.description fun _ => rfl
  have hduplex : indexIntColumn rows dot3StatsDuplexStatus = .ok (portColumns s).duplex := by
    refine h.indexIntColumn_port .duplex
      (fun sim => if sim.servesEtherlike then some (if sim.link then 3 else 1) else none) ?_ ?_
    · intro sim v hv
      cases hether : sim.servesEtherlike <;> simp [PortColumn.value, hether] at hv
      rw [← hv]
      exact isInt_integer _
    · intro sim
      cases hether : sim.servesEtherlike <;> simp [PortColumn.value, hether]
  have hpause : indexIntColumn rows dot3PauseOperMode = .ok (portColumns s).pause := by
    refine h.indexIntColumn_port .pause
      (fun sim => if sim.servesEtherlike then some (if sim.flowControl then 4 else 1) else none) ?_ ?_
    · intro sim v hv
      cases hether : sim.servesEtherlike <;> simp [PortColumn.value, hether] at hv
      rw [← hv]
      exact isInt_integer _
    · intro sim
      cases hether : sim.servesEtherlike <;> simp [PortColumn.value, hether]
  rw [Snmp.parsePortStatus, hadmin, hoper, hspeed, hname, haliases, hduplex, hpause,
    h.physicalPorts hports]
  change Except.ok (List.map (portColumns s).status (PySet.sorted
    (((portColumns s).admin.keys.toFinset ∪ (portColumns s).oper.keys.toFinset) ∩
      s.ethernetPorts))) = _
  have hports : ((portColumns s).admin.keys.toFinset ∪ (portColumns s).oper.keys.toFinset) ∩
      s.ethernetPorts = s.ethernetPorts := by
    refine Finset.inter_eq_right.mpr fun p hp => Finset.mem_union_left _ ?_
    obtain ⟨sim, hsim⟩ := get?_of_mem_ethernetPorts hp
    rw [List.mem_toFinset, ← PyDict.mem_def, PyDict.mem_iff, portColumns, PyDict.get?_filterMap, hsim]
    exact ⟨_, rfl⟩
  rw [hports, portStatuses, ← List.filterMap_eq_map]
  refine congrArg Except.ok (List.filterMap_congr fun p hp => ?_)
  obtain ⟨sim, hsim⟩ := get?_of_mem_ethernetPorts (PySet.mem_sorted.mp hp)
  rw [hsim]
  exact congrArg some (status_portColumns hsim)

/-- The columns `parse_vlans` reads, of a state. -/
def vlanColumns (s : VirtualSwitchState) : VlanColumns :=
  let octets (c : VlanColumn) := s.vlans.filterMap fun _ vsim =>
    (c.value s.vlanWidth vsim).map MibValue.readBytes
  { physical := some s.ethernetPorts
    name := s.vlans.filterMap fun _ vsim =>
      if vsim.staticRow then some (readBack vsim.name) else none
    egress := octets .egress
    untagged := octets .untagged
    currentEgress := octets .currentEgress
    currentUntagged := octets .currentUntagged }

theorem octetstr_of_value {c : VlanColumn} {width : ℕ} {vsim : VlanSim} {v : MibValue}
    (h : c.value width vsim = some v) : v.type = .octetstr := by
  have hbytes : ∀ {b : Option Bytes}, b.map bytesValue = some v → v.type = .octetstr := by
    intro b hb
    obtain ⟨b, _, rfl⟩ := Option.map_eq_some_iff.mp hb
    rfl
  cases c with
  | name =>
    rw [VlanColumn.value, Option.ite_none_right_eq_some] at h
    cases h.2
    rfl
  | egress | untagged =>
    rw [VlanColumn.value, Option.ite_none_right_eq_some] at h
    exact hbytes h.2
  | currentEgress | currentUntagged => exact hbytes h

theorem vlanBitmapMap_static (h : Projected s rows) (hvids : ∀ v ∈ s.vlans, 0 ≤ v) (c : VlanColumn)
    (hindex : ∀ v, c.index v = [v]) :
    vlanBitmapMap rows c.oid = .ok (s.vlans.filterMap fun _ vsim =>
      (c.value s.vlanWidth vsim).map MibValue.readBytes) := by
  obtain ⟨switchport, vlans, hswitchport, hvlans, hrows⟩ := h.emitted
  have hcolumn := s.columnOf_allRows_vlan hswitchport hvlans c
  rw [funext hindex] at hcolumn
  exact vlanBitmapMap_of_columnOf hrows hcolumn (by cases c <;> decide)
    (fun _ _ _ => octetstr_of_value) hvids

theorem currentVlanBitmapMap_current (h : Projected s rows) (hvids : ∀ v ∈ s.vlans, 0 ≤ v)
    (c : VlanColumn) (hindex : ∀ v, c.index v = [0, v]) :
    currentVlanBitmapMap rows c.oid = .ok (s.vlans.filterMap fun _ vsim =>
      (c.value s.vlanWidth vsim).map MibValue.readBytes) := by
  obtain ⟨switchport, vlans, hswitchport, hvlans, hrows⟩ := h.emitted
  have hcolumn := s.columnOf_allRows_vlan hswitchport hvlans c
  rw [funext hindex] at hcolumn
  exact currentVlanBitmapMap_of_columnOf hrows hcolumn (by cases c <;> decide)
    (fun _ _ _ => octetstr_of_value) hvids

/-- Positive ports come back from their bitmap, whatever its width. -/
theorem portsOf_encodePortBitmap {ports : Finset ℤ} (hpos : ∀ p ∈ ports, 1 ≤ p) (width : ℕ) :
    (vlanColumns s).portsOf (((encodePortBitmap ports width).map bytesValue).map MibValue.readBytes) =
      .ok (ports ∩ s.ethernetPorts) := by
  obtain ⟨data, hdata, _, hnumbers⟩ := @Bitmap.encodeNumbers_spec width (PySet.sorted ports)
    fun p hp => hpos p (PySet.mem_sorted.mp hp)
  rw [PySet.toFinset_sorted] at hnumbers
  rw [encodePortBitmap, hdata, Option.map_some, Option.map_some, readBytes_bytesValue]
  change Except.ok (Bitmap.numbers data ∩ s.ethernetPorts) = _
  rw [hnumbers]

theorem info_vlanColumns {v : ℤ} {vsim : VlanSim} (hvsim : s.vlans.get? v = some vsim)
    (hpos : (∀ p ∈ vsim.configured, 1 ≤ p) ∧ ∀ p ∈ vsim.untagged, 1 ≤ p) :
    (vlanColumns s).info v = .ok (vsim.info s.ethernetPorts v) := by
  have hmember : ∀ p ∈ vsim.member, 1 ≤ p := fun p hp =>
    hpos.1 p (Finset.mem_union_left _ hp)
  have hget : ∀ c : VlanColumn, (s.vlans.filterMap fun _ vsim =>
      (c.value s.vlanWidth vsim).map MibValue.readBytes).get? v =
        (c.value s.vlanWidth vsim).map MibValue.readBytes := by
    intro c
    rw [PyDict.get?_filterMap, hvsim, Option.bind_some]
  have hname : (vlanColumns s).name.get? v =
      if vsim.staticRow then some (readBack vsim.name) else none := by
    rw [vlanColumns, PyDict.get?_filterMap, hvsim, Option.bind_some]
  have hstatic : v ∈ (vlanColumns s).name ↔ vsim.staticRow = true := by
    rw [PyDict.mem_iff_isSome, hname]
    cases vsim.staticRow <;> simp
  -- the tables of the row the VLAN is read from
  have htables : ∀ configured untagged : Option SnmpValue,
      configured = ((encodePortBitmap (if vsim.staticRow then vsim.configured else vsim.member)
        s.vlanWidth).map bytesValue).map MibValue.readBytes →
      untagged =
        ((encodePortBitmap vsim.untagged s.vlanWidth).map bytesValue).map MibValue.readBytes →
      (do
        let member ← (vlanColumns s).portsOf configured
        let untagged ← (vlanColumns s).portsOf untagged
        Except.ok ({
          vlanId := v
          name := textOrNone ((vlanColumns s).name.get? v)
          memberPorts := member
          taggedPorts := member \ untagged
          untaggedPorts := untagged } : VLANInfo)) = .ok (vsim.info s.ethernetPorts v) := by
    rintro _ _ rfl rfl
    have hmembers : ∀ p ∈ (if vsim.staticRow then vsim.configured else vsim.member), 1 ≤ p := by
      cases vsim.staticRow with
      | true => exact hpos.1
      | false => exact hmember
    rw [portsOf_encodePortBitmap hmembers, portsOf_encodePortBitmap hpos.2, hname, VlanSim.info]
    cases vsim.staticRow <;> rfl
  rw [VlanColumns.info]
  cases hrow : vsim.staticRow with
  | true =>
    have hmem := hstatic.mpr hrow
    simp only [hmem, if_true]
    refine htables _ _ ((hget .egress).trans ?_) ((hget .untagged).trans ?_) <;>
      simp [VlanColumn.value, hrow]
  | false =>
    have hmem : v ∉ (vlanColumns s).name := by simp [hstatic, hrow]
    simp only [hmem, if_false]
    refine htables _ _ ((hget .currentEgress).trans ?_) ((hget .currentUntagged).trans ?_) <;>
      simp [VlanColumn.value, hrow]

theorem parseVlans (h : Projected s rows) (hports : s.ports.items ≠ []) (hpos : s.PositiveMembers)
    (hvids : ∀ v ∈ s.vlans, 0 ≤ v) :
    Snmp.parseVlans rows rows rows rows rows rows = .ok s.vlanInfos := by
  have hname : indexStrColumn rows dot1qVlanStaticName = .ok (vlanColumns s).name := by
    obtain ⟨switchport, vlans, hswitchport, hvlans, hrows⟩ := h.emitted
    have hcolumn := indexStrColumn_of_columnOf hrows
      (s.columnOf_allRows_vlan hswitchport hvlans .name) (by decide)
      (fun _ _ _ => octetstr_of_value)
    have hvalue : ∀ vsim : VlanSim, (VlanColumn.name.value s.vlanWidth vsim).map
        (fun v => readBack v.value) = if vsim.staticRow then some (readBack vsim.name) else none := by
      intro vsim
      cases hrow : vsim.staticRow <;> simp [VlanColumn.value, hrow, textValue]
    simp only [hvalue] at hcolumn
    exact hcolumn
  have hegress : vlanBitmapMap rows dot1qVlanStaticEgress = .ok (vlanColumns s).egress :=
    h.vlanBitmapMap_static hvids .egress fun _ => rfl
  have huntagged : vlanBitmapMap rows dot1qVlanStaticUntagged = .ok (vlanColumns s).untagged :=
    h.vlanBitmapMap_static hvids .untagged fun _ => rfl
  have hcurrentEgress : currentVlanBitmapMap rows dot1qVlanCurrentEgress =
      .ok (vlanColumns s).currentEgress :=
    h.currentVlanBitmapMap_current hvids .currentEgress fun _ => rfl
  have hcurrentUntagged : currentVlanBitmapMap rows dot1qVlanCurrentUntagged =
      .ok (vlanColumns s).currentUntagged :=
    h.currentVlanBitmapMap_current hvids .currentUntagged fun _ => rfl
  rw [Snmp.parseVlans, h.physicalPorts hports, hname, hegress, huntagged, hcurrentEgress,
    hcurrentUntagged]
  change (PySet.sorted ((vlanColumns s).name.keys.toFinset ∪
    (vlanColumns s).currentEgress.keys.toFinset)).mapM (vlanColumns s).info = _
  -- every VLAN has a row in the current table
  have hids : (vlanColumns s).name.keys.toFinset ∪ (vlanColumns s).currentEgress.keys.toFinset =
      s.vlanIds := by
    ext v
    rw [Finset.mem_union, List.mem_toFinset, List.mem_toFinset, ← PyDict.mem_def, ← PyDict.mem_def,
      mem_vlanIds]
    refine ⟨?_, fun hv => Or.inr ?_⟩
    · rintro (hv | hv)
      · exact PyDict.mem_of_mem_filterMap hv
      · exact PyDict.mem_of_mem_filterMap hv
    · obtain ⟨vsim, hvsim⟩ := PyDict.mem_iff.mp hv
      obtain ⟨data, hdata, _⟩ := @Bitmap.encodeNumbers_spec s.vlanWidth (PySet.sorted vsim.member)
        fun p hp => (hpos v vsim hvsim).1 p (Finset.mem_union_left _ (PySet.mem_sorted.mp hp))
      refine PyDict.mem_iff.mpr ⟨.bytes data, ?_⟩
      rw [vlanColumns, PyDict.get?_filterMap, hvsim, Option.bind_some, VlanColumn.value,
        encodePortBitmap, hdata, Option.map_some, Option.map_some, readBytes_bytesValue]
  rw [hids, vlanInfos]
  refine mapM_eq_ok_filterMap fun v hv => ?_
  obtain ⟨vsim, hvsim⟩ := PyDict.mem_iff.mp (mem_vlanIds.mp (PySet.mem_sorted.mp hv))
  refine ⟨vsim.info s.ethernetPorts v, info_vlanColumns hvsim (hpos v vsim hvsim), ?_⟩
  rw [hvsim]
  rfl

end Projected

theorem projected_of_snmpRows {s : VirtualSwitchState} {rows : List SnmpRow}
    (h : s.snmpRows = some rows) : ∃ s' : VirtualSwitchState,
      s'.ports = s.ports ∧ s'.vlans = s.vlans ∧ s'.pvids = s.pvids ∧ Projected s' rows := by
  obtain ⟨s', switchport, vlans, hports, hvl, hpvids, hswitchport, hvlans, hrows⟩ :=
    snmpRows_eq_some h
  exact ⟨s', hports, hvl, hpvids, ⟨switchport, vlans, hswitchport, hvlans, hrows⟩⟩

/-- **The three readers, over all rows of the map.**  The VLANs, the PVIDs and the ports a manager
parses are those of the state on its Ethernet ports, an ASCII name as it is stored. -/
theorem parse_snmpRows {s : VirtualSwitchState} {rows : List SnmpRow}
    (hrows : s.snmpRows = some rows) (hports : s.ports.keys ≠ []) (hpos : s.PositiveMembers)
    (hvids : ∀ v ∈ s.vlans, 0 ≤ v) :
    Snmp.parseVlans rows rows rows rows rows rows = .ok s.vlanInfos ∧
      Snmp.parsePvids rows rows = .ok s.ethernetPvids ∧
      Snmp.parsePortStatus rows rows rows rows rows rows rows rows = .ok s.portStatuses ∧
      ∀ t : Text, (∀ c ∈ t, c.toNat < 128) → readBack t = t := by
  obtain ⟨s', hsports, hsvlans, hspvids, hprojected⟩ := projected_of_snmpRows hrows
  have hitems : s'.ports.items ≠ [] := by
    intro hnil
    rw [hsports] at hnil
    exact hports (by rw [PyDict.keys, hnil]; rfl)
  -- the tables are those of `s`
  have hethernet : s'.ethernetPorts = s.ethernetPorts := by
    rw [ethernetPorts, ethernetPorts, hsports]
  refine ⟨?_, ?_, ?_, fun t ht => readBack_of_ascii ht⟩
  · rw [hprojected.parseVlans hitems (by rwa [PositiveMembers, hsvlans]) (by rwa [hsvlans]),
      vlanInfos, vlanInfos, hethernet, vlanIds, vlanIds, hsvlans]
  · rw [hprojected.parsePvids hitems, ethernetPvids, ethernetPvids, hethernet, hspvids]
  · rw [hprojected.parsePortStatus hitems, portStatuses, portStatuses, hethernet, hsports]

/-- A switch with one port, in one VLAN. -/
def onePort (vid : ℤ) (vlanName description : Text) : VirtualSwitchState where
  modelKey := .gsm7252ps
  ports := .ofList [(1,
    { name := "1/0/1".toList
      admin := true
      link := true
      speed := 1000
      description := some description })]
  vlans := .ofList [(vid, { name := vlanName, member := {1}, untagged := {1} })]
  pvids := .ofList [(1, vid)]

/-- A port whose general-mode list is too long for its bitmap. -/
def longList : VirtualSwitchState where
  modelKey := .m4300_24x
  ports := (onePort 7 "lab".toList []).ports
  switchportGeneralTagged := .ofList [(1, {5000})]

/-- What a walk over the whole map of a switch answers for its VLANs. -/
def readVlans (s : VirtualSwitchState) : Option (Except LibError (List VLANInfo)) :=
  s.snmpRows.map fun rows => Snmp.parseVlans rows rows rows rows rows rows

/-- And for its ports. -/
def readPorts (s : VirtualSwitchState) : Option (Except LibError (List PortStatus)) :=
  s.snmpRows.map fun rows => Snmp.parsePortStatus rows rows rows rows rows rows rows rows

theorem parse_snmpRows_onePort : ∃ rows, (onePort 7 "lab".toList "door".toList).snmpRows = some rows ∧
    Snmp.parseVlans rows rows rows rows rows rows =
      .ok (onePort 7 "lab".toList "door".toList).vlanInfos := by
  have hsome : (onePort 7 "lab".toList "door".toList).snmpRows.isSome = true := by decide +kernel
  obtain ⟨rows, hrows⟩ := Option.isSome_iff_exists.mp hsome
  refine ⟨rows, hrows, (parse_snmpRows hrows (by decide) ?_ (by decide)).1⟩
  intro v vsim hvsim
  have hmem := PyDict.mem_items_of_get? hvsim
  cases List.mem_singleton.mp hmem
  decide

/-- Names that are not ASCII are read as something else or cannot be sent, a negative VLAN id is
refused by the parser, an empty description is read as none, and a general-mode list with a
VLAN past its bitmap leaves no map at all. -/
theorem readBack_limits :
    readVlans (onePort 7 ['é'] []) = some (.ok [⟨7, some [PyCodec.replacementChar], {1}, ∅, {1}⟩]) ∧
      readVlans (onePort 7 ['€'] []) = none ∧
      readVlans (onePort (-1) "lab".toList []) = some (.error .snmp) ∧
      (readPorts (onePort 7 "lab".toList [])).map (Except.map (List.map PortStatus.description)) =
        some (.ok [none]) ∧
      longList.oidMap.2 = none := by
  decide +kernel

end VirtualSwitchState

end NetgearSwitch.Virtual
