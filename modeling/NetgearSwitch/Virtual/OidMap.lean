import NetgearSwitch.Virtual.Switchport

/-!
# The MIB view of the virtual switch

`VirtualSwitchState.oid_map`, the projection of the state onto OIDs, and the loading of
`StateMibView` in `virtual/faces/mibview.py`.

An OID is a text in the source; it is kept as its dot-separated parts here, and the parts the
state supplies are texts that need not be numbers.  Projecting fails with `IndexError` on a set
that does not fit its bitmap, and loading fails with `ValueError` on a part that is no number.
On a switchport model projecting also fills in the switchport row of every port.
-/

namespace NetgearSwitch.Virtual

open Snmp PyText

/-! ## §1 Rows of the view -/

/-- The type token of a row. -/
inductive SnmpType
  | integer
  | gauge32
  | counter32
  | counter64
  | ipaddr
  | octetstr
  | oid
  deriving DecidableEq, Repr

structure MibValue where
  type : SnmpType
  value : Text
  deriving DecidableEq, Repr

/-- A textual OID, split at its dots. -/
abbrev OidText := List Text

/-- A row of `oid_map`. -/
abbrev MibRow := OidText × MibValue

/-- The parts of a numeric OID. -/
def oidParts (oid : Oid) : OidText := oid.map natText

/-- `f"{base}.{n}"` for one or more integers. -/
def instanceText (base : Oid) (ns : List ℤ) : OidText := oidParts base ++ ns.map intText

/-- `f"{base}.{t}"` for a text. -/
def instanceOfText (base : Oid) (t : Text) : OidText := oidParts base ++ t.splitOn '.'

def intRow (base : Oid) (ns : List ℤ) (type : SnmpType) (n : ℤ) : MibRow :=
  (instanceText base ns, ⟨type, intText n⟩)

def textRow (base : Oid) (ns : List ℤ) (t : Text) : MibRow :=
  (instanceText base ns, ⟨.octetstr, t⟩)

def bytesRow (base : Oid) (ns : List ℤ) (b : Bytes) : MibRow :=
  textRow base ns (PyCodec.latin1Decode b)

/-- `"1" if b else "2"`, the MIB truth value. -/
def truthValue (b : Bool) : ℤ := if b then 1 else 2

/-- `f"{b:02X}"`. -/
def hexByte (b : UInt8) : Text :=
  let hex (d : ℕ) : Char := if d < 10 then digitChar d else Char.ofNat (55 + d)
  [hex (b.toNat / 16), hex (b.toNat % 16)]

/-- The dotted text of a numeric OID. -/
def dottedText (oid : Oid) : Text := ['.'].intercalate (oid.map natText)

/-- `encode_port_bitmap`; `none` is the `IndexError` of a port far below 1. -/
def encodePortBitmap (ports : Finset ℤ) (widthBytes : ℕ) : Option Bytes :=
  Bitmap.encodeNumbers widthBytes (PySet.sorted ports)

/-- `vlan_bitmap_width`. -/
def vlanBitmapWidth (m : SwitchModel) : ℕ := max 8 ((m.portCount + 7) / 8)

namespace VirtualSwitchState

/-! ## §2 The sections of `oid_map` -/

/-- `self.vlan_portlist_width or vlan_bitmap_width(model)`. -/
def vlanWidth (s : VirtualSwitchState) : ℕ :=
  match s.vlanPortlistWidth with
  | none | some 0 => vlanBitmapWidth s.model
  | some w => w

def systemRows (s : VirtualSwitchState) : List MibRow :=
  let baseMac := if s.dot1dBaseMacAscii then [':'].intercalate (s.nsdpMac.map hexByte)
    else PyCodec.latin1Decode s.nsdpMac
  let descr := if s.sysDescr = [] then "Netgear ".toList ++ s.model.displayName else s.sysDescr
  let defaultObjectId := match vendorOids s.model with
    | some v => dottedText (v.base ++ [1])
    | none => "1.3.6.1.2.1".toList
  [textRow dot1dBaseBridgeAddress [0] baseMac, textRow Snmp.sysDescr [] descr,
    (instanceText Snmp.sysObjectId [],
      ⟨.oid, if s.sysObjectId = [] then defaultObjectId else s.sysObjectId⟩),
    textRow Snmp.sysName [] s.hostname]

/-- Remote logging; the row instance is the collector's own index. -/
def syslogRows (s : VirtualSwitchState) (v : VendorOids) : List MibRow :=
  [intRow v.syslogAdminMode [] .integer s.syslog.adminMode,
      intRow v.syslogLocalPort [] .gauge32 s.syslog.localPort] ++
    s.syslog.collectors.flatMap fun col =>
      [intRow (v.base ++ [14, 1, 4, 5, 1, 2]) [col.index] .integer 1,
        textRow (v.base ++ [14, 1, 4, 5, 1, 3]) [col.index] col.host,
        intRow (v.base ++ [14, 1, 4, 5, 1, 4]) [col.index] .gauge32 col.port,
        intRow (v.base ++ [14, 1, 4, 5, 1, 5]) [col.index] .integer col.severity,
        intRow v.syslogHostStatus [col.index] .integer col.status]

/-- The row of a counter the port exposes. -/
def counterRow (base : Oid) (port : ℤ) (type : SnmpType) (n : Option ℤ) : List MibRow :=
  n.toList.map (intRow base [port] type)

def portRows (s : VirtualSwitchState) : List MibRow :=
  s.ports.items.flatMap fun (port, sim) =>
    [intRow Snmp.ifAdminStatus [port] .integer (truthValue sim.admin),
        intRow ifOperStatus [port] .integer (truthValue sim.link),
        intRow ifHighSpeed [port] .gauge32 sim.speed, intRow Snmp.ifType [port] .integer sim.ifType,
        textRow ifName [port] sim.name] ++
      (if sim.servesEtherlike then
        let pause := if sim.flowControl then 4 else 1
        [intRow dot3StatsDuplexStatus [port] .integer (if sim.link then 3 else 1),
          intRow dot3PauseOperMode [port] .integer pause,
          intRow dot3PauseAdminMode [port] .integer pause]
      else []) ++
      (sim.description.toList.map (textRow Snmp.ifAlias [port])) ++
      counterRow ifHcInOctets port .counter64 sim.rxOctets ++
      counterRow ifHcOutOctets port .counter64 sim.txOctets ++
      counterRow ifHcInUcast port .counter64 sim.rxUcast ++
      counterRow ifHcOutUcast port .counter64 sim.txUcast ++
      counterRow ifInErrors port .counter32 sim.rxErrors ++
      counterRow ifOutErrors port .counter32 sim.txErrors

/-- The six switchport columns of a port. -/
def switchportRow (s : VirtualSwitchState) (port : ℤ) : Option (List MibRow) := do
  let r := s.row port
  let tagged ← vlanBitmapBytes r.generalTagged
  let untagged ← vlanBitmapBytes r.generalUntagged
  some
    [intRow fastpathSwitchportMode [port] .integer r.mode,
      intRow fastpathSwitchportAccessVlan [port] .gauge32 r.accessVlan,
      intRow fastpathSwitchportNativeVlan [port] .gauge32 r.nativeVlan,
      bytesRow fastpathSwitchportAllowedVlans [port] r.allowedVlans,
      bytesRow fastpathSwitchportTaggedVlans [port] tagged,
      bytesRow fastpathSwitchportUntaggedVlans [port] untagged]

/-- The switchport table, port by port; each port's row is filled in before it is read. -/
def switchportRows : List ℤ → VirtualSwitchState → VirtualSwitchState × Option (List MibRow)
  | [], s => (s, some [])
  | port :: ports, s =>
    match (s.switchportDefaults port).switchportRow port with
    | none => (s.switchportDefaults port, none)
    | some row =>
      match switchportRows ports (s.switchportDefaults port) with
      | (s', none) => (s', none)
      | (s', some rows) => (s', some (row ++ rows))

/-- The current table has every VLAN, the static table those with a static row. -/
def vlanRow (s : VirtualSwitchState) (vid : ℤ) (vsim : VlanSim) : Option (List MibRow) := do
  let member ← encodePortBitmap vsim.member s.vlanWidth
  let untagged ← encodePortBitmap vsim.untagged s.vlanWidth
  let current :=
    [bytesRow dot1qVlanCurrentEgress [0, vid] member,
      bytesRow dot1qVlanCurrentUntagged [0, vid] untagged,
      intRow dot1qVlanStatus [0, vid] .integer (if vsim.staticRow then 2 else 1)]
  if vsim.staticRow then
    let configured ← encodePortBitmap vsim.configured s.vlanWidth
    some (current ++
      [textRow dot1qVlanStaticName [vid] vsim.name,
        bytesRow dot1qVlanStaticEgress [vid] configured,
        bytesRow dot1qVlanStaticUntagged [vid] untagged])
  else some current

def vlanRows (s : VirtualSwitchState) : Option (List MibRow) :=
  (s.vlans.items.mapM fun e => s.vlanRow e.1 e.2).map List.flatten

def pvidRows (s : VirtualSwitchState) : List MibRow :=
  s.pvids.items.map fun (port, pv) => intRow Snmp.dot1qPvid [port] .gauge32 pv

def poeRows (s : VirtualSwitchState) : List MibRow :=
  s.poe.items.flatMap fun (port, psim) =>
    [intRow (pethPsePortTable ++ [3, 1]) [port] .integer (truthValue psim.admin),
        intRow (pethPsePortTable ++ [6, 1]) [port] .integer psim.detect] ++
      (vendorOids s.model).toList.map fun v => intRow (v.poePowerMw ++ [1]) [port] .gauge32 psim.powerMw

def sensorRows (s : VirtualSwitchState) (v : VendorOids) : List MibRow :=
  s.sensors.map fun ssim =>
    let base := match ssim.kind with
      | .fan => v.boxFan
      | .power => v.boxPsuPower
      | .temperature => v.boxTemp
    (instanceOfText base ssim.inst, ⟨.octetstr, ssim.raw⟩)

def entityRows (s : VirtualSwitchState) : List MibRow :=
  s.entityComponents.flatMap fun ent =>
    [intRow entPhysicalClass [ent.index] .integer ent.physClass,
      textRow entPhysicalName [ent.index] ent.name, textRow entPhysicalDescr [ent.index] ent.descr]

def fdbRows (s : VirtualSwitchState) : List MibRow :=
  (s.macs.map fun msim =>
      -- an empty MAC leaves the text of the OID with a trailing dot
      if msim.macBytes = [] then
        (instanceText dot1qTpFdbPort [msim.vlan] ++ [[]], ⟨.integer, intText msim.bridgePort⟩)
      else intRow dot1qTpFdbPort (msim.vlan :: msim.macBytes) .integer msim.bridgePort) ++
    s.bridgePorts.items.map fun (bridgePort, ifindex) =>
      intRow dot1dBasePortIfIndex [bridgePort] .integer ifindex

def lldpRows (s : VirtualSwitchState) : List MibRow :=
  s.lldp.flatMap fun nb =>
    let idx := [nb.timeMark, nb.localPort, nb.remIdx]
    [textRow (lldpRemTable ++ [1, 5]) idx nb.chassis, textRow (lldpRemTable ++ [1, 7]) idx nb.portId,
      textRow (lldpRemTable ++ [1, 8]) idx nb.portDesc,
      textRow (lldpRemTable ++ [1, 9]) idx nb.sysName]

def mgmtRows (s : VirtualSwitchState) : List MibRow :=
  [(instanceOfText ipAdEntAddr s.mgmt.address, ⟨.ipaddr, s.mgmt.address⟩),
      (instanceOfText ipAdEntNetmask s.mgmt.address, ⟨.ipaddr, s.mgmt.netmask⟩),
      (instanceText ipRouteDest [0, 0, 0, 0], ⟨.ipaddr, "0.0.0.0".toList⟩),
      (instanceText ipRouteNextHop [0, 0, 0, 0], ⟨.ipaddr, s.mgmt.gateway⟩)] ++
    (vendorOids s.model).toList.map fun v =>
      intRow v.dhcpModeUnverified [0] .integer (if s.mgmt.mode = .static then 2 else 1)

/-! ## §3 The projection and the view -/

/-- Every row of the map in the order `oid_map` enters them, given the two tables whose
encoding may fail. -/
def allRows (s : VirtualSwitchState) (switchport vlans : List MibRow) : List MibRow :=
  let vendor (rows : VendorOids → List MibRow) := ((vendorOids s.model).map rows).getD []
  s.systemRows ++ vendor s.syslogRows ++ s.portRows ++ switchport ++ vlans ++ s.pvidRows ++
    s.poeRows ++ vendor s.sensorRows ++ s.entityRows ++ s.fdbRows ++ s.lldpRows ++ s.mgmtRows

/-- `oid_map`: the state with its switchport rows filled in, and the map, later rows of an OID
overwriting earlier ones. -/
def oidMap (s₀ : VirtualSwitchState) : VirtualSwitchState × Option (PyDict OidText MibValue) :=
  match if s₀.switchportModel then switchportRows s₀.ports.keys s₀ else (s₀, some []) with
  | (s, none) => (s, none)
  | (s, some switchport) => (s, s.vlanRows.map fun vlans => .ofList (s.allRows switchport vlans))

end VirtualSwitchState

/-- One entry of the sorted view. -/
structure MibEntry where
  oid : List ℤ
  value : MibValue
  deriving DecidableEq

/-- `_oid_to_tuple`, but for the limit of `int` on its digits. -/
def oidToTuple (oid : OidText) : Option (List ℤ) := oid.mapM spelledInt

/-- The entry of a row of the map. -/
def MibEntry.ofRow (row : MibRow) : Option MibEntry :=
  (oidToTuple row.1).map fun oid => ⟨oid, row.2⟩

/-- The order of integer tuples. -/
def oidLe : List ℤ → List ℤ → Bool
  | [], _ => true
  | _ :: _, [] => false
  | a :: as, b :: bs => a < b || a = b && oidLe as bs

/-- The texts of the state that become parts of OIDs. -/
def VirtualSwitchState.oidTexts (s : VirtualSwitchState) : List Text :=
  s.mgmt.address :: if (vendorOids s.model).isSome then s.sensors.map (·.inst) else []

/-- A part of the text has more digits than `int` takes. -/
def hasLongPart (t : Text) : Bool := (t.splitOn '.').any fun part => 4300 < part.countP isDecimal

/-- `StateMibView._load`: the state after projecting it, and the entries in OID order.  Only a
text of the state can give an OID a part that is too long for `int`: the numbers in the OIDs are
the state's own, and no such number is that long. -/
def loadView (s : VirtualSwitchState) : VirtualSwitchState × Option (List MibEntry) :=
  match s.oidMap with
  | (s', none) => (s', none)
  | (s', some m) =>
    (s', if s'.oidTexts.any hasLongPart then none
      else (m.items.mapM MibEntry.ofRow).map fun es =>
        es.insertionSort fun a b => oidLe a.oid b.oid)

/-! ## §4 When the view loads

Projecting a state whose switchport rows are filled in does not touch it.  Whether the view
loads depends on four things: the lists and port sets fit their bitmaps, and the OID parts that
are texts of the state are numbers. -/

/-- A text whose dot-separated parts are all integers, so that it can be part of an OID. -/
def NumericParts (t : Text) : Prop := ∀ part ∈ t.splitOn '.', (pyInt part).isSome

/-- The same but for the limit on the digits of a part. -/
def SpelledParts (t : Text) : Prop := ∀ part ∈ t.splitOn '.', (spelledInt part).isSome

theorem numericParts_iff {t : Text} : NumericParts t ↔ hasLongPart t = false ∧ SpelledParts t := by
  have hpart : ∀ part : Text, (pyInt part).isSome ↔
      ¬ 4300 < part.countP isDecimal ∧ (spelledInt part).isSome := by
    intro part
    rw [pyInt]
    split_ifs with hlong
    · exact iff_of_false Bool.false_ne_true fun h => h.1 hlong
    · exact ⟨fun h => ⟨hlong, h⟩, fun h => h.2⟩
  rw [NumericParts, SpelledParts, hasLongPart, List.any_eq_false]
  simp only [hpart, decide_eq_true_eq]
  exact ⟨fun h => ⟨fun part hp => (h part hp).1, fun part hp => (h part hp).2⟩,
    fun h part hp => ⟨h.1 part hp, h.2 part hp⟩⟩

/-- A row whose OID can be loaded. -/
def Loadable (row : MibRow) : Prop := ∀ part ∈ row.1, (spelledInt part).isSome

theorem isSome_mapM_iff {α β : Type} {f : α → Option β} {l : List α} :
    (l.mapM f).isSome ↔ ∀ a ∈ l, (f a).isSome := by
  induction l with
  | nil => simp
  | cons a l ih =>
    rw [List.mapM_cons, List.forall_mem_cons, ← ih]
    cases f a with
    | none => simp
    | some b => cases l.mapM f <;> simp

theorem isSome_ofRow_iff {row : MibRow} : (MibEntry.ofRow row).isSome ↔ Loadable row := by
  rw [MibEntry.ofRow, Option.isSome_map, oidToTuple, isSome_mapM_iff]
  rfl

private theorem loadable_oidParts (base : Oid) : ∀ part ∈ oidParts base, (spelledInt part).isSome := by
  intro part hpart
  obtain ⟨n, _, rfl⟩ := List.mem_map.mp hpart
  rw [spelledInt_natText]
  rfl

/-- Integer instances always load. -/
theorem loadable_instanceText (base : Oid) (ns : List ℤ) (v : MibValue) :
    Loadable (instanceText base ns, v) := by
  intro part hpart
  rcases List.mem_append.mp hpart with hpart | hpart
  · exact loadable_oidParts base part hpart
  · obtain ⟨n, _, rfl⟩ := List.mem_map.mp hpart
    rw [spelledInt_intText]
    rfl

theorem loadable_instanceOfText_iff (base : Oid) (t : Text) (v : MibValue) :
    Loadable (instanceOfText base t, v) ↔ SpelledParts t := by
  constructor
  · intro h part hpart
    exact h part (List.mem_append_right _ hpart)
  · intro h part hpart
    rcases List.mem_append.mp hpart with hpart | hpart
    · exact loadable_oidParts base part hpart
    · exact h part hpart

namespace VirtualSwitchState

/-- On a switchport model, every port has its row. -/
def RowsFilled (s : VirtualSwitchState) : Prop :=
  s.switchportModel = true → ∀ p ∈ s.ports.keys, s.HasRow p

/-- The sets the view encodes fit their bitmaps. -/
structure FitsBitmaps (s : VirtualSwitchState) : Prop where
  general : s.switchportModel = true → ∀ p ∈ s.ports.keys,
    (vlanBitmapBytes (s.row p).generalTagged).isSome ∧
      (vlanBitmapBytes (s.row p).generalUntagged).isSome
  ports : ∀ vid vsim, s.vlans.get? vid = some vsim →
    (encodePortBitmap vsim.member s.vlanWidth).isSome ∧
      (encodePortBitmap vsim.untagged s.vlanWidth).isSome ∧
      (vsim.staticRow = true → (encodePortBitmap vsim.configured s.vlanWidth).isSome)

theorem isSome_vlanBitmapBytes_iff {vlans : Finset ℤ} :
    (vlanBitmapBytes vlans).isSome ↔ ∀ v ∈ vlans, -4096 < v ∧ v ≤ 4096 := by
  rw [vlanBitmapBytes, Bitmap.isSome_addNumbers_iff, List.length_replicate]
  simp only [PySet.mem_sorted]
  rfl

theorem isSome_encodePortBitmap_iff {ports : Finset ℤ} {width : ℕ} :
    (encodePortBitmap ports width).isSome ↔ ∀ p ∈ ports, -(8 * width : ℤ) < p := by
  rw [encodePortBitmap, Bitmap.isSome_encodeNumbers_iff (PySet.pairwise_sorted ports)]
  simp only [PySet.mem_sorted]

/-- Which sets fit, number by number: VLAN ids up to 4096, and every port number that is not
far below 1. -/
theorem fitsBitmaps_iff {s : VirtualSwitchState} : s.FitsBitmaps ↔
    (s.switchportModel = true → ∀ p ∈ s.ports.keys,
      (∀ v ∈ (s.row p).generalTagged, -4096 < v ∧ v ≤ 4096) ∧
        ∀ v ∈ (s.row p).generalUntagged, -4096 < v ∧ v ≤ 4096) ∧
      ∀ vid vsim, s.vlans.get? vid = some vsim →
        (∀ p ∈ vsim.member, -(8 * s.vlanWidth : ℤ) < p) ∧
          (∀ p ∈ vsim.untagged, -(8 * s.vlanWidth : ℤ) < p) ∧
          (vsim.staticRow = true → ∀ p ∈ vsim.configured, -(8 * s.vlanWidth : ℤ) < p) := by
  simp only [← isSome_vlanBitmapBytes_iff, ← isSome_encodePortBitmap_iff]
  constructor
  · rintro ⟨hgeneral, hports⟩
    exact ⟨hgeneral, hports⟩
  · rintro ⟨hgeneral, hports⟩
    exact ⟨hgeneral, hports⟩

/-- The parts of the inventory that become OID texts are numbers. -/
structure InventoryLoads (s : VirtualSwitchState) : Prop where
  sensors : (vendorOids s.model).isSome → ∀ x ∈ s.sensors, NumericParts x.inst
  macs : ∀ m ∈ s.macs, m.macBytes ≠ []

/-- A switchport table that was emitted left every row filled in. -/
theorem hasRow_switchportRows : ∀ (ports : List ℤ) (s s' : VirtualSwitchState) {rows : List MibRow},
    switchportRows ports s = (s', some rows) →
      (∀ q, s.HasRow q → s'.HasRow q) ∧ ∀ p ∈ ports, s'.HasRow p
  | [], s, s', rows, h => by
    cases h
    exact ⟨fun _ hq => hq, by simp⟩
  | port :: ports, s, s', rows, h => by
    rw [switchportRows] at h
    split at h
    · cases h
    · split at h
      · cases h
      · next row _ s₁ rest hrest =>
        cases h
        obtain ⟨hkeep, hports⟩ := hasRow_switchportRows ports _ _ hrest
        refine ⟨fun q hq => hkeep q (hq.switchportDefaults port), ?_⟩
        intro p hp
        rcases List.mem_cons.mp hp with rfl | hp
        · exact hkeep p (hasRow_switchportDefaults s p)
        · exact hports p hp

/-- Filling in the table leaves the rest of the state. -/
theorem switchportRows_frame : ∀ {ports : List ℤ} {s s' : VirtualSwitchState}
    {rows : List MibRow}, switchportRows ports s = (s', some rows) →
      s'.ports = s.ports ∧ s'.vlans = s.vlans ∧ s'.pvids = s.pvids ∧
        s'.modelKey = s.modelKey
  | [], s, s', rows, h => by
    cases h
    exact ⟨rfl, rfl, rfl, rfl⟩
  | port :: ports, s, s', rows, h => by
    rw [switchportRows] at h
    split at h
    · cases h
    · split at h
      · cases h
      · next hrest =>
        cases h
        have hrest' := switchportRows_frame hrest
        exact hrest'

theorem isSome_switchportRow_iff {s : VirtualSwitchState} {p : ℤ} :
    (s.switchportRow p).isSome ↔ (vlanBitmapBytes (s.row p).generalTagged).isSome ∧
      (vlanBitmapBytes (s.row p).generalUntagged).isSome := by
  unfold switchportRow
  dsimp only
  cases vlanBitmapBytes (s.row p).generalTagged with
  | none => simp
  | some tagged => cases vlanBitmapBytes (s.row p).generalUntagged <;> simp

theorem loadable_of_mem_switchportRow {s : VirtualSwitchState} {p : ℤ} {rows : List MibRow}
    (h : s.switchportRow p = some rows) : ∀ row ∈ rows, Loadable row := by
  simp only [switchportRow, Option.bind_eq_bind, Option.bind_eq_some_iff, Option.some.injEq] at h
  obtain ⟨_, _, _, _, rfl⟩ := h
  simp [intRow, bytesRow, textRow, loadable_instanceText]

/-- The switchport table over filled rows: the state stays, and the table is emitted exactly
when every port's lists fit. -/
theorem switchportRows_of_hasRow : ∀ (ports : List ℤ) (s : VirtualSwitchState),
    (∀ p ∈ ports, s.HasRow p) →
      (switchportRows ports s).1 = s ∧
        ((switchportRows ports s).2.isSome ↔ ∀ p ∈ ports, (s.switchportRow p).isSome) ∧
        ∀ rows, (switchportRows ports s).2 = some rows → ∀ row ∈ rows, Loadable row
  | [], s, _ => ⟨rfl, by simp [switchportRows], by simp [switchportRows]⟩
  | port :: ports, s, h => by
    obtain ⟨hstate, hsome, hload⟩ := switchportRows_of_hasRow ports s fun p hp =>
      h p (List.mem_cons_of_mem _ hp)
    rw [switchportRows, switchportDefaults_of_hasRow (h port List.mem_cons_self),
      List.forall_mem_cons, ← hsome]
    cases hrow : s.switchportRow port with
    | none => simp
    | some row =>
      cases hrest : switchportRows ports s with
      | mk s' rest =>
        rw [hrest] at hstate hload
        cases rest with
        | none => simpa using hstate
        | some rest =>
          refine ⟨hstate, by simp, ?_⟩
          rintro rows hrows r hr
          cases hrows
          rcases List.mem_append.mp hr with hr | hr
          · exact loadable_of_mem_switchportRow hrow r hr
          · exact hload rest rfl r hr

theorem isSome_vlanRow_iff {s : VirtualSwitchState} {vid : ℤ} {vsim : VlanSim} :
    (s.vlanRow vid vsim).isSome ↔ (encodePortBitmap vsim.member s.vlanWidth).isSome ∧
      (encodePortBitmap vsim.untagged s.vlanWidth).isSome ∧
      (vsim.staticRow = true → (encodePortBitmap vsim.configured s.vlanWidth).isSome) := by
  unfold vlanRow
  cases encodePortBitmap vsim.member s.vlanWidth with
  | none => simp
  | some member =>
    cases encodePortBitmap vsim.untagged s.vlanWidth with
    | none => simp
    | some untagged =>
      cases hstatic : vsim.staticRow with
      | false => simp
      | true => cases encodePortBitmap vsim.configured s.vlanWidth <;> simp

theorem loadable_of_mem_vlanRow {s : VirtualSwitchState} {vid : ℤ} {vsim : VlanSim}
    {rows : List MibRow} (h : s.vlanRow vid vsim = some rows) : ∀ row ∈ rows, Loadable row := by
  simp only [vlanRow, Option.bind_eq_bind, Option.bind_eq_some_iff] at h
  obtain ⟨member, _, untagged, _, h⟩ := h
  split at h
  · simp only [Option.bind_eq_some_iff, Option.some.injEq] at h
    obtain ⟨_, _, rfl⟩ := h
    simp [intRow, bytesRow, textRow, loadable_instanceText]
  · cases h
    simp [intRow, bytesRow, textRow, loadable_instanceText]

theorem isSome_vlanRows_iff {s : VirtualSwitchState} : s.vlanRows.isSome ↔
    ∀ vid vsim, s.vlans.get? vid = some vsim → (s.vlanRow vid vsim).isSome := by
  rw [vlanRows, Option.isSome_map, isSome_mapM_iff]
  constructor
  · intro h vid vsim hget
    exact h (vid, vsim) (PyDict.mem_items_iff.mpr hget)
  · intro h e he
    exact h e.1 e.2 (PyDict.mem_items_iff.mp he)

theorem mem_of_mapM_eq_some {α β : Type} {f : α → Option β} : ∀ {l : List α} {bs : List β},
    l.mapM f = some bs → ∀ b ∈ bs, ∃ a ∈ l, f a = some b
  | [], bs, h, b, hb => by
    cases h
    cases hb
  | a :: l, bs, h, b, hb => by
    simp only [List.mapM_cons, Option.bind_eq_bind, Option.bind_eq_some_iff, Option.pure_def,
      Option.some.injEq] at h
    obtain ⟨b₀, hb₀, rest, hrest, rfl⟩ := h
    rcases List.mem_cons.mp hb with rfl | hb
    · exact ⟨a, List.mem_cons_self, hb₀⟩
    · obtain ⟨a', ha', hfa'⟩ := mem_of_mapM_eq_some hrest b hb
      exact ⟨a', List.mem_cons_of_mem _ ha', hfa'⟩

theorem loadable_of_mem_vlanRows {s : VirtualSwitchState} {rows : List MibRow}
    (h : s.vlanRows = some rows) : ∀ row ∈ rows, Loadable row := by
  obtain ⟨tables, htables, rfl⟩ := Option.map_eq_some_iff.mp h
  intro row hrow
  obtain ⟨table, htable, hrow⟩ := List.mem_flatten.mp hrow
  obtain ⟨e, _, he⟩ := mem_of_mapM_eq_some htables table htable
  exact loadable_of_mem_vlanRow he row hrow

/-! The sections without failing parts: every OID in them is a constant and integers. -/

section Sections

variable (s : VirtualSwitchState)

private theorem loadable_cons {base : Oid} {ns : List ℤ} {v : MibValue} {rows : List MibRow}
    (h : ∀ row ∈ rows, Loadable row) : ∀ row ∈ (instanceText base ns, v) :: rows, Loadable row :=
  List.forall_mem_cons.mpr ⟨loadable_instanceText base ns v, h⟩

private theorem loadable_nil : ∀ row ∈ ([] : List MibRow), Loadable row := List.forall_mem_nil _

theorem loadable_systemRows : ∀ row ∈ s.systemRows, Loadable row := by
  unfold systemRows
  exact loadable_cons <| loadable_cons <| loadable_cons <| loadable_cons loadable_nil

theorem loadable_syslogRows (v : VendorOids) : ∀ row ∈ s.syslogRows v, Loadable row := by
  rw [syslogRows, List.forall_mem_append, List.forall_mem_flatMap]
  constructor
  · exact loadable_cons <| loadable_cons loadable_nil
  · intro col _
    exact loadable_cons <| loadable_cons <| loadable_cons <| loadable_cons <|
      loadable_cons loadable_nil

theorem loadable_portRows : ∀ row ∈ s.portRows, Loadable row := by
  have hcounter : ∀ base port type (n : Option ℤ), ∀ row ∈ counterRow base port type n,
      Loadable row := by
    intro base port type n
    cases n with
    | none => exact loadable_nil
    | some n => exact loadable_cons loadable_nil
  rw [portRows, List.forall_mem_flatMap]
  rintro ⟨port, sim⟩ _
  simp only [List.forall_mem_append]
  refine ⟨⟨⟨⟨⟨⟨⟨⟨?_, ?_⟩, ?_⟩, hcounter _ _ _ _⟩, hcounter _ _ _ _⟩, hcounter _ _ _ _⟩,
    hcounter _ _ _ _⟩, hcounter _ _ _ _⟩, hcounter _ _ _ _⟩
  · exact loadable_cons <| loadable_cons <| loadable_cons <| loadable_cons <|
      loadable_cons loadable_nil
  · cases sim.servesEtherlike with
    | true => exact loadable_cons <| loadable_cons <| loadable_cons loadable_nil
    | false => exact loadable_nil
  · cases sim.description with
    | none => exact loadable_nil
    | some d => exact loadable_cons loadable_nil

theorem loadable_pvidRows : ∀ row ∈ s.pvidRows, Loadable row := by
  rw [pvidRows, List.forall_mem_map]
  intro e _
  exact loadable_instanceText _ _ _

theorem loadable_poeRows : ∀ row ∈ s.poeRows, Loadable row := by
  rw [poeRows, List.forall_mem_flatMap]
  rintro ⟨port, psim⟩ _
  rw [List.forall_mem_append, List.forall_mem_map]
  constructor
  · exact loadable_cons <| loadable_cons loadable_nil
  · intro v _
    exact loadable_instanceText _ _ _

theorem loadable_entityRows : ∀ row ∈ s.entityRows, Loadable row := by
  rw [entityRows, List.forall_mem_flatMap]
  intro ent _
  exact loadable_cons <| loadable_cons <| loadable_cons loadable_nil

theorem loadable_lldpRows : ∀ row ∈ s.lldpRows, Loadable row := by
  rw [lldpRows, List.forall_mem_flatMap]
  intro nb _
  exact loadable_cons <| loadable_cons <| loadable_cons <| loadable_cons loadable_nil

/-! The sections whose OIDs hold texts of the state. -/

theorem loadable_sensorRows_iff (v : VendorOids) :
    (∀ row ∈ s.sensorRows v, Loadable row) ↔ ∀ x ∈ s.sensors, SpelledParts x.inst := by
  simp only [sensorRows, List.forall_mem_map, loadable_instanceOfText_iff]

theorem loadable_fdbRows_iff :
    (∀ row ∈ s.fdbRows, Loadable row) ↔ ∀ m ∈ s.macs, m.macBytes ≠ [] := by
  have hempty : ¬ (spelledInt []).isSome := by decide
  constructor
  · intro h m hm hnil
    have hrow := h _ (List.mem_append_left _ (List.mem_map_of_mem hm))
    rw [if_pos hnil] at hrow
    exact hempty (hrow [] (List.mem_append_right _ List.mem_cons_self))
  · intro h row hrow
    rcases List.mem_append.mp hrow with hrow | hrow
    · obtain ⟨m, hm, rfl⟩ := List.mem_map.mp hrow
      rw [if_neg (h m hm)]
      exact loadable_instanceText _ _ _
    · obtain ⟨e, _, rfl⟩ := List.mem_map.mp hrow
      exact loadable_instanceText _ _ _

theorem loadable_mgmtRows_iff :
    (∀ row ∈ s.mgmtRows, Loadable row) ↔ SpelledParts s.mgmt.address := by
  constructor
  · intro h
    exact (loadable_instanceOfText_iff _ _ _).mp
      (h _ (List.mem_append_left _ List.mem_cons_self))
  · intro h row hrow
    rcases List.mem_append.mp hrow with hrow | hrow
    · simp only [List.mem_cons, List.not_mem_nil, or_false] at hrow
      rcases hrow with rfl | rfl | rfl | rfl
      · exact (loadable_instanceOfText_iff _ _ _).mpr h
      · exact (loadable_instanceOfText_iff _ _ _).mpr h
      · exact loadable_instanceText _ _ _
      · exact loadable_instanceText _ _ _
    · obtain ⟨v, _, rfl⟩ := List.mem_map.mp hrow
      exact loadable_instanceText _ _ _

theorem loadable_allRows_iff {switchport vlans : List MibRow}
    (hswitchport : ∀ row ∈ switchport, Loadable row) (hvlans : ∀ row ∈ vlans, Loadable row) :
    (∀ row ∈ s.allRows switchport vlans, Loadable row) ↔
      SpelledParts s.mgmt.address ∧
        ((vendorOids s.model).isSome → ∀ x ∈ s.sensors, SpelledParts x.inst) ∧
        ∀ m ∈ s.macs, m.macBytes ≠ [] := by
  have hsyslog : ∀ row ∈ ((vendorOids s.model).map s.syslogRows).getD [], Loadable row := by
    cases vendorOids s.model with
    | none => simp
    | some v => exact loadable_syslogRows s v
  have hsensors : (∀ row ∈ ((vendorOids s.model).map s.sensorRows).getD [], Loadable row) ↔
      ((vendorOids s.model).isSome → ∀ x ∈ s.sensors, SpelledParts x.inst) := by
    cases vendorOids s.model with
    | none => simp
    | some v => simpa using loadable_sensorRows_iff s v
  simp only [allRows, List.forall_mem_append]
  constructor
  · rintro ⟨⟨⟨⟨⟨_, hsens⟩, _⟩, hfdb⟩, _⟩, hmgmt⟩
    exact ⟨(loadable_mgmtRows_iff s).mp hmgmt, hsensors.mp hsens, (loadable_fdbRows_iff s).mp hfdb⟩
  · rintro ⟨hmgmt, hsens, hfdb⟩
    exact ⟨⟨⟨⟨⟨⟨⟨⟨⟨⟨⟨loadable_systemRows s, hsyslog⟩, loadable_portRows s⟩, hswitchport⟩, hvlans⟩,
      loadable_pvidRows s⟩, loadable_poeRows s⟩, hsensors.mpr hsens⟩, loadable_entityRows s⟩,
      (loadable_fdbRows_iff s).mpr hfdb⟩, loadable_lldpRows s⟩, (loadable_mgmtRows_iff s).mpr hmgmt⟩

end Sections

/-- The entries of a map load exactly when its rows do. -/
theorem isSome_mapM_ofRow_iff {rows : List MibRow} :
    ((PyDict.ofList rows).items.mapM MibEntry.ofRow).isSome ↔ ∀ row ∈ rows, Loadable row := by
  rw [isSome_mapM_iff]
  constructor
  · intro h row hrow
    have hkey : row.1 ∈ PyDict.ofList rows := PyDict.mem_ofList.mpr (List.mem_map_of_mem hrow)
    obtain ⟨e, he, heq⟩ := List.mem_map.mp (PyDict.mem_def.mp hkey)
    have hload := isSome_ofRow_iff.mp (h e he)
    unfold Loadable at hload
    rwa [heq] at hload
  · intro h e he
    have hkey : e.1 ∈ PyDict.ofList rows := PyDict.mem_def.mpr (List.mem_map_of_mem he)
    obtain ⟨row, hrow, heq⟩ := List.mem_map.mp (PyDict.mem_ofList.mp hkey)
    have hload := h row hrow
    unfold Loadable at hload
    rw [heq] at hload
    exact isSome_ofRow_iff.mpr hload

end VirtualSwitchState

theorem VirtualSwitchState.oidTexts_any_eq_false {s : VirtualSwitchState} :
    s.oidTexts.any hasLongPart = false ↔ hasLongPart s.mgmt.address = false ∧
      ((vendorOids s.model).isSome → ∀ x ∈ s.sensors, hasLongPart x.inst = false) := by
  rw [oidTexts, List.any_cons, Bool.or_eq_false_iff]
  by_cases hvendor : (vendorOids s.model).isSome
  · simp [hvendor]
  · simp [hvendor]

/-- Every text that becomes part of an OID stands in an OID of the map. -/
theorem VirtualSwitchState.mem_allRows_of_mem_oidTexts {s : VirtualSwitchState} {t : Text}
    (h : t ∈ s.oidTexts) (switchport vlans : List MibRow) :
    ∃ base v, (instanceOfText base t, v) ∈ s.allRows switchport vlans := by
  rw [oidTexts, List.mem_cons] at h
  rcases h with rfl | h
  · have hrow : (instanceOfText ipAdEntAddr s.mgmt.address, ⟨.ipaddr, s.mgmt.address⟩) ∈ s.mgmtRows :=
      List.mem_append_left _ List.mem_cons_self
    exact ⟨_, _, List.mem_append_right _ hrow⟩
  · split_ifs at h with hvendor
    · obtain ⟨x, hx, rfl⟩ := List.mem_map.mp h
      obtain ⟨v, hv⟩ := Option.isSome_iff_exists.mp hvendor
      obtain ⟨base, hrow⟩ : ∃ base, (instanceOfText base x.inst, ⟨.octetstr, x.raw⟩) ∈
          s.sensorRows v := ⟨_, List.mem_map_of_mem hx⟩
      refine ⟨base, ⟨.octetstr, x.raw⟩, ?_⟩
      simp only [allRows, List.mem_append, hv, Option.map_some, Option.getD_some]
      exact Or.inl (Or.inl (Or.inl (Or.inl (Or.inr hrow))))
    · cases h

/-- Where no OID of the map has a part that is too long, no text has. -/
theorem VirtualSwitchState.oidTexts_of_oidMap {s s' : VirtualSwitchState}
    {m : PyDict OidText MibValue} (hmap : s.oidMap = (s', some m))
    (h : ∀ oid ∈ m.keys, ∀ part ∈ oid, (pyInt part).isSome) :
    s'.oidTexts.any hasLongPart = false := by
  obtain ⟨switchport, vlans, rfl⟩ : ∃ switchport vlans,
      m = .ofList (s'.allRows switchport vlans) := by
    unfold oidMap at hmap
    split at hmap
    · cases hmap
    · next t switchport _ =>
      obtain ⟨rfl, hm⟩ := Prod.mk.inj hmap
      obtain ⟨vlans, _, rfl⟩ := Option.map_eq_some_iff.mp hm
      exact ⟨switchport, vlans, rfl⟩
  rw [List.any_eq_false]
  intro t ht
  obtain ⟨base, v, hrow⟩ := mem_allRows_of_mem_oidTexts ht switchport vlans
  have hkey := h _ (PyDict.mem_def.mp (PyDict.mem_ofList.mpr (List.mem_map_of_mem hrow)))
  have hparts : NumericParts t := fun part hpart => hkey part (List.mem_append_right _ hpart)
  rw [(numericParts_iff.mp hparts).1]
  exact Bool.false_ne_true

open VirtualSwitchState in
/-- Loading the view of a state with filled rows does not touch the state, and succeeds exactly
when its bitmaps fit and its texts are numbers. -/
theorem loadView_of_rowsFilled {s : VirtualSwitchState} (h : s.RowsFilled) :
    (loadView s).1 = s ∧
      ((loadView s).2.isSome ↔
        s.FitsBitmaps ∧ NumericParts s.mgmt.address ∧ s.InventoryLoads) := by
  -- the switchport table: absent on other models, and never touching the state here
  obtain ⟨table, htable, hsome, hload⟩ : ∃ table,
      (if s.switchportModel then switchportRows s.ports.keys s else (s, some [])) = (s, table) ∧
      (table.isSome ↔ (s.switchportModel = true → ∀ p ∈ s.ports.keys, (s.switchportRow p).isSome)) ∧
      ∀ rows, table = some rows → ∀ row ∈ rows, Loadable row := by
    by_cases hmodel : s.switchportModel = true
    · obtain ⟨hstate, hsome, hload⟩ := switchportRows_of_hasRow s.ports.keys s (h hmodel)
      refine ⟨(switchportRows s.ports.keys s).2, ?_, ?_, hload⟩
      · rw [if_pos hmodel]
        exact Prod.ext hstate rfl
      · simpa [hmodel] using hsome
    · exact ⟨some [], if_neg hmodel, by simp [hmodel], by simp⟩
  simp only [isSome_switchportRow_iff] at hsome
  have hvlans := isSome_vlanRows_iff (s := s)
  simp only [isSome_vlanRow_iff] at hvlans
  unfold loadView oidMap
  rw [htable]
  cases table with
  | none =>
    refine ⟨rfl, ?_⟩
    simp only [Option.isSome_none, Bool.false_eq_true, false_iff] at hsome ⊢
    rintro ⟨hfits, _⟩
    exact hsome hfits.general
  | some switchport =>
    dsimp only
    cases hrows : s.vlanRows with
    | none =>
      refine ⟨rfl, ?_⟩
      rw [hrows] at hvlans
      simp only [Option.map_none, Option.isSome_none, Bool.false_eq_true, false_iff] at hvlans ⊢
      rintro ⟨hfits, _⟩
      exact hvlans hfits.ports
    | some vlans =>
      refine ⟨rfl, ?_⟩
      have hall := loadable_allRows_iff s (hload switchport rfl) (loadable_of_mem_vlanRows hrows)
      rw [hrows] at hvlans
      have hloads : NumericParts s.mgmt.address ∧ s.InventoryLoads ↔
          s.oidTexts.any hasLongPart = false ∧ ∀ row ∈ s.allRows switchport vlans, Loadable row := by
        rw [hall, oidTexts_any_eq_false, numericParts_iff]
        constructor
        · rintro ⟨⟨hlong, hspelled⟩, hsensors, hmacs⟩
          exact ⟨⟨hlong, fun hv x hx => (numericParts_iff.mp (hsensors hv x hx)).1⟩, hspelled,
            fun hv x hx => (numericParts_iff.mp (hsensors hv x hx)).2, hmacs⟩
        · rintro ⟨⟨hlong, hlongs⟩, hspelled, hsensors, hmacs⟩
          exact ⟨⟨hlong, hspelled⟩,
            fun hv x hx => numericParts_iff.mpr ⟨hlongs hv x hx, hsensors hv x hx⟩, hmacs⟩
      rw [hloads, Option.map_some]
      dsimp only
      by_cases hlong : s.oidTexts.any hasLongPart = true
      · rw [if_pos hlong, hlong]
        exact iff_of_false Bool.false_ne_true fun h => Bool.false_ne_true h.2.1.symm
      · rw [if_neg hlong, Option.isSome_map, isSome_mapM_ofRow_iff]
        constructor
        · intro hrowsLoad
          exact ⟨⟨hsome.mp rfl, hvlans.mp rfl⟩, Bool.eq_false_iff.mpr hlong, hrowsLoad⟩
        · exact fun h => h.2.2

/-- A view that loaded left every switchport row filled in. -/
theorem rowsFilled_of_loadView {s : VirtualSwitchState} {es : List MibEntry}
    (h : loadView s = (s, some es)) : s.RowsFilled := by
  intro hmodel
  unfold loadView VirtualSwitchState.oidMap at h
  rw [if_pos hmodel] at h
  cases htable : VirtualSwitchState.switchportRows s.ports.keys s with
  | mk s' table =>
    rw [htable] at h
    cases table with
    | none => cases h
    | some rows =>
      dsimp only at h
      have hs : s' = s := by
        split at h
        · next heq =>
          rw [Prod.mk.injEq] at heq h
          exact heq.1.trans h.1
        · next heq =>
          rw [Prod.mk.injEq] at heq h
          exact heq.1.trans h.1
      rw [hs] at htable
      exact (VirtualSwitchState.hasRow_switchportRows _ _ _ htable).2

end NetgearSwitch.Virtual
