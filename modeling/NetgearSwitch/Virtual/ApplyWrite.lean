import NetgearSwitch.Errors
import NetgearSwitch.Virtual.Switchport

/-!
# SNMP SET on the virtual switch

`VirtualSwitchState.apply_write` and `is_writable_oid`.  The source tests the OID against one
column after another; `column` is that dispatch, in the source's order, and `applyColumn` the
effect of a write to the column it finds.  An OID that no column claims is a deliberate no-op.

A write that raises is an `ApplyError`; which exception it was decides the SNMP error-status.
-/

namespace NetgearSwitch.Virtual

open Snmp

/-! ## §1 SET values -/

/-- The Python value of an incoming SET varbind. -/
inductive SetValue
  | int (n : ℤ)
  | bytes (b : Bytes)
  | str (t : Text)
  deriving DecidableEq

/-- Why `apply_write` raised. -/
inductive ApplyError
  | commitFailed
  | notWritable
  | inconsistentValue
  | valueError
  | indexError
  | unicodeError
  deriving DecidableEq, Repr

/-- `int(value)`; for bytes only the ASCII spellings of a number count. -/
def SetValue.toInt : SetValue → Option ℤ
  | .int n => some n
  | .bytes b => if b.all fun x => x < 128 then PyText.pyInt (PyCodec.latin1Decode b) else none
  | .str t => PyText.pyInt t

/-- `_as_bytes(value)`. -/
def SetValue.asBytes : SetValue → Except ApplyError Bytes
  | .bytes b => .ok b
  | .str t => ((PyCodec.latin1Encode t).map Except.ok).getD (.error .unicodeError)
  | .int n => if 0 ≤ n ∧ n < 256 then .ok [UInt8.ofNat n.toNat] else .error .valueError

/-- One byte as `repr` prints it inside quotes of character `q`. -/
def reprByte (q : Char) (b : UInt8) : Text :=
  let c := Char.ofNat b.toNat
  let hex (d : ℕ) : Char := if d < 10 then PyText.digitChar d else Char.ofNat (87 + d)
  if c = '\\' ∨ c = q then ['\\', c]
  else if c = '\t' then ['\\', 't']
  else if c = '\n' then ['\\', 'n']
  else if c = '\r' then ['\\', 'r']
  else if 32 ≤ b.toNat ∧ b.toNat < 127 then [c]
  else ['\\', 'x', hex (b.toNat / 16), hex (b.toNat % 16)]

/-- `repr(b)` of a bytes value: single quotes unless only double quotes would need no escape. -/
def reprBytes (b : Bytes) : Text :=
  let q := if b.contains 39 ∧ ¬ b.contains 34 then '"' else '\''
  ['b', q] ++ b.flatMap (reprByte q) ++ [q]

/-- `str(value)`. -/
def SetValue.pyStr : SetValue → Text
  | .int n => PyText.intText n
  | .bytes b => reprBytes b
  | .str t => t

/-- `value.decode("latin-1") if isinstance(value, bytes) else str(value)`. -/
def SetValue.text : SetValue → Text
  | .bytes b => PyCodec.latin1Decode b
  | v => v.pyStr

/-! ## §2 Which column an OID names -/

/-- A writable column with its instance. -/
inductive Column
  | ifAdminStatus (port : ℤ)
  | ifAlias (port : ℤ)
  | pethPsePortAdmin (port : ℤ)
  | dot1qPvid (port : ℤ)
  | staticEgress (vid : ℤ)
  | staticUntagged (vid : ℤ)
  | switchportMode (port : ℤ)
  | switchportAccessVlan (port : ℤ)
  | switchportNativeVlan (port : ℤ)
  | switchportAllowedVlans (port : ℤ)
  | switchportTaggedVlans (port : ℤ)
  | switchportUntaggedVlans (port : ℤ)
  | staticRowStatus (vid : ℤ)
  | staticName (vid : ℤ)
  | mgmtAddress
  | mgmtNetmask
  | mgmtGateway
  | dhcpMode
  | syslogAdminMode
  | syslogHostStatus (index : ℤ)
  deriving DecidableEq, Repr

/-- The instance of a per-instance column. -/
def Column.instance? : Column → Option ℤ
  | .ifAdminStatus n | .ifAlias n | .pethPsePortAdmin n | .dot1qPvid n | .staticEgress n
  | .staticUntagged n | .switchportMode n | .switchportAccessVlan n | .switchportNativeVlan n
  | .switchportAllowedVlans n | .switchportTaggedVlans n | .switchportUntaggedVlans n
  | .staticRowStatus n | .staticName n | .syslogHostStatus n => some n
  | .mgmtAddress | .mgmtNetmask | .mgmtGateway | .dhcpMode | .syslogAdminMode => none

/-- The port of a writable switchport column. -/
def Column.switchportPort : Column → Option ℤ
  | .switchportMode port | .switchportAccessVlan port | .switchportNativeVlan port
  | .switchportAllowedVlans port => some port
  | _ => none

theorem Column.instance?_of_switchportPort {c : Column} {port : ℤ}
    (h : c.switchportPort = some port) : c.instance? = some port := by
  cases c <;> cases h <;> rfl

/-- `_tail(base)`: the single arc behind `base`, if the OID is `base` and one arc more. -/
def tail : Oid → Oid → Option ℤ
  | [], [n] => some n
  | b :: base, o :: oid => if b = o then tail base oid else none
  | _, _ => none

theorem tail_append (base : Oid) (n : ℕ) : tail base (base ++ [n]) = some (n : ℤ) := by
  induction base with
  | nil => rfl
  | cons b base ih => simpa [tail] using ih

theorem nonneg_of_tail : ∀ {base oid : Oid} {n : ℤ}, tail base oid = some n → 0 ≤ n
  | [], [m], n, h => by
    cases h
    exact Int.natCast_nonneg m
  | [], [], n, h => by cases h
  | [], _ :: _ :: _, n, h => by cases h
  | _ :: _, [], n, h => by cases h
  | b :: base, o :: oid, n, h => by
    rw [tail] at h
    split_ifs at h
    exact nonneg_of_tail h

/-- The per-instance columns, in the order `apply_write` tests them. -/
def tailColumns : List (Oid × (ℤ → Column)) :=
  [(Snmp.ifAdminStatus, .ifAdminStatus), (Snmp.ifAlias, .ifAlias),
    (Snmp.pethPsePortTable ++ [3, 1], .pethPsePortAdmin), (Snmp.dot1qPvid, .dot1qPvid),
    (Snmp.dot1qVlanStaticEgress, .staticEgress),
    (Snmp.dot1qVlanStaticUntagged, .staticUntagged),
    (Snmp.fastpathSwitchportMode, .switchportMode),
    (Snmp.fastpathSwitchportAccessVlan, .switchportAccessVlan),
    (Snmp.fastpathSwitchportNativeVlan, .switchportNativeVlan),
    (Snmp.fastpathSwitchportAllowedVlans, .switchportAllowedVlans),
    (Snmp.fastpathSwitchportTaggedVlans, .switchportTaggedVlans),
    (Snmp.fastpathSwitchportUntaggedVlans, .switchportUntaggedVlans),
    (Snmp.dot1qVlanStaticRowStatus, .staticRowStatus),
    (Snmp.dot1qVlanStaticName, .staticName)]

/-- The vendor columns of a model that has a vendor subtree. -/
def vendorColumn (v : VendorOids) (oid : Oid) : Option Column :=
  if oid = v.mgmtWriteAddrUnverified then some .mgmtAddress
  else if oid = v.mgmtWriteNetmaskUnverified then some .mgmtNetmask
  else if oid = v.mgmtWriteGatewayUnverified then some .mgmtGateway
  else if oid = v.dhcpModeUnverified ++ [0] then some .dhcpMode
  else if oid = v.syslogAdminMode then some .syslogAdminMode
  else (tail v.syslogHostStatus oid).map .syslogHostStatus

/-- The column an OID names on model `m`. -/
def column (m : SwitchModel) (oid : Oid) : Option Column :=
  match tailColumns.findSome? fun c => (tail c.1 oid).map c.2 with
  | some c => some c
  | none => (vendorOids m).bind fun v => vendorColumn v oid

/-- Instances are OID arcs, so none is negative. -/
theorem nonneg_of_column {m : SwitchModel} {oid : Oid} {c : Column} {n : ℤ}
    (h : column m oid = some c) (hn : c.instance? = some n) : 0 ≤ n := by
  unfold column at h
  split at h
  · next c' htail =>
    cases h
    obtain ⟨e, he, hc⟩ := List.exists_of_findSome?_eq_some htail
    obtain ⟨k, hk, rfl⟩ := Option.map_eq_some_iff.mp hc
    have hnonneg := nonneg_of_tail hk
    simp only [tailColumns, List.mem_cons, List.not_mem_nil, or_false] at he
    rcases he with rfl | rfl | rfl | rfl | rfl | rfl | rfl | rfl | rfl | rfl | rfl | rfl | rfl |
      rfl
    all_goals cases hn
    all_goals exact hnonneg
  · obtain ⟨v, _, hv⟩ := Option.bind_eq_some_iff.mp h
    unfold vendorColumn at hv
    split_ifs at hv
    iterate 5
      · cases hv
        cases hn
    · obtain ⟨k, hk, rfl⟩ := Option.map_eq_some_iff.mp hv
      cases hn
      exact nonneg_of_tail hk

namespace VirtualSwitchState

/-- `is_writable_oid`: the switchport columns count only on a switchport model. -/
def isWritableOid (s : VirtualSwitchState) (oid : Oid) : Bool :=
  match column s.model oid with
  | none => false
  | some (.switchportMode _) | some (.switchportAccessVlan _) | some (.switchportNativeVlan _)
  | some (.switchportAllowedVlans _) | some (.switchportTaggedVlans _)
  | some (.switchportUntaggedVlans _) => s.switchportModel
  | some _ => true

/-! ## §3 The effect of a write -/

/-- `apply_poe_admin`. -/
def applyPoeAdmin (s : VirtualSwitchState) (port : ℤ) (on : Bool) : VirtualSwitchState :=
  match s.poe.get? port with
  | none => s
  | some psim =>
    { s with
      poe := s.poe.set port
        { psim with
          admin := on
          detect := if on then 3 else 1
          cliStatusLagReads := if on && !psim.admin then 1 else psim.cliStatusLagReads }
      ports := if on then s.ports else s.ports.modify port fun sim => { sim with link := false } }

/-- `_reject_if_readonly_qbridge`: on a switchport model the egress PortList is read-only while
any port is in access mode.  Asking fills in every port's switchport row. -/
def rejectIfReadonlyQbridge (s : VirtualSwitchState) : Except ApplyError VirtualSwitchState :=
  if s.switchportModel then
    if s.accessModePorts = [] then .ok (s.ports.keys.foldl switchportDefaults s)
    else .error .commitFailed
  else .ok s

/-- A write of `dot1qVlanStaticEgressPorts` for VLAN `vid`. -/
def applyStaticEgress (s : VirtualSwitchState) (vid : ℤ) (value : SetValue) :
    Except ApplyError VirtualSwitchState :=
  match s.vlans.get? vid with
  | none => .ok s
  | some vsim => do
    let s ← s.rejectIfReadonlyQbridge
    let octets ← value.asBytes
    let incoming := Bitmap.numbers octets
    if s.switchportModel then
      ((s.reconcileQbridgeMembership vid incoming).map Except.ok).getD (.error .indexError)
    else if s.model.snmpVlanSplitMembershipWrites then
      -- the S3300 makes every added port untagged, whatever this PDU says later
      let added := incoming \ vsim.member
      .ok { s with
        vlans := s.vlans.set vid
          { vsim with member := incoming, untagged := vsim.untagged ∪ added }
        pduEgressWrites := insert vid s.pduEgressWrites }
    else .ok { s with vlans := s.vlans.set vid { vsim with member := incoming } }

/-- A write of `dot1qVlanStaticUntaggedPorts` for VLAN `vid`. -/
def applyStaticUntagged (s : VirtualSwitchState) (vid : ℤ) (value : SetValue) :
    Except ApplyError VirtualSwitchState :=
  match s.vlans.get? vid with
  | none => .ok s
  | some vsim =>
    -- acknowledged without effect on a switchport model, and where this PDU already wrote
    -- the egress list
    if s.switchportModel ∨ vid ∈ s.pduEgressWrites then .ok s
    else do
      let octets ← value.asBytes
      .ok { s with vlans := s.vlans.set vid { vsim with untagged := Bitmap.numbers octets } }

/-- `_refuse_vlan_creation_if_unsupported`. -/
def refuseVlanCreationIfUnsupported (s : VirtualSwitchState) : Except ApplyError Unit :=
  if s.model.snmpCanCreateVlan then .ok () else .error .inconsistentValue

/-- `int(value)` where a failure is the source's `ValueError`. -/
def readInt (value : SetValue) : Except ApplyError ℤ :=
  (value.toInt.map Except.ok).getD (.error .valueError)

/-- The effect of a write to one column. -/
def applyColumn (s : VirtualSwitchState) (c : Column) (value : SetValue) :
    Except ApplyError VirtualSwitchState :=
  match c with
  | .ifAdminStatus port =>
    if port ∈ s.ports then do
      let n ← readInt value
      .ok { s with ports := s.ports.modify port fun sim =>
        { sim with admin := n = 1, link := if n ≠ 1 then false else sim.link } }
    else .ok s
  | .ifAlias port =>
    if port ∈ s.ports then
      .ok { s with ports := s.ports.modify port fun sim =>
        { sim with description := if value.text = [] then none else some value.text } }
    else .ok s
  | .pethPsePortAdmin port => do
    let n ← readInt value
    .ok (s.applyPoeAdmin port (n = 1))
  | .dot1qPvid port => do
    let n ← readInt value
    .ok { s with pvids := s.pvids.set port n }
  | .staticEgress vid => s.applyStaticEgress vid value
  | .staticUntagged vid => s.applyStaticUntagged vid value
  | .switchportMode port =>
    if s.switchportModel then do
      let n ← readInt value
      .ok ((s.setMode port n).applySwitchport port)
    else .ok s
  | .switchportAccessVlan port =>
    if s.switchportModel then do
      let n ← readInt value
      .ok ((s.setAccessVlan port n).applySwitchport port)
    else .ok s
  | .switchportNativeVlan port =>
    if s.switchportModel then do
      let n ← readInt value
      if n ∈ s.vlans then .ok ((s.setNativeVlan port n).applySwitchport port)
      else .error .commitFailed
    else .ok s
  | .switchportAllowedVlans port =>
    if s.switchportModel then do
      let octets ← value.asBytes
      .ok ((s.setAllowedVlans port octets).applySwitchport port)
    else .ok s
  | .switchportTaggedVlans _ | .switchportUntaggedVlans _ =>
    if s.switchportModel then .error .notWritable else .ok s
  | .staticRowStatus vid => do
    let n ← readInt value
    if n = rowStatusDestroy then .ok { s with vlans := s.vlans.pop vid }
    else if vid ∈ s.vlans then .ok s
    else do
      s.refuseVlanCreationIfUnsupported
      if n = rowStatusCreateAndGo then .ok { s with vlans := s.vlans.set vid { name := [] } }
      else .ok s
  | .staticName vid =>
    match s.vlans.get? vid with
    | some vsim => .ok { s with vlans := s.vlans.set vid { vsim with name := value.text } }
    | none => do
      s.refuseVlanCreationIfUnsupported
      .ok { s with vlans := s.vlans.set vid { name := value.text } }
  | .mgmtAddress => .ok { s with mgmt := { s.mgmt with address := value.pyStr } }
  | .mgmtNetmask => .ok { s with mgmt := { s.mgmt with netmask := value.pyStr } }
  | .mgmtGateway => .ok { s with mgmt := { s.mgmt with gateway := value.pyStr } }
  | .dhcpMode => do
    let n ← readInt value
    .ok { s with mgmt := { s.mgmt with mode := if n = 2 then .static else .dhcp } }
  | .syslogAdminMode => do
    let n ← readInt value
    .ok { s with syslog := { s.syslog with adminMode := n } }
  | .syslogHostStatus index =>
    match s.syslog.collectors.find? (·.index = index) with
    | none => .error .inconsistentValue
    | some row => do
      let n ← readInt value
      if n = 6 then
        .ok { s with syslog := { s.syslog with collectors := s.syslog.collectors.erase row } }
      else
        .ok { s with syslog := { s.syslog with
          collectors := s.syslog.collectors.replace row { row with status := n } } }

/-- `apply_write`. -/
def applyWrite (s : VirtualSwitchState) (oid : Oid) (value : SetValue) :
    Except ApplyError VirtualSwitchState :=
  match column s.model oid with
  | none => .ok s
  | some c => s.applyColumn c value

/-! ## §4 What an accepted write does

`ColumnEffect` has one constructor for each kind of change; what every accepted write preserves
is read off it, with no second look at the columns. -/

/-- What an accepted write of `value` to a column turns `s` into. -/
inductive ColumnEffect (s : VirtualSwitchState) (value : SetValue) :
    Column → VirtualSwitchState → Prop
  /-- Ports keep their numbers; VLANs, PVIDs and the switchport table are not touched. -/
  | unrelated {c : Column} (ports : PyDict ℤ PortSim) (poe : PyDict ℤ PoeSim) (mgmt : MgmtSim)
      (syslog : SyslogSim) (hports : ports.keys = s.ports.keys)
      (hmgmt : mgmt.address = if c = .mgmtAddress then value.pyStr else s.mgmt.address) :
      ColumnEffect s value c { s with ports := ports, poe := poe, mgmt := mgmt, syslog := syslog }
  | pvid (port n : ℤ) :
      ColumnEffect s value (.dot1qPvid port) { s with pvids := s.pvids.set port n }
  /-- The row of one port is edited, its general-mode lists apart, and the port re-derived. -/
  | row {c : Column} (port : ℤ) (t : VirtualSwitchState) (hc : c.switchportPort = some port)
      (hmodel : s.switchportModel = true) (hedit : RowEdit port s t)
      (huntagged : (t.row port).generalUntagged = (s.row port).generalUntagged)
      (htagged : (t.row port).generalTagged = (s.row port).generalTagged)
      (hmode : (t.row port).mode =
        if c = .switchportMode port then value.toInt.getD 0 else (s.row port).mode) :
      ColumnEffect s value c (t.applySwitchport port)
  | reconcile {s' : VirtualSwitchState} (vid : ℤ) (octets : Bytes)
      (hvalue : value.asBytes = .ok octets) (hmodel : s.switchportModel = true)
      (hvid : vid ∈ s.vlans)
      (hstep : (s.ports.keys.foldl switchportDefaults s).reconcileQbridgeMembership vid
        (Bitmap.numbers octets) = some s') : ColumnEffect s value (.staticEgress vid) s'
  | membership {c : Column} (vid : ℤ) (vsim : VlanSim) (member untagged writes : Finset ℤ)
      (hc : c = .staticEgress vid ∨ c = .staticUntagged vid) (hmodel : s.switchportModel = false)
      (hvid : s.vlans.get? vid = some vsim) (hmember : ∀ p ∈ member, 1 ≤ p ∨ p ∈ vsim.member)
      (huntagged : ∀ p ∈ untagged, 1 ≤ p ∨ p ∈ vsim.untagged) :
      ColumnEffect s value c { s with
        vlans := s.vlans.set vid { vsim with member := member, untagged := untagged }
        pduEgressWrites := writes }
  | destroy (vid : ℤ) :
      ColumnEffect s value (.staticRowStatus vid) { s with vlans := s.vlans.pop vid }
  | create {c : Column} (vid : ℤ) (name : Text)
      (hc : c = .staticRowStatus vid ∨ c = .staticName vid) (hvid : vid ∉ s.vlans) :
      ColumnEffect s value c { s with vlans := s.vlans.set vid { name := name } }
  | rename (vid : ℤ) (vsim : VlanSim) (name : Text) (hvid : s.vlans.get? vid = some vsim) :
      ColumnEffect s value (.staticName vid)
        { s with vlans := s.vlans.set vid { vsim with name := name } }

theorem toInt_of_readInt {value : SetValue} {n : ℤ} (h : readInt value = .ok n) :
    value.toInt = some n := by
  unfold readInt at h
  cases hint : value.toInt with
  | none =>
    rw [hint] at h
    cases h
  | some m =>
    rw [hint] at h
    cases h
    rfl

theorem ColumnEffect.noop (s : VirtualSwitchState) (value : SetValue) {c : Column}
    (hc : c ≠ .mgmtAddress) : ColumnEffect s value c s :=
  .unrelated s.ports s.poe s.mgmt s.syslog rfl (if_neg hc).symm

theorem keys_ports_applyPoeAdmin (s : VirtualSwitchState) (port : ℤ) (on : Bool) :
    ∃ ports poe, ports.keys = s.ports.keys ∧
      s.applyPoeAdmin port on = { s with ports := ports, poe := poe } := by
  unfold applyPoeAdmin
  split
  · exact ⟨s.ports, s.poe, rfl, rfl⟩
  · refine ⟨_, _, ?_, rfl⟩
    split_ifs
    · rfl
    · exact PyDict.keys_mapValues _ _

theorem modelKey_foldl_switchportDefaults (ports : List ℤ) (s : VirtualSwitchState) :
    (ports.foldl switchportDefaults s).modelKey = s.modelKey := by
  induction ports generalizing s with
  | nil => rfl
  | cons p ports ih => exact ih (s.switchportDefaults p)

/-- Where the egress list may be written, asking changes nothing but the default rows. -/
theorem rejectIfReadonlyQbridge_eq_ok {s s₁ : VirtualSwitchState}
    (h : s.rejectIfReadonlyQbridge = .ok s₁) :
    s₁ = if s.switchportModel then s.ports.keys.foldl switchportDefaults s else s := by
  unfold rejectIfReadonlyQbridge at h
  split_ifs at h ⊢
  · cases h
    rfl
  · cases h
    rfl

theorem switchportModel_of_modelKey {s s' : VirtualSwitchState} (h : s'.modelKey = s.modelKey) :
    s'.switchportModel = s.switchportModel := by
  rw [switchportModel, model, h]
  rfl

/-- On a switchport model an accepted egress write is a reconcile. -/
theorem reconcile_of_applyStaticEgress {s s' : VirtualSwitchState} {vid : ℤ} {value : SetValue}
    (hmodel : s.switchportModel = true) (hvid : vid ∈ s.vlans)
    (h : s.applyStaticEgress vid value = .ok s') :
    ∃ octets, value.asBytes = .ok octets ∧
      (s.ports.keys.foldl switchportDefaults s).reconcileQbridgeMembership vid
        (Bitmap.numbers octets) = some s' := by
  obtain ⟨vsim, hvsim⟩ := PyDict.mem_iff.mp hvid
  unfold applyStaticEgress at h
  rw [hvsim] at h
  obtain ⟨s₁, hs₁, hrest⟩ := bind_eq_ok.mp h
  obtain ⟨octets, hvalue, hok⟩ := bind_eq_ok.mp hrest
  have heq := rejectIfReadonlyQbridge_eq_ok hs₁
  rw [if_pos hmodel] at heq
  have hmodel₁ : s₁.switchportModel = true := by
    rw [← hmodel, heq]
    exact switchportModel_of_modelKey (modelKey_foldl_switchportDefaults _ s)
  dsimp only at hok
  rw [if_pos hmodel₁] at hok
  refine ⟨octets, hvalue, ?_⟩
  rw [← heq]
  cases hrec : s₁.reconcileQbridgeMembership vid (Bitmap.numbers octets) with
  | none =>
    rw [hrec] at hok
    cases hok
  | some s₂ =>
    rw [hrec] at hok
    cases hok
    rfl

theorem effect_of_applyStaticEgress {s s' : VirtualSwitchState} {vid : ℤ} {value : SetValue}
    (h : s.applyStaticEgress vid value = .ok s') : ColumnEffect s value (.staticEgress vid) s' := by
  cases hvid : s.vlans.get? vid with
  | none =>
    unfold applyStaticEgress at h
    rw [hvid] at h
    cases h
    exact .noop s value (by simp)
  | some vsim =>
    cases hmodel : s.switchportModel with
    | true =>
      have hmem := PyDict.mem_iff.mpr ⟨vsim, hvid⟩
      obtain ⟨octets, hvalue, hrec⟩ := reconcile_of_applyStaticEgress hmodel hmem h
      exact .reconcile vid octets hvalue hmodel hmem hrec
    | false =>
      unfold applyStaticEgress at h
      rw [hvid] at h
      obtain ⟨s₁, hs₁, hrest⟩ := bind_eq_ok.mp h
      obtain ⟨octets, hvalue, hok⟩ := bind_eq_ok.mp hrest
      have hincoming : ∀ p ∈ Bitmap.numbers octets, 1 ≤ p ∨ p ∈ vsim.member := fun p hp =>
        Or.inl (Bitmap.le_of_mem_numbers hp).1
      have heq := rejectIfReadonlyQbridge_eq_ok hs₁
      rw [hmodel, if_neg Bool.false_ne_true] at heq
      rw [heq] at hok
      dsimp only at hok
      rw [hmodel, if_neg Bool.false_ne_true] at hok
      split_ifs at hok
      · cases hok
        refine .membership vid vsim _ _ _ (Or.inl rfl) hmodel hvid hincoming fun p hp => ?_
        rcases Finset.mem_union.mp hp with hp | hp
        · exact Or.inr hp
        · exact Or.inl (Bitmap.le_of_mem_numbers (Finset.mem_sdiff.mp hp).1).1
      · cases hok
        exact .membership vid vsim _ vsim.untagged _ (Or.inl rfl) hmodel hvid hincoming
          fun p hp => Or.inr hp

theorem effect_of_applyStaticUntagged {s s' : VirtualSwitchState} {vid : ℤ} {value : SetValue}
    (h : s.applyStaticUntagged vid value = .ok s') :
    ColumnEffect s value (.staticUntagged vid) s' := by
  unfold applyStaticUntagged at h
  split at h
  · cases h
    exact .noop s value (by simp)
  · next vsim hvid =>
    split_ifs at h with hskip
    · cases h
      exact .noop s value (by simp)
    · obtain ⟨octets, _, h⟩ := bind_eq_ok.mp h
      cases h
      have hmodel : s.switchportModel = false := by
        rw [← Bool.not_eq_true]
        exact fun hmodel => hskip (Or.inl hmodel)
      exact .membership vid vsim vsim.member _ s.pduEgressWrites (Or.inr rfl) hmodel hvid
        (fun p hp => Or.inr hp) fun p hp => Or.inl (Bitmap.le_of_mem_numbers hp).1

/-- The effect of an accepted write is one of the kinds listed. -/
theorem effect_of_applyColumn {s s' : VirtualSwitchState} {c : Column} {value : SetValue}
    (h : s.applyColumn c value = .ok s') : ColumnEffect s value c s' := by
  cases c with
  | ifAdminStatus port =>
    simp only [applyColumn] at h
    split_ifs at h
    · obtain ⟨n, _, h⟩ := bind_eq_ok.mp h
      cases h
      exact .unrelated _ s.poe s.mgmt s.syslog (PyDict.keys_mapValues _ _) (if_neg (by simp)).symm
    · cases h
      exact .noop s value (by simp)
  | ifAlias port =>
    simp only [applyColumn] at h
    split_ifs at h
    · cases h
      exact .unrelated _ s.poe s.mgmt s.syslog (PyDict.keys_mapValues _ _) (if_neg (by simp)).symm
    · cases h
      exact .unrelated _ s.poe s.mgmt s.syslog (PyDict.keys_mapValues _ _) (if_neg (by simp)).symm
    · cases h
      exact .noop s value (by simp)
  | pethPsePortAdmin port =>
    obtain ⟨n, _, h⟩ := bind_eq_ok.mp h
    obtain ⟨ports, poe, hports, heq⟩ := keys_ports_applyPoeAdmin s port (decide (n = 1))
    rw [heq] at h
    cases h
    exact .unrelated ports poe s.mgmt s.syslog hports (if_neg (by simp)).symm
  | dot1qPvid port =>
    obtain ⟨n, _, h⟩ := bind_eq_ok.mp h
    cases h
    exact .pvid port n
  | staticEgress vid => exact effect_of_applyStaticEgress h
  | staticUntagged vid => exact effect_of_applyStaticUntagged h
  | switchportMode port =>
    simp only [applyColumn] at h
    split_ifs at h with hmodel
    · obtain ⟨n, hn, h⟩ := bind_eq_ok.mp h
      cases h
      refine .row port _ rfl hmodel (.setMode s port n) (by simp) (by simp) ?_
      rw [if_pos rfl, row_setMode_self, toInt_of_readInt hn]
      rfl
    · cases h
      exact .noop s value (by simp)
  | switchportAccessVlan port =>
    simp only [applyColumn] at h
    split_ifs at h with hmodel
    · obtain ⟨n, _, h⟩ := bind_eq_ok.mp h
      cases h
      exact .row port _ rfl hmodel (.setAccessVlan s port n) (by simp) (by simp) (by simp)
    · cases h
      exact .noop s value (by simp)
  | switchportNativeVlan port =>
    simp only [applyColumn] at h
    split_ifs at h with hmodel
    · obtain ⟨n, _, h⟩ := bind_eq_ok.mp h
      split_ifs at h
      cases h
      exact .row port _ rfl hmodel (.setNativeVlan s port n) (by simp) (by simp) (by simp)
    · cases h
      exact .noop s value (by simp)
  | switchportAllowedVlans port =>
    simp only [applyColumn] at h
    split_ifs at h with hmodel
    · obtain ⟨octets, _, h⟩ := bind_eq_ok.mp h
      cases h
      exact .row port _ rfl hmodel (.setAllowedVlans s port octets) (by simp) (by simp) (by simp)
    · cases h
      exact .noop s value (by simp)
  | switchportTaggedVlans port =>
    simp only [applyColumn] at h
    split_ifs at h
    cases h
    exact .noop s value (by simp)
  | switchportUntaggedVlans port =>
    simp only [applyColumn] at h
    split_ifs at h
    cases h
    exact .noop s value (by simp)
  | staticRowStatus vid =>
    obtain ⟨n, _, h⟩ := bind_eq_ok.mp h
    by_cases hdestroy : n = rowStatusDestroy
    · rw [if_pos hdestroy] at h
      cases h
      exact .destroy vid
    · rw [if_neg hdestroy] at h
      by_cases hvid : vid ∈ s.vlans
      · rw [if_pos hvid] at h
        cases h
        exact .noop s value (by simp)
      · rw [if_neg hvid] at h
        obtain ⟨_, _, hok⟩ := bind_eq_ok.mp h
        split_ifs at hok
        · cases hok
          exact .create vid [] (Or.inl rfl) hvid
        · cases hok
          exact .noop s value (by simp)
  | staticName vid =>
    simp only [applyColumn] at h
    split at h
    · next vsim hvid =>
      cases h
      exact .rename vid vsim _ hvid
    · next hvid =>
      obtain ⟨_, _, h⟩ := bind_eq_ok.mp h
      cases h
      exact .create vid _ (Or.inr rfl) (PyDict.not_mem_iff.mpr hvid)
  | mgmtAddress =>
    cases h
    exact .unrelated s.ports s.poe _ s.syslog rfl rfl
  | mgmtNetmask =>
    cases h
    exact .unrelated s.ports s.poe _ s.syslog rfl (if_neg (by simp)).symm
  | mgmtGateway =>
    cases h
    exact .unrelated s.ports s.poe _ s.syslog rfl (if_neg (by simp)).symm
  | dhcpMode =>
    obtain ⟨n, _, h⟩ := bind_eq_ok.mp h
    cases h
    exact .unrelated s.ports s.poe _ s.syslog rfl (if_neg (by simp)).symm
  | syslogAdminMode =>
    obtain ⟨n, _, h⟩ := bind_eq_ok.mp h
    cases h
    exact .unrelated s.ports s.poe s.mgmt _ rfl (if_neg (by simp)).symm
  | syslogHostStatus index =>
    simp only [applyColumn] at h
    split at h
    · cases h
    · obtain ⟨n, _, h⟩ := bind_eq_ok.mp h
      split_ifs at h
      · cases h
        exact .unrelated s.ports s.poe s.mgmt _ rfl (if_neg (by simp)).symm
      · cases h
        exact .unrelated s.ports s.poe s.mgmt _ rfl (if_neg (by simp)).symm

end VirtualSwitchState

end NetgearSwitch.Virtual
