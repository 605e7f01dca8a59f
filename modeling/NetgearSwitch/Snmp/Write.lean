import NetgearSwitch.Lib.Script
import NetgearSwitch.Snmp.Parse
import NetgearSwitch.Snmp.SwitchportPlan
import NetgearSwitch.Virtual.OidMap

/-!
# The SNMP reader and writer

The PortList editing of `protocols/snmp/write.py`, `SnmpReader.get_vlans` and
`SnmpWriter.set_vlan_membership` with both of its dialects.  An operation is a script over the
requests of an SNMP client; a request is answered with rows or with what the client raised.

§1 PortLists · §2 the client · §3 reading · §4 writing · §5 what editing a PortList gives
-/

namespace NetgearSwitch.Snmp

open Virtual Script

/-! ## §1 PortLists -/

/-- The width `set_port_bit` gives a list of `current` octets. -/
def targetWidth (currentWidth widthBytes : ℕ) : ℕ := max (max 8 currentWidth) widthBytes

/-- `set_port_bit`, of octets. -/
def setPortBit (current : Bytes) (port : ℤ) (present : Bool) (widthBytes : ℕ) : Option Bytes :=
  let ports := Bitmap.numbers current
  encodePortBitmap (if present then insert port ports else ports.erase port)
    (targetWidth current.length widthBytes)

/-- Does `mode` set the port's egress bit? -/
def inEgress (mode : VlanMode) : Bool := mode = .untagged || mode = .tagged

/-- Does `mode` set the port's untagged bit? -/
def inUntagged (mode : VlanMode) : Bool := mode = .untagged

/-- `membership_bitmaps`. -/
def membershipBitmaps (mode : VlanMode) (port : ℤ) (egress untagged : Bytes) (widthBytes : ℕ) :
    Option (Bytes × Bytes) := do
  let newEgress ← setPortBit egress port (inEgress mode) widthBytes
  let newUntagged ← setPortBit untagged port (inUntagged mode) widthBytes
  some (newEgress, newUntagged)

/-- The octets a PortList is edited from: the device's own, else the decoded ports again. -/
def startOctets (raw : Option Bytes) (decoded : Finset ℤ) : Option Bytes :=
  raw.elim (encodePortBitmap decoded 8) some

/-! ## §2 The client -/

/-- A request of an SNMP client.  An instance number stands beside its column. -/
inductive SnmpRequest
  | walk (base : Oid)
  | get (base : Oid) (index : ℤ)
  | set (varbinds : List SetVarbind)
  deriving DecidableEq

abbrev SnmpReply := Except LibError (List SnmpRow)

abbrev SnmpScript := Script SnmpRequest SnmpReply LibError

/-- Ask, and raise what the client raised. -/
def request (q : SnmpRequest) : SnmpScript (List SnmpRow) := do
  let answer ← call q
  done answer

/-- `client.set_many`; `client.set` sends a list of one. -/
def setMany (varbinds : List SetVarbind) : SnmpScript Unit := do
  let _ ← request (.set varbinds)
  pure ()

/-! ## §3 Reading -/

namespace SnmpReader

/-- `get_vlans`. -/
def getVlans : SnmpScript (List VLANInfo) := do
  let names ← request (.walk dot1qVlanStaticName)
  let egress ← request (.walk dot1qVlanStaticEgress)
  let untagged ← request (.walk dot1qVlanStaticUntagged)
  let ifTypes ← request (.walk ifType)
  let currentEgress ← request (.walk dot1qVlanCurrentEgress)
  let currentUntagged ← request (.walk dot1qVlanCurrentUntagged)
  done (parseVlans names egress untagged ifTypes currentEgress currentUntagged)

end SnmpReader

structure SnmpWriter where
  modelKey : ModelKey
  protectedPorts : Finset ℤ := ∅
  /-- `_require_snmp`. -/
  hasSnmp : .snmp ∈ (getModel modelKey).backends

theorem hasSnmp_gsm7252ps : Backend.snmp ∈ (getModel .gsm7252ps).backends := by decide

namespace SnmpWriter

variable (w : SnmpWriter)

def model : SwitchModel := getModel w.modelKey

/-- `_vlan`. -/
def vlan (v : ℤ) : SnmpScript (Option VLANInfo) := do
  let all ← SnmpReader.getVlans
  pure (all.find? (·.vlanId = v))

/-- `row.oid.endswith(f".{vlan}")` of a row that holds octets. -/
def octetsOf (v : ℤ) (row : SnmpRow) : Option Bytes :=
  match row.value with
  | .bytes b => if ('.' :: PyText.intText v).isSuffixOf row.oid then some b else none
  | _ => none

/-- `_raw_bitmap`. -/
def rawBitmap (base : Oid) (v : ℤ) : SnmpScript (Option Bytes) := do
  let rows ← request (.walk base)
  pure (rows.findSome? (octetsOf v))

/-- `_physical`. -/
def physical : SnmpScript (Option (Finset ℤ)) := do
  let rows ← request (.walk ifType)
  done (physicalPorts rows)

/-- `row.value` where it is octets. -/
def rowBytes (row : SnmpRow) : Option Bytes :=
  match row.value with
  | .bytes b => some b
  | _ => none

/-- `row.value` where it is a number. -/
def rowInt (row : SnmpRow) : Option ℤ :=
  match row.value with
  | .int n => some n
  | _ => none

/-- `_switchport_vlan_bitmap`. -/
def switchportVlanBitmap (base : Oid) (port : ℤ) : SnmpScript Bytes := do
  let rows ← request (.get base port)
  pure ((rows.findSome? rowBytes).getD (List.replicate switchportVlanBitmapBytes 0))

/-- `_switchport_mode`. -/
def switchportMode (port : ℤ) : SnmpScript (Option ℤ) := do
  let rows ← request (.get fastpathSwitchportMode port)
  pure (rows.findSome? rowInt)

/-! ## §4 Writing -/

/-- `_guard`. -/
def guard (port : ℤ) (force : Bool) : SnmpScript Unit :=
  ensure (¬ (port ∈ w.protectedPorts ∧ ¬ force)) .protectedPort

/-- `_port_membership`: the VLANs a port is tagged in and those it is untagged in. -/
def portMembership (vlans : List VLANInfo) (port : ℤ) : Finset ℤ × Finset ℤ :=
  (((vlans.filter (port ∈ ·.taggedPorts)).map (·.vlanId)).toFinset,
    ((vlans.filter (port ∈ ·.untaggedPorts)).map (·.vlanId)).toFinset)

/-- `_switchport_divergence is None`. -/
def switchportLanded (plan : SwitchportPlan) (v port : ℤ) (after : List VLANInfo) : Bool :=
  after.any (·.vlanId = v) && (portMembership after port).2 = {plan.untaggedVlan} &&
    (portMembership after port).1 = plan.taggedVlans

/-- The SETs of a plan, one PDU each. -/
def sendEach : List SetVarbind → SnmpScript Unit
  | [] => pure ()
  | vb :: rest => do
    setMany [vb]
    sendEach rest

/-- `_set_vlan_switchport`. -/
def setVlanSwitchport (v port : ℤ) (mode : VlanMode) (vlans : List VLANInfo) : SnmpScript Unit := do
  let (currentTagged, currentUntagged) := portMembership vlans port
  let currentMode ← switchportMode port
  let currentAllowed ← switchportVlanBitmap fastpathSwitchportAllowedVlans port
  let plan ← done (planSwitchportMembership v port mode currentMode currentAllowed currentTagged
    currentUntagged (vlans.map (·.vlanId)).toFinset)
  sendEach plan.varbinds
  let after ← SnmpReader.getVlans
  if switchportLanded plan v port after then pure ()
  else do
    let _ ← vlan v
    raise .writeVerification

/-- The octets a membership write sends, from the raw lists and the VLAN as read. -/
def newPortLists (before : VLANInfo) (port : ℤ) (mode : VlanMode)
    (rawEgress rawUntagged : Option Bytes) : Option (Bytes × Bytes) := do
  let egress ← startOctets rawEgress before.memberPorts
  let untagged ← startOctets rawUntagged before.untaggedPorts
  membershipBitmaps mode port egress untagged (vlanBitmapWidth w.model)

def egressVarbind (v : ℤ) (octets : Bytes) : SetVarbind :=
  ⟨instanceOid dot1qVlanStaticEgress v, .bytes octets⟩

def untaggedVarbind (v : ℤ) (octets : Bytes) : SetVarbind :=
  ⟨instanceOid dot1qVlanStaticUntagged v, .bytes octets⟩

/-- The SETs of the two lists: in separate PDUs, egress first, or both in one. -/
def sendPortLists (v : ℤ) (lists : Bytes × Bytes) : SnmpScript Unit :=
  if w.model.snmpVlanSplitMembershipWrites then do
    setMany [egressVarbind v lists.1]
    setMany [untaggedVarbind v lists.2]
  else setMany [egressVarbind v lists.1, untaggedVarbind v lists.2]

/-- What a list of octets should read back as: its physical ports. -/
def wantedPorts (keep : Option (Finset ℤ)) (octets : Bytes) : Finset ℤ :=
  keep.elim (Bitmap.numbers octets) (Bitmap.numbers octets ∩ ·)

/-- The read-back of a membership write. -/
def verifyPortLists (v : ℤ) (lists : Bytes × Bytes) : SnmpScript Unit := do
  let after ← vlan v
  let keep ← physical
  let after ← done (orRaise .writeVerification after)
  ensure (after.memberPorts = wantedPorts keep lists.1) .writeVerification
  ensure (after.untaggedPorts = wantedPorts keep lists.2) .writeVerification

/-- The Q-BRIDGE dialect of `set_vlan_membership`. -/
def setVlanQbridge (v port : ℤ) (mode : VlanMode) (before : VLANInfo) : SnmpScript Unit := do
  let rawEgress ← rawBitmap dot1qVlanStaticEgress v
  let rawUntagged ← rawBitmap dot1qVlanStaticUntagged v
  let lists ← done (orRaise .indexError (w.newPortLists before port mode rawEgress rawUntagged))
  w.sendPortLists v lists
  verifyPortLists v lists

/-- `set_vlan_membership`. -/
def setVlanMembership (v port : ℤ) (mode : VlanMode) (force : Bool) : SnmpScript Unit := do
  w.guard port force
  let vlans ← SnmpReader.getVlans
  let before ← done (orRaise .snmp (vlans.find? (·.vlanId = v)))
  if w.model.snmpVlanWrite = .fastpathSwitchport then setVlanSwitchport v port mode vlans
  else w.setVlanQbridge v port mode before

end SnmpWriter

/-! ## §5 What editing a PortList gives -/

section Editing

variable {current : Bytes} {port : ℤ}

theorem le_targetWidth (currentWidth : ℕ) (widthBytes : ℕ) :
    currentWidth ≤ targetWidth currentWidth widthBytes ∧
      widthBytes ≤ targetWidth currentWidth widthBytes := by
  unfold targetWidth
  omega

/-- The numbers of a list fit the width it is given. -/
theorem fits_targetWidth (widthBytes : ℕ) {n : ℤ} (hn : n ∈ Bitmap.numbers current) :
    1 ≤ n ∧ n ≤ 8 * (targetWidth current.length widthBytes : ℤ) := by
  obtain ⟨h1, h2⟩ := Bitmap.le_of_mem_numbers hn
  have := (le_targetWidth current.length widthBytes).1
  omega

/-- A port within the width: exactly its bit changes. -/
theorem setPortBit_of_fits {widthBytes : ℕ} (present : Bool) (h1 : 1 ≤ port)
    (h2 : port ≤ 8 * (targetWidth current.length widthBytes : ℤ)) :
    ∃ new, setPortBit current port present widthBytes = some new ∧
      new.length = targetWidth current.length widthBytes ∧
      Bitmap.numbers new = if present then insert port (Bitmap.numbers current)
        else (Bitmap.numbers current).erase port := by
  have hfits : ∀ n ∈ PySet.sorted (if present then insert port (Bitmap.numbers current)
      else (Bitmap.numbers current).erase port),
      1 ≤ n ∧ n ≤ 8 * (targetWidth current.length widthBytes : ℤ) := by
    intro n hn
    rw [PySet.mem_sorted] at hn
    cases present with
    | true =>
      rcases Finset.mem_insert.mp hn with rfl | hn
      · exact ⟨h1, h2⟩
      · exact fits_targetWidth widthBytes hn
    | false => exact fits_targetWidth widthBytes (Finset.mem_of_mem_erase hn)
  obtain ⟨new, hnew, hlen, hnum⟩ := Bitmap.encodeNumbers_fits hfits
  rw [PySet.toFinset_sorted] at hnum
  exact ⟨new, hnew, hlen, hnum⟩

/-- The bit `port` sets in a list of `width` bytes: below 1 Python counts from the end. -/
def landing (port : ℤ) (width : ℕ) : ℤ := if 1 ≤ port then port else port + 8 * width

/-- Setting the bit of a port fails where it would land before the list. -/
theorem setPortBit_present (current : Bytes) (port : ℤ) (widthBytes : ℕ) :
    (landing port (targetWidth current.length widthBytes) ≤ 0 ∧
        setPortBit current port true widthBytes = none) ∨
      ∃ new, setPortBit current port true widthBytes = some new ∧
        1 ≤ landing port (targetWidth current.length widthBytes) ∧
        Bitmap.numbers new = insert (landing port (targetWidth current.length widthBytes))
          (Bitmap.numbers current) := by
  by_cases hport : 1 ≤ port
  · right
    have hpos : ∀ n ∈ PySet.sorted (insert port (Bitmap.numbers current)), 1 ≤ n := by
      intro n hn
      rcases Finset.mem_insert.mp (PySet.mem_sorted.mp hn) with rfl | hn
      · exact hport
      · exact (Bitmap.le_of_mem_numbers hn).1
    obtain ⟨new, hnew, -, hnum⟩ := Bitmap.encodeNumbers_spec
      (targetWidth current.length widthBytes) hpos
    rw [PySet.toFinset_sorted] at hnum
    rw [landing, if_pos hport]
    exact ⟨new, hnew, hport, hnum⟩
  · rw [landing, if_neg hport]
    by_cases hlow : -(8 * (targetWidth current.length widthBytes : ℤ)) < port
    · right
      have hnot : port ∉ Bitmap.numbers current := fun hmem =>
        hport (Bitmap.le_of_mem_numbers hmem).1
      -- the port is the least of the numbers, so it is set first
      have hsorted : PySet.sorted (insert port (Bitmap.numbers current)) =
          port :: PySet.sorted (Bitmap.numbers current) := by
        apply PySet.sorted_insert _ hnot
        intro n hn
        have := (Bitmap.le_of_mem_numbers hn).1
        omega
      have hfits : ∀ n ∈ PySet.sorted (Bitmap.numbers current),
          1 ≤ n ∧ n ≤ 8 * (targetWidth current.length widthBytes : ℤ) := by
        intro n hn
        exact fits_targetWidth widthBytes (PySet.mem_sorted.mp hn)
      obtain ⟨new, hnew, -, hnum⟩ := Bitmap.encodeNumbers_wrap hlow (by omega) hfits
      rw [PySet.toFinset_sorted] at hnum
      refine ⟨new, ?_, by omega, hnum⟩
      rw [← hnew, ← hsorted]
      rfl
    · left
      refine ⟨by omega, ?_⟩
      rw [← Option.not_isSome_iff_eq_none]
      intro hsome
      have hall := (Bitmap.isSome_encodeNumbers_iff (PySet.pairwise_sorted _)).mp hsome
      exact hlow (hall port (PySet.mem_sorted.mpr (Finset.mem_insert_self _ _)))

/-- Clearing the bit of a port never fails; below 1 there is nothing to clear. -/
theorem setPortBit_absent (current : Bytes) (port : ℤ) (widthBytes : ℕ) :
    ∃ new, setPortBit current port false widthBytes = some new ∧
      Bitmap.numbers new = (Bitmap.numbers current).erase port := by
  have hfits : ∀ n ∈ PySet.sorted ((Bitmap.numbers current).erase port),
      1 ≤ n ∧ n ≤ 8 * (targetWidth current.length widthBytes : ℤ) := by
    intro n hn
    exact fits_targetWidth widthBytes (Finset.mem_of_mem_erase (PySet.mem_sorted.mp hn))
  obtain ⟨new, hnew, -, hnum⟩ := Bitmap.encodeNumbers_fits hfits
  rw [PySet.toFinset_sorted] at hnum
  exact ⟨new, hnew, hnum⟩

end Editing

end NetgearSwitch.Snmp
