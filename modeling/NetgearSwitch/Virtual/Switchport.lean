import NetgearSwitch.Virtual.State
import NetgearSwitch.Snmp.Oids

/-!
# Switchport-derived VLAN membership

On a FASTPATH switchport model a port's VLAN membership follows from its switchport row: mode,
access VLAN, native VLAN, allowed-VLAN bitmap and the two general-mode lists
(`_switchport_defaults`, `_apply_switchport` and `_reconcile_qbridge_membership` of
`virtual/state.py`).

`SwitchportRow.untagged` and `SwitchportRow.tagged` are the two VLAN sets a row gives, and
`SwitchportDerived s p` says that the stored membership of `p` is the one its row gives.
-/

namespace NetgearSwitch.Virtual

open Snmp

/-! ## §1 VLAN bitmaps -/

/-- `_all_vlans_bitmap`: VLANs 1..4093 set. -/
def allVlansBitmap : Bytes :=
  (Bitmap.addNumbers (List.replicate switchportVlanBitmapBytes 0)
    ((List.range 4093).map fun i => (i : ℤ) + 1)).getD []

/-- `_vlan_bitmap_bytes`: `none` is the `IndexError` of an id past the 512 bytes. -/
def vlanBitmapBytes (vlans : Finset ℤ) : Option Bytes :=
  Bitmap.addNumbers (List.replicate switchportVlanBitmapBytes 0) (PySet.sorted vlans)

/-- `_vlans_in_bitmap`. -/
def vlansInBitmap (bitmap : Bytes) : Finset ℤ := Bitmap.numbers bitmap

/-- A set of VLAN ids in 1..4096 encodes, to a bitmap that names exactly its members. -/
theorem vlanBitmapBytes_spec {vlans : Finset ℤ} (h : ∀ v ∈ vlans, 1 ≤ v ∧ v ≤ 4096) :
    ∃ bitmap, vlanBitmapBytes vlans = some bitmap ∧ vlansInBitmap bitmap = vlans := by
  obtain ⟨bitmap, hadd, _, hnum⟩ := Bitmap.addNumbers_spec (PySet.sorted vlans)
    (List.replicate switchportVlanBitmapBytes 0) fun v hv => by
      have := h v (PySet.mem_sorted.mp hv)
      simp only [List.length_replicate, switchportVlanBitmapBytes]
      omega
  refine ⟨bitmap, hadd, ?_⟩
  simpa [vlansInBitmap] using hnum

/-! ## §2 A port's switchport row -/

/-- One row of the vendor switchport table. -/
structure SwitchportRow where
  mode : ℤ
  accessVlan : ℤ
  nativeVlan : ℤ
  allowedVlans : Bytes
  generalUntagged : Finset ℤ
  generalTagged : Finset ℤ

/-- The VLANs the row makes its port an untagged member of. -/
def SwitchportRow.untagged (r : SwitchportRow) : Finset ℤ :=
  if r.mode = switchportModeAccess then {r.accessVlan}
  else if r.mode = switchportModeTrunk then {r.nativeVlan}
  else r.generalUntagged

/-- The VLANs the row makes its port a tagged member of, where `ids` exist. -/
def SwitchportRow.tagged (r : SwitchportRow) (ids : Finset ℤ) : Finset ℤ :=
  if r.mode = switchportModeAccess then ∅
  else if r.mode = switchportModeTrunk then
    (vlansInBitmap r.allowedVlans ∩ ids) \ {r.nativeVlan}
  else r.generalTagged \ r.generalUntagged

namespace VirtualSwitchState

/-- The row of port `p`, with the factory default where a column was never touched. -/
def row (s : VirtualSwitchState) (p : ℤ) : SwitchportRow where
  mode := (s.switchportMode.get? p).getD switchportModeAccess
  accessVlan := (s.switchportAccessVlan.get? p).getD 1
  nativeVlan := (s.switchportNativeVlan.get? p).getD 1
  allowedVlans := (s.switchportAllowedVlans.get? p).getD allVlansBitmap
  generalUntagged := (s.switchportGeneralUntagged.get? p).getD {1}
  generalTagged := (s.switchportGeneralTagged.get? p).getD ∅

/-- `_switchport_defaults`: seed a port's switchport row on first touch. -/
def switchportDefaults (s : VirtualSwitchState) (p : ℤ) : VirtualSwitchState :=
  { s with
    switchportMode := s.switchportMode.setDefault p switchportModeAccess
    switchportAccessVlan := s.switchportAccessVlan.setDefault p 1
    switchportNativeVlan := s.switchportNativeVlan.setDefault p 1
    switchportAllowedVlans := s.switchportAllowedVlans.setDefault p allVlansBitmap
    switchportGeneralUntagged := s.switchportGeneralUntagged.setDefault p {1}
    switchportGeneralTagged := s.switchportGeneralTagged.setDefault p ∅ }

def setMode (s : VirtualSwitchState) (p mode : ℤ) : VirtualSwitchState :=
  { s with switchportMode := s.switchportMode.set p mode }

def setAccessVlan (s : VirtualSwitchState) (p vlan : ℤ) : VirtualSwitchState :=
  { s with switchportAccessVlan := s.switchportAccessVlan.set p vlan }

def setNativeVlan (s : VirtualSwitchState) (p vlan : ℤ) : VirtualSwitchState :=
  { s with switchportNativeVlan := s.switchportNativeVlan.set p vlan }

def setAllowedVlans (s : VirtualSwitchState) (p : ℤ) (bitmap : Bytes) : VirtualSwitchState :=
  { s with switchportAllowedVlans := s.switchportAllowedVlans.set p bitmap }

def setGeneral (s : VirtualSwitchState) (p : ℤ) (untagged tagged : Finset ℤ) :
    VirtualSwitchState :=
  { s with
    switchportGeneralUntagged := s.switchportGeneralUntagged.set p untagged
    switchportGeneralTagged := s.switchportGeneralTagged.set p tagged }

end VirtualSwitchState

/-- Put `p` into a VLAN untagged, tagged, or out of it. -/
def VlanSim.place (vsim : VlanSim) (p : ℤ) (untagged tagged : Prop) [Decidable untagged]
    [Decidable tagged] : VlanSim :=
  if untagged then
    { vsim with member := insert p vsim.member, untagged := insert p vsim.untagged }
  else if tagged then
    { vsim with member := insert p vsim.member, untagged := vsim.untagged.erase p }
  else
    { vsim with member := vsim.member.erase p, untagged := vsim.untagged.erase p }

namespace VirtualSwitchState

/-- `_apply_switchport`: recompute the VLAN membership of `p` from its switchport row. -/
def applySwitchport (s₀ : VirtualSwitchState) (p : ℤ) : VirtualSwitchState :=
  let s := s₀.switchportDefaults p
  let r := s.row p
  { s with
    pvids :=
      if r.mode = switchportModeAccess then s.pvids.set p r.accessVlan
      else if r.mode = switchportModeTrunk then s.pvids.set p r.nativeVlan
      else s.pvids  -- general mode leaves the PVID as it is
    vlans := s.vlans.mapValues fun vid vsim =>
      vsim.place p (vid ∈ r.untagged) (vid ∈ r.tagged s.vlanIds) }

/-- One pass of the reconcile loop: fold a Q-BRIDGE egress write for VLAN `vid` back into the
row of port `p`.  `none` is the `IndexError` of re-encoding the allowed list. -/
def reconcilePort (vid : ℤ) (incoming : Finset ℤ) (s₀ : VirtualSwitchState) (p : ℤ) :
    Option VirtualSwitchState :=
  let s := s₀.switchportDefaults p
  let r := s.row p
  if r.mode = switchportModeTrunk then
    let allowed := vlansInBitmap r.allowedVlans
    (vlanBitmapBytes (if p ∈ incoming then allowed ∪ {vid} else allowed \ {vid})).map fun bits =>
      (s.setAllowedVlans p bits).applySwitchport p
  else if r.mode = switchportModeGeneral then
    if p ∈ incoming then
      some ((s.setGeneral p (insert vid r.generalUntagged) r.generalTagged).applySwitchport p)
    else
      some ((s.setGeneral p (r.generalUntagged.erase vid)
        (r.generalTagged.erase vid)).applySwitchport p)
  else some (s.applySwitchport p)

/-- `_reconcile_qbridge_membership`: every port in turn. -/
def reconcileQbridgeMembership (s : VirtualSwitchState) (vid : ℤ) (incoming : Finset ℤ) :
    Option VirtualSwitchState :=
  s.ports.keys.foldlM (reconcilePort vid incoming) s

/-- The ports in switchport access mode once every port's row is filled in
(`_access_mode_ports`). -/
def accessModePorts (s : VirtualSwitchState) : List ℤ :=
  let s := s.ports.keys.foldl switchportDefaults s
  (s.switchportMode.items.filter fun e => e.2 = switchportModeAccess).map Prod.fst

/-- The stored membership of `p` is the one its switchport row gives. -/
def SwitchportDerived (s : VirtualSwitchState) (p : ℤ) : Prop :=
  ∀ v sim, s.vlans.get? v = some sim →
    (p ∈ sim.member ↔ v ∈ (s.row p).untagged ∨ v ∈ (s.row p).tagged s.vlanIds) ∧
      (p ∈ sim.untagged ↔ v ∈ (s.row p).untagged)

/-! ## §3 Rows

Filling in defaults changes no reading of a row; a setter changes one column of one row. -/

section Rows

variable (s : VirtualSwitchState) (p q : ℤ)

private theorem getD_setDefault {α : Type} (d : PyDict ℤ α) (k k' : ℤ) (a : α) :
    ((d.setDefault k a).get? k').getD a = (d.get? k').getD a := by
  rw [PyDict.get?_setDefault]
  split
  · next h => rw [h, Option.getD_some]
  · rfl

@[simp] theorem row_switchportDefaults : (s.switchportDefaults q).row p = s.row p := by
  simp only [row, switchportDefaults, getD_setDefault]

@[simp] theorem row_setMode_self (n : ℤ) :
    (s.setMode p n).row p = { s.row p with mode := n } := by
  simp [row, setMode]

@[simp] theorem row_setAccessVlan_self (n : ℤ) :
    (s.setAccessVlan p n).row p = { s.row p with accessVlan := n } := by
  simp [row, setAccessVlan]

@[simp] theorem row_setNativeVlan_self (n : ℤ) :
    (s.setNativeVlan p n).row p = { s.row p with nativeVlan := n } := by
  simp [row, setNativeVlan]

@[simp] theorem row_setAllowedVlans_self (b : Bytes) :
    (s.setAllowedVlans p b).row p = { s.row p with allowedVlans := b } := by
  simp [row, setAllowedVlans]

@[simp] theorem row_setGeneral_self (u t : Finset ℤ) :
    (s.setGeneral p u t).row p = { s.row p with generalUntagged := u, generalTagged := t } := by
  simp [row, setGeneral]

variable {p q} in
theorem row_setMode_of_ne (n : ℤ) (h : q ≠ p) : (s.setMode p n).row q = s.row q := by
  simp [row, setMode, PyDict.get?_set_ne _ _ h]

variable {p q} in
theorem row_setAccessVlan_of_ne (n : ℤ) (h : q ≠ p) :
    (s.setAccessVlan p n).row q = s.row q := by
  simp [row, setAccessVlan, PyDict.get?_set_ne _ _ h]

variable {p q} in
theorem row_setNativeVlan_of_ne (n : ℤ) (h : q ≠ p) :
    (s.setNativeVlan p n).row q = s.row q := by
  simp [row, setNativeVlan, PyDict.get?_set_ne _ _ h]

variable {p q} in
theorem row_setAllowedVlans_of_ne (b : Bytes) (h : q ≠ p) :
    (s.setAllowedVlans p b).row q = s.row q := by
  simp [row, setAllowedVlans, PyDict.get?_set_ne _ _ h]

variable {p q} in
theorem row_setGeneral_of_ne (u t : Finset ℤ) (h : q ≠ p) :
    (s.setGeneral p u t).row q = s.row q := by
  simp [row, setGeneral, PyDict.get?_set_ne _ _ h]

@[simp] theorem vlans_switchportDefaults : (s.switchportDefaults q).vlans = s.vlans := rfl
@[simp] theorem vlans_setMode (n : ℤ) : (s.setMode p n).vlans = s.vlans := rfl
@[simp] theorem vlans_setAccessVlan (n : ℤ) : (s.setAccessVlan p n).vlans = s.vlans := rfl
@[simp] theorem vlans_setNativeVlan (n : ℤ) : (s.setNativeVlan p n).vlans = s.vlans := rfl
@[simp] theorem vlans_setAllowedVlans (b : Bytes) : (s.setAllowedVlans p b).vlans = s.vlans := rfl
@[simp] theorem vlans_setGeneral (u t : Finset ℤ) : (s.setGeneral p u t).vlans = s.vlans := rfl

end Rows

/-! ## §4 What `applySwitchport` does

It touches one port: that port ends where its row puts it, and every row, every VLAN's
existence and every other port's membership stay. -/

section Apply

variable (s : VirtualSwitchState) (p q : ℤ)

@[simp] theorem row_applySwitchport : (s.applySwitchport q).row p = s.row p :=
  row_switchportDefaults s p q

@[simp] theorem modelKey_applySwitchport : (s.applySwitchport q).modelKey = s.modelKey := rfl

@[simp] theorem ports_applySwitchport : (s.applySwitchport q).ports = s.ports := rfl

@[simp] theorem mem_vlans_applySwitchport {v : ℤ} :
    v ∈ (s.applySwitchport q).vlans ↔ v ∈ s.vlans := PyDict.mem_mapValues

@[simp] theorem vlanIds_applySwitchport : (s.applySwitchport q).vlanIds = s.vlanIds := by
  ext v
  simp

theorem vlans_get?_applySwitchport (v : ℤ) : (s.applySwitchport p).vlans.get? v =
    (s.vlans.get? v).map fun sim =>
      sim.place p (v ∈ (s.row p).untagged) (v ∈ (s.row p).tagged s.vlanIds) := by
  simp only [applySwitchport, PyDict.get?_mapValues, row_switchportDefaults,
    vlans_switchportDefaults]
  rfl

end Apply

end VirtualSwitchState

section Place

variable (sim : VlanSim) (p : ℤ) (u t : Prop) [Decidable u] [Decidable t]

@[simp] theorem VlanSim.configuredOnly_place :
    (sim.place p u t).configuredOnly = sim.configuredOnly := by
  unfold place
  split_ifs <;> rfl

@[simp] theorem VlanSim.mem_member_place : p ∈ (sim.place p u t).member ↔ u ∨ t := by
  unfold place
  split_ifs <;> simp_all

@[simp] theorem VlanSim.mem_untagged_place : p ∈ (sim.place p u t).untagged ↔ u := by
  unfold place
  split_ifs <;> simp_all

variable {p} in
theorem VlanSim.mem_member_place_of_ne {q : ℤ} (h : q ≠ p) :
    q ∈ (sim.place p u t).member ↔ q ∈ sim.member := by
  unfold place
  split_ifs <;> simp [h]

variable {p} in
theorem VlanSim.mem_untagged_place_of_ne {q : ℤ} (h : q ≠ p) :
    q ∈ (sim.place p u t).untagged ↔ q ∈ sim.untagged := by
  unfold place
  split_ifs <;> simp [h]

end Place

namespace VirtualSwitchState

/-- After `_apply_switchport` the port is where its row puts it. -/
theorem switchportDerived_applySwitchport (s : VirtualSwitchState) (p : ℤ) :
    (s.applySwitchport p).SwitchportDerived p := by
  intro v sim hsim
  rw [vlans_get?_applySwitchport, Option.map_eq_some_iff] at hsim
  obtain ⟨sim₀, _, rfl⟩ := hsim
  simp

/-- Placing one port leaves another where it was. -/
theorem SwitchportDerived.applySwitchport {s : VirtualSwitchState} {p q : ℤ}
    (h : s.SwitchportDerived q) : (s.applySwitchport p).SwitchportDerived q := by
  by_cases hpq : q = p
  · rw [hpq]
    exact switchportDerived_applySwitchport s p
  · intro v sim hsim
    rw [vlans_get?_applySwitchport, Option.map_eq_some_iff] at hsim
    obtain ⟨sim₀, hsim₀, rfl⟩ := hsim
    rw [VlanSim.mem_member_place_of_ne _ _ _ hpq, VlanSim.mem_untagged_place_of_ne _ _ _ hpq]
    simpa using h v sim₀ hsim₀

theorem SwitchportDerived.isMember_iff {s : VirtualSwitchState} {p : ℤ}
    (h : s.SwitchportDerived p) (v : ℤ) : s.isMember p v ↔
      v ∈ s.vlans ∧ (v ∈ (s.row p).untagged ∨ v ∈ (s.row p).tagged s.vlanIds) := by
  rw [PyDict.mem_iff]
  constructor
  · rintro ⟨sim, hsim, hp⟩
    exact ⟨⟨sim, hsim⟩, (h v sim hsim).1.mp hp⟩
  · rintro ⟨⟨sim, hsim⟩, hv⟩
    exact ⟨sim, hsim, (h v sim hsim).1.mpr hv⟩

theorem SwitchportDerived.isUntagged_iff {s : VirtualSwitchState} {p : ℤ}
    (h : s.SwitchportDerived p) (v : ℤ) :
    s.isUntagged p v ↔ v ∈ s.vlans ∧ v ∈ (s.row p).untagged := by
  rw [PyDict.mem_iff]
  constructor
  · rintro ⟨sim, hsim, hp⟩
    exact ⟨⟨sim, hsim⟩, (h v sim hsim).2.mp hp⟩
  · rintro ⟨⟨sim, hsim⟩, hv⟩
    exact ⟨sim, hsim, (h v sim hsim).2.mpr hv⟩

theorem portUnchanged_applySwitchport (s : VirtualSwitchState) {p q : ℤ} (h : q ≠ p) :
    PortUnchanged q s (s.applySwitchport p) := by
  refine .of_map (vlans_get?_applySwitchport s p) fun w sim =>
    ⟨VlanSim.mem_member_place_of_ne _ _ _ h, ?_, VlanSim.mem_untagged_place_of_ne _ _ _ h⟩
  rw [VlanSim.configuredOnly_place]

/-! ## §5 Editing one row

Every write to the switchport table, and every turn of the reconcile loop, edits the row of one
port and re-derives that port. -/

/-- Every switchport column has an entry for port `p`. -/
structure HasRow (s : VirtualSwitchState) (p : ℤ) : Prop where
  mode : p ∈ s.switchportMode
  accessVlan : p ∈ s.switchportAccessVlan
  nativeVlan : p ∈ s.switchportNativeVlan
  allowedVlans : p ∈ s.switchportAllowedVlans
  generalUntagged : p ∈ s.switchportGeneralUntagged
  generalTagged : p ∈ s.switchportGeneralTagged

/-- The state with its switchport table removed. -/
def withoutRows (s : VirtualSwitchState) : VirtualSwitchState :=
  { s with
    switchportMode := ∅
    switchportAccessVlan := ∅
    switchportNativeVlan := ∅
    switchportAllowedVlans := ∅
    switchportGeneralUntagged := ∅
    switchportGeneralTagged := ∅ }

/-- `t` is `s` with, at most, another row for port `p`. -/
structure RowEdit (p : ℤ) (s t : VirtualSwitchState) : Prop where
  rest : t.withoutRows = s.withoutRows
  others : ∀ q, q ≠ p → t.row q = s.row q
  hasRow : ∀ q, s.HasRow q → t.HasRow q

/-- `s'` comes from `s` by editing the row of `p` and re-deriving `p`. -/
def PortStep (p : ℤ) (s s' : VirtualSwitchState) : Prop :=
  ∃ t, RowEdit p s t ∧ s' = t.applySwitchport p

theorem switchportDefaults_of_hasRow {s : VirtualSwitchState} {p : ℤ} (h : s.HasRow p) :
    s.switchportDefaults p = s := by
  simp only [switchportDefaults, PyDict.setDefault_of_mem _ h.mode,
    PyDict.setDefault_of_mem _ h.accessVlan, PyDict.setDefault_of_mem _ h.nativeVlan,
    PyDict.setDefault_of_mem _ h.allowedVlans, PyDict.setDefault_of_mem _ h.generalUntagged,
    PyDict.setDefault_of_mem _ h.generalTagged]

theorem hasRow_switchportDefaults (s : VirtualSwitchState) (p : ℤ) :
    (s.switchportDefaults p).HasRow p := by
  constructor <;> simp [switchportDefaults]

theorem HasRow.switchportDefaults {s : VirtualSwitchState} {p : ℤ} (h : s.HasRow p) (q : ℤ) :
    (s.switchportDefaults q).HasRow p := by
  constructor
  · exact PyDict.mem_setDefault.mpr (Or.inr h.mode)
  · exact PyDict.mem_setDefault.mpr (Or.inr h.accessVlan)
  · exact PyDict.mem_setDefault.mpr (Or.inr h.nativeVlan)
  · exact PyDict.mem_setDefault.mpr (Or.inr h.allowedVlans)
  · exact PyDict.mem_setDefault.mpr (Or.inr h.generalUntagged)
  · exact PyDict.mem_setDefault.mpr (Or.inr h.generalTagged)

section RowEdit

variable {s t : VirtualSwitchState} {p : ℤ}

theorem RowEdit.vlans (h : RowEdit p s t) : t.vlans = s.vlans := congrArg (·.vlans) h.rest

theorem RowEdit.vlanIds (h : RowEdit p s t) : t.vlanIds = s.vlanIds := by
  rw [VirtualSwitchState.vlanIds, h.vlans]
  rfl

theorem RowEdit.switchportDefaults (s : VirtualSwitchState) (p : ℤ) :
    RowEdit p s (s.switchportDefaults p) :=
  ⟨rfl, fun q _ => row_switchportDefaults s q p, fun _ hq => hq.switchportDefaults p⟩

theorem RowEdit.trans {u : VirtualSwitchState} (h : RowEdit p s t) (h' : RowEdit p t u) :
    RowEdit p s u :=
  ⟨h'.rest.trans h.rest, fun q hq => (h'.others q hq).trans (h.others q hq),
    fun q hq => h'.hasRow q (h.hasRow q hq)⟩

theorem RowEdit.setMode (s : VirtualSwitchState) (p n : ℤ) : RowEdit p s (s.setMode p n) :=
  ⟨rfl, fun _ hq => row_setMode_of_ne s n hq, fun _ hq =>
    ⟨PyDict.mem_set.mpr (Or.inr hq.1), hq.2, hq.3, hq.4, hq.5, hq.6⟩⟩

theorem RowEdit.setAccessVlan (s : VirtualSwitchState) (p n : ℤ) :
    RowEdit p s (s.setAccessVlan p n) :=
  ⟨rfl, fun _ hq => row_setAccessVlan_of_ne s n hq, fun _ hq =>
    ⟨hq.1, PyDict.mem_set.mpr (Or.inr hq.2), hq.3, hq.4, hq.5, hq.6⟩⟩

theorem RowEdit.setNativeVlan (s : VirtualSwitchState) (p n : ℤ) :
    RowEdit p s (s.setNativeVlan p n) :=
  ⟨rfl, fun _ hq => row_setNativeVlan_of_ne s n hq, fun _ hq =>
    ⟨hq.1, hq.2, PyDict.mem_set.mpr (Or.inr hq.3), hq.4, hq.5, hq.6⟩⟩

theorem RowEdit.setAllowedVlans (s : VirtualSwitchState) (p : ℤ) (b : Bytes) :
    RowEdit p s (s.setAllowedVlans p b) :=
  ⟨rfl, fun _ hq => row_setAllowedVlans_of_ne s b hq, fun _ hq =>
    ⟨hq.1, hq.2, hq.3, PyDict.mem_set.mpr (Or.inr hq.4), hq.5, hq.6⟩⟩

theorem RowEdit.setGeneral (s : VirtualSwitchState) (p : ℤ) (u v : Finset ℤ) :
    RowEdit p s (s.setGeneral p u v) :=
  ⟨rfl, fun _ hq => row_setGeneral_of_ne s u v hq, fun _ hq =>
    ⟨hq.1, hq.2, hq.3, hq.4, PyDict.mem_set.mpr (Or.inr hq.5), PyDict.mem_set.mpr (Or.inr hq.6)⟩⟩

/-- One turn of the reconcile loop. -/
theorem portStep_reconcilePort {vid : ℤ} {incoming : Finset ℤ} {s' : VirtualSwitchState}
    (h : reconcilePort vid incoming s p = some s') : PortStep p s s' := by
  have hdefaults := RowEdit.switchportDefaults s p
  unfold reconcilePort at h
  dsimp only at h
  split_ifs at h with htrunk hin hgeneral hin
  · obtain ⟨bits, _, rfl⟩ := Option.map_eq_some_iff.mp h
    exact ⟨_, hdefaults.trans (.setAllowedVlans _ p bits), rfl⟩
  · obtain ⟨bits, _, rfl⟩ := Option.map_eq_some_iff.mp h
    exact ⟨_, hdefaults.trans (.setAllowedVlans _ p bits), rfl⟩
  · cases h
    exact ⟨_, hdefaults.trans (.setGeneral _ p _ _), rfl⟩
  · cases h
    exact ⟨_, hdefaults.trans (.setGeneral _ p _ _), rfl⟩
  · cases h
    exact ⟨_, hdefaults, rfl⟩

end RowEdit

/-- What every port step preserves, the whole reconcile loop preserves. -/
theorem reconcile_induction {P : VirtualSwitchState → Prop} {vid : ℤ} {incoming : Finset ℤ} :
    ∀ {ports : List ℤ} {s s' : VirtualSwitchState},
      (∀ p ∈ ports, ∀ t t', PortStep p t t' → P t → P t') → P s →
      ports.foldlM (reconcilePort vid incoming) s = some s' → P s'
  | [], s, s', _, hs, h => by
    cases h
    exact hs
  | p :: ports, s, s', hstep, hs, h => by
    rw [List.foldlM_cons, Option.bind_eq_bind, Option.bind_eq_some_iff] at h
    obtain ⟨s₁, h₁, hrest⟩ := h
    have hs₁ := hstep p List.mem_cons_self s s₁ (portStep_reconcilePort h₁) hs
    exact reconcile_induction (fun q hq => hstep q (List.mem_cons_of_mem p hq)) hs₁ hrest

end VirtualSwitchState

end NetgearSwitch.Virtual
