import NetgearSwitch.Errors
import NetgearSwitch.Virtual.ApplyWrite

/-!
# Planning a switchport membership write

`_plan_switchport_membership` of `snmp_write.py` with its VLAN-bitmap editing, and what the
plan does to the device: sent varbind by varbind it is accepted every time, lands the port on
exactly the planned VLANs, moves no other port, and passes only through memberships the port
has before or after.
-/

namespace NetgearSwitch.Snmp

open Virtual

/-! ## §1 VLAN bitmaps -/

/-- `_vlan_bitmap`. -/
def vlanBitmap (vlans : Finset ℤ) : Option Bytes :=
  Bitmap.addNumbers (List.replicate switchportVlanBitmapBytes 0) (PySet.sorted vlans)

/-- `decode_vlan_bitmap`. -/
def decodeVlanBitmap (bitmap : Bytes) : Finset ℤ := Bitmap.numbers bitmap

/-- `max([*add, *remove], default=1)`. -/
def highestNamed (add remove : Finset ℤ) : ℤ := ((PySet.sorted (add ∪ remove)).max?).getD 1

/-- The bytes `_edit_vlan_bits` needs: room for the highest VLAN named, and at least 512. -/
def bytesNeeded (add remove : Finset ℤ) : ℕ :=
  (max ((highestNamed add remove - 1) / 8 + 1) (switchportVlanBitmapBytes : ℤ)).toNat

/-- `_edit_vlan_bits`: grow the bitmap, set the added bits, then clear the removed ones. -/
def editVlanBits (bitmap : Bytes) (add remove : Finset ℤ) : Option Bytes :=
  let data := bitmap ++ List.replicate (bytesNeeded add remove - bitmap.length) 0
  (Bitmap.addNumbers data (PySet.sorted add)).bind fun data => Bitmap.removeNumbers data (PySet.sorted remove)

theorem vlanBitmap_spec {vlans : Finset ℤ} (h : ∀ v ∈ vlans, 1 ≤ v ∧ v ≤ 4096) :
    ∃ bitmap, vlanBitmap vlans = some bitmap ∧ decodeVlanBitmap bitmap = vlans :=
  vlanBitmapBytes_spec h

theorem le_highestNamed {add remove : Finset ℤ} {v : ℤ} (hv : v ∈ add ∪ remove) :
    v ≤ highestNamed add remove := by
  have hmem : v ∈ (PySet.sorted (add ∪ remove)) := by simpa using hv
  unfold highestNamed
  cases hmax : (PySet.sorted (add ∪ remove)).max? with
  | none => simp [List.max?_eq_none_iff.mp hmax] at hmem
  | some m => exact (List.max?_eq_some_iff.mp hmax).2 v hmem

/-- Every VLAN named fits the grown bitmap. -/
theorem le_bytesNeeded {add remove : Finset ℤ} {v : ℤ} (hv : v ∈ add ∪ remove) :
    v ≤ 8 * (bytesNeeded add remove : ℤ) := by
  have := le_highestNamed hv
  unfold bytesNeeded
  omega

/-- Editing changes exactly the VLANs named. -/
theorem editVlanBits_spec {add remove : Finset ℤ} (bitmap : Bytes)
    (hadd : ∀ v ∈ add, 1 ≤ v) (hremove : ∀ v ∈ remove, 1 ≤ v) :
    ∃ bitmap', editVlanBits bitmap add remove = some bitmap' ∧
      decodeVlanBitmap bitmap' = (decodeVlanBitmap bitmap ∪ add) \ remove := by
  let data := bitmap ++ List.replicate (bytesNeeded add remove - bitmap.length) 0
  have hfit : ∀ {v : ℤ}, v ∈ add ∪ remove → v ≤ 8 * (data.length : ℤ) := by
    intro v hv
    have := le_bytesNeeded hv
    simp only [data, List.length_append, List.length_replicate]
    omega
  obtain ⟨data₁, h1, hlen, hnum₁⟩ := Bitmap.addNumbers_spec (PySet.sorted add) data
    fun v hv => by
      have hv := PySet.mem_sorted.mp hv
      exact ⟨hadd v hv, hfit (Finset.mem_union_left _ hv)⟩
  obtain ⟨data₂, h2, _, hnum₂⟩ := Bitmap.removeNumbers_spec (PySet.sorted remove) data₁
    fun v hv => by
      have hv := PySet.mem_sorted.mp hv
      rw [hlen]
      exact ⟨hremove v hv, hfit (Finset.mem_union_right _ hv)⟩
  refine ⟨data₂, by rw [editVlanBits, h1, Option.bind_some, h2], ?_⟩
  rw [decodeVlanBitmap, hnum₂, hnum₁]
  simp [data, decodeVlanBitmap]

/-! ## §2 The plan -/

/-- One SET varbind of the writer. -/
structure SetVarbind where
  oid : Oid
  value : SetValue
  deriving DecidableEq

/-- `f"{base}.{n}"` of an instance number that is not negative. -/
def instanceOid (base : Oid) (n : ℤ) : Oid := base ++ [n.toNat]

/-- The exact membership a switchport write intends, plus the SETs to get it. -/
structure SwitchportPlan where
  untaggedVlan : ℤ
  taggedVlans : Finset ℤ
  varbinds : List SetVarbind

/-- `_DEFAULT_VLAN`. -/
def defaultVlan : ℤ := 1

/-- The tagged and untagged sets a request asks for. -/
def wanted (vlan : ℤ) (mode : VlanMode) (currentTagged currentUntagged : Finset ℤ) :
    Finset ℤ × Finset ℤ :=
  match mode with
  | .tagged => (currentTagged ∪ {vlan}, currentUntagged \ {vlan})
  | .untagged => (currentTagged \ {vlan}, {vlan})
  | .excluded => (currentTagged \ {vlan}, currentUntagged \ {vlan})

/-- The one untagged VLAN of the plan: the wanted one, else the default VLAN.  Refused when
several are wanted, or when the default VLAN is wanted tagged. -/
def planUntagged (wantTagged wantUntagged : Finset ℤ) : Except LibError ℤ :=
  match PySet.sorted wantUntagged with
  | [] => if defaultVlan ∈ wantTagged then .error .unsupportedCapability else .ok defaultVlan
  | [u] => .ok u
  | _ => .error .unsupportedCapability

/-- The allowed-VLAN octets of a plan that ends in trunk mode: a trunk port's own list edited
at the existing VLANs, any other port's stale list rebuilt. -/
def planAllowed (currentMode : Option ℤ) (currentAllowed : Bytes) (untaggedVlan : ℤ)
    (wantTagged existingVlans : Finset ℤ) : Option Bytes :=
  if currentMode = some switchportModeTrunk then
    editVlanBits currentAllowed (insert untaggedVlan wantTagged)
      ((existingVlans \ wantTagged) \ {untaggedVlan})
  else vlanBitmap (insert untaggedVlan wantTagged)

/-- `_plan_switchport_membership`. -/
def planSwitchportMembership (vlan port : ℤ) (mode : VlanMode) (currentMode : Option ℤ)
    (currentAllowed : Bytes) (currentTagged currentUntagged existingVlans : Finset ℤ) :
    Except LibError SwitchportPlan := do
  let (wantTagged, wantUntagged) := wanted vlan mode currentTagged currentUntagged
  let untaggedVlan ← planUntagged wantTagged wantUntagged
  if wantTagged.Nonempty then
    let allowed ← orRaise .indexError
      (planAllowed currentMode currentAllowed untaggedVlan wantTagged existingVlans)
    -- data columns before the mode selector
    .ok
      { untaggedVlan := untaggedVlan
        taggedVlans := wantTagged
        varbinds :=
          [⟨instanceOid fastpathSwitchportAllowedVlans port, .bytes allowed⟩,
            ⟨instanceOid fastpathSwitchportNativeVlan port, .int untaggedVlan⟩,
            ⟨instanceOid fastpathSwitchportMode port, .int switchportModeTrunk⟩] }
  else
    .ok
      { untaggedVlan := untaggedVlan
        taggedVlans := wantTagged
        varbinds :=
          [⟨instanceOid fastpathSwitchportAccessVlan port, .int untaggedVlan⟩,
            ⟨instanceOid fastpathSwitchportMode port, .int switchportModeAccess⟩] }

/-! ## §3 The columns a plan writes -/

section Columns

variable {s : VirtualSwitchState} {p : ℤ}

theorem applyWrite_mode (hs : s.switchportModel = true) (hp : 0 ≤ p) (n : ℤ) :
    s.applyWrite (instanceOid fastpathSwitchportMode p) (.int n) =
      .ok ((s.setMode p n).applySwitchport p) := by
  have hcol : column s.model (instanceOid fastpathSwitchportMode p) = some (.switchportMode p) := by
    simp [column, tailColumns, tail, instanceOid, ifAdminStatus, ifAlias, pethPsePortTable,
      dot1qPvid, dot1qVlanStaticEgress, dot1qVlanStaticUntagged, fastpathSwitchportMode, hp]
  simp [VirtualSwitchState.applyWrite, hcol, VirtualSwitchState.applyColumn, hs,
    VirtualSwitchState.readInt, SetValue.toInt]
  rfl

theorem applyWrite_accessVlan (hs : s.switchportModel = true) (hp : 0 ≤ p) (n : ℤ) :
    s.applyWrite (instanceOid fastpathSwitchportAccessVlan p) (.int n) =
      .ok ((s.setAccessVlan p n).applySwitchport p) := by
  have hcol : column s.model (instanceOid fastpathSwitchportAccessVlan p) =
      some (.switchportAccessVlan p) := by
    simp [column, tailColumns, tail, instanceOid, ifAdminStatus, ifAlias, pethPsePortTable,
      dot1qPvid, dot1qVlanStaticEgress, dot1qVlanStaticUntagged, fastpathSwitchportMode,
      fastpathSwitchportAccessVlan, hp]
  simp [VirtualSwitchState.applyWrite, hcol, VirtualSwitchState.applyColumn, hs,
    VirtualSwitchState.readInt, SetValue.toInt]
  rfl

theorem applyWrite_nativeVlan (hs : s.switchportModel = true) (hp : 0 ≤ p) {n : ℤ}
    (hn : n ∈ s.vlans) : s.applyWrite (instanceOid fastpathSwitchportNativeVlan p) (.int n) =
      .ok ((s.setNativeVlan p n).applySwitchport p) := by
  have hcol : column s.model (instanceOid fastpathSwitchportNativeVlan p) =
      some (.switchportNativeVlan p) := by
    simp [column, tailColumns, tail, instanceOid, ifAdminStatus, ifAlias, pethPsePortTable,
      dot1qPvid, dot1qVlanStaticEgress, dot1qVlanStaticUntagged, fastpathSwitchportMode,
      fastpathSwitchportAccessVlan, fastpathSwitchportNativeVlan, hp]
  simp [VirtualSwitchState.applyWrite, hcol, VirtualSwitchState.applyColumn, hs,
    VirtualSwitchState.readInt, SetValue.toInt]
  exact if_pos hn

theorem applyWrite_allowedVlans (hs : s.switchportModel = true) (hp : 0 ≤ p) (b : Bytes) :
    s.applyWrite (instanceOid fastpathSwitchportAllowedVlans p) (.bytes b) =
      .ok ((s.setAllowedVlans p b).applySwitchport p) := by
  have hcol : column s.model (instanceOid fastpathSwitchportAllowedVlans p) =
      some (.switchportAllowedVlans p) := by
    simp [column, tailColumns, tail, instanceOid, ifAdminStatus, ifAlias, pethPsePortTable,
      dot1qPvid, dot1qVlanStaticEgress, dot1qVlanStaticUntagged, fastpathSwitchportMode,
      fastpathSwitchportAccessVlan, fastpathSwitchportNativeVlan,
      fastpathSwitchportAllowedVlans, hp]
  simp [VirtualSwitchState.applyWrite, hcol, VirtualSwitchState.applyColumn, hs,
    SetValue.asBytes]
  rfl

end Columns

/-- `s'` is `s` with port `p` moved to where row `r` puts it, and nothing else moved. -/
structure RowStep (p : ℤ) (r : SwitchportRow) (s s' : VirtualSwitchState) : Prop where
  row : s'.row p = r
  ids : s'.vlanIds = s.vlanIds
  model : s'.switchportModel = s.switchportModel
  derived : s'.SwitchportDerived p
  others : ∀ q, q ≠ p → VirtualSwitchState.PortUnchanged q s s'

/-- Re-deriving a port after its row was edited is such a step. -/
theorem RowStep.of_applySwitchport {p : ℤ} {s t : VirtualSwitchState} (hvlans : t.vlans = s.vlans)
    (hmodel : t.modelKey = s.modelKey) : RowStep p (t.row p) s (t.applySwitchport p) where
  row := t.row_applySwitchport p p
  ids := by rw [t.vlanIds_applySwitchport p, VirtualSwitchState.vlanIds, hvlans]; rfl
  model := by
    simp only [VirtualSwitchState.switchportModel, VirtualSwitchState.model,
      VirtualSwitchState.modelKey_applySwitchport, hmodel]
  derived := t.switchportDerived_applySwitchport p
  others := fun q hq =>
    (VirtualSwitchState.PortUnchanged.of_vlans_eq q hvlans).trans
      (t.portUnchanged_applySwitchport hq)

/-! ## §4 What a plan asks for -/

/-- The untagged VLAN of a plan that is not refused is the one wanted, or the default VLAN
where none is wanted and the default is not wanted tagged. -/
theorem planUntagged_eq_ok {wantTagged wantUntagged : Finset ℤ} {u : ℤ}
    (h : planUntagged wantTagged wantUntagged = .ok u) :
    wantUntagged = {u} ∨ (u = defaultVlan ∧ defaultVlan ∉ wantTagged) := by
  have hset := PySet.toFinset_sorted wantUntagged
  unfold planUntagged at h
  split at h
  · split at h
    · cases h
    · next hd =>
      cases h
      exact Or.inr ⟨rfl, hd⟩
  · next w hsort =>
    cases h
    rw [hsort] at hset
    exact Or.inl (by simpa using hset.symm)
  · cases h

/-- The two shapes of a plan that is not refused. -/
theorem planSwitchportMembership_eq_ok {v p : ℤ} {mode : VlanMode} {currentMode : Option ℤ}
    {currentAllowed : Bytes} {tagged untagged ids : Finset ℤ} {plan : SwitchportPlan}
    (h : planSwitchportMembership v p mode currentMode currentAllowed tagged untagged ids =
      .ok plan) :
    ∃ u, planUntagged (wanted v mode tagged untagged).1 (wanted v mode tagged untagged).2 =
        .ok u ∧
      ((∃ bits, planAllowed currentMode currentAllowed u (wanted v mode tagged untagged).1 ids =
          some bits ∧
        plan = ⟨u, (wanted v mode tagged untagged).1,
          [⟨instanceOid fastpathSwitchportAllowedVlans p, .bytes bits⟩,
            ⟨instanceOid fastpathSwitchportNativeVlan p, .int u⟩,
            ⟨instanceOid fastpathSwitchportMode p, .int switchportModeTrunk⟩]⟩) ∨
      ((wanted v mode tagged untagged).1 = ∅ ∧
        plan = ⟨u, (wanted v mode tagged untagged).1,
          [⟨instanceOid fastpathSwitchportAccessVlan p, .int u⟩,
            ⟨instanceOid fastpathSwitchportMode p, .int switchportModeAccess⟩]⟩)) := by
  unfold planSwitchportMembership at h
  generalize wanted v mode tagged untagged = want at h ⊢
  obtain ⟨wantTagged, wantUntagged⟩ := want
  simp only [bind, Except.bind] at h ⊢
  cases hu : planUntagged wantTagged wantUntagged with
  | error e =>
    rw [hu] at h
    cases h
  | ok u =>
    rw [hu] at h
    refine ⟨u, rfl, ?_⟩
    by_cases hne : wantTagged.Nonempty
    · simp only [hne, if_true] at h
      cases hbits : planAllowed currentMode currentAllowed u wantTagged ids with
      | none =>
        rw [hbits] at h
        cases h
      | some bits =>
        rw [hbits] at h
        cases h
        exact Or.inl ⟨bits, rfl, rfl⟩
    · simp only [hne, if_false] at h
      cases h
      exact Or.inr ⟨Finset.not_nonempty_iff_eq_empty.mp hne, rfl⟩

/-- A plan's untagged VLAN exists and is not among its tagged VLANs, which exist too. -/
theorem planUntagged_wanted {v u : ℤ} {mode : VlanMode} {tagged untagged ids : Finset ℤ}
    (hdisj : Disjoint tagged untagged) (htagged : tagged ⊆ ids) (huntagged : untagged ⊆ ids)
    (hv : v ∈ ids) (hdefault : defaultVlan ∈ ids)
    (h : planUntagged (wanted v mode tagged untagged).1 (wanted v mode tagged untagged).2 =
      .ok u) :
    u ∈ ids ∧ (wanted v mode tagged untagged).1 ⊆ ids ∧ u ∉ (wanted v mode tagged untagged).1 := by
  have hsub : (wanted v mode tagged untagged).1 ⊆ ids := by
    cases mode with
    | tagged => exact Finset.union_subset htagged (Finset.singleton_subset_iff.mpr hv)
    | untagged => exact Finset.sdiff_subset.trans htagged
    | excluded => exact Finset.sdiff_subset.trans htagged
  rcases planUntagged_eq_ok h with hu | ⟨rfl, hnot⟩
  · have hmem : u ∈ (wanted v mode tagged untagged).2 := by simp [hu]
    cases mode with
    | tagged =>
      obtain ⟨huu, hne⟩ := Finset.mem_sdiff.mp hmem
      refine ⟨huntagged huu, hsub, fun hut => ?_⟩
      rcases Finset.mem_union.mp hut with hut | hut
      · exact Finset.disjoint_left.mp hdisj hut huu
      · exact hne hut
    | untagged =>
      obtain rfl := Finset.mem_singleton.mp hmem
      exact ⟨hv, hsub, fun hut => (Finset.mem_sdiff.mp hut).2 (Finset.mem_singleton_self _)⟩
    | excluded =>
      obtain ⟨huu, _⟩ := Finset.mem_sdiff.mp hmem
      exact ⟨huntagged huu, hsub, fun hut =>
        Finset.disjoint_left.mp hdisj (Finset.mem_sdiff.mp hut).1 huu⟩
  · exact ⟨hdefault, hsub, hnot⟩

/-- The planned allowed list admits, among the existing VLANs, exactly the untagged VLAN and
the tagged ones. -/
theorem planAllowed_spec (currentMode : Option ℤ) (currentAllowed : Bytes) {u : ℤ}
    {want ids : Finset ℤ} (hids : ∀ w ∈ ids, 1 ≤ w ∧ w ≤ 4094) (hu : u ∈ ids) (hwant : want ⊆ ids) :
    ∃ bits, planAllowed currentMode currentAllowed u want ids = some bits ∧
      vlansInBitmap bits ∩ ids = insert u want := by
  have hsub : insert u want ⊆ ids := Finset.insert_subset hu hwant
  unfold planAllowed
  split_ifs with hmode
  · have hadd : ∀ w ∈ insert u want, 1 ≤ w := fun w hw => (hids w (hsub hw)).1
    have hremove : ∀ w ∈ (ids \ want) \ {u}, 1 ≤ w := fun w hw =>
      (hids w (Finset.sdiff_subset (Finset.sdiff_subset hw))).1
    obtain ⟨bits, hbits, hdec⟩ := editVlanBits_spec currentAllowed hadd hremove
    refine ⟨bits, hbits, ?_⟩
    show decodeVlanBitmap bits ∩ ids = insert u want
    rw [hdec]
    ext w
    have := @hsub w
    simp only [Finset.mem_inter, Finset.mem_sdiff, Finset.mem_union, Finset.mem_insert,
      Finset.mem_singleton] at this ⊢
    tauto
  · have hrange : ∀ w ∈ insert u want, 1 ≤ w ∧ w ≤ 4096 := by
      intro w hw
      have := hids w (hsub hw)
      omega
    obtain ⟨bits, hbits, hdec⟩ := vlanBitmap_spec hrange
    refine ⟨bits, hbits, ?_⟩
    show decodeVlanBitmap bits ∩ ids = insert u want
    rw [hdec, Finset.inter_eq_left.mpr hsub]

/-! ## §5 Sending a plan

`applyEach` is the writer's loop against the device, one PDU per varbind; it keeps every state
the device passes through. -/

/-- Apply the varbinds one after the other, keeping the state after each. -/
def applyEach (s : VirtualSwitchState) :
    List SetVarbind → Except ApplyError (List VirtualSwitchState)
  | [] => .ok []
  | vb :: vbs => do
    let s' ← s.applyWrite vb.oid vb.value
    let rest ← applyEach s' vbs
    .ok (s' :: rest)

theorem applyEach_cons {s s' : VirtualSwitchState} {vb : SetVarbind} {vbs : List SetVarbind}
    {rest : List VirtualSwitchState} (h : s.applyWrite vb.oid vb.value = .ok s')
    (hrest : applyEach s' vbs = .ok rest) : applyEach s (vb :: vbs) = .ok (s' :: rest) := by
  simp only [applyEach, h, bind, Except.bind, hrest]

/-- What sending the varbinds must achieve: the port lands on exactly the planned VLANs, no
other port moves, and no state on the way has the port in a VLAN it belongs to neither before
nor after. -/
structure PlanAchieved (p : ℤ) (plan : SwitchportPlan) (s final : VirtualSwitchState)
    (trace : List VirtualSwitchState) : Prop where
  untagged : final.untaggedVlans p = {plan.untaggedVlan}
  tagged : final.taggedVlans p = plan.taggedVlans
  others : ∀ q, q ≠ p → VirtualSwitchState.PortUnchanged q s final
  between : ∀ t ∈ trace, ∀ w, t.isMember p w → s.isMember p w ∨ final.isMember p w

section Landing

variable {p u : ℤ} {s final : VirtualSwitchState} {r : SwitchportRow} {want : Finset ℤ}

/-- A port whose row gives untagged `{u}` and tagged `want` stands there, if those exist. -/
theorem RowStep.lands (h : RowStep p r s final) (hu : u ∈ s.vlanIds) (hwant : want ⊆ s.vlanIds)
    (hdisj : u ∉ want) (huntagged : r.untagged = {u}) (htagged : r.tagged s.vlanIds = want) :
    final.untaggedVlans p = {u} ∧ final.taggedVlans p = want := by
  have hmem : ∀ w, w ∈ final.vlans ↔ w ∈ s.vlanIds := by
    intro w
    rw [← h.ids, VirtualSwitchState.mem_vlanIds]
  constructor
  · ext w
    rw [VirtualSwitchState.mem_untaggedVlans, h.derived.isUntagged_iff, h.row, huntagged, hmem,
      Finset.mem_singleton]
    constructor
    · exact And.right
    · rintro rfl
      exact ⟨hu, rfl⟩
  · ext w
    rw [VirtualSwitchState.mem_taggedVlans, h.derived.isMember_iff, h.derived.isUntagged_iff,
      h.row, h.ids, huntagged, htagged, hmem, Finset.mem_singleton]
    constructor
    · rintro ⟨⟨hw, hor⟩, hnot⟩
      rcases hor with rfl | hw'
      · exact absurd ⟨hw, rfl⟩ hnot
      · exact hw'
    · intro hw
      exact ⟨⟨hwant hw, Or.inr hw⟩, fun hu' => hdisj (hu'.2 ▸ hw)⟩

end Landing

/-! ## §6 One varbind at a time -/

section Sending

variable {s : VirtualSwitchState} {p : ℤ}

/-- A second step on the same port replaces the row of the first. -/
theorem RowStep.trans {r r' : SwitchportRow} {s s' s'' : VirtualSwitchState}
    (h : RowStep p r s s') (h' : RowStep p r' s' s'') : RowStep p r' s s'' where
  row := h'.row
  ids := h'.ids.trans h.ids
  model := h'.model.trans h.model
  derived := h'.derived
  others := fun q hq => (h.others q hq).trans (h'.others q hq)

/-- The membership of the port after a step, read off its row. -/
theorem RowStep.isMember_iff {r : SwitchportRow} {s' : VirtualSwitchState} (h : RowStep p r s s')
    (w : ℤ) : s'.isMember p w ↔
      w ∈ s.vlanIds ∧ (w ∈ r.untagged ∨ w ∈ r.tagged s.vlanIds) := by
  rw [h.derived.isMember_iff, ← VirtualSwitchState.mem_vlanIds, h.ids, h.row]

theorem send_mode (hs : s.switchportModel = true) (hp : 0 ≤ p) (n : ℤ) :
    ∃ s', s.applyWrite (instanceOid fastpathSwitchportMode p) (.int n) = .ok s' ∧
      RowStep p { s.row p with mode := n } s s' := by
  refine ⟨_, applyWrite_mode hs hp n, ?_⟩
  have := RowStep.of_applySwitchport (p := p) (s := s) (t := s.setMode p n) rfl rfl
  rwa [VirtualSwitchState.row_setMode_self] at this

theorem send_accessVlan (hs : s.switchportModel = true) (hp : 0 ≤ p) (n : ℤ) :
    ∃ s', s.applyWrite (instanceOid fastpathSwitchportAccessVlan p) (.int n) = .ok s' ∧
      RowStep p { s.row p with accessVlan := n } s s' := by
  refine ⟨_, applyWrite_accessVlan hs hp n, ?_⟩
  have := RowStep.of_applySwitchport (p := p) (s := s) (t := s.setAccessVlan p n) rfl rfl
  rwa [VirtualSwitchState.row_setAccessVlan_self] at this

theorem send_nativeVlan (hs : s.switchportModel = true) (hp : 0 ≤ p) {n : ℤ}
    (hn : n ∈ s.vlanIds) :
    ∃ s', s.applyWrite (instanceOid fastpathSwitchportNativeVlan p) (.int n) = .ok s' ∧
      RowStep p { s.row p with nativeVlan := n } s s' := by
  refine ⟨_, applyWrite_nativeVlan hs hp (VirtualSwitchState.mem_vlanIds.mp hn), ?_⟩
  have := RowStep.of_applySwitchport (p := p) (s := s) (t := s.setNativeVlan p n) rfl rfl
  rwa [VirtualSwitchState.row_setNativeVlan_self] at this

theorem send_allowedVlans (hs : s.switchportModel = true) (hp : 0 ≤ p) (b : Bytes) :
    ∃ s', s.applyWrite (instanceOid fastpathSwitchportAllowedVlans p) (.bytes b) = .ok s' ∧
      RowStep p { s.row p with allowedVlans := b } s s' := by
  refine ⟨_, applyWrite_allowedVlans hs hp b, ?_⟩
  have := RowStep.of_applySwitchport (p := p) (s := s) (t := s.setAllowedVlans p b) rfl rfl
  rwa [VirtualSwitchState.row_setAllowedVlans_self] at this

/-- Writing the allowed list first is safe: in trunk mode the port is then in its old native
VLAN and in planned VLANs, in any other mode the list is not in force. -/
theorem mem_row_allowedVlans {r : SwitchportRow} {bits : Bytes} {u w : ℤ} {want ids : Finset ℤ}
    (hbits : vlansInBitmap bits ∩ ids = insert u want)
    (hw : w ∈ { r with allowedVlans := bits }.untagged ∨
      w ∈ { r with allowedVlans := bits }.tagged ids) :
    (w ∈ r.untagged ∨ w ∈ r.tagged ids) ∨ w = u ∨ w ∈ want := by
  unfold SwitchportRow.untagged SwitchportRow.tagged at hw ⊢
  split_ifs at hw ⊢
  · exact Or.inl hw
  · rw [hbits] at hw
    rcases hw with hw | hw
    · exact Or.inl (Or.inl hw)
    · exact Or.inr (Finset.mem_insert.mp (Finset.mem_sdiff.mp hw).1)
  · exact Or.inl hw

/-- With the allowed list in place, moving the native VLAN puts a trunk port where it ends. -/
theorem mem_row_nativeVlan {r : SwitchportRow} {bits : Bytes} {u w : ℤ} {want ids : Finset ℤ}
    (hbits : vlansInBitmap bits ∩ ids = insert u want)
    (hw : w ∈ { r with allowedVlans := bits, nativeVlan := u }.untagged ∨
      w ∈ { r with allowedVlans := bits, nativeVlan := u }.tagged ids) :
    (w ∈ r.untagged ∨ w ∈ r.tagged ids) ∨ w = u ∨ w ∈ want := by
  unfold SwitchportRow.untagged SwitchportRow.tagged at hw ⊢
  split_ifs at hw ⊢
  · exact Or.inl hw
  · rw [hbits] at hw
    rcases hw with hw | hw
    · exact Or.inr (Or.inl (Finset.mem_singleton.mp hw))
    · exact Or.inr (Finset.mem_insert.mp (Finset.mem_sdiff.mp hw).1)
  · exact Or.inl hw

/-- Writing the access VLAN first is safe: it is in force in access mode only. -/
theorem mem_row_accessVlan {r : SwitchportRow} {u w : ℤ} {ids : Finset ℤ}
    (hw : w ∈ { r with accessVlan := u }.untagged ∨ w ∈ { r with accessVlan := u }.tagged ids) :
    (w ∈ r.untagged ∨ w ∈ r.tagged ids) ∨ w = u := by
  unfold SwitchportRow.untagged SwitchportRow.tagged at hw ⊢
  split_ifs at hw ⊢
  · rcases hw with hw | hw
    · exact Or.inr (Finset.mem_singleton.mp hw)
    · cases Finset.notMem_empty _ hw
  · exact Or.inl hw
  · exact Or.inl hw

/-- A trunk plan's three varbinds are accepted and land the port on untagged `u` and tagged
`want`, passing only through memberships from before or after. -/
theorem applyEach_trunk {u : ℤ} {want : Finset ℤ} {bits : Bytes} (hs : s.switchportModel = true)
    (hp : 0 ≤ p) (hderived : s.SwitchportDerived p) (hu : u ∈ s.vlanIds) (hwant : want ⊆ s.vlanIds)
    (hdisj : u ∉ want) (hbits : vlansInBitmap bits ∩ s.vlanIds = insert u want) :
    ∃ s₁ s₂ s₃, applyEach s
        [⟨instanceOid fastpathSwitchportAllowedVlans p, .bytes bits⟩,
          ⟨instanceOid fastpathSwitchportNativeVlan p, .int u⟩,
          ⟨instanceOid fastpathSwitchportMode p, .int switchportModeTrunk⟩] = .ok [s₁, s₂, s₃] ∧
      ∀ vbs, PlanAchieved p ⟨u, want, vbs⟩ s s₃ [s₁, s₂, s₃] := by
  obtain ⟨s₁, hw₁, h₁⟩ := send_allowedVlans hs hp bits
  obtain ⟨s₂, hw₂, h₂⟩ := send_nativeVlan (n := u) (h₁.model.trans hs) hp (by rwa [h₁.ids])
  obtain ⟨s₃, hw₃, h₃⟩ := send_mode (h₂.model.trans (h₁.model.trans hs)) hp switchportModeTrunk
  rw [h₁.row] at h₂
  rw [h₂.row] at h₃
  have hstep₂ := h₁.trans h₂
  have hstep₃ := hstep₂.trans h₃
  refine ⟨s₁, s₂, s₃, applyEach_cons hw₁ (applyEach_cons hw₂ (applyEach_cons hw₃ rfl)),
    fun vbs => ?_⟩
  obtain ⟨huntagged, htagged⟩ := hstep₃.lands hu hwant hdisj rfl (by
    show (vlansInBitmap bits ∩ s.vlanIds) \ {u} = want
    rw [hbits, Finset.insert_sdiff_of_mem _ (Finset.mem_singleton_self u),
      Finset.sdiff_singleton_eq_erase, Finset.erase_eq_of_notMem hdisj])
  have hfinal : ∀ w, w = u ∨ w ∈ want → s₃.isMember p w := by
    rintro w (rfl | hw)
    · have : w ∈ s₃.untaggedVlans p := by simp [huntagged]
      rw [VirtualSwitchState.mem_untaggedVlans] at this
      rw [h₃.derived.isUntagged_iff] at this
      exact (h₃.derived.isMember_iff w).mpr ⟨this.1, Or.inl this.2⟩
    · have : w ∈ s₃.taggedVlans p := by rwa [htagged]
      exact (VirtualSwitchState.mem_taggedVlans.mp this).1
  have hback : ∀ w ∈ s.vlanIds,
      ((w ∈ (s.row p).untagged ∨ w ∈ (s.row p).tagged s.vlanIds) ∨ w = u ∨ w ∈ want) →
      s.isMember p w ∨ s₃.isMember p w := by
    rintro w hw (hbefore | hafter)
    · exact Or.inl ((hderived.isMember_iff w).mpr ⟨VirtualSwitchState.mem_vlanIds.mp hw, hbefore⟩)
    · exact Or.inr (hfinal w hafter)
  refine ⟨huntagged, htagged, hstep₃.others, fun t ht w hw => ?_⟩
  simp only [List.mem_cons, List.not_mem_nil, or_false] at ht
  rcases ht with rfl | rfl | rfl
  · obtain ⟨hid, hmem⟩ := (h₁.isMember_iff w).mp hw
    exact hback w hid (mem_row_allowedVlans hbits hmem)
  · obtain ⟨hid, hmem⟩ := (hstep₂.isMember_iff w).mp hw
    exact hback w hid (mem_row_nativeVlan hbits hmem)
  · exact Or.inr hw

/-- An access plan's two varbinds are accepted and leave the port in `u` alone, passing only
through memberships from before or after. -/
theorem applyEach_access {u : ℤ} (hs : s.switchportModel = true) (hp : 0 ≤ p)
    (hderived : s.SwitchportDerived p) (hu : u ∈ s.vlanIds) :
    ∃ s₁ s₂, applyEach s
        [⟨instanceOid fastpathSwitchportAccessVlan p, .int u⟩,
          ⟨instanceOid fastpathSwitchportMode p, .int switchportModeAccess⟩] = .ok [s₁, s₂] ∧
      ∀ vbs, PlanAchieved p ⟨u, ∅, vbs⟩ s s₂ [s₁, s₂] := by
  obtain ⟨s₁, hw₁, h₁⟩ := send_accessVlan hs hp u
  obtain ⟨s₂, hw₂, h₂⟩ := send_mode (h₁.model.trans hs) hp switchportModeAccess
  rw [h₁.row] at h₂
  have hstep₂ := h₁.trans h₂
  refine ⟨s₁, s₂, applyEach_cons hw₁ (applyEach_cons hw₂ rfl), fun vbs => ?_⟩
  obtain ⟨huntagged, htagged⟩ := hstep₂.lands hu (Finset.empty_subset _)
    (Finset.notMem_empty u) rfl rfl
  refine ⟨huntagged, htagged, hstep₂.others, fun t ht w hw => ?_⟩
  simp only [List.mem_cons, List.not_mem_nil, or_false] at ht
  rcases ht with rfl | rfl
  · obtain ⟨hid, hmem⟩ := (h₁.isMember_iff w).mp hw
    rcases mem_row_accessVlan hmem with hbefore | rfl
    · exact Or.inl ((hderived.isMember_iff w).mpr
        ⟨VirtualSwitchState.mem_vlanIds.mp hid, hbefore⟩)
    · exact Or.inr ((hstep₂.isMember_iff w).mpr ⟨hid, Or.inl (Finset.mem_singleton_self w)⟩)
  · exact Or.inr hw

end Sending

/-! ## §7 Every plan is carried out -/

/-- A plan that is not refused, made from the device's own readings, is accepted varbind by
varbind and lands exactly. -/
theorem planSwitchportMembership_achieved {s : VirtualSwitchState} {v p : ℤ} {mode : VlanMode}
    {plan : SwitchportPlan} (hs : s.switchportModel = true) (hdefault : defaultVlan ∈ s.vlans)
    (hids : ∀ w ∈ s.vlans, 1 ≤ w ∧ w ≤ 4094) (hderived : s.SwitchportDerived p)
    (hv : v ∈ s.vlans) (hp : 1 ≤ p)
    (hplan : planSwitchportMembership v p mode (some (s.row p).mode) (s.row p).allowedVlans
      (s.taggedVlans p) (s.untaggedVlans p) s.vlanIds = .ok plan) :
    ∃ trace final, applyEach s plan.varbinds = .ok trace ∧ trace.getLast? = some final ∧
      PlanAchieved p plan s final trace := by
  have hids' : ∀ w ∈ s.vlanIds, 1 ≤ w ∧ w ≤ 4094 := fun w hw =>
    hids w (VirtualSwitchState.mem_vlanIds.mp hw)
  obtain ⟨u, hu, hplan⟩ := planSwitchportMembership_eq_ok hplan
  obtain ⟨huid, hwant, hdisj⟩ := planUntagged_wanted (s.disjoint_taggedVlans p)
    (s.taggedVlans_subset p) (s.untaggedVlans_subset p) (VirtualSwitchState.mem_vlanIds.mpr hv)
    (VirtualSwitchState.mem_vlanIds.mpr hdefault) hu
  rcases hplan with ⟨bits, hallowed, rfl⟩ | ⟨hempty, rfl⟩
  · obtain ⟨bits', hallowed', hbits⟩ := planAllowed_spec (some (s.row p).mode)
      (s.row p).allowedVlans hids' huid hwant
    obtain rfl : bits' = bits := Option.some.inj (hallowed'.symm.trans hallowed)
    obtain ⟨s₁, s₂, s₃, hrun, hach⟩ :=
      applyEach_trunk hs (by omega) hderived huid hwant hdisj hbits
    exact ⟨_, s₃, hrun, rfl, hach _⟩
  · obtain ⟨s₁, s₂, hrun, hach⟩ := applyEach_access hs (by omega) hderived huid
    rw [hempty]
    exact ⟨_, s₂, hrun, rfl, hach _⟩

/-- An M4300 whose port 1 is a trunk: native VLAN 1, allowed VLANs 1, 10 and the absent 12. -/
def trunkPortSwitch : VirtualSwitchState :=
  let s : VirtualSwitchState :=
    { modelKey := .m4300_24x
      ports := .ofList [(1, { name := "1/0/1".toList, admin := true, link := true, speed := 10000 })]
      vlans := .ofList [(1, { name := "default".toList }), (10, { name := "voice".toList }),
        (20, { name := "lab".toList })]
      switchportMode := .ofList [(1, switchportModeTrunk)]
      switchportAllowedVlans := .ofList [(1, [0x80, 0x50])] }
  s.applySwitchport 1

/-- Untagging the trunk in VLAN 20 plans, and reaches, untagged 20 and tagged 10. -/
theorem planSwitchportMembership_achieved_trunk :
    ∃ plan trace final, planSwitchportMembership 20 1 .untagged
        (some (trunkPortSwitch.row 1).mode) (trunkPortSwitch.row 1).allowedVlans
        (trunkPortSwitch.taggedVlans 1) (trunkPortSwitch.untaggedVlans 1) trunkPortSwitch.vlanIds =
          .ok plan ∧
      plan.untaggedVlan = 20 ∧ plan.taggedVlans = {10} ∧
      applyEach trunkPortSwitch plan.varbinds = .ok trace ∧ trace.getLast? = some final ∧
      PlanAchieved 1 plan trunkPortSwitch final trace := by
  have hok : (planSwitchportMembership 20 1 .untagged
      (some (trunkPortSwitch.row 1).mode) (trunkPortSwitch.row 1).allowedVlans
      (trunkPortSwitch.taggedVlans 1) (trunkPortSwitch.untaggedVlans 1)
      trunkPortSwitch.vlanIds).toOption.map (fun plan => (plan.untaggedVlan, plan.taggedVlans)) =
        some (20, {10}) := by
    decide +kernel
  cases hplan : planSwitchportMembership 20 1 .untagged
      (some (trunkPortSwitch.row 1).mode) (trunkPortSwitch.row 1).allowedVlans
      (trunkPortSwitch.taggedVlans 1) (trunkPortSwitch.untaggedVlans 1) trunkPortSwitch.vlanIds with
  | error e =>
    rw [hplan] at hok
    cases hok
  | ok plan =>
    rw [hplan] at hok
    have hpair := Option.some.inj hok
    obtain ⟨trace, final, hrun⟩ := planSwitchportMembership_achieved (by decide) (by decide)
      (by decide) (VirtualSwitchState.switchportDerived_applySwitchport _ 1)
      (by decide) (by decide) hplan
    exact ⟨plan, trace, final, rfl, congrArg Prod.fst hpair, congrArg Prod.snd hpair, hrun⟩

end NetgearSwitch.Snmp
