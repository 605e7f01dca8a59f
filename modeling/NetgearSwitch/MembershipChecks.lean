import NetgearSwitch.Nsdp.Writer
import NetgearSwitch.Snmp.PortListWrites

/-!
# What a verified membership write has seen

A membership write that returns has compared a read-back with what it asked for.  Whatever device
answered, the three writers have seen different things by then: the Q-BRIDGE dialect all physical
ports of the VLAN, the switchport dialect the one port in every VLAN, NSDP the one port in the
one VLAN.

§1 reading and editing · §2 the Q-BRIDGE dialect · §3 the switchport dialect · §4 NSDP · §5 all
three
-/

namespace NetgearSwitch

open Script

/-- The VLAN shows the port in the mode. -/
def ShowsMode (info : VLANInfo) (port : ℤ) (mode : VlanMode) : Prop :=
  (port ∈ info.memberPorts ↔ mode ≠ .excluded) ∧ (port ∈ info.untaggedPorts ↔ mode = .untagged)

namespace Snmp

variable {δ : Type} {m : Machine δ SnmpRequest SnmpReply} {d d' : δ}

/-! ## §1 Reading and editing -/

theorem exists_rows_of_getVlans {vlans : List VLANInfo}
    (h : Ends m SnmpReader.getVlans d (.ok vlans) d') :
    ∃ names egress untagged ifTypes currentEgress currentUntagged,
      parseVlans names egress untagged ifTypes currentEgress currentUntagged = .ok vlans := by
  obtain ⟨names, d₁, -, h⟩ := h.exists_of_bind
  obtain ⟨egress, d₂, -, h⟩ := h.exists_of_bind
  obtain ⟨untagged, d₃, -, h⟩ := h.exists_of_bind
  obtain ⟨ifTypes, d₄, -, h⟩ := h.exists_of_bind
  obtain ⟨currentEgress, d₅, -, h⟩ := h.exists_of_bind
  obtain ⟨currentUntagged, d₆, -, h⟩ := h.exists_of_bind
  exact ⟨names, egress, untagged, ifTypes, currentEgress, currentUntagged, h.of_done.1⟩

/-- An edit that succeeds sets or clears the bit of a port from 1 on, and no other. -/
theorem numbers_of_setPortBit {current new : Bytes} {port : ℤ} {present : Bool} {widthBytes : ℕ}
    (hport : 1 ≤ port) (h : setPortBit current port present widthBytes = some new) (q : ℤ) :
    q ∈ Bitmap.numbers new ↔ if q = port then present = true else q ∈ Bitmap.numbers current := by
  have hnew : Bitmap.numbers new = if present then insert port (Bitmap.numbers current)
      else (Bitmap.numbers current).erase port := by
    cases present with
    | false =>
      obtain ⟨octets, hoctets, hnumbers⟩ := setPortBit_absent current port widthBytes
      rw [hoctets] at h
      cases h
      exact hnumbers
    | true =>
      have hlanding : landing port (targetWidth current.length widthBytes) = port := if_pos hport
      rcases setPortBit_present current port widthBytes with ⟨hle, -⟩ | ⟨octets, hoctets, -, hnumbers⟩
      · omega
      · rw [hoctets] at h
        cases h
        rw [hnumbers, hlanding]
        rfl
  rw [hnew]
  split_ifs with hp hq hq
  · simp [hq, hp]
  · simp [hq]
  · simp [hq, hp]
  · simp [hq]

/-- The octets an edit starts from hold the ports of the raw list, else those decoded. -/
theorem numbers_of_startOctets {raw : Option Bytes} {decoded : Finset ℤ} {octets : Bytes}
    (hdecoded : ∀ p ∈ decoded, 1 ≤ p) (h : startOctets raw decoded = some octets) :
    Bitmap.numbers octets = raw.elim decoded Bitmap.numbers := by
  cases raw with
  | some raw =>
    cases h
    rfl
  | none =>
    obtain ⟨data, hdata, -, hnumbers⟩ := @Bitmap.encodeNumbers_spec 8
      (PySet.sorted decoded) fun p hp => hdecoded p (PySet.mem_sorted.mp hp)
    have heq : octets = data := Option.some.inj (h.symm.trans hdata)
    rw [heq, hnumbers, PySet.toFinset_sorted]
    rfl

/-- What a Q-BRIDGE write edits: the VLAN as read, and the raw lists read after it. -/
structure ListEdit where
  before : VLANInfo
  raw : Option Bytes × Option Bytes
  lists : Bytes × Bytes

/-- The ports of a list before the write: those of its octets, where the device reports octets. -/
def ListEdit.ports (e : ListEdit) (c : PortListColumn) : Finset ℤ :=
  (c.pick e.raw).elim (c.decoded e.before) Bitmap.numbers

namespace SnmpWriter

variable (w : SnmpWriter) {v port : ℤ} {mode : VlanMode} {force : Bool}

/-! ## §2 The Q-BRIDGE dialect -/

/-- `set_vlan_membership` in the Q-BRIDGE dialect, up to its last SET. -/
def sendLists (v port : ℤ) (mode : VlanMode) (force : Bool) : SnmpScript ListEdit := do
  w.guard port force
  let vlans ← SnmpReader.getVlans
  let before ← done (orRaise .snmp (vlans.find? (·.vlanId = v)))
  let rawEgress ← rawBitmap dot1qVlanStaticEgress v
  let rawUntagged ← rawBitmap dot1qVlanStaticUntagged v
  let lists ← done (orRaise .indexError (w.newPortLists before port mode rawEgress rawUntagged))
  w.sendPortLists v lists
  pure ⟨before, (rawEgress, rawUntagged), lists⟩

theorem setVlanMembership_eq_sendLists (hmodel : w.model.snmpVlanWrite ≠ .fastpathSwitchport) :
    w.setVlanMembership v port mode force =
      w.sendLists v port mode force >>= fun e => verifyPortLists v e.lists := by
  simp only [setVlanMembership, sendLists, Script.bind_assoc, if_neg hmodel, setVlanQbridge]
  rfl

/-- The lists sent are the ports before the write with the one bit edited. -/
theorem mem_lists_of_sendLists {e : ListEdit} (hport : 1 ≤ port)
    (h : Ends m (w.sendLists v port mode force) d (.ok e) d') (c : PortListColumn) (q : ℤ) :
    q ∈ Bitmap.numbers (c.pick e.lists) ↔
      if q = port then c.present mode = true else q ∈ e.ports c := by
  obtain ⟨u, d₁, -, h⟩ := h.exists_of_bind
  obtain ⟨vlans, d₂, hvlans, h⟩ := h.exists_of_bind
  obtain ⟨before, d₃, hbefore, h⟩ := h.exists_of_bind
  obtain ⟨rawEgress, d₄, -, h⟩ := h.exists_of_bind
  obtain ⟨rawUntagged, d₅, -, h⟩ := h.exists_of_bind
  obtain ⟨lists, d₆, hlists, h⟩ := h.exists_of_bind
  obtain ⟨u, d₇, -, h⟩ := h.exists_of_bind
  cases h.of_done.1
  obtain ⟨names, egress, untagged, ifTypes, currentEgress, currentUntagged, hread⟩ :=
    exists_rows_of_getVlans hvlans
  have hmem := List.mem_of_find?_eq_some (orRaise_eq_ok.mp hbefore.of_done.1)
  have hpos := (wellRead_of_parseVlans hread before hmem).pos
  -- each list is edited on its own
  have hedit := orRaise_eq_ok.mp hlists.of_done.1
  simp only [newPortLists, membershipBitmaps, Option.bind_eq_bind, Option.bind_eq_some_iff] at hedit
  obtain ⟨startEgress, hegress, startUntagged, huntagged, newEgress, hnewEgress, newUntagged,
    hnewUntagged, heq⟩ := hedit
  cases heq
  cases c with
  | egress =>
    have hstart := numbers_of_startOctets hpos.1 hegress
    have hbit := numbers_of_setPortBit hport hnewEgress q
    rw [hstart] at hbit
    exact hbit
  | untagged =>
    have hstart := numbers_of_startOctets hpos.2 huntagged
    have hbit := numbers_of_setPortBit hport hnewUntagged q
    rw [hstart] at hbit
    exact hbit

/-- A Q-BRIDGE write that returns has read back the VLAN with exactly the physical ports it sent. -/
theorem readBack_of_verifyPortLists {lists : Bytes × Bytes} {u : Unit}
    (h : Ends m (verifyPortLists v lists) d (.ok u) d') :
    ∃ after d₁ keep, Ends m (vlan v) d (.ok (some after)) d₁ ∧ Ends m physical d₁ (.ok keep) d' ∧
      ∀ c : PortListColumn, c.decoded after = wantedPorts keep (c.pick lists) := by
  obtain ⟨after, d₁, hafter, h⟩ := h.exists_of_bind
  obtain ⟨keep, d₂, hkeep, h⟩ := h.exists_of_bind
  obtain ⟨info, d₃, hinfo, h⟩ := h.exists_of_bind
  obtain ⟨u', d₄, hegress, h⟩ := h.exists_of_bind
  obtain ⟨hsome, rfl⟩ := hinfo.of_done
  cases orRaise_eq_ok.mp hsome
  obtain ⟨hmember, rfl⟩ := hegress.of_ensure
  obtain ⟨huntagged, rfl⟩ := h.of_ensure
  refine ⟨info, d₁, keep, hafter, hkeep, fun c => ?_⟩
  cases c with
  | egress => exact hmember
  | untagged => exact huntagged

/-! ## §3 The switchport dialect -/

/-- `set_vlan_membership` in the switchport dialect, up to its last SET. -/
def sendPlan (v port : ℤ) (mode : VlanMode) (force : Bool) : SnmpScript SwitchportPlan := do
  w.guard port force
  let vlans ← SnmpReader.getVlans
  let _ ← done (orRaise .snmp (vlans.find? (·.vlanId = v)))
  let (currentTagged, currentUntagged) := portMembership vlans port
  let currentMode ← switchportMode port
  let currentAllowed ← switchportVlanBitmap fastpathSwitchportAllowedVlans port
  let plan ← done (planSwitchportMembership v port mode currentMode currentAllowed currentTagged
    currentUntagged (vlans.map (·.vlanId)).toFinset)
  sendEach plan.varbinds
  pure plan

/-- The read-back of a switchport write. -/
def verifyPlan (v port : ℤ) (plan : SwitchportPlan) : SnmpScript Unit := do
  let after ← SnmpReader.getVlans
  if switchportLanded plan v port after then pure ()
  else do
    let _ ← vlan v
    raise .writeVerification

theorem setVlanMembership_eq_sendPlan (hmodel : w.model.snmpVlanWrite = .fastpathSwitchport) :
    w.setVlanMembership v port mode force =
      w.sendPlan v port mode force >>= fun plan => verifyPlan v port plan := by
  simp only [setVlanMembership, sendPlan, Script.bind_assoc, if_pos hmodel, setVlanSwitchport]
  rfl

/-- What a plan asks for is what the mode asks for, but for an exclusion from the default VLAN. -/
theorem mode_of_plan {currentMode : Option ℤ} {currentAllowed : Bytes}
    {tagged untagged ids : Finset ℤ} {plan : SwitchportPlan}
    (h : planSwitchportMembership v port mode currentMode currentAllowed tagged untagged ids =
      .ok plan) :
    (mode = .untagged → plan.untaggedVlan = v) ∧ (mode = .tagged → v ∈ plan.taggedVlans) ∧
      (mode = .excluded → v ∉ plan.taggedVlans ∧ (v ≠ defaultVlan → plan.untaggedVlan ≠ v)) := by
  obtain ⟨u, hu, hplan⟩ := planSwitchportMembership_eq_ok h
  have huntagged : plan.untaggedVlan = u := by
    rcases hplan with ⟨bits, -, rfl⟩ | ⟨-, rfl⟩ <;> rfl
  have htagged : plan.taggedVlans = (wanted v mode tagged untagged).1 := by
    rcases hplan with ⟨bits, -, rfl⟩ | ⟨-, rfl⟩ <;> rfl
  rw [huntagged, htagged]
  refine ⟨?_, ?_, ?_⟩
  · rintro rfl
    have hsorted : PySet.sorted ({v} : Finset ℤ) = [v] := by
      rw [PySet.sorted_eq_sort]
      exact Finset.sort_singleton (· ≤ ·) v
    have hu' : planUntagged (tagged \ {v}) {v} = .ok v := by
      unfold planUntagged
      rw [hsorted]
    exact (Except.ok.inj (hu'.symm.trans hu)).symm
  · rintro rfl
    exact Finset.mem_union_right _ (Finset.mem_singleton_self v)
  · rintro rfl
    refine ⟨fun hmem => (Finset.mem_sdiff.mp hmem).2 (Finset.mem_singleton_self v), fun hv => ?_⟩
    rcases planUntagged_eq_ok hu with h | ⟨rfl, -⟩
    · intro heq
      have hmem : u ∈ (wanted v .excluded tagged untagged).2 := by
        rw [h]
        exact Finset.mem_singleton_self u
      exact (Finset.mem_sdiff.mp hmem).2 (Finset.mem_singleton.mpr heq)
    · exact fun heq => hv heq.symm

/-- A plan that was sent is the plan of the request. -/
theorem mode_of_sendPlan {plan : SwitchportPlan}
    (h : Ends m (w.sendPlan v port mode force) d (.ok plan) d') :
    (mode = .untagged → plan.untaggedVlan = v) ∧ (mode = .tagged → v ∈ plan.taggedVlans) ∧
      (mode = .excluded → v ∉ plan.taggedVlans ∧ (v ≠ defaultVlan → plan.untaggedVlan ≠ v)) := by
  obtain ⟨u, d₁, -, h⟩ := h.exists_of_bind
  obtain ⟨vlans, d₂, -, h⟩ := h.exists_of_bind
  obtain ⟨before, d₃, -, h⟩ := h.exists_of_bind
  obtain ⟨currentMode, d₄, -, h⟩ := h.exists_of_bind
  obtain ⟨currentAllowed, d₅, -, h⟩ := h.exists_of_bind
  obtain ⟨plan', d₆, hplan, h⟩ := h.exists_of_bind
  obtain ⟨u, d₇, -, h⟩ := h.exists_of_bind
  cases h.of_done.1
  exact mode_of_plan hplan.of_done.1

/-- A switchport write that returns has read back the port where the plan has it, in every VLAN. -/
theorem readBack_of_verifyPlan {plan : SwitchportPlan} {u : Unit}
    (h : Ends m (verifyPlan v port plan) d (.ok u) d') :
    ∃ after, Ends m SnmpReader.getVlans d (.ok after) d' ∧ switchportLanded plan v port after := by
  obtain ⟨after, d₁, hafter, h⟩ := h.exists_of_bind
  by_cases hlanded : switchportLanded plan v port after = true
  · rw [if_pos hlanded] at h
    obtain ⟨-, rfl⟩ := h.of_done
    exact ⟨after, hafter, hlanded⟩
  · rw [if_neg hlanded] at h
    obtain ⟨_, _, -, h⟩ := h.exists_of_bind
    cases h.of_done.1

/-- Where one entry has the VLAN's id, the VLAN is among a port's as that entry says. -/
theorem mem_vlansOf {after : List VLANInfo} {info : VLANInfo} (hinfo : info ∈ after)
    (hid : info.vlanId = v) (hunique : ∀ info' ∈ after, info'.vlanId = v → info' = info)
    (ports : VLANInfo → Finset ℤ) :
    v ∈ ((after.filter (port ∈ ports ·)).map (·.vlanId)).toFinset ↔ port ∈ ports info := by
  simp only [List.mem_toFinset, List.mem_map, List.mem_filter, decide_eq_true_eq]
  constructor
  · rintro ⟨info', ⟨hinfo', hport⟩, hid'⟩
    rwa [hunique info' hinfo' hid'] at hport
  · exact fun hport => ⟨info, ⟨hinfo, hport⟩, hid⟩

/-- A port that landed is in the VLAN in the mode, as far as its VLANs tell. -/
theorem showsMode_of_landed {plan : SwitchportPlan} {after : List VLANInfo}
    (hafter : Ends m SnmpReader.getVlans d (.ok after) d')
    (hlanded : switchportLanded plan v port after = true) :
    portMembership after port = (plan.taggedVlans, {plan.untaggedVlan}) ∧
      ∃ info ∈ after, info.vlanId = v ∧
        (port ∈ info.untaggedPorts ↔ plan.untaggedVlan = v) ∧
        (port ∈ info.taggedPorts ↔ v ∈ plan.taggedVlans) ∧
        info.taggedPorts = info.memberPorts \ info.untaggedPorts := by
  obtain ⟨names, egress, untagged, ifTypes, currentEgress, currentUntagged, hread⟩ :=
    exists_rows_of_getVlans hafter
  simp only [switchportLanded, Bool.and_eq_true, List.any_eq_true, decide_eq_true_eq] at hlanded
  obtain ⟨⟨⟨info, hinfo, hid⟩, huntagged⟩, htagged⟩ := hlanded
  have hunique : ∀ info' ∈ after, info'.vlanId = v → info' = info := by
    intro info' hinfo' hid'
    exact List.inj_on_of_nodup_map (nodup_vlanId_of_parseVlans hread) hinfo' hinfo
      (hid'.trans hid.symm)
  refine ⟨Prod.ext htagged huntagged, info, hinfo, hid, ?_, ?_,
    (wellRead_of_parseVlans hread info hinfo).tagged⟩
  · have hmem : v ∈ (portMembership after port).2 ↔ port ∈ info.untaggedPorts :=
      mem_vlansOf hinfo hid hunique _
    rw [← hmem, huntagged, Finset.mem_singleton, eq_comm]
  · have hmem : v ∈ (portMembership after port).1 ↔ port ∈ info.taggedPorts :=
      mem_vlansOf hinfo hid hunique _
    rw [← hmem, htagged]

end SnmpWriter

end Snmp

/-! ## §4 NSDP -/

namespace Nsdp.NsdpWriter

variable {δ : Type} {m : NsdpMachine δ} {d d' : δ} (w : NsdpWriter) {v port : ℤ}
  {mode : VlanMode} {force : Bool}

/-- `set_vlan_membership` over NSDP, up to its write. -/
def sendRecord (v port : ℤ) (mode : VlanMode) (force : Bool) : NsdpScript Unit := do
  w.guard port force
  let before ← vlan v
  let (members, tagged) := membersAfter before port mode
  w.send ((vlanMembersTlv v members tagged w.model.portCount).map ([·]))

theorem setVlanMembership_eq_sendRecord :
    w.setVlanMembership v port mode force = w.sendRecord v port mode force >>= fun _ =>
      vlan v >>= fun after => ensure (membershipOk after port mode = true) .writeVerification := by
  simp only [setVlanMembership, sendRecord, Script.bind_assoc]

/-- The VLAN a reader finds leaves what is tagged out of what is untagged. -/
theorem untagged_of_vlan {info : VLANInfo} (h : Ends m (vlan v) d (.ok (some info)) d') :
    info.untaggedPorts = info.memberPorts \ info.taggedPorts := by
  obtain ⟨all, d₁, hall, h⟩ := h.exists_of_bind
  have hfind : all.find? (·.vlanId = v) = some info := Except.ok.inj h.of_done.1
  obtain ⟨dev, d₂, -, hvlans⟩ := hall.exists_of_bind
  have hall : vlans dev = all := Except.ok.inj hvlans.of_done.1
  have hmem := List.mem_of_find?_eq_some hfind
  rw [← hall, vlans, List.mem_map] at hmem
  obtain ⟨record, -, rfl⟩ := hmem
  rfl

/-- A read-back that passes shows the port in the mode; no VLAN excludes it. -/
theorem showsMode_of_membershipOk {after : Option VLANInfo}
    (hafter : Ends m (vlan v) d (.ok after) d') (hok : membershipOk after port mode = true) :
    (∀ info, after = some info → ShowsMode info port mode) ∧ (after = none → mode = .excluded) := by
  refine ⟨?_, ?_⟩
  · rintro info rfl
    have huntagged := untagged_of_vlan hafter
    rw [ShowsMode, huntagged, Finset.mem_sdiff]
    cases mode <;> simp [membershipOk] at hok ⊢ <;> simp [hok]
  · rintro rfl
    exact of_decide_eq_true hok

end Nsdp.NsdpWriter

/-! ## §5 All three -/

/-- **What a membership write that returns has seen.**  Whatever the device answers.  In the Q-BRIDGE
dialect: of the physical ports, exactly those of the lists read before the write, with the one bit
as the mode has it.  In the switchport dialect: the port untagged and tagged in exactly the VLANs of
the plan, hence in the VLAN in its mode unless it was to leave the default VLAN; of an untagged port
only that it is untagged.  Over NSDP: the port in the VLAN in its mode. -/
theorem setVlanMembership_readBack {δ ε : Type}
    (m : Machine δ Snmp.SnmpRequest Snmp.SnmpReply) (d d' : δ) (n : Nsdp.NsdpMachine ε) (e e' : ε)
    (v port : ℤ) (mode : VlanMode) (force : Bool) :
    (∀ w : Snmp.SnmpWriter, w.model.snmpVlanWrite ≠ .fastpathSwitchport → 1 ≤ port →
      Ends m (w.setVlanMembership v port mode force) d (.ok ()) d' →
        ∃ edit d₁ after d₂ keep, Ends m (w.sendLists v port mode force) d (.ok edit) d₁ ∧
          Ends m (Snmp.SnmpWriter.vlan v) d₁ (.ok (some after)) d₂ ∧
          Ends m Snmp.SnmpWriter.physical d₂ (.ok keep) d' ∧
          ∀ (c : Snmp.PortListColumn) (q : ℤ), q ∈ c.decoded after ↔
            (if q = port then c.present mode = true else q ∈ edit.ports c) ∧
              ∀ physical, keep = some physical → q ∈ physical) ∧
    (∀ w : Snmp.SnmpWriter, w.model.snmpVlanWrite = .fastpathSwitchport →
      Ends m (w.setVlanMembership v port mode force) d (.ok ()) d' →
        ∃ plan d₁ after, Ends m (w.sendPlan v port mode force) d (.ok plan) d₁ ∧
          Ends m Snmp.SnmpReader.getVlans d₁ (.ok after) d' ∧
          Snmp.SnmpWriter.portMembership after port = (plan.taggedVlans, {plan.untaggedVlan}) ∧
          ∃ info ∈ after, info.vlanId = v ∧
            (mode = .untagged → port ∈ info.untaggedPorts) ∧
            (mode = .tagged ∨ mode = .excluded ∧ v ≠ Snmp.defaultVlan →
              (port ∈ info.memberPorts ↔ mode = .tagged) ∧
                (port ∈ info.taggedPorts ↔ mode = .tagged))) ∧
    ∀ w : Nsdp.NsdpWriter,
      Ends n (w.setVlanMembership v port mode force) e (.ok ()) e' →
        ∃ e₁ after, Ends n (w.sendRecord v port mode force) e (.ok ()) e₁ ∧
          Ends n (Nsdp.NsdpWriter.vlan v) e₁ (.ok after) e' ∧
          (∀ info, after = some info → ShowsMode info port mode) ∧
          (after = none → mode = .excluded) := by
  refine ⟨?_, ?_, ?_⟩
  · intro w hmodel hport h
    rw [w.setVlanMembership_eq_sendLists hmodel] at h
    obtain ⟨edit, d₁, hsent, hverified⟩ := h.exists_of_bind
    obtain ⟨after, d₂, keep, hafter, hkeep, hlists⟩ :=
      Snmp.SnmpWriter.readBack_of_verifyPortLists hverified
    refine ⟨edit, d₁, after, d₂, keep, hsent, hafter, hkeep, fun c q => ?_⟩
    rw [hlists c, ← w.mem_lists_of_sendLists hport hsent c q, Snmp.SnmpWriter.wantedPorts]
    cases keep with
    | none => simp
    | some physical => simp
  · intro w hmodel h
    rw [w.setVlanMembership_eq_sendPlan hmodel] at h
    obtain ⟨plan, d₁, hsent, hverified⟩ := h.exists_of_bind
    obtain ⟨after, hafter, hlanded⟩ := Snmp.SnmpWriter.readBack_of_verifyPlan hverified
    obtain ⟨hvlans, info, hinfo, hid, huntagged, htagged, hmember⟩ :=
      Snmp.SnmpWriter.showsMode_of_landed hafter hlanded
    obtain ⟨hplan, hplan', hplan''⟩ := w.mode_of_sendPlan hsent
    refine ⟨plan, d₁, after, hsent, hafter, hvlans, info, hinfo, hid, fun h => ?_, ?_⟩
    · exact huntagged.mpr (hplan h)
    · rintro (rfl | ⟨rfl, hv⟩)
      · have hport := htagged.mpr (hplan' rfl)
        have hin := hport
        rw [hmember] at hin
        simp [hport, (Finset.mem_sdiff.mp hin).1]
      · obtain ⟨hnot, hne⟩ := hplan'' rfl
        have hport : port ∉ info.taggedPorts := fun h => hnot (htagged.mp h)
        have hout : port ∉ info.memberPorts := fun h => hport (by
          rw [hmember]
          exact Finset.mem_sdiff.mpr ⟨h, fun h => hne hv (huntagged.mp h)⟩)
        simp [hport, hout]
  · intro w h
    rw [w.setVlanMembership_eq_sendRecord] at h
    obtain ⟨u, e₁, hsent, h⟩ := h.exists_of_bind
    obtain ⟨after, e₂, hafter, h⟩ := h.exists_of_bind
    obtain ⟨hok, rfl⟩ := h.of_ensure
    exact ⟨e₁, after, hsent, hafter, Nsdp.NsdpWriter.showsMode_of_membershipOk hafter hok⟩

/-- An agent whose VLAN 5 has ports 1 and 2 as untagged members, and whatever else is asked for. -/
def settledAgent : Machine Unit Snmp.SnmpRequest Snmp.SnmpReply := fun _ q => ((),
  match q with
  | .walk base =>
    if base = Snmp.dot1qVlanStaticName then
      .ok [⟨Snmp.oidText (base ++ [5]), .str "lab".toList, "STRING".toList⟩]
    else if base = Snmp.dot1qVlanStaticEgress ∨ base = Snmp.dot1qVlanStaticUntagged then
      .ok [⟨Snmp.oidText (base ++ [5]), .bytes [0xC0, 0, 0, 0, 0, 0, 0, 0],
        "Hex-STRING".toList⟩]
    else .ok []
  | _ => .ok [])

/-- An NSDP switch with one VLAN, whose record a write may change. -/
def recordSwitch (before after : Bytes) : Nsdp.NsdpMachine Bool
  | _, .write _ _ => (true, .ok ⟨.writeResponse, [], [], 0, 0, [], 0⟩)
  | written, .read _ => (written, .ok
      { op := .readResponse
        clientMac := List.replicate 6 0
        tlvs := [⟨Nsdp.Tag.model, [0x47]⟩, ⟨Nsdp.Tag.portCount, [5]⟩,
          ⟨Nsdp.Tag.vlanMembers, if written then after else before⟩] })

def labQbridgeWriter : Snmp.SnmpWriter := 
  { modelKey := .gsm7252ps, hasSnmp := Snmp.hasSnmp_gsm7252ps }

def labSwitchportWriter : Snmp.SnmpWriter := { modelKey := .m4300_24x, hasSnmp := by decide }

def labNsdpWriter : Nsdp.NsdpWriter where
  modelKey := .gs305ep
  password := []
  hasNsdp := by decide

private theorem settled_returns :
    ((labQbridgeWriter.setVlanMembership 5 1 .untagged false).run settledAgent ()).result = .ok () ∧
      ((labSwitchportWriter.setVlanMembership 5 1 .untagged false).run settledAgent ()).result =
        .ok () ∧
      ((labNsdpWriter.setVlanMembership 5 1 .untagged false).run
          (recordSwitch [0, 5, 0xC0, 0x40] [0, 5, 0xC0, 0x40]) false).result = .ok () ∧
      ((labNsdpWriter.setVlanMembership 5 1 .untagged false).run
          (recordSwitch [0, 5, 0xC0, 0x40] [0, 5, 0xC0, 0x40]) false).device = true := by
  decide +kernel

/-- A write that asks for what is there already, in each dialect. -/
theorem setVlanMembership_readBack_settled :
    (∃ edit d₁ after d₂ keep,
      Ends settledAgent (labQbridgeWriter.sendLists 5 1 .untagged false) () (.ok edit) d₁ ∧
        Ends settledAgent (Snmp.SnmpWriter.vlan 5) d₁ (.ok (some after)) d₂ ∧
        Ends settledAgent Snmp.SnmpWriter.physical d₂ (.ok keep) () ∧
        ∀ (c : Snmp.PortListColumn) (q : ℤ), q ∈ c.decoded after ↔
          (if q = 1 then c.present .untagged = true else q ∈ edit.ports c) ∧
            ∀ physical, keep = some physical → q ∈ physical) ∧
    (∃ plan d₁ after,
      Ends settledAgent (labSwitchportWriter.sendPlan 5 1 .untagged false) () (.ok plan) d₁ ∧
        Ends settledAgent Snmp.SnmpReader.getVlans d₁ (.ok after) () ∧
        Snmp.SnmpWriter.portMembership after 1 = (plan.taggedVlans, {plan.untaggedVlan}) ∧
        ∃ info ∈ after, info.vlanId = 5 ∧ 1 ∈ info.untaggedPorts) ∧
    ∃ e₁ after,
      Ends (recordSwitch [0, 5, 0xC0, 0x40] [0, 5, 0xC0, 0x40])
          (labNsdpWriter.sendRecord 5 1 .untagged false) false (.ok ()) e₁ ∧
        Ends (recordSwitch [0, 5, 0xC0, 0x40] [0, 5, 0xC0, 0x40]) (Nsdp.NsdpWriter.vlan 5) e₁
          (.ok after) true ∧
        (∀ info, after = some info → ShowsMode info 1 .untagged) ∧ after ≠ none := by
  obtain ⟨hqbridge, hswitchport, hnsdp, hdevice⟩ := settled_returns
  obtain ⟨hlists, hplan, hrecord⟩ := setVlanMembership_readBack settledAgent () ()
    (recordSwitch [0, 5, 0xC0, 0x40] [0, 5, 0xC0, 0x40]) false true 5 1 .untagged false
  refine ⟨hlists labQbridgeWriter (by decide) (by decide) ⟨hqbridge, rfl⟩, ?_, ?_⟩
  · obtain ⟨plan, d₁, after, hsent, hafter, hvlans, info, hinfo, hid, hmode, -⟩ :=
      hplan labSwitchportWriter (by decide) ⟨hswitchport, rfl⟩
    exact ⟨plan, d₁, after, hsent, hafter, hvlans, info, hinfo, hid, hmode rfl⟩
  · obtain ⟨e₁, after, hsent, hafter, hshows, hnone⟩ :=
      hrecord labNsdpWriter ⟨hnsdp, hdevice⟩
    exact ⟨e₁, after, hsent, hafter, hshows, fun h => nomatch hnone h⟩

/-- A switch that takes the record of port 1 and drops port 2 from the VLAN: the write returns. -/
theorem setVlanMembership_loses_other_port :
    ((labNsdpWriter.setVlanMembership 5 1 .tagged false).run
        (recordSwitch [0, 5, 0xC0, 0] [0, 5, 0x80, 0x80]) false).result = .ok () ∧
      ((Nsdp.NsdpWriter.vlan 5).run
        (recordSwitch [0, 5, 0xC0, 0] [0, 5, 0x80, 0x80]) false).result =
          .ok (some ⟨5, none, {1, 2}, ∅, {1, 2}⟩) ∧
      ((Nsdp.NsdpWriter.vlan 5).run
        (recordSwitch [0, 5, 0xC0, 0] [0, 5, 0x80, 0x80]) true).result =
          .ok (some ⟨5, none, {1}, {1}, ∅⟩) := by
  decide +kernel

end NetgearSwitch
