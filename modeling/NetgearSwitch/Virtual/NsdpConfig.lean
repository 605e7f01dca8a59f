import NetgearSwitch.Virtual.NsdpStore

/-!
# NSDP writes on the store

`NsdpWriter` over a lossless exchange with the virtual switch.  Every write is a read, an
authenticated write and a second read; a run of writes, those that are refused and those that do not
land included, is a run on the store.

§1 a write that is sent · §2 VLANs · §3 PVIDs, labels and addresses · §4 runs
-/

namespace NetgearSwitch.Virtual

open Nsdp BigEndian Script
open Snmp (VlanEntry PortEntry ConfigStore PortListColumn editLists)

section Exchanges

variable {urandom : ℕ → Bytes} {network : ℕ → DatagramNet.Delivery} {room : ℕ} {ids : Finset ℤ}

/-! ## §1 A write that is sent -/

variable {writer : NsdpWriter} {w : World VirtualNsdpFace} {s s' : VirtualSwitchState}

/-- The tags of the writes. -/
def writeTags : List ℕ :=
  [Tag.vlanMembers, Tag.vlanDestroy, Tag.portPvid, Tag.portName, Tag.ipAddress, Tag.netmask, Tag.gateway,
    Tag.hostname]

theorem writable_of_mem_writeTags : ∀ tag ∈ writeTags,
    tag < Tag.endOfMark ∧ tag ≠ Tag.password ∧ tag ≠ Tag.authV2Password := by decide

/-- What is asked of a VLAN. -/
theorem NsdpPlain.vlan (h : NsdpPlain room ids s) (v : ℤ) (vsim : VlanSim)
    (hvsim : s.vlans.get? v = some vsim) :
    v ∈ ids ∧ (∀ p ∈ vsim.member, 0 < p ∧ p ≤ s.model.portCount) ∧ vsim.untagged ⊆ vsim.member :=
  ⟨h.listed v (PyDict.mem_iff_isSome.mpr (Option.isSome_of_eq_some hvsim)),
    h.vlans.member_fits v vsim hvsim, h.vlans.untagged_sub v vsim hvsim⟩

/-- A switch stays plain with tables that keep to the same bounds; a salt and a count of failures make
no difference. -/
theorem NsdpPlain.withTables (h : NsdpPlain room ids s) {vlans : PyDict ℤ VlanSim}
    {ports : PyDict ℤ PortSim} {pvids : PyDict ℤ ℤ} {mgmt : MgmtSim}
    (hvlans : ∀ v vsim, vlans.get? v = some vsim →
      v ∈ ids ∧ (∀ p ∈ vsim.member, 0 < p ∧ p ≤ s.model.portCount) ∧ vsim.untagged ⊆ vsim.member)
    (hports : ∀ p sim, ports.get? p = some sim →
      FitsField 1 p ∧ (PyCodec.utf8Encode (sim.description.getD [])).length ≤ room)
    (hcount : ports.sortedItems.length = s.ports.sortedItems.length)
    (hpvids : ∀ p v, pvids.get? p = some v → FitsField 1 p ∧ FitsField 2 v)
    (haddresses : ∀ a ∈ [mgmt.address, mgmt.netmask, mgmt.gateway], (PyCodec.inetAton a).isSome)
    (salt : Option Bytes) (failures : ℤ) :
    NsdpPlain room ids { s with
      vlans := vlans
      ports := ports
      pvids := pvids
      mgmt := mgmt
      nsdpLastSalt := salt
      nsdpAuthFailures := failures } := by
  have hlisted : ∀ v ∈ vlans, v ∈ ids := by
    intro v hv
    obtain ⟨vsim, hvsim⟩ := Option.isSome_iff_exists.mp (PyDict.mem_iff_isSome.mp hv)
    exact (hvlans v vsim hvsim).1
  have hsize := h.portsSize
  rw [← hcount] at hsize
  exact ⟨⟨⟨fun v vsim hvsim => (hvlans v vsim hvsim).2.1, h.reportable.bitmaps.sources_fit⟩,
      h.reportable.mac⟩,
    h.name, h.hostname,
    ⟨fun v hv => (h.fitting v (hlisted v hv)).1, fun v hv => (h.fitting v (hlisted v hv)).2,
      fun v vsim hvsim => (hvlans v vsim hvsim).2.1, fun v vsim hvsim => (hvlans v vsim hvsim).2.2⟩,
    hlisted, h.fitting, hports, hpvids, haddresses, h.identitySize, hsize, h.vlansSize, h.writeSize⟩

/-- TLVs that the switch takes are written. -/
theorem Heard.send (h : Heard urandom network room ids w s) (hpassword : writer.password = s.nsdpPassword)
    {tlvs : List TLVEntry} (htags : ∀ t ∈ tlvs, t.tag ∈ writeTags)
    (happly : s.applyTlvs tlvs = .ok s') (hsize : tlvSize tlvs ≤ room + 120)
    (hplain : NsdpPlain room ids s') :
    ∃ w' salt failures,
      Heard urandom network room ids w'
          { s' with nsdpLastSalt := salt, nsdpAuthFailures := failures } ∧
        Ends (clientCall urandom network) (writer.send (.ok tlvs)) w (.ok ()) w' := by
  have hfits : Nsdp.writeSize s tlvs ≤ 4096 + 4 := by
    have hproof := h.plain.writeSize
    have hsum : (tlvs.map fun t => 4 + t.value.length).sum ≤ room + 120 := hsize
    rw [Nsdp.writeSize, headerSize]
    omega
  obtain ⟨w', resp, s'', hwrite, hconnected, hstate⟩ :=
    h.connected.write h.accepts (fun t ht => writable_of_mem_writeTags _ (htags t ht)) happly hfits
  obtain ⟨w₁, hresolve, -⟩ := h.connected.resolveScheme h.accepts.version h.accepts.scheme fun hauto =>
    h.accepts.name (by simp [hauto])
  have hscheme : w'.client.authScheme = advertisedScheme s := by
    have hkept := World.authScheme_write hresolve tlvs s.nsdpPassword
    rw [hwrite] at hkept
    rw [hkept, advertisedScheme]
    by_cases hv2 : s.nsdpAuthVersion = encpassV2
    · rw [if_pos hv2, if_pos (decide_eq_true hv2)]
    · rw [if_neg hv2, if_neg (by simpa using hv2)]
  -- A v2 write spends its salt and clears the failures; nothing else stays of the handshake.
  obtain ⟨salt, failures, hfailures, rfl⟩ : ∃ salt failures,
      (s.nsdpAuthVersion = encpassV2 → failures ≤ VirtualSwitchState.v2SilenceAt) ∧
      s'' = { s' with nsdpLastSalt := salt, nsdpAuthFailures := failures } := by
    rcases hstate with ⟨hv1, rfl⟩ | ⟨-, salt, rfl⟩
    · refine ⟨s''.nsdpLastSalt, s''.nsdpAuthFailures, fun hv2 => ?_, rfl⟩
      rw [hv1] at hv2
      exact absurd hv2 (by decide)
    · exact ⟨some salt, 0, fun _ => by decide, rfl⟩
  -- The tables are no part of what the client is accepted by.
  obtain ⟨ports, vlans, pvids, mgmt, rfl⟩ : ∃ ports vlans pvids mgmt,
      s' = { s with ports := ports, vlans := vlans, pvids := pvids, mgmt := mgmt } := by
    have hframe := VirtualSwitchState.applyConfigTlvs_frame Tag.password tlvs s
    rwa [VirtualSwitchState.applyConfigTlvs_of_applyTlvs
      (fun t ht => (writable_of_mem_writeTags _ (htags t ht)).2.1) happly] at hframe
  have hcall : clientCall urandom network w (.write tlvs writer.password) = (w', .ok resp) := by
    rw [hpassword]
    exact hwrite
  have ha := h.accepts
  refine ⟨w', salt, failures, ⟨hconnected, ⟨ha.salts, ha.version, .inr hscheme, ha.password,
    fun _ => hplain.name, fun _ => hplain.reportable.mac, hfailures⟩,
    hplain.withTables hplain.vlan hplain.ports rfl hplain.pvids hplain.addresses salt failures⟩, ?_⟩
  exact (ends_done _).bind ((ends_call hcall).bind ((ends_done _).bind (ends_done _)))

/-- A write that ends with `r`, the store then being `c`. -/
def LandsIn (urandom : ℕ → Bytes) (network : ℕ → DatagramNet.Delivery) (room : ℕ) (ids : Finset ℤ)
    (w : World VirtualNsdpFace) (s : VirtualSwitchState) (script : NsdpScript Unit) (c : NsdpStore)
    (r : Except LibError Unit) : Prop :=
  ∃ w' s', Heard urandom network room ids w' s' ∧ s.SameNsdpRest s' ∧ s'.nsdpStore = c ∧
    Ends (clientCall urandom network) script w r w'

theorem ends_verdict {δ : Type} {m : NsdpMachine δ} {d : δ} (landed : Prop) [Decidable landed] :
    Ends m (ensure landed .writeVerification : NsdpScript Unit) d (NsdpStore.verdict landed) d := by
  unfold NsdpStore.verdict
  by_cases h : landed
  · rw [if_pos h]
    exact ends_ensure h _
  · rw [if_neg h]
    exact ends_ensure_of_not h _

/-- A read that changes nothing, before a write. -/
theorem Reads.lands {α : Type} {read : NsdpScript α} {view : VirtualSwitchState → α}
    (hread : Reads urandom network room ids read view) (h : Heard urandom network room ids w s)
    {next : α → NsdpScript Unit} {c : NsdpStore} {r : Except LibError Unit}
    (hnext : ∀ w, Heard urandom network room ids w s →
      LandsIn urandom network room ids w s (next (view s)) c r) :
    LandsIn urandom network room ids w s (read >>= next) c r := by
  obtain ⟨w₁, h₁, hends₁⟩ := hread w s h
  obtain ⟨w₂, s₂, h₂, hrest, hstore, hends₂⟩ := hnext w₁ h₁
  exact ⟨w₂, s₂, h₂, hrest, hstore, hends₁.bind hends₂⟩

theorem LandsIn.after {α : Type} {p : NsdpScript α} {a : α} {f : α → NsdpScript Unit} {c : NsdpStore}
    {r : Except LibError Unit} (h : LandsIn urandom network room ids w s (f a) c r)
    (hp : Ends (clientCall urandom network) p w (.ok a) w) :
    LandsIn urandom network room ids w s (p >>= f) c r := by
  obtain ⟨w', s', hw', hrest, hstore, hends⟩ := h
  exact ⟨w', s', hw', hrest, hstore, hp.bind hends⟩

section Refusals

variable {protectedPorts : Finset ℤ} {force : Bool} {o : NsdpWrite} {e : LibError}

/-- A write that is refused before it is sent. -/
theorem Heard.lands_refused (h : Heard urandom network room ids w s)
    (hrefusal : s.nsdpStore.refusal protectedPorts force o = some e) {script : NsdpScript Unit}
    (hends : Ends (clientCall urandom network) script w (.error e) w) :
    LandsIn urandom network room ids w s script (s.nsdpStore.write protectedPorts (o, force)).1
      (s.nsdpStore.write protectedPorts (o, force)).2 := by
  rw [NsdpStore.write_refused hrefusal]
  exact ⟨w, s, h, .refl s, rfl, hends⟩

/-- A guard that the writer tests first, as the store does. -/
theorem Heard.lands_guarded (h : Heard urandom network room ids w s) {guard : Prop} [Decidable guard]
    (hrefusal : ¬ guard → s.nsdpStore.refusal protectedPorts force o = some e)
    {next : Unit → NsdpScript Unit}
    (hnext : guard → LandsIn urandom network room ids w s (next ())
      (s.nsdpStore.write protectedPorts (o, force)).1
      (s.nsdpStore.write protectedPorts (o, force)).2) :
    LandsIn urandom network room ids w s (ensure guard e >>= next)
      (s.nsdpStore.write protectedPorts (o, force)).1
      (s.nsdpStore.write protectedPorts (o, force)).2 := by
  by_cases hguard : guard
  · exact (hnext hguard).after (ends_ensure hguard _)
  · exact h.lands_refused (hrefusal hguard) (ends_ensure_of_not hguard _).bind_error

end Refusals

/-- TLVs that are written and read back. -/
theorem Heard.lands_sent (h : Heard urandom network room ids w s)
    (hpassword : writer.password = s.nsdpPassword) {tlvs : List TLVEntry}
    (htags : ∀ t ∈ tlvs, t.tag ∈ writeTags)
    (happly : s.applyTlvs tlvs = .ok s') (hsize : tlvSize tlvs ≤ room + 120)
    (hplain : NsdpPlain room ids s') (hrest : s.SameNsdpRest s') {α : Type} {read : NsdpScript α}
    {view : VirtualSwitchState → α} (hread : Reads urandom network room ids read view)
    (hview : ∀ salt failures,
      view { s' with nsdpLastSalt := salt, nsdpAuthFailures := failures } = view s')
    (landed : α → Prop) [DecidablePred landed] {o : NsdpWrite}
    (hstore : s'.nsdpStore = s.nsdpStore.effect o)
    (hlanded : landed (view s') ↔ (s.nsdpStore.effect o).Landed o) :
    LandsIn urandom network room ids w s
      (do
        writer.send (.ok tlvs)
        let after ← read
        ensure (landed after) .writeVerification)
      (s.nsdpStore.effect o) (NsdpStore.verdict ((s.nsdpStore.effect o).Landed o)) := by
  obtain ⟨w₁, salt, failures, h₁, hends₁⟩ := h.send hpassword htags happly hsize hplain
  obtain ⟨w₂, h₂, hends₂⟩ := hread _ _ h₁
  rw [hview] at hends₂
  refine ⟨w₂, _, h₂, hrest.trans ⟨fun _ => rfl, rfl, rfl⟩, hstore, hends₁.bind (hends₂.bind ?_)⟩
  rw [← NsdpStore.verdict_congr hlanded]
  exact ends_verdict _

theorem ends_send_error {δ : Type} {m : NsdpMachine δ} {d : δ} (writer : NsdpWriter) (e : LibError) :
    Ends m (writer.send (.error e)) d (.error e) d := (ends_done _).bind_error

/-! ## §2 VLANs -/

theorem NsdpPlain.withVlan (h : NsdpPlain room ids s) {v : ℤ} {vsim : VlanSim} (hv : v ∈ ids)
    (hmember : ∀ p ∈ vsim.member, 0 < p ∧ p ≤ s.model.portCount) (huntagged : vsim.untagged ⊆ vsim.member) :
    NsdpPlain room ids { s with vlans := s.vlans.set v vsim } := by
  refine h.withTables (fun u usim hu => ?_) h.ports rfl h.pvids h.addresses _ _
  rw [PyDict.get?_set] at hu
  by_cases heq : u = v
  · rw [if_pos heq] at hu
    obtain rfl := Option.some.inj hu
    exact ⟨heq ▸ hv, hmember, huntagged⟩
  · rw [if_neg heq] at hu
    exact h.vlan u usim hu

theorem bitmapBytes_model (key : ModelKey) : bitmapBytes (getModel key).portCount ≤ 8 := by
  cases key <;> decide

/-- The record of a VLAN is its id and two bitmaps. -/
theorem length_vlanMembersTlv {n : ℕ} {v : ℤ} {members tagged : Finset ℤ} {t : TLVEntry}
    (hmembers : ∀ p ∈ members, 0 < p ∧ p ≤ n) (htagged : ∀ p ∈ tagged, 0 < p ∧ p ≤ n)
    (hbuilt : vlanMembersTlv v members tagged n = .ok t) :
    t.value.length = 2 + 2 * bitmapBytes n := by
  have hbound : ∀ ports : Finset ℤ, (∀ p ∈ ports, 0 < p ∧ p ≤ (n : ℤ)) →
      ∀ p ∈ ports, 1 ≤ p ∧ p ≤ 8 * (bitmapBytes n : ℤ) := by
    intro ports hports p hp
    obtain ⟨hp0, hp1⟩ := hports p hp
    unfold bitmapBytes
    omega
  obtain ⟨vid, hvid, hbuilt⟩ := bind_eq_ok.mp hbuilt
  obtain ⟨memberBits, hmemberBits, hbuilt⟩ := bind_eq_ok.mp hbuilt
  obtain ⟨taggedBits, htaggedBits, hbuilt⟩ := bind_eq_ok.mp hbuilt
  obtain ⟨bits, hbits, hlength, -⟩ := portsToBitmap_fits (hbound members hmembers)
  obtain ⟨bits', hbits', hlength', -⟩ := portsToBitmap_fits (hbound tagged htagged)
  rw [hbits] at hmemberBits
  rw [hbits'] at htaggedBits
  cases hmemberBits
  cases htaggedBits
  obtain rfl := Except.ok.inj hbuilt
  have hvidLength : vid.length = 2 := by
    cases hpack : packInt 2 v with
    | none =>
      rw [hpack] at hvid
      cases hvid
    | some b =>
      rw [hpack] at hvid
      obtain rfl := Except.ok.inj hvid
      obtain ⟨-, -, rfl⟩ := packInt_eq_some hpack
      exact length_toBytes _ _
  rw [List.length_append, List.length_append, hvidLength, hlength, hlength']
  omega

/-- The record of a VLAN, as the writer builds it and the switch takes it. -/
theorem NsdpPlain.exists_record (h : NsdpPlain room ids s) (hkey : writer.modelKey = s.modelKey)
    {v : ℤ} {members tagged : Finset ℤ} (hv : v ∈ ids)
    (hmembers : ∀ p ∈ members, 0 < p ∧ p ≤ s.model.portCount)
    (htagged : ∀ p ∈ tagged, 0 < p ∧ p ≤ s.model.portCount) :
    ∃ t, vlanMembersTlv v members tagged writer.model.portCount = .ok t ∧ t.tag = Tag.vlanMembers ∧
      tlvSize [t] ≤ room + 120 ∧ s.applyTlvs [t] = .ok { s with
        vlans := s.vlans.set v
          { name := ((s.vlans.get? v).map VlanSim.name).getD []
            member := members
            untagged := members \ tagged } } := by
  obtain ⟨hpos, hle⟩ := h.fitting v hv
  have hcount : writer.model.portCount = s.model.portCount := by
    rw [NsdpWriter.model, VirtualSwitchState.model, hkey]
  obtain ⟨t, hbuilt, htag, hparse⟩ := vlanMembersTlv_inverse (Int.le_of_lt hpos) hle hmembers htagged
  refine ⟨t, by rw [hcount]; exact hbuilt, htag, ?_, ?_⟩
  · have hkeyWidth : bitmapBytes s.model.portCount ≤ 8 := bitmapBytes_model s.modelKey
    have hrecord := length_vlanMembersTlv hmembers htagged hbuilt
    simp only [tlvSize, List.map_cons, List.map_nil, List.sum_cons, List.sum_nil, hrecord]
    omega
  · have hcast : ((v.toNat : ℕ) : ℤ) = v := Int.toNat_of_nonneg (Int.le_of_lt hpos)
    have hwrite := applyNsdpWrite_vlanMembers hparse
    rw [VirtualSwitchState.applyTlvs_cons, htag, hwrite]
    dsimp only
    rw [hcast]
    rfl

theorem any_nsdpVlanInfos (s : VirtualSwitchState) (v : ℤ) :
    s.nsdpVlanInfos.any (·.vlanId = v) = (s.nsdpStore.vlans v).isSome := by
  have hfind := congrArg Option.isSome (find?_nsdpVlanInfos s v)
  rw [Option.isSome_map] at hfind
  show _ = ((s.vlans.get? v).map VlanSim.nsdpEntry).isSome
  rw [Option.isSome_map, ← hfind, Bool.eq_iff_iff, List.find?_isSome, List.any_eq_true]

theorem all_nsdpVlanInfos (s : VirtualSwitchState) (v : ℤ) :
    s.nsdpVlanInfos.all (·.vlanId ≠ v) = true ↔ s.vlans.get? v = none := by
  rw [← Option.map_eq_none_iff (f := VlanSim.nsdpInfo v), ← find?_nsdpVlanInfos, List.find?_eq_none,
    List.all_eq_true]
  simp

theorem nsdpStore_setVlan (s : VirtualSwitchState) (v : ℤ) (vsim : VlanSim) :
    ({ s with vlans := s.vlans.set v vsim } : VirtualSwitchState).nsdpStore =
      { s.nsdpStore with
        vlans := Function.update s.nsdpStore.vlans v (some vsim.nsdpEntry) } :=
  congrArg (fun x => ({ s.nsdpStore with vlans := x } : NsdpStore))
    (PyDict.map_get?_set s.vlans v vsim VlanSim.nsdpEntry)

/-- The entry a membership write leaves. -/
theorem nsdpEntry_nsdpAfter {current : Option VlanSim}
    (hsub : ∀ vsim, current = some vsim → vsim.untagged ⊆ vsim.member) (v port : ℤ) (mode : VlanMode) :
    let e := (current.map VlanSim.nsdpEntry).getD ⟨[], fun _ => ∅⟩
    (VlanSim.nsdpAfter current v port mode).nsdpEntry =
      { e with lists := editLists port mode e.lists } := by
  intro e
  have hlists : ∀ c, (VlanSim.nsdpAfter current v port mode).nsdpEntry.lists c =
      editLists port mode e.lists c := by
    intro c
    ext q
    cases current with
    | none =>
      cases c <;> cases mode <;>
        simp [e, VlanSim.nsdpEntry, VlanSim.nsdpAfter, NsdpWriter.membersAfter, editLists,
          PortListColumn.present, Snmp.inEgress, Snmp.inUntagged]
    | some vsim =>
      obtain ⟨hmember, huntagged⟩ := VlanSim.mem_nsdpAfter (hsub vsim rfl) v port mode q
      cases c with
      | egress =>
        refine hmember.trans ?_
        by_cases hq : q = port <;> cases mode <;>
          simp [e, VlanSim.nsdpEntry, editLists, PortListColumn.present, Snmp.inEgress, hq]
      | untagged =>
        refine huntagged.trans ?_
        by_cases hq : q = port <;> cases mode <;>
          simp [e, VlanSim.nsdpEntry, editLists, PortListColumn.present, Snmp.inUntagged, hq]
  have hname : (VlanSim.nsdpAfter current v port mode).nsdpEntry.name = e.name := by
    cases current <;> rfl
  show (⟨_, _⟩ : VlanEntry) = ⟨_, _⟩
  exact congrArg₂ VlanEntry.mk hname (funext hlists)

theorem vlanMembersTlv_refused {v : ℤ} (h : ¬ FitsField 2 v) (members tagged : Finset ℤ) (n : ℕ) :
    vlanMembersTlv v members tagged n = .error .structError := by
  rw [vlanMembersTlv, packInt_eq_none h]
  rfl

variable {force : Bool}

theorem Heard.createVlan (h : Heard urandom network room ids w s)
    (hpassword : writer.password = s.nsdpPassword) (hkey : writer.modelKey = s.modelKey) {v : ℤ}
    (hlisted : FitsField 2 v → v ∈ ids) :
    LandsIn urandom network room ids w s (writer.createVlan v)
      (s.nsdpStore.write writer.protectedPorts (.createVlan v, force)).1
      (s.nsdpStore.write writer.protectedPorts (.createVlan v, force)).2 := by
  unfold NsdpWriter.createVlan
  refine reads_getVlans.lands h fun w₁ h₁ => ?_
  rw [any_nsdpVlanInfos]
  by_cases hthere : (s.nsdpStore.vlans v).isSome = true
  · have hrefusal : s.nsdpStore.refusal writer.protectedPorts force (.createVlan v) = none :=
      if_pos (.inl hthere)
    have heffect : s.nsdpStore.effect (.createVlan v) = s.nsdpStore :=
      congrArg (fun x => ({ s.nsdpStore with vlans := x } : NsdpStore)) (if_pos hthere)
    rw [if_pos hthere, NsdpStore.write_accepted hrefusal, heffect, 
      NsdpStore.verdict_of (show s.nsdpStore.Landed (.createVlan v) from trivial)]
    exact ⟨w₁, s, h₁, .refl s, rfl, ends_done _⟩
  rw [if_neg hthere]
  by_cases hfits : FitsField 2 v
  · have hrefusal : s.nsdpStore.refusal writer.protectedPorts force (.createVlan v) = none :=
      if_pos (.inr hfits)
    have hnone : s.vlans.get? v = none := by
      have hmapped : ¬ ((s.vlans.get? v).map VlanSim.nsdpEntry).isSome = true := hthere
      rw [Option.isSome_map] at hmapped
      exact Option.not_isSome_iff_eq_none.mp hmapped
    obtain ⟨t, hbuilt, htag, hsize, happly⟩ := h.plain.exists_record hkey (hlisted hfits)
      (fun p hp => absurd hp (Finset.notMem_empty p)) fun p hp => absurd hp (Finset.notMem_empty p)
    rw [NsdpStore.write_accepted hrefusal, hbuilt]
    refine h₁.lands_sent hpassword (by simp [htag, writeTags]) happly hsize
      (h.plain.withVlan (hlisted hfits) (fun p hp => absurd hp (Finset.notMem_empty p))
        Finset.sdiff_subset)
      ⟨fun _ => rfl, rfl, rfl⟩ reads_getVlans (fun _ _ => rfl) (fun a => a.any (·.vlanId = v) = true)
      ?_ (iff_of_true ?_ (show (s.nsdpStore.effect (.createVlan v)).Landed _ from trivial))
    · have hentry : VlanSim.nsdpEntry
          { name := ((s.vlans.get? v).map VlanSim.name).getD []
            member := ∅
            untagged := ∅ \ ∅ } = ⟨[], fun _ => ∅⟩ := by
        rw [hnone]
        refine congrArg (VlanEntry.mk []) (funext fun c => ?_)
        cases c <;> rfl
      rw [nsdpStore_setVlan, hentry, NsdpStore.effect, if_neg hthere]
    · rw [any_nsdpVlanInfos, nsdpStore_setVlan]
      dsimp only
      rw [Function.update_self]
      rfl
  · have hrefusal : s.nsdpStore.refusal writer.protectedPorts force (.createVlan v) = some .structError :=
      if_neg fun hor => hor.elim hthere hfits
    rw [vlanMembersTlv_refused hfits]
    exact h₁.lands_refused hrefusal (ends_send_error _ _).bind_error

theorem Heard.setVlanMembership (h : Heard urandom network room ids w s)
    (hpassword : writer.password = s.nsdpPassword) (hkey : writer.modelKey = s.modelKey) {v port : ℤ}
    {mode : VlanMode} (hlisted : FitsField 2 v → v ∈ ids) (hport : 0 < port ∧ port ≤ s.model.portCount) :
    LandsIn urandom network room ids w s (writer.setVlanMembership v port mode force)
      (s.nsdpStore.write writer.protectedPorts (.setVlanMembership v port mode, force)).1
      (s.nsdpStore.write writer.protectedPorts (.setVlanMembership v port mode, force)).2 := by
  unfold NsdpWriter.setVlanMembership
  refine h.lands_guarded ?_ fun hguard => ?_
  · intro hnot
    exact if_pos (not_not.mp hnot)
  refine (reads_vlan v).lands h fun w₁ h₁ => ?_
  let current := s.vlans.get? v
  rcases hsets : NsdpWriter.membersAfter (current.map (VlanSim.nsdpInfo v)) port mode with
    ⟨members, tagged⟩
  show LandsIn urandom network room ids w₁ s (do
    writer.send ((vlanMembersTlv v members tagged writer.model.portCount).map ([·]))
    let after ← NsdpWriter.vlan v
    ensure (NsdpWriter.membershipOk after port mode = true) .writeVerification) _ _
  by_cases hfits : FitsField 2 v
  · have hrefusal : s.nsdpStore.refusal writer.protectedPorts force (.setVlanMembership v port mode) =
        none := (if_neg hguard).trans (if_pos hfits)
    obtain ⟨hmembers, htagged⟩ := @membersAfter_fits s h.plain.vlans v port mode hport.1 hport.2
    have hafter : VlanSim.nsdpAfter current v port mode =
        { name := (current.map VlanSim.name).getD [], member := members, untagged := members \ tagged } := by
      rw [VlanSim.nsdpAfter, hsets]
    rw [show NsdpWriter.membersAfter _ port mode = (members, tagged) from hsets] at hmembers htagged
    obtain ⟨t, hbuilt, htag, hsize, happly⟩ :=
      h.plain.exists_record hkey (hlisted hfits) hmembers htagged
    have hentry := @nsdpEntry_nsdpAfter current
      (fun vsim hvsim => h.plain.vlans.untagged_sub v vsim hvsim) v port mode
    rw [hafter] at hentry
    rw [NsdpStore.write_accepted hrefusal, hbuilt]
    refine h₁.lands_sent hpassword (by simp [htag, writeTags]) happly hsize
      (h.plain.withVlan (hlisted hfits) hmembers Finset.sdiff_subset) ⟨fun _ => rfl, rfl, rfl⟩
      (reads_vlan v) (fun _ _ => rfl) (fun a => NsdpWriter.membershipOk a port mode = true) ?_
      (iff_of_true ?_ (show (s.nsdpStore.effect (.setVlanMembership v port mode)).Landed _ from trivial))
    · rw [nsdpStore_setVlan, hentry]
      rfl
    · rw [PyDict.get?_set_self, ← hafter]
      exact membershipOk_nsdpAfter current v port mode
  · have hrefusal : s.nsdpStore.refusal writer.protectedPorts force (.setVlanMembership v port mode) =
        some .structError := (if_neg hguard).trans (if_neg hfits)
    rw [vlanMembersTlv_refused hfits]
    exact h₁.lands_refused hrefusal (ends_send_error _ _).bind_error

theorem toBytes_of_fitsField {n : ℕ} {x : ℤ} (h : FitsField n x) :
    packInt n x = some (toBytes n x.toNat) ∧ ((ofBytes (toBytes n x.toNat) : ℕ) : ℤ) = x := by
  have hlt : x.toNat < 256 ^ n := by
    obtain ⟨hnonneg, hlt⟩ := h
    zify
    omega
  rw [packInt_eq h.1 hlt, ofBytes_toBytes n _ hlt]
  exact ⟨rfl, natCast_toNat h⟩

/-- The switch without a VLAN: its PVIDs fall back to VLAN 1. -/
def VirtualSwitchState.withoutVlan (s : VirtualSwitchState) (v : ℤ) : VirtualSwitchState :=
  { s with
    vlans := s.vlans.pop v
    pvids := s.pvids.mapValues fun _ u => if u = v then 1 else u }

theorem NsdpPlain.withoutVlan (h : NsdpPlain room ids s) (v : ℤ) :
    NsdpPlain room ids (s.withoutVlan v) := by
  have hvlans : ∀ u usim, (s.vlans.pop v).get? u = some usim → s.vlans.get? u = some usim := by
    intro u usim hu
    rw [PyDict.get?_pop] at hu
    split_ifs at hu
    exact hu
  have hpvids : ∀ p u, (s.pvids.mapValues fun _ u => if u = v then 1 else u).get? p = some u →
      FitsField 1 p ∧ FitsField 2 u := by
    intro p u hu
    rw [PyDict.get?_mapValues] at hu
    obtain ⟨u', hu', rfl⟩ := Option.map_eq_some_iff.mp hu
    obtain ⟨hp, hfits⟩ := h.pvids p u' hu'
    refine ⟨hp, ?_⟩
    by_cases heq : u' = v
    · rw [if_pos heq]
      exact ⟨by decide, by decide⟩
    · rw [if_neg heq]
      exact hfits
  exact h.withTables (fun u usim hu => h.vlan u usim (hvlans u usim hu)) h.ports rfl hpvids h.addresses
    _ _

/-- One TLV that the switch takes. -/
theorem applyTlvs_singleton {tag : ℕ} {value : Bytes} (h : s.applyNsdpWrite tag value = .ok s') :
    s.applyTlvs [⟨tag, value⟩] = .ok s' := by
  rw [VirtualSwitchState.applyTlvs_cons, h]
  rfl

/-- Destroying a VLAN that is not there changes nothing. -/
theorem applyTlvs_vlanDestroy (s : VirtualSwitchState) {v : ℤ} (h : FitsField 2 v) :
    s.applyTlvs [⟨Tag.vlanDestroy, toBytes 2 v.toNat⟩] =
      .ok (if v ∈ s.vlans then s.withoutVlan v else s) := by
  obtain ⟨-, hvid⟩ := toBytes_of_fitsField h
  have hslice : slice (toBytes 2 v.toNat) 0 2 = toBytes 2 v.toNat := rfl
  have hlong : ¬ (toBytes 2 v.toNat).length < 2 := by
    rw [length_toBytes]
    decide
  apply applyTlvs_singleton
  unfold VirtualSwitchState.applyNsdpWrite
  rw [if_neg (by decide), if_neg (by decide), if_pos rfl, if_neg hlong, hslice, hvid]
  by_cases hmem : v ∈ s.vlans
  · rw [if_pos hmem, if_pos hmem]
    rfl
  · rw [if_neg hmem, if_neg hmem]

theorem nsdpStore_vlanDestroy (s : VirtualSwitchState) (v : ℤ) :
    (if v ∈ s.vlans then s.withoutVlan v else s).nsdpStore = s.nsdpStore.effect (.deleteVlan v) := by
  have hsome : (s.nsdpStore.vlans v).isSome = true ↔ v ∈ s.vlans := by
    rw [PyDict.mem_iff_isSome]
    show ((s.vlans.get? v).map VlanSim.nsdpEntry).isSome = true ↔ _
    rw [Option.isSome_map]
  have hpop := PyDict.map_get?_pop s.vlans v VlanSim.nsdpEntry
  by_cases hmem : v ∈ s.vlans
  · rw [if_pos hmem]
    have hpvids : (fun p => (s.pvids.mapValues fun _ u => if u = v then 1 else u).get? p) =
        fun p => (s.nsdpStore.pvids p).map fun u =>
          if u = v ∧ (s.nsdpStore.vlans v).isSome then 1 else u := by
      funext p
      rw [PyDict.get?_mapValues]
      refine congrArg (fun f : ℤ → ℤ => (s.pvids.get? p).map f) (funext fun u => ?_)
      exact if_congr (and_iff_left (hsome.mpr hmem)).symm rfl rfl
    exact congrArg₂ (fun x y => ({ s.nsdpStore with vlans := x, pvids := y } : NsdpStore)) hpop hpvids
  · -- No PVID falls back where there was no VLAN, and the update by `none` changes nothing.
    rw [if_neg hmem]
    have hnone : s.nsdpStore.vlans v = none :=
      Option.not_isSome_iff_eq_none.mp fun h => hmem (hsome.mp h)
    have hvlans : s.nsdpStore.vlans = Function.update s.nsdpStore.vlans v none := by
      rw [← hnone, Function.update_eq_self]
    have hpvids : s.nsdpStore.pvids = fun p => (s.nsdpStore.pvids p).map fun u =>
        if u = v ∧ (s.nsdpStore.vlans v).isSome then 1 else u := by
      funext p
      cases s.nsdpStore.pvids p with
      | none => rfl
      | some u =>
        refine congrArg some (if_neg ?_).symm
        rintro ⟨-, h⟩
        exact hmem (hsome.mp h)
    exact congrArg₂ (fun x y => ({ s.nsdpStore with vlans := x, pvids := y } : NsdpStore)) hvlans hpvids

theorem Heard.deleteVlan (h : Heard urandom network room ids w s)
    (hpassword : writer.password = s.nsdpPassword) {v : ℤ} :
    LandsIn urandom network room ids w s (writer.deleteVlan v force)
      (s.nsdpStore.write writer.protectedPorts (.deleteVlan v, force)).1
      (s.nsdpStore.write writer.protectedPorts (.deleteVlan v, force)).2 := by
  unfold NsdpWriter.deleteVlan
  refine h.lands_guarded ?_ fun hforce => ?_
  · intro hnot
    exact if_pos hnot
  refine reads_getVlans.lands h fun w₁ h₁ => ?_
  by_cases hfits : FitsField 2 v
  · have hrefusal : s.nsdpStore.refusal writer.protectedPorts force (.deleteVlan v) = none :=
      (if_neg (not_not.mpr hforce)).trans (if_pos hfits)
    obtain ⟨hplain, hrest, hgone⟩ : let after := if v ∈ s.vlans then s.withoutVlan v else s
        NsdpPlain room ids after ∧ s.SameNsdpRest after ∧ after.vlans.get? v = none := by
      by_cases hmem : v ∈ s.vlans
      · rw [if_pos hmem]
        exact ⟨h.plain.withoutVlan v, ⟨fun _ => rfl, rfl, rfl⟩, (PyDict.get?_pop _ _ _).trans (if_pos rfl)⟩
      · rw [if_neg hmem]
        exact ⟨h.plain, .refl s, PyDict.not_mem_iff.mp hmem⟩
    rw [NsdpStore.write_accepted hrefusal, vlanDestroyTlv, (toBytes_of_fitsField hfits).1]
    refine h₁.lands_sent hpassword (by simp [writeTags]) (applyTlvs_vlanDestroy s hfits) ?_ hplain hrest
      reads_getVlans (fun _ _ => rfl) (fun a => a.all (·.vlanId ≠ v) = true)
      (nsdpStore_vlanDestroy s v) (iff_of_true ((all_nsdpVlanInfos _ v).mpr hgone)
        (show (s.nsdpStore.effect (.deleteVlan v)).Landed _ from trivial))
    simp [tlvSize]
  · have hrefusal : s.nsdpStore.refusal writer.protectedPorts force (.deleteVlan v) =
        some .structError := (if_neg (not_not.mpr hforce)).trans (if_neg hfits)
    rw [vlanDestroyTlv, packInt_eq_none hfits]
    exact h₁.lands_refused hrefusal (ends_send_error _ _).bind_error

/-! ## §3 PVIDs, labels and addresses -/

theorem Heard.setPvid (h : Heard urandom network room ids w s)
    (hpassword : writer.password = s.nsdpPassword) {port v : ℤ} :
    LandsIn urandom network room ids w s (writer.setPvid port v force)
      (s.nsdpStore.write writer.protectedPorts (.setPvid port v, force)).1
      (s.nsdpStore.write writer.protectedPorts (.setPvid port v, force)).2 := by
  unfold NsdpWriter.setPvid
  refine h.lands_guarded ?_ fun hguard => ?_
  · intro hnot
    exact if_pos (not_not.mp hnot)
  have hisNone : (s.nsdpStore.vlans v).isNone = true ↔ s.vlans.get? v = none := by
    show ((s.vlans.get? v).map VlanSim.nsdpEntry).isNone = true ↔ _
    rw [Option.isNone_map, Option.isNone_iff_eq_none]
  obtain ⟨w₁, h₁, hends₁⟩ := @reads_vlan urandom network room ids v w s h
  by_cases habsent : s.vlans.get? v = none
  · have hrefusal : s.nsdpStore.refusal writer.protectedPorts force (.setPvid port v) = some .nsdp :=
      (if_neg hguard).trans (if_pos (hisNone.mpr habsent))
    have hnot : ¬ ((s.vlans.get? v).map (VlanSim.nsdpInfo v)).isSome = true := by
      rw [habsent]
      exact Bool.false_ne_true
    rw [NsdpStore.write_refused hrefusal]
    refine ⟨w₁, s, h₁, .refl s, rfl, Ends.bind_error ?_⟩
    exact hends₁.bind (ends_ensure_of_not hnot _)
  have hsome : ((s.vlans.get? v).map (VlanSim.nsdpInfo v)).isSome = true := by
    rw [Option.isSome_map]
    exact Option.isSome_iff_ne_none.mpr habsent
  have hrequire : Ends (clientCall urandom network) (NsdpWriter.requireVlanExists v) w (.ok ()) w₁ :=
    hends₁.bind (ends_ensure hsome _)
  have hv := h.plain.fitting v (h.plain.listed v (PyDict.mem_iff_isSome.mpr
    (Option.isSome_iff_ne_none.mpr habsent)))
  have hvfits : FitsField 2 v := ⟨Int.le_of_lt hv.1, by omega⟩
  suffices hrest : LandsIn urandom network room ids w₁ s (do
      let _ ← NsdpWriter.getPvids
      writer.send ((pvidTlv port v).map ([·]))
      let after ← NsdpWriter.getPvids
      ensure (NsdpWriter.pvidOf after port = some v) .writeVerification) _ _ by
    obtain ⟨w₂, s₂, h₂, hsame, hstore, hends₂⟩ := hrest
    exact ⟨w₂, s₂, h₂, hsame, hstore, hrequire.bind hends₂⟩
  refine reads_getPvids.lands h₁ fun w₂ h₂ => ?_
  by_cases hfits : FitsField 1 port
  · have hrefusal : s.nsdpStore.refusal writer.protectedPorts force (.setPvid port v) = none :=
      (if_neg hguard).trans ((if_neg fun hn => habsent (hisNone.mp hn)).trans (if_pos hfits))
    obtain ⟨hpack, hcast⟩ := toBytes_of_fitsField hfits
    obtain ⟨hpackV, hcastV⟩ := toBytes_of_fitsField hvfits
    have happly : s.applyTlvs [⟨Tag.portPvid, toBytes 1 port.toNat ++ toBytes 2 v.toNat⟩] =
        .ok { s with pvids := s.pvids.set port v } := by
      have hport : (((toBytes 1 port.toNat ++ toBytes 2 v.toNat).getD 0 0).toNat : ℤ) = port := by
        obtain ⟨x, hx, hxport⟩ := packInt_one_eq_some hpack
        rw [hx]
        exact hxport
      have hslice : slice (toBytes 1 port.toNat ++ toBytes 2 v.toNat) 1 3 = toBytes 2 v.toNat := rfl
      have hlong : ¬ (toBytes 1 port.toNat ++ toBytes 2 v.toNat).length < 3 := by
        rw [List.length_append, length_toBytes, length_toBytes]
        decide
      apply applyTlvs_singleton
      unfold VirtualSwitchState.applyNsdpWrite
      rw [if_pos rfl, if_neg hlong, hport, hslice, hcastV]
    have hplain : NsdpPlain room ids { s with pvids := s.pvids.set port v } := by
      refine h.plain.withTables h.plain.vlan h.plain.ports rfl (fun p u hu => ?_) h.plain.addresses _ _
      rw [PyDict.get?_set] at hu
      by_cases heq : p = port
      · rw [if_pos heq] at hu
        rw [heq, ← Option.some.inj hu]
        exact ⟨hfits, hvfits⟩
      · rw [if_neg heq] at hu
        exact h.plain.pvids p u hu
    rw [NsdpStore.write_accepted hrefusal, pvidTlv, hpack, hpackV]
    refine h₂.lands_sent hpassword (by simp [writeTags]) happly ?_ hplain ⟨fun _ => rfl, rfl, rfl⟩
      reads_getPvids (fun _ _ => rfl) (fun a => NsdpWriter.pvidOf a port = some v) ?_
      (iff_of_true ?_ (show (s.nsdpStore.effect (.setPvid port v)).Landed _ from trivial))
    · simp [tlvSize]
    · have hpvids := PyDict.map_get?_set s.pvids port v id
      simp only [Option.map_id_fun, id_eq] at hpvids
      exact congrArg (fun x => ({ s.nsdpStore with pvids := x } : NsdpStore)) hpvids
    · rw [pvidOf_sortedItems, PyDict.get?_set_self]
  · have hrefusal : s.nsdpStore.refusal writer.protectedPorts force (.setPvid port v) =
        some .valueError :=
      (if_neg hguard).trans ((if_neg fun hn => habsent (hisNone.mp hn)).trans (if_neg hfits))
    rw [pvidTlv, packInt_eq_none hfits]
    exact h₂.lands_refused hrefusal (ends_send_error _ _).bind_error

theorem length_utf8Encode_rstripNul (text : Text) :
    (PyCodec.utf8Encode (PyCodec.rstripNul text)).length ≤ (PyCodec.utf8Encode text).length := by
  have hprefix : PyCodec.rstripNul text <+: text := by
    unfold PyCodec.rstripNul
    have hsuffix := List.dropWhile_suffix (l := text.reverse) fun c : Char => c.toNat = 0
    have hreversed := List.reverse_prefix.mpr hsuffix
    rwa [List.reverse_reverse] at hreversed
  obtain ⟨rest, hrest⟩ := hprefix
  have hencoded : PyCodec.utf8Encode text =
      PyCodec.utf8Encode (PyCodec.rstripNul text) ++ PyCodec.utf8Encode rest := by
    conv_lhs => rw [← hrest]
    exact List.flatMap_append
  rw [hencoded, List.length_append]
  omega

/-- The port with the label that the switch makes of a text. -/
def PortSim.labelled (text : Text) (sim : PortSim) : PortSim :=
  { sim with description := labelText text }

theorem PortSim.nsdpEntry_labelled (text : Text) (sim : PortSim) :
    (sim.labelled text).nsdpEntry = { sim.nsdpEntry with description := labelText text } := by
  have hlabel : labelText ((labelText text).getD []) = labelText text := by
    by_cases hnil : PyCodec.rstripNul text = []
    · rw [show labelText text = none from if_pos hnil]
      rfl
    · rw [show labelText text = some _ from if_neg hnil, Option.getD_some, labelText,
        PyCodec.rstripNul_rstripNul, if_neg hnil]
  exact congrArg (PortEntry.mk sim.admin sim.link) hlabel

theorem NsdpPlain.withLabel (h : NsdpPlain room ids s) {text : Text}
    (htext : (PyCodec.utf8Encode text).length ≤ room) (port : ℤ) :
    NsdpPlain room ids { s with ports := s.ports.modify port (PortSim.labelled text) } := by
  have hlength : (s.ports.modify port (PortSim.labelled text)).sortedItems.length =
      s.ports.sortedItems.length := by
    rw [PyDict.length_sortedItems, PyDict.length_sortedItems, PyDict.keys_modify]
  have hports : ∀ p sim, (s.ports.modify port (PortSim.labelled text)).get? p = some sim →
      FitsField 1 p ∧ (PyCodec.utf8Encode (sim.description.getD [])).length ≤ room := by
    intro p sim hsim
    rw [PyDict.get?_modify] at hsim
    by_cases heq : p = port
    · rw [if_pos heq] at hsim
      obtain ⟨old, hold, rfl⟩ := Option.map_eq_some_iff.mp hsim
      refine ⟨heq ▸ (h.ports port old hold).1, ?_⟩
      show (PyCodec.utf8Encode ((labelText text).getD [])).length ≤ room
      have hstripped := length_utf8Encode_rstripNul text
      by_cases hnil : PyCodec.rstripNul text = []
      · rw [show labelText text = none from if_pos hnil]
        exact Nat.zero_le room
      · rw [show labelText text = some _ from if_neg hnil, Option.getD_some]
        omega
    · rw [if_neg heq] at hsim
      exact h.ports p sim hsim
  exact h.withTables h.vlan hports hlength h.pvids h.addresses _ _

theorem Heard.setPortDescription (h : Heard urandom network room ids w s)
    (hpassword : writer.password = s.nsdpPassword) {port : ℤ} {description : Text}
    (hroom : (PyCodec.utf8Encode description).length ≤ room) :
    LandsIn urandom network room ids w s (writer.setPortDescription port description force)
      (s.nsdpStore.write writer.protectedPorts (.setPortDescription port description, force)).1
      (s.nsdpStore.write writer.protectedPorts (.setPortDescription port description, force)).2 := by
  unfold NsdpWriter.setPortDescription
  refine h.lands_guarded ?_ fun hguard => ?_
  · intro hnot
    exact if_pos (not_not.mp hnot)
  refine reads_getPorts.lands h fun w₁ h₁ => ?_
  by_cases hfits : FitsField 1 port
  · have hrefusal : s.nsdpStore.refusal writer.protectedPorts force
        (.setPortDescription port description) = none := (if_neg hguard).trans (if_pos hfits)
    obtain ⟨hpack, -⟩ := toBytes_of_fitsField hfits
    obtain ⟨x, hx, hxport⟩ := packInt_one_eq_some hpack
    have happly : s.applyTlvs [⟨Tag.portName, x :: PyCodec.utf8Encode description⟩] =
        .ok { s with ports := s.ports.modify port (PortSim.labelled description) } := by
      apply applyTlvs_singleton
      unfold VirtualSwitchState.applyNsdpWrite
      rw [if_neg (by decide), if_neg (by decide), if_neg (by decide), if_pos rfl]
      show Except.ok _ = _
      rw [hxport, PyCodec.utf8DecodeReplace_utf8Encode]
      rfl
    let after : VirtualSwitchState :=
      { s with ports := s.ports.modify port (PortSim.labelled description) }
    have hplain : NsdpPlain room ids after := h.plain.withLabel hroom port
    have hget : ∀ p, after.ports.get? p =
        if p = port then (s.ports.get? port).map (PortSim.labelled description) else s.ports.get? p :=
      fun p => PyDict.get?_modify _ _ _ _
    have hstore : after.nsdpStore = s.nsdpStore.effect (.setPortDescription port description) := by
      have hports : (fun p => (after.ports.get? p).map PortSim.nsdpEntry) =
          Function.update s.nsdpStore.ports port ((s.nsdpStore.ports port).map fun e =>
            { e with description := labelText description }) := by
        funext p
        rw [hget]
        by_cases heq : p = port
        · rw [if_pos heq, heq, Function.update_self]
          show ((s.ports.get? port).map _).map _ = ((s.ports.get? port).map _).map _
          rw [Option.map_map, Option.map_map]
          exact congrArg (fun f => (s.ports.get? port).map f)
            (funext fun sim => sim.nsdpEntry_labelled description)
        · rw [if_neg heq, Function.update_of_ne heq]
          rfl
      exact congrArg (fun x => ({ s.nsdpStore with ports := x } : NsdpStore)) hports
    have hsame : s.SameNsdpRest after := by
      refine ⟨fun p => ?_, rfl, rfl⟩
      rw [hget]
      by_cases heq : p = port
      · rw [if_pos heq, heq, Option.map_map]
        rfl
      · rw [if_neg heq]
    rw [NsdpStore.write_accepted hrefusal, NsdpWriter.portNameTlv, hpack, hx]
    refine h₁.lands_sent hpassword (by simp [writeTags]) happly ?_ hplain hsame reads_getPorts
      (fun _ _ => rfl)
      (fun a => NsdpWriter.describedAs a port = if description = [] then none else some description)
      hstore ?_
    · simp [tlvSize]
      omega
    · rw [hplain.describedAs_nsdpPortInfos port, ← hstore]
      show _ ↔ (((after.ports.get? port).map PortSim.nsdpEntry).bind PortEntry.description) = _
      rw [Option.bind_map]
      rfl
  · have hrefusal : s.nsdpStore.refusal writer.protectedPorts force
        (.setPortDescription port description) = some .valueError :=
      (if_neg hguard).trans (if_neg hfits)
    rw [NsdpWriter.portNameTlv, packInt_eq_none hfits]
    exact h₁.lands_refused hrefusal (ends_send_error _ _).bind_error

theorem isSome_canonicalIpv4 {address : Text} {b : Bytes} (h : PyCodec.inetAton address = some b) :
    ∃ printed, PyCodec.inetNtoa b = some printed ∧ canonicalIpv4 address = some printed ∧
      PyCodec.inetAton printed = some b ∧ canonicalIpv4 printed = some printed := by
  obtain ⟨printed, hprinted⟩ := Option.isSome_iff_exists.mp
    (PyCodec.isSome_inetNtoa (PyCodec.length_inetAton h))
  have hback := PyCodec.inetAton_of_inetNtoa hprinted
  refine ⟨printed, hprinted, ?_, hback, ?_⟩
  · rw [canonicalIpv4, h]
    exact hprinted
  · rw [canonicalIpv4, hback]
    exact hprinted

theorem canonicalIpv4_eq_none {address : Text} (h : PyCodec.inetAton address = none) :
    canonicalIpv4 address = none := by
  rw [canonicalIpv4, h]
  rfl

/-- Three addresses that the switch can print. -/
theorem applyTlvs_addresses (s : VirtualSwitchState) {a n g : Bytes} {address netmask gateway : Text}
    (ha : PyCodec.inetNtoa a = some address) (hn : PyCodec.inetNtoa n = some netmask)
    (hg : PyCodec.inetNtoa g = some gateway) :
    s.applyTlvs [⟨Tag.ipAddress, a⟩, ⟨Tag.netmask, n⟩, ⟨Tag.gateway, g⟩] =
      .ok { s with mgmt := { s.mgmt with address := address, netmask := netmask, gateway := gateway } } := by
  have haddress : ∀ x : VirtualSwitchState, x.applyNsdpWrite Tag.ipAddress a =
      .ok { x with mgmt := { x.mgmt with address := address } } := by
    intro x
    unfold VirtualSwitchState.applyNsdpWrite
    rw [if_neg (by decide), if_neg (by decide), if_neg (by decide), if_neg (by decide), if_pos rfl, ha]
    rfl
  have hnetmask : ∀ x : VirtualSwitchState, x.applyNsdpWrite Tag.netmask n =
      .ok { x with mgmt := { x.mgmt with netmask := netmask } } := by
    intro x
    unfold VirtualSwitchState.applyNsdpWrite
    rw [if_neg (by decide), if_neg (by decide), if_neg (by decide), if_neg (by decide),
      if_neg (by decide), if_pos rfl, hn]
    rfl
  have hgateway : ∀ x : VirtualSwitchState, x.applyNsdpWrite Tag.gateway g =
      .ok { x with mgmt := { x.mgmt with gateway := gateway } } := by
    intro x
    unfold VirtualSwitchState.applyNsdpWrite
    rw [if_neg (by decide), if_neg (by decide), if_neg (by decide), if_neg (by decide),
      if_neg (by decide), if_neg (by decide), if_pos rfl, hg]
    rfl
  rw [VirtualSwitchState.applyTlvs_cons, haddress]
  show VirtualSwitchState.applyTlvs _ _ = _
  rw [VirtualSwitchState.applyTlvs_cons, hnetmask]
  exact applyTlvs_singleton (hgateway _)

theorem Heard.setMgmtIp (h : Heard urandom network room ids w s)
    (hpassword : writer.password = s.nsdpPassword) {address netmask gateway : Text} :
    LandsIn urandom network room ids w s (writer.setMgmtIp address netmask gateway force)
      (s.nsdpStore.write writer.protectedPorts (.setMgmtIp address netmask gateway, force)).1
      (s.nsdpStore.write writer.protectedPorts (.setMgmtIp address netmask gateway, force)).2 := by
  unfold NsdpWriter.setMgmtIp
  refine h.lands_guarded ?_ fun hforce => ?_
  · intro hnot
    exact if_pos hnot
  refine reads_getMgmtIp.lands h fun w₁ h₁ => ?_
  have hrefused : ∀ {e : Except LibError (List TLVEntry)}, e = .error .osError →
      ¬ ((canonicalIpv4 address).isSome ∧ (canonicalIpv4 netmask).isSome ∧
        (canonicalIpv4 gateway).isSome) →
      LandsIn urandom network room ids w₁ s (do
        writer.send e
        let after ← NsdpWriter.getMgmtIp
        ensure (after = ⟨some address, some netmask, some gateway⟩) .writeVerification)
        (s.nsdpStore.write writer.protectedPorts (.setMgmtIp address netmask gateway, force)).1
        (s.nsdpStore.write writer.protectedPorts (.setMgmtIp address netmask gateway, force)).2 := by
    intro e he hnot
    have hrefusal : s.nsdpStore.refusal writer.protectedPorts force
        (.setMgmtIp address netmask gateway) = some .osError :=
      (if_neg (not_not.mpr hforce)).trans (if_neg hnot)
    rw [he]
    exact h₁.lands_refused hrefusal (ends_send_error _ _).bind_error
  -- Each text is packed on its own, and the first that is no address stops the write.
  cases ha : PyCodec.inetAton address with
  | none =>
    refine hrefused ?_ fun hall => ?_
    · rw [NsdpWriter.ipv4Tlv, ha]
      rfl
    · rw [canonicalIpv4_eq_none ha] at hall
      exact absurd hall.1 Bool.false_ne_true
  | some a =>
  cases hn : PyCodec.inetAton netmask with
  | none =>
    refine hrefused ?_ fun hall => ?_
    · rw [NsdpWriter.ipv4Tlv, ha, NsdpWriter.ipv4Tlv, hn]
      rfl
    · rw [canonicalIpv4_eq_none hn] at hall
      exact absurd hall.2.1 Bool.false_ne_true
  | some n =>
  cases hg : PyCodec.inetAton gateway with
  | none =>
    refine hrefused ?_ fun hall => ?_
    · rw [NsdpWriter.ipv4Tlv, ha, NsdpWriter.ipv4Tlv, hn, NsdpWriter.ipv4Tlv, hg]
      rfl
    · rw [canonicalIpv4_eq_none hg] at hall
      exact absurd hall.2.2 Bool.false_ne_true
  | some g =>
  obtain ⟨a', ha', hca, haton, hcanonA⟩ := isSome_canonicalIpv4 ha
  obtain ⟨n', hn', hcn, hnton, hcanonN⟩ := isSome_canonicalIpv4 hn
  obtain ⟨g', hg', hcg, hgton, hcanonG⟩ := isSome_canonicalIpv4 hg
  have hrefusal : s.nsdpStore.refusal writer.protectedPorts force
      (.setMgmtIp address netmask gateway) = none := by
    refine (if_neg (not_not.mpr hforce)).trans (if_pos ?_)
    rw [hca, hcn, hcg]
    exact ⟨rfl, rfl, rfl⟩
  let after : VirtualSwitchState :=
    { s with mgmt := { s.mgmt with address := a', netmask := n', gateway := g' } }
  have happly : s.applyTlvs [⟨Tag.ipAddress, a⟩, ⟨Tag.netmask, n⟩, ⟨Tag.gateway, g⟩] = .ok after :=
    applyTlvs_addresses s ha' hn' hg'
  have hplain : NsdpPlain room ids after := by
    refine h.plain.withTables h.plain.vlan h.plain.ports rfl h.plain.pvids ?_ _ _
    intro x hx
    simp only [List.mem_cons, List.not_mem_nil, or_false] at hx
    rcases hx with rfl | rfl | rfl
    · exact Option.isSome_of_eq_some haton
    · exact Option.isSome_of_eq_some hnton
    · exact Option.isSome_of_eq_some hgton
  have hstore : after.nsdpStore = s.nsdpStore.effect (.setMgmtIp address netmask gateway) := by
    have hmgmt : (⟨canonicalIpv4 a', canonicalIpv4 n', canonicalIpv4 g'⟩ : MgmtIpConfig) =
        ⟨canonicalIpv4 address, canonicalIpv4 netmask, canonicalIpv4 gateway⟩ := by
      rw [hcanonA, hcanonN, hcanonG, hca, hcn, hcg]
    exact congrArg (fun x => ({ s.nsdpStore with mgmt := x } : NsdpStore)) hmgmt
  rw [NsdpStore.write_accepted hrefusal, NsdpWriter.ipv4Tlv, ha, NsdpWriter.ipv4Tlv, hn,
    NsdpWriter.ipv4Tlv, hg]
  refine h₁.lands_sent hpassword (by simp [writeTags]) happly ?_ hplain ⟨fun _ => rfl, rfl, rfl⟩
    reads_getMgmtIp (fun _ _ => rfl) (fun x => x = ⟨some address, some netmask, some gateway⟩) hstore ?_
  · simp [tlvSize, PyCodec.length_inetAton ha, PyCodec.length_inetAton hn, PyCodec.length_inetAton hg]
  · rw [← hstore]
    exact Iff.rfl

/-- The switch takes no host name over NSDP. -/
theorem Heard.setHostname (h : Heard urandom network room ids w s)
    (hpassword : writer.password = s.nsdpPassword) {name : Text} (hroom : name.length ≤ room) :
    LandsIn urandom network room ids w s (writer.setHostname name)
      (s.nsdpStore.write writer.protectedPorts (.setHostname name, force)).1
      (s.nsdpStore.write writer.protectedPorts (.setHostname name, force)).2 := by
  unfold NsdpWriter.setHostname
  refine h.lands_guarded ?_ fun hblank => ?_
  · intro hnot
    exact if_pos (not_not.mp hnot)
  refine reads_getHostname.lands h fun w₁ h₁ => ?_
  by_cases hascii : ∀ c ∈ name, c.toNat < 128
  · have hrefusal : s.nsdpStore.refusal writer.protectedPorts force (.setHostname name) = none :=
      (if_neg hblank).trans (if_pos hascii)
    have hencode := PyCodec.asciiEncode_of_ascii hascii
    -- `applyNsdpWrite` has no branch for the tag; only the read-back tells the writer.
    have happly : s.applyTlvs [⟨Tag.hostname, name.map fun c => UInt8.ofNat c.toNat⟩] = .ok s := by
      apply applyTlvs_singleton
      unfold VirtualSwitchState.applyNsdpWrite
      rw [if_neg (by decide), if_neg (by decide), if_neg (by decide), if_neg (by decide),
        if_neg (by decide), if_neg (by decide), if_neg (by decide), if_neg (by decide)]
    rw [NsdpStore.write_accepted hrefusal, NsdpWriter.hostnameTlv, hencode]
    refine h₁.lands_sent hpassword (by simp [writeTags]) happly ?_ h.plain (.refl s) reads_getHostname
      (fun _ _ => rfl) (fun x => x = name) rfl
      (show _ ↔ (s.nsdpStore.effect (.setHostname name)).Landed _ from Iff.rfl)
    simp [tlvSize]
    omega
  · have hrefusal : s.nsdpStore.refusal writer.protectedPorts force (.setHostname name) =
        some .unicodeError := (if_neg hblank).trans (if_neg hascii)
    have hencode : PyCodec.asciiEncode name = none := by
      cases hbytes : PyCodec.asciiEncode name with
      | none => rfl
      | some b => exact absurd (PyCodec.asciiEncode_eq_some.mp hbytes).1 hascii
    rw [NsdpWriter.hostnameTlv, hencode]
    exact h₁.lands_refused hrefusal (ends_send_error _ _).bind_error

/-! ## §4 Runs -/

/-- What a write asks of a switch: a VLAN out of `ids`, a port of its own, a text of its room. -/
def NsdpFits (room : ℕ) (ids : Finset ℤ) (portCount : ℕ) (_ : NsdpStore) (o : NsdpWrite × Bool) : Prop :=
  match o.1 with
  | .createVlan v => FitsField 2 v → v ∈ ids
  | .setVlanMembership v port _ => (FitsField 2 v → v ∈ ids) ∧ 0 < port ∧ port ≤ portCount
  | .setPortDescription _ description => (PyCodec.utf8Encode description).length ≤ room
  | .setHostname name => name.length ≤ room
  | _ => True

/-- One write. -/
theorem Heard.perform (h : Heard urandom network room ids w s)
    (hpassword : writer.password = s.nsdpPassword) (hkey : writer.modelKey = s.modelKey)
    {o : NsdpWrite × Bool} (hfits : NsdpFits room ids s.model.portCount s.nsdpStore o) :
    LandsIn urandom network room ids w s (writer.perform o)
      (s.nsdpStore.write writer.protectedPorts o).1 (s.nsdpStore.write writer.protectedPorts o).2 := by
  obtain ⟨o, force⟩ := o
  cases o with
  | createVlan v => exact h.createVlan hpassword hkey hfits
  | deleteVlan v => exact h.deleteVlan hpassword
  | setVlanMembership v port mode => exact h.setVlanMembership hpassword hkey hfits.1 hfits.2
  | setPvid port v => exact h.setPvid hpassword
  | setPortDescription port description => exact h.setPortDescription hpassword hfits
  | setMgmtIp address netmask gateway => exact h.setMgmtIp hpassword
  | setHostname name => exact h.setHostname hpassword hfits
  | unsupported => exact h.lands_refused rfl (ends_done _)

/-- The writers refine the store. -/
theorem refines_perform (writer : NsdpWriter) (s : VirtualSwitchState)
    (hpassword : writer.password = s.nsdpPassword) (hkey : writer.modelKey = s.modelKey) :
    Refines (clientCall urandom network) writer.perform
      (fun w => Heard urandom network room ids w w.net.server.state ∧
        s.SameNsdpRest w.net.server.state) (fun w => w.net.server.state.nsdpStore)
      (NsdpStore.write writer.protectedPorts) (NsdpFits room ids s.model.portCount) := by
  refine ⟨fun w o ⟨hheard, hrest⟩ hfits => ?_⟩
  have hcount : s.model.portCount = w.net.server.state.model.portCount := by
    rw [VirtualSwitchState.model, VirtualSwitchState.model, hrest.modelKey]
  rw [hcount] at hfits
  obtain ⟨w', s', hheard', hrest', hstore, hends⟩ := hheard.perform
    (hpassword.trans hrest.nsdpPassword.symm) (hkey.trans hrest.modelKey.symm) hfits
  obtain rfl := hheard'.connected.state
  exact ⟨w', ⟨hheard', hrest.trans hrest'⟩, hstore, hends⟩

/-- A VLAN as NSDP has it: a record has no name. -/
theorem NsdpPlain.nsdpInfo_eq {s : VirtualSwitchState} (h : NsdpPlain room ids s) (v : ℤ) :
    (s.vlans.get? v).map (VlanSim.nsdpInfo v) =
      (s.nsdpStore.vlans v).map fun e => { e.info v with name := none } := by
  show _ = ((s.vlans.get? v).map VlanSim.nsdpEntry).map _
  cases hvsim : s.vlans.get? v with
  | none => rfl
  | some vsim =>
    have huntagged := Finset.sdiff_sdiff_eq_self (h.vlans.untagged_sub v vsim hvsim)
    exact congrArg (fun ports => some (VLANInfo.mk v none vsim.member (vsim.member \ vsim.untagged) ports))
      huntagged

end Exchanges

/-- What is plain, asked of the entries of the tables. -/
theorem nsdpPlain_of_items {room : ℕ} {ids : Finset ℤ} {s : VirtualSwitchState}
    (hmac : s.nsdpMac.length = 6)
    (hsources : ∀ p ∈ s.nsdpPortMirroringSources, 0 < p ∧ p ≤ s.model.portCount) (hname : AsciiName s)
    (hhostname : ∀ c ∈ s.hostname, c.toNat < 128)
    (hvlans : ∀ e ∈ s.vlans.items, e.1 ∈ ids ∧ (∀ p ∈ e.2.member, 0 < p ∧ p ≤ s.model.portCount) ∧
      e.2.untagged ⊆ e.2.member)
    (hfitting : ∀ v ∈ ids, 0 < v ∧ v ≤ 65535)
    (hports : ∀ e ∈ s.ports.items,
      FitsField 1 e.1 ∧ (PyCodec.utf8Encode (e.2.description.getD [])).length ≤ room)
    (hpvids : ∀ e ∈ s.pvids.items, FitsField 1 e.1 ∧ FitsField 2 e.2)
    (haddresses : ∀ a ∈ [s.mgmt.address, s.mgmt.netmask, s.mgmt.gateway], (PyCodec.inetAton a).isSome)
    (hidentity : s.servedName.length + s.hostname.length ≤ 2000)
    (hportsSize : s.servedName.length + s.ports.sortedItems.length * (16 + room) ≤ 4000)
    (hvlansSize : s.servedName.length + ids.card * (6 + 2 * bitmapBytes s.model.portCount) ≤ 4000)
    (hwriteSize : proofLength s + room ≤ 3900) : NsdpPlain room ids s := by
  have hvlan := fun v vsim (hvsim : s.vlans.get? v = some vsim) =>
    hvlans (v, vsim) (PyDict.mem_items_of_get? hvsim)
  have hlisted : ∀ v ∈ s.vlans, v ∈ ids := by
    intro v hv
    obtain ⟨vsim, hvsim⟩ := PyDict.mem_iff.mp hv
    exact (hvlan v vsim hvsim).1
  exact ⟨⟨⟨fun v vsim hvsim => (hvlan v vsim hvsim).2.1, hsources⟩, hmac⟩, hname, hhostname,
    ⟨fun v hv => (hfitting v (hlisted v hv)).1, fun v hv => (hfitting v (hlisted v hv)).2,
      fun v vsim hvsim => (hvlan v vsim hvsim).2.1, fun v vsim hvsim => (hvlan v vsim hvsim).2.2⟩,
    hlisted, hfitting, fun p sim hsim => hports (p, sim) (PyDict.mem_items_of_get? hsim),
    fun p v hv => hpvids (p, v) (PyDict.mem_items_of_get? hv), haddresses, hidentity, hportsSize,
    hvlansSize, hwriteSize⟩

theorem heard_namedPorts : Heard (fun _ => [1, 2, 3, 4]) promptReplies 64 {1, 7} (freshWorld namedPorts)
    namedPorts where
  connected := connected_freshWorld namedPorts
  accepts := ⟨fun _ => rfl, .inl rfl, .inl rfl, by decide, fun _ => by unfold AsciiName; decide,
    fun _ => rfl, fun _ => by decide⟩
  plain := nsdpPlain_of_items rfl (by decide) (by unfold AsciiName; decide) (by decide) (by decide)
    (by decide) (by decide) (by decide) (by decide) (by decide) (by decide) (by decide) (by decide)

/-- A writer that keeps off the last port. -/
def namedPortsWriter : NsdpWriter := { tenPortsWriter with protectedPorts := {10} }

end NetgearSwitch.Virtual
