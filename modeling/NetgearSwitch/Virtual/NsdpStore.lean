import NetgearSwitch.Lib.Refinement
import NetgearSwitch.Snmp.ConfigWrites
import NetgearSwitch.Virtual.NsdpReadback
import NetgearSwitch.Virtual.VlanViews

/-!
# A switch as NSDP's store

What the NSDP writes are about, said on a store, and what a client at one end of a lossless exchange
reads of the virtual switch at the other: each of the tables a writer asks for is the store's.

§1 the store · §2 the exchange · §3 a switch that reads back
-/

namespace NetgearSwitch.Nsdp

open BigEndian Script Virtual
open Snmp (VlanEntry PortEntry ConfigStore PortListColumn editLists)

/-! ## §1 The store -/

/-- The configuration of a Plus switch, as NSDP has it. -/
structure NsdpStore extends ConfigStore where
  hostname : Text
  mgmt : MgmtIpConfig

/-- One write. -/
inductive NsdpWrite
  | createVlan (v : ℤ)
  | deleteVlan (v : ℤ)
  | setVlanMembership (v port : ℤ) (mode : VlanMode)
  | setPvid (port v : ℤ)
  | setPortDescription (port : ℤ) (description : Text)
  | setMgmtIp (address netmask gateway : Text)
  | setHostname (name : Text)
  /-- PoE, port admin, speed, flow control and syslog. -/
  | unsupported

/-- A number that fits its `w` bytes. -/
def FitsField (w : ℕ) (n : ℤ) : Prop := 0 ≤ n ∧ n < 256 ^ w

instance (w : ℕ) (n : ℤ) : Decidable (FitsField w n) := inferInstanceAs (Decidable (_ ∧ _))

namespace NsdpStore

/-- What a write does to the store.  A switch has no VLAN without the record that names it: a
membership write creates the VLAN, and a destroyed VLAN leaves its PVIDs to VLAN 1. -/
def effect (c : NsdpStore) : NsdpWrite → NsdpStore
  | .createVlan v =>
    { c with vlans :=
        if (c.vlans v).isSome then c.vlans else Function.update c.vlans v (some ⟨[], fun _ => ∅⟩) }
  | .deleteVlan v =>
    { c with
      vlans := Function.update c.vlans v none
      pvids := fun p => (c.pvids p).map fun u => if u = v ∧ (c.vlans v).isSome then 1 else u }
  | .setVlanMembership v port mode =>
    let e := (c.vlans v).getD ⟨[], fun _ => ∅⟩
    { c with vlans := Function.update c.vlans v (some { e with lists := editLists port mode e.lists }) }
  | .setPvid port v => { c with pvids := Function.update c.pvids port (some v) }
  | .setPortDescription port description =>
    { c with
      ports := Function.update c.ports port
        ((c.ports port).map fun e => { e with description := labelText description }) }
  | .setMgmtIp address netmask gateway =>
    { c with mgmt := ⟨canonicalIpv4 address, canonicalIpv4 netmask, canonicalIpv4 gateway⟩ }
  | .setHostname _ | .unsupported => c

/-- Why a write is refused, by the writer or because its value fits no TLV. -/
def refusal (protectedPorts : Finset ℤ) (c : NsdpStore) (force : Bool) : NsdpWrite → Option LibError
  | .createVlan v => if (c.vlans v).isSome ∨ FitsField 2 v then none else some .structError
  | .deleteVlan v =>
    if ¬ force then some .protectedPort else if FitsField 2 v then none else some .structError
  | .setVlanMembership v port _ =>
    if port ∈ protectedPorts ∧ ¬ force then some .protectedPort
    else if FitsField 2 v then none else some .structError
  | .setPvid port v =>
    if port ∈ protectedPorts ∧ ¬ force then some .protectedPort
    else if (c.vlans v).isNone then some .nsdp
    else if FitsField 1 port then none else some .valueError
  | .setPortDescription port _ =>
    if port ∈ protectedPorts ∧ ¬ force then some .protectedPort
    else if FitsField 1 port then none else some .valueError
  | .setMgmtIp address netmask gateway =>
    if ¬ force then some .protectedPort
    else if (canonicalIpv4 address).isSome ∧ (canonicalIpv4 netmask).isSome ∧
      (canonicalIpv4 gateway).isSome then none
    else some .osError
  | .setHostname name =>
    if PyText.strip name = [] then some .valueError
    else if ∀ c ∈ name, c.toNat < 128 then none else some .unicodeError
  | .unsupported => some .unsupportedCapability

/-- Does the store have what was asked for?  The switch keeps a label without its trailing NULs and
an address as numbers, and takes no host name over NSDP. -/
def Landed (c : NsdpStore) : NsdpWrite → Prop
  | .setPortDescription port description =>
    ((c.ports port).bind PortEntry.description) = if description = [] then none else some description
  | .setMgmtIp address netmask gateway => c.mgmt = ⟨some address, some netmask, some gateway⟩
  | .setHostname name => c.hostname = name
  | _ => True

instance (c : NsdpStore) (o : NsdpWrite) : Decidable (c.Landed o) :=
  match o with
  | .setPortDescription _ _ | .setMgmtIp _ _ _ | .setHostname _ => inferInstanceAs (Decidable (_ = _))
  | .createVlan _ | .deleteVlan _ | .setVlanMembership _ _ _ | .setPvid _ _ | .unsupported =>
    inferInstanceAs (Decidable True)

/-- What a read-back has to say. -/
def verdict (landed : Prop) [Decidable landed] : Except LibError Unit :=
  if landed then .ok () else .error .writeVerification

theorem verdict_congr {p q : Prop} [Decidable p] [Decidable q] (h : p ↔ q) : verdict p = verdict q := by
  unfold verdict
  by_cases hp : p
  · rw [if_pos hp, if_pos (h.mp hp)]
  · rw [if_neg hp, if_neg fun hq => hp (h.mpr hq)]

theorem verdict_of {p : Prop} [Decidable p] (h : p) : verdict p = .ok () := if_pos h

/-- A write, forced or not: one that does not land is reported, and stays. -/
def write (protectedPorts : Finset ℤ) (c : NsdpStore) (o : NsdpWrite × Bool) :
    NsdpStore × Except LibError Unit :=
  (c.refusal protectedPorts o.2 o.1).elim
    (c.effect o.1, verdict ((c.effect o.1).Landed o.1)) fun e => (c, .error e)

theorem write_refused {protectedPorts : Finset ℤ} {c : NsdpStore} {o : NsdpWrite} {force : Bool}
    {e : LibError} (h : c.refusal protectedPorts force o = some e) :
    c.write protectedPorts (o, force) = (c, .error e) := by
  rw [write, h]
  rfl

theorem write_accepted {protectedPorts : Finset ℤ} {c : NsdpStore} {o : NsdpWrite} {force : Bool}
    (h : c.refusal protectedPorts force o = none) :
    c.write protectedPorts (o, force) = (c.effect o, verdict ((c.effect o).Landed o)) := by
  rw [write, h]
  rfl

end NsdpStore

/-- The writer's own call. -/
def NsdpWriter.perform (w : NsdpWriter) (o : NsdpWrite × Bool) : NsdpScript Unit :=
  match o.1 with
  | .createVlan v => w.createVlan v
  | .deleteVlan v => w.deleteVlan v o.2
  | .setVlanMembership v port mode => w.setVlanMembership v port mode o.2
  | .setPvid port v => w.setPvid port v o.2
  | .setPortDescription port description => w.setPortDescription port description o.2
  | .setMgmtIp address netmask gateway => w.setMgmtIp address netmask gateway o.2
  | .setHostname name => w.setHostname name
  | .unsupported => NsdpWriter.unsupported

/-! ## §2 The exchange -/

namespace World

variable {σ : Type} {env : Environment σ} {w : World σ}

theorem client_exchange (env : Environment σ) (awaited : Op) (req : NSDPPacket) (w : World σ) :
    (w.exchange env awaited req).1.client = w.client := by
  unfold exchange
  split
  · rfl
  · split
    · rfl
    · dsimp only
      split <;> rfl

theorem authScheme_read (env : Environment σ) (tags : List ℕ) (w : World σ) :
    (w.read env tags).1.client.authScheme = w.client.authScheme := by
  have hexchange := client_exchange env .readResponse
    (buildReadRequest w.nextSeq.client.clientMac broadcastMac w.nextSeq.client.sequence tags) w.nextSeq
  unfold read
  dsimp only
  split
  · next w' e h =>
    rw [h] at hexchange
    exact (congrArg UdpNsdpClient.authScheme hexchange).trans rfl
  · next w' taken resp h =>
    rw [h] at hexchange
    split_ifs
    · exact (congrArg UdpNsdpClient.authScheme hexchange).trans rfl
    · exact (congrArg UdpNsdpClient.authScheme hexchange).trans rfl

/-- Once it knows the scheme, a client keeps to it. -/
theorem authScheme_write {w₁ : World σ} {v2 : Bool} (h : w.resolveScheme env = (w₁, .ok v2))
    (tlvs : List TLVEntry) (password : Text) :
    (w.write env tlvs password).1.client.authScheme = if v2 then .v2 else .v1 := by
  have hscheme : w₁.client.authScheme = if v2 then .v2 else .v1 := by
    unfold resolveScheme at h
    split at h
    · next hv1 =>
      cases h
      exact hv1
    · next hv2 =>
      cases h
      exact hv2
    · split at h
      · cases h
      · cases h
        rfl
  have hbuild : (w.buildWrite env tlvs password).1.client.authScheme = if v2 then .v2 else .v1 := by
    unfold buildWrite
    rw [h]
    cases v2 with
    | false => exact hscheme
    | true =>
      have hread := authScheme_read env [Tag.authV2Salt] w₁
      rw [hscheme] at hread
      dsimp only
      split
      · next w₂ e h₂ =>
        rw [h₂] at hread
        exact hread
      · next w₂ saltResp h₂ =>
        rw [h₂] at hread
        split
        · exact hread
        · split
          · exact hread
          · exact hread
  unfold write
  split
  · next w₂ e h₂ =>
    rw [h₂] at hbuild
    exact hbuild
  · next w₂ req h₂ =>
    rw [h₂] at hbuild
    have hexchange := client_exchange env .writeResponse req w₂
    split
    · next w₃ e h₃ =>
      rw [h₃] at hexchange
      rw [← hbuild]
      exact congrArg UdpNsdpClient.authScheme hexchange
    · next w₃ taken resp h₃ =>
      rw [h₃] at hexchange
      have hlast : w₃.client.authScheme = if v2 then .v2 else .v1 := by
        rw [← hbuild]
        exact congrArg UdpNsdpClient.authScheme hexchange
      by_cases hop : resp.op ≠ .writeResponse
      · rw [if_pos hop]
        exact hlast
      · rw [if_neg hop]
        split
        · exact hlast
        · exact hlast

end World

end NetgearSwitch.Nsdp

namespace NetgearSwitch.Virtual

open Nsdp BigEndian Script
open Snmp (VlanEntry PortEntry ConfigStore PortListColumn editLists)

/-! ## §3 A switch that reads back -/

def VlanSim.nsdpEntry (vsim : VlanSim) : VlanEntry :=
  ⟨vsim.name, fun
    | .egress => vsim.member
    | .untagged => vsim.untagged⟩

def PortSim.nsdpEntry (sim : PortSim) : PortEntry :=
  ⟨sim.admin, sim.link, labelText (sim.description.getD [])⟩

/-- The store NSDP makes of the switch. -/
def VirtualSwitchState.nsdpStore (s : VirtualSwitchState) : NsdpStore where
  vlans v := (s.vlans.get? v).map VlanSim.nsdpEntry
  pvids p := s.pvids.get? p
  ports p := (s.ports.get? p).map PortSim.nsdpEntry
  hostname := PyCodec.rstripNul s.hostname
  mgmt := ⟨canonicalIpv4 s.mgmt.address, canonicalIpv4 s.mgmt.netmask, canonicalIpv4 s.mgmt.gateway⟩

/-- A switch whose values go into their TLVs, and whose tables go into one datagram: labels of up to
`room` bytes, VLANs out of `ids`. -/
structure NsdpPlain (room : ℕ) (ids : Finset ℤ) (s : VirtualSwitchState) : Prop where
  reportable : Reportable s
  name : AsciiName s
  hostname : ∀ c ∈ s.hostname, c.toNat < 128
  vlans : NsdpVlans s
  listed : ∀ v ∈ s.vlans, v ∈ ids
  fitting : ∀ v ∈ ids, 0 < v ∧ v ≤ 65535
  ports : ∀ p sim, s.ports.get? p = some sim →
    FitsField 1 p ∧ (PyCodec.utf8Encode (sim.description.getD [])).length ≤ room
  pvids : ∀ p v, s.pvids.get? p = some v → FitsField 1 p ∧ FitsField 2 v
  addresses : ∀ a ∈ [s.mgmt.address, s.mgmt.netmask, s.mgmt.gateway], (PyCodec.inetAton a).isSome
  identitySize : s.servedName.length + s.hostname.length ≤ 2000
  portsSize : s.servedName.length + s.ports.sortedItems.length * (16 + room) ≤ 4000
  vlansSize : s.servedName.length + ids.card * (6 + 2 * bitmapBytes s.model.portCount) ≤ 4000
  writeSize : proofLength s + room ≤ 3900

/-- What no write changes. -/
structure VirtualSwitchState.SameNsdpRest (s s' : VirtualSwitchState) : Prop where
  ports : ∀ p, (s'.ports.get? p).map (fun sim => { sim with description := none }) =
    (s.ports.get? p).map fun sim => { sim with description := none }
  mode : s'.mgmt.mode = s.mgmt.mode
  others : { s' with
    vlans := s.vlans
    pvids := s.pvids
    ports := s.ports
    mgmt := s.mgmt
    nsdpLastSalt := s.nsdpLastSalt
    nsdpAuthFailures := s.nsdpAuthFailures } = s

namespace VirtualSwitchState

variable {s s' s'' : VirtualSwitchState} {room : ℕ} {ids : Finset ℤ}

theorem SameNsdpRest.refl (s : VirtualSwitchState) : s.SameNsdpRest s := ⟨fun _ => rfl, rfl, rfl⟩

theorem SameNsdpRest.trans (h : s.SameNsdpRest s') (h' : s'.SameNsdpRest s'') :
    s.SameNsdpRest s'' where
  ports p := (h'.ports p).trans (h.ports p)
  mode := h'.mode.trans h.mode
  others := by
    have hsecond := congrArg (fun x : VirtualSwitchState => { x with
      vlans := s.vlans
      pvids := s.pvids
      ports := s.ports
      mgmt := s.mgmt
      nsdpLastSalt := s.nsdpLastSalt
      nsdpAuthFailures := s.nsdpAuthFailures }) h'.others
    exact hsecond.trans h.others

theorem SameNsdpRest.modelKey (h : s.SameNsdpRest s') : s'.modelKey = s.modelKey := by
  have hkey := congrArg VirtualSwitchState.modelKey h.others
  exact hkey

theorem SameNsdpRest.nsdpPassword (h : s.SameNsdpRest s') : s'.nsdpPassword = s.nsdpPassword := by
  have hpassword := congrArg VirtualSwitchState.nsdpPassword h.others
  exact hpassword

end VirtualSwitchState

/-- The tables a writer reads, each by the tags it asks for. -/
def writerReads : List (List ℕ) :=
  [[Tag.portCount, Tag.vlanMembers], [Tag.portPvid], [Tag.portCount, Tag.portStatus, Tag.portName],
    [Tag.hostname], [Tag.ipAddress, Tag.netmask, Tag.gateway, Tag.dhcpMode]]

/-- The tags of the configuration. -/
def configTags : List ℕ :=
  [Tag.model, Tag.hostname, Tag.portCount, Tag.portStatus, Tag.portName, Tag.vlanMembers, Tag.portPvid,
    Tag.ipAddress, Tag.netmask, Tag.gateway, Tag.dhcpMode]

theorem isSome_packInt {w : ℕ} {n : ℤ} (h : FitsField w n) : (packInt w n).isSome := by
  obtain ⟨hnonneg, hlt⟩ := h
  rw [packInt, if_pos hnonneg, pack_eq (by zify; omega)]
  rfl

theorem packInt_eq_none {w : ℕ} {n : ℤ} (h : ¬ FitsField w n) : packInt w n = none := by
  cases hpack : packInt w n with
  | none => rfl
  | some b =>
    obtain ⟨hnonneg, hlt, -⟩ := packInt_eq_some hpack
    refine absurd ⟨hnonneg, ?_⟩ h
    zify at hlt
    omega

namespace NsdpPlain

variable {s : VirtualSwitchState} {room : ℕ} {ids : Finset ℤ}

/-- A switch that is plain can put what it has of the configuration into TLVs. -/
theorem readChecks (h : NsdpPlain room ids s) {tags : List ℕ} (htags : ∀ t ∈ tags, t ∈ configTags) :
    firstFailed (s.readChecks tags) = none := by
  have hwhen : ∀ {answered : Prop} [Decidable answered] {checks : List (NsdpFault × Bool)},
      (answered → ∀ c ∈ checks, c.2 = true) → firstFailed (checkWhen answered checks) = none := by
    intro answered _ checks hchecks
    unfold checkWhen
    by_cases ha : answered
    · rw [if_pos ha]
      exact VirtualSwitchState.firstFailed_eq_none (hchecks ha)
    · rw [if_neg ha]
      rfl
  have hnot : ∀ {tag : ℕ} {checks : List (NsdpFault × Bool)}, tag ∉ configTags →
      firstFailed (checkWhen (tag ∈ tags) checks) = none :=
    fun hout => hwhen fun hin => absurd (htags _ hin) hout
  have hboth : ∀ {tag : ℕ} {checks : List (NsdpFault × Bool)} {p : Prop} [Decidable p],
      tag ∉ configTags → firstFailed (checkWhen (tag ∈ tags ∧ p) checks) = none :=
    fun hout => hwhen fun hin => absurd (htags _ hin.1) hout
  have hmodel : (asciiCheck (if s.modelName = [] then s.model.displayName else s.modelName)).2 =
      true := by
    obtain ⟨name, hname⟩ := asciiEncode_servedName h.name
    show (PyCodec.asciiEncode s.servedName).isSome = true
    rw [hname]
    rfl
  have hcount : (byteCheck s.model.portCount).2 = true := by
    have hbyte : ∀ key : ModelKey, (byteCheck (getModel key).portCount).2 = true := by
      intro key
      cases key <;> decide
    exact hbyte s.modelKey
  have hports : ∀ c ∈ s.ports.sortedItems.flatMap fun e => [byteCheck e.1], c.2 = true := by
    intro c hc
    obtain ⟨e, he, hc⟩ := List.mem_flatMap.mp hc
    rw [List.mem_singleton.mp hc]
    exact isSome_packInt (h.ports e.1 e.2 (PyDict.mem_sortedItems.mp he)).1
  have haddress : ∀ a ∈ [s.mgmt.address, s.mgmt.netmask, s.mgmt.gateway],
      ∀ c ∈ [addressCheck a], c.2 = true := by
    intro a ha c hc
    rw [List.mem_singleton.mp hc]
    exact h.addresses a ha
  simp only [VirtualSwitchState.readChecks, VirtualSwitchState.identityChecks,
    VirtualSwitchState.configChecks, List.flatten_cons, List.flatten_nil, firstFailed_append,
    Option.or_eq_none_iff]
  refine ⟨⟨⟨⟨⟨⟨?_, ?_⟩, hboth (by decide)⟩, ?_⟩, hboth (by decide)⟩, hnot (by decide)⟩,
    ?_, ?_, hnot (by decide), ?_, ?_, hwhen fun _ => haddress _ (by simp),
    hwhen fun _ => haddress _ (by simp), hwhen fun _ => haddress _ (by simp), hnot (by decide),
    hnot (by decide), hnot (by decide), rfl⟩
  · rw [firstFailed, hmodel]
    rfl
  · refine hwhen fun _ c hc => ?_
    rw [List.mem_singleton.mp hc]
    exact hcount
  · refine hwhen fun _ c hc => ?_
    rw [List.mem_singleton.mp hc, asciiCheck, PyCodec.asciiEncode_of_ascii h.hostname]
    rfl
  · exact hwhen fun _ => hports
  · exact hwhen fun _ => hports
  · refine hwhen fun _ c hc => ?_
    obtain ⟨e, he, hc⟩ := List.mem_flatMap.mp hc
    have hget := PyDict.mem_sortedItems.mp he
    obtain ⟨vid, member, tagged, hvid, hmember, htagged, -⟩ := exists_vlanRow h.vlans hget
    simp only [List.mem_cons, List.not_mem_nil, or_false] at hc
    rcases hc with rfl | rfl | rfl
    · rw [fieldCheck, hvid]
      rfl
    · rw [bitmapCheck, hmember]
      rfl
    · rw [bitmapCheck, htagged]
      rfl
  · refine hwhen fun _ c hc => ?_
    obtain ⟨e, he, hc⟩ := List.mem_flatMap.mp hc
    obtain ⟨hp, hv⟩ := h.pvids e.1 e.2 (PyDict.mem_sortedItems.mp he)
    simp only [List.mem_cons, List.not_mem_nil, or_false] at hc
    rcases hc with rfl | rfl
    · exact isSome_packInt hp
    · exact isSome_packInt hv

/-- There are no more PVIDs than numbers of ports. -/
theorem length_pvids (h : NsdpPlain room ids s) : s.pvids.sortedItems.length ≤ 256 := by
  have hkeys : ∀ p ∈ s.pvids, p ∈ Finset.Ico (0 : ℤ) 256 := by
    intro p hp
    obtain ⟨v, hv⟩ := PyDict.mem_iff.mp hp
    obtain ⟨hnonneg, hlt⟩ := (h.pvids p v hv).1
    exact Finset.mem_Ico.mpr ⟨hnonneg, by simpa using hlt⟩
  exact (PyDict.length_sortedItems_le hkeys).trans (by simp)

/-- The labels take no more than their room. -/
theorem sum_labels (h : NsdpPlain room ids s) :
    (s.ports.sortedItems.map fun e =>
      4 + (1 + (PyCodec.utf8Encode (e.2.description.getD [])).length)).sum ≤
        s.ports.sortedItems.length * (5 + room) := by
  have hle : ∀ n ∈ s.ports.sortedItems.map fun e =>
      4 + (1 + (PyCodec.utf8Encode (e.2.description.getD [])).length), n ≤ 5 + room := by
    intro n hn
    obtain ⟨e, he, rfl⟩ := List.mem_map.mp hn
    have hroom := (h.ports e.1 e.2 (PyDict.mem_sortedItems.mp he)).2
    omega
  have hsum := List.sum_le_card_nsmul _ _ hle
  rwa [List.length_map, nsmul_eq_mul] at hsum

/-- Each table that a writer reads goes into a datagram. -/
theorem answerBytes (h : NsdpPlain room ids s) (salt : Bytes) {tags : List ℕ}
    (htags : tags ∈ writerReads) :
    s.answerBytes salt (NsdpWriter.withModel tags) ≤ 4064 := by
  have hidentity := h.identitySize
  have hports := h.portsSize
  have hvlans := h.vlansSize
  have hlabels := h.sum_labels
  have hpvidCount := h.length_pvids
  have hvlanCount := Nat.mul_le_mul_right (4 + (2 + bitmapBytes s.model.portCount * 2))
    (PyDict.length_sortedItems_le h.listed)
  have hwidth : 6 + 2 * bitmapBytes s.model.portCount =
      4 + (2 + bitmapBytes s.model.portCount * 2) := by omega
  rw [hwidth] at hvlans
  have hrows : s.ports.sortedItems.length * (16 + room) = s.ports.sortedItems.length * (5 + room) +
      11 * s.ports.sortedItems.length := by ring
  rw [hrows] at hports
  have hconst : ∀ {α : Type} (l : List α) (n : ℕ), (l.map fun _ => n).sum = l.length * n := by
    intro α l n
    rw [List.map_const', List.sum_replicate_nat]
  simp only [writerReads, List.mem_cons, List.not_mem_nil, or_false] at htags
  have hwhen : ∀ {p : Prop} [Decidable p] {n : ℕ}, p → askedBytes p n = n := fun h => if_pos h
  have hnot : ∀ {p : Prop} [Decidable p] {n : ℕ}, ¬ p → askedBytes p n = 0 := fun h => if_neg h
  have hnever : ∀ {p q : Prop} [Decidable p] [Decidable q] {n : ℕ}, ¬ p → askedBytes (p ∧ q) n = 0 :=
    fun h => if_neg fun hpq => h hpq.1
  have hle : ∀ {p : Prop} [Decidable p] {n : ℕ}, askedBytes p n ≤ n := by
    intro p _ n
    unfold askedBytes
    split_ifs
    · exact le_rfl
    · exact Nat.zero_le n
  unfold VirtualSwitchState.answerBytes VirtualSwitchState.identityBytes
    VirtualSwitchState.configBytes
  rcases htags with rfl | rfl | rfl | rfl | rfl
  all_goals
    simp (disch := decide) only [hconst, hwhen, hnot, hnever]
  · omega
  · omega
  · omega
  · have hhostname : askedBytes (Tag.hostname ∈ NsdpWriter.withModel [Tag.hostname] ∧ s.hostname ≠ [])
        (4 + s.hostname.length) ≤ 4 + s.hostname.length := hle
    omega
  · omega

end NsdpPlain

/-- A client that is heard by a switch that is plain. -/
structure Heard (urandom : ℕ → Bytes) (network : ℕ → DatagramNet.Delivery) (room : ℕ) (ids : Finset ℤ)
    (w : World VirtualNsdpFace) (s : VirtualSwitchState) : Prop where
  connected : w.Connected urandom network s
  accepts : w.Accepts urandom s
  plain : NsdpPlain room ids s

section Exchanges

variable {urandom : ℕ → Bytes} {network : ℕ → DatagramNet.Delivery} {room : ℕ} {ids : Finset ℤ}

/-- A read that answers `view` of the switch, and changes nothing. -/
def Reads {α : Type} (urandom : ℕ → Bytes) (network : ℕ → DatagramNet.Delivery) (room : ℕ)
    (ids : Finset ℤ) (read : NsdpScript α) (view : VirtualSwitchState → α) : Prop :=
  ∀ w s, Heard urandom network room ids w s →
    ∃ w', Heard urandom network room ids w' s ∧
      Ends (clientCall urandom network) read w (.ok (view s)) w'

theorem Reads.map {α β : Type} {read : NsdpScript α} {view : VirtualSwitchState → α}
    (h : Reads urandom network room ids read view) (f : α → β) :
    Reads urandom network room ids (read >>= fun a => pure (f a)) fun s => f (view s) := by
  intro w s hw
  obtain ⟨w', hw', hends⟩ := h w s hw
  exact ⟨w', hw', hends.bind (ends_done _)⟩

/-- The tables a writer reads. -/
theorem reads_device {tags : List ℕ} (htags : tags ∈ writerReads) :
    Reads urandom network room ids (NsdpWriter.device tags)
      (fun s => s.reported (NsdpWriter.withModel tags)) := by
  intro w s hw
  have hconfig : ∀ t ∈ NsdpWriter.withModel tags, t ∈ configTags := by
    simp only [writerReads, List.mem_cons, List.not_mem_nil, or_false] at htags
    rcases htags with rfl | rfl | rfl | rfl | rfl <;> decide
  have haskable : Askable tags := by
    simp only [writerReads, List.mem_cons, List.not_mem_nil, or_false] at htags
    rcases htags with rfl | rfl | rfl | rfl | rfl <;> exact ⟨by decide, by decide, by decide, by decide⟩
  obtain ⟨w', hends, hconnected, hscheme⟩ := ends_device hw.connected hw.plain.reportable haskable
    (hw.plain.readChecks hconfig) (hw.plain.answerBytes _ htags)
  -- Only a salt that is asked for is kept, and none of these reads asks for one.
  have hsame : (s.nsdpTlvs (urandom w.net.server.taken) (NsdpWriter.withModel tags)).1 = s := by
    have hsalt : Tag.authV2Salt ∉ NsdpWriter.withModel tags := fun hmem =>
      absurd (hconfig _ hmem) (by decide)
    unfold VirtualSwitchState.nsdpTlvs
    cases s.identityTlvs (NsdpWriter.withModel tags) with
    | error fault => rfl
    | ok identity =>
      dsimp only
      rw [if_neg hsalt]
  rw [hsame] at hconnected
  have ha := hw.accepts
  exact ⟨w', ⟨hconnected, ⟨ha.salts, ha.version, by rw [hscheme]; exact ha.scheme, ha.password,
    by rw [hscheme]; exact ha.name, ha.mac, ha.unlocked⟩, hw.plain⟩, hends⟩

/-- The VLANs as `get_vlans` has them. -/
def VirtualSwitchState.nsdpVlanInfos (s : VirtualSwitchState) : List VLANInfo :=
  s.vlans.sortedItems.map fun e => e.2.nsdpInfo e.1

theorem reads_getVlans :
    Reads urandom network room ids NsdpWriter.getVlans VirtualSwitchState.nsdpVlanInfos := by
  intro w s hw
  obtain ⟨w', hw', hends⟩ := @reads_device urandom network room ids
    [Tag.portCount, Tag.vlanMembers] (by decide) w s hw
  refine ⟨w', hw', ?_⟩
  have hrows : NsdpWriter.vlans (s.reported (NsdpWriter.withModel [Tag.portCount, Tag.vlanMembers])) =
      s.nsdpVlanInfos := by
    rw [NsdpWriter.vlans, VirtualSwitchState.reported]
    dsimp only
    rw [if_pos (by decide), List.map_map]
    refine List.map_congr_left fun e he => ?_
    have hpos := hw.plain.vlans.id_pos e.1 (PyDict.mem_iff.mpr ⟨_, PyDict.mem_sortedItems.mp he⟩)
    show ({ vlanId := ((e.1.toNat : ℕ) : ℤ), .. } : VLANInfo) = _
    rw [Int.toNat_of_nonneg (Int.le_of_lt hpos)]
    rfl
  rw [← hrows]
  exact hends.bind (ends_done _)

theorem find?_nsdpVlanInfos (s : VirtualSwitchState) (v : ℤ) :
    s.nsdpVlanInfos.find? (·.vlanId = v) = (s.vlans.get? v).map (VlanSim.nsdpInfo v) :=
  find?_nsdpInfo s.vlans v

theorem reads_vlan (v : ℤ) : Reads urandom network room ids (NsdpWriter.vlan v)
    fun s => (s.vlans.get? v).map (VlanSim.nsdpInfo v) := by
  have hread := (@reads_getVlans urandom network room ids).map fun all => all.find? (·.vlanId = v)
  simp only [find?_nsdpVlanInfos] at hread
  exact hread

theorem natCast_toNat {p : ℤ} {n : ℕ} (h : FitsField n p) : ((p.toNat : ℕ) : ℤ) = p :=
  Int.toNat_of_nonneg h.1

theorem reads_getPvids : Reads urandom network room ids NsdpWriter.getPvids
    fun s => s.pvids.sortedItems.map fun e => (e.1, e.2) := by
  intro w s hw
  obtain ⟨w', hw', hends⟩ := @reads_device urandom network room ids [Tag.portPvid] (by decide) w s hw
  refine ⟨w', hw', ?_⟩
  have hpvids : (s.reported (NsdpWriter.withModel [Tag.portPvid])).portPvids.map
      (fun p => ((p.portId : ℤ), (p.vlanId : ℤ))) = s.pvids.sortedItems.map fun e => (e.1, e.2) := by
    rw [VirtualSwitchState.reported]
    dsimp only
    rw [if_pos (by decide), List.map_map]
    refine List.map_congr_left fun e he => ?_
    obtain ⟨hp, hv⟩ := hw.plain.pvids e.1 e.2 (PyDict.mem_sortedItems.mp he)
    show (((e.1.toNat : ℕ) : ℤ), ((e.2.toNat : ℕ) : ℤ)) = _
    rw [natCast_toNat hp, natCast_toNat hv]
  show Ends _ _ w (.ok (s.pvids.sortedItems.map fun e => (e.1, e.2))) w'
  rw [← hpvids]
  exact hends.bind (ends_done _)

theorem pvidOf_sortedItems (pvids : PyDict ℤ ℤ) (port : ℤ) :
    NsdpWriter.pvidOf (pvids.sortedItems.map fun e => (e.1, e.2)) port = pvids.get? port := by
  have hlast := PyDict.find?_reverse_sortedItems pvids (fun e => (e.1, e.2)) (fun e => decide (e.1 = port))
    port fun e _ => rfl
  rw [NsdpWriter.pvidOf, hlast, Option.map_map]
  exact Option.map_id'

/-- The ports as `get_ports` has them. -/
def VirtualSwitchState.nsdpPortInfos (s : VirtualSwitchState) : List PortStatus :=
  NsdpWriter.ports (s.reported (NsdpWriter.withModel [Tag.portCount, Tag.portStatus, Tag.portName]))

theorem reads_getPorts :
    Reads urandom network room ids NsdpWriter.getPorts VirtualSwitchState.nsdpPortInfos :=
  reads_device (by decide) |>.map NsdpWriter.ports

/-- The label of a port is the last one its number carries, and there is only one. -/
theorem NsdpPlain.describedAs_nsdpPortInfos {s : VirtualSwitchState} (h : NsdpPlain room ids s) (port : ℤ) :
    NsdpWriter.describedAs s.nsdpPortInfos port =
      (s.ports.get? port).bind fun sim => labelText (sim.description.getD []) := by
  let asked := NsdpWriter.withModel [Tag.portCount, Tag.portStatus, Tag.portName]
  have hcast : ∀ e ∈ s.ports.sortedItems, ((e.1.toNat : ℕ) : ℤ) = e.1 := fun e he =>
    natCast_toNat (h.ports e.1 e.2 (PyDict.mem_sortedItems.mp he)).1
  have hasked : Tag.portStatus ∈ asked ∧ Tag.portName ∈ asked :=
    (by decide : Tag.portStatus ∈ NsdpWriter.withModel [Tag.portCount, Tag.portStatus, Tag.portName] ∧
      Tag.portName ∈ NsdpWriter.withModel [Tag.portCount, Tag.portStatus, Tag.portName])
  have hstatus : (s.reported asked).portStatus = s.ports.sortedItems.map fun e =>
      e.2.nsdpStatus e.1 := by
    rw [VirtualSwitchState.reported]
    dsimp only
    rw [if_pos hasked.1]
  have hnames : (s.reported asked).portNames = s.ports.sortedItems.map fun e =>
      e.2.nsdpName e.1 := by
    rw [VirtualSwitchState.reported]
    dsimp only
    rw [if_pos hasked.2]
  -- Of several rows of one number the last one counts; here each number has one row.
  have hlabel : ∀ p sim, s.ports.get? p = some sim →
      NsdpWriter.description (s.reported asked) p.toNat = labelText (sim.description.getD []) := by
    intro p sim hsim
    have hlast := PyDict.find?_reverse_sortedItems s.ports (fun e => e.2.nsdpName e.1)
      (fun c => decide (c.portId = p.toNat)) p fun e he => by
        have hp := natCast_toNat (h.ports p sim hsim).1
        have he := hcast e he
        refine decide_eq_decide.mpr ?_
        show e.1.toNat = p.toNat ↔ e.1 = p
        constructor
        · intro heq
          rw [← he, ← hp, heq]
        · intro heq
          rw [heq]
    rw [NsdpWriter.description, hnames, hlast, hsim]
    rfl
  have hlast := PyDict.find?_reverse_sortedItems s.ports
    (fun e => ({
      port := ((e.1.toNat : ℕ) : ℤ)
      name := none
      adminEnabled := true
      linkUp := (e.2.nsdpStatus e.1).speed ≠ .down
      speedMbps := if (e.2.nsdpStatus e.1).speed.speedMbps = (0 : ℤ) then none
        else some (e.2.nsdpStatus e.1).speed.speedMbps
      description := NsdpWriter.description (s.reported asked) e.1.toNat } : PortStatus))
    (fun c => decide (c.port = port)) port fun e he => by
      refine decide_eq_decide.mpr ?_
      show ((e.1.toNat : ℕ) : ℤ) = port ↔ e.1 = port
      rw [hcast e he]
  show NsdpWriter.describedAs (NsdpWriter.ports (s.reported asked)) port = _
  rw [NsdpWriter.describedAs, NsdpWriter.ports, hstatus, List.map_map]
  refine (congrArg (fun o => Option.bind o PortStatus.description) hlast).trans ?_
  cases hsim : s.ports.get? port with
  | none => rfl
  | some sim => exact hlabel port sim hsim

theorem reads_getHostname : Reads urandom network room ids NsdpWriter.getHostname
    fun s => PyCodec.rstripNul s.hostname := by
  intro w s hw
  obtain ⟨w', hw', hends⟩ := @reads_device urandom network room ids [Tag.hostname] (by decide) w s hw
  refine ⟨w', hw', ?_⟩
  have hview : (s.reported (NsdpWriter.withModel [Tag.hostname])).hostname.getD [] =
      PyCodec.rstripNul s.hostname := by
    have hasked : Tag.hostname ∈ NsdpWriter.withModel [Tag.hostname] := by decide
    show (if _ ∧ s.hostname ≠ [] then some (PyCodec.rstripNul s.hostname) else none).getD [] = _
    by_cases hnil : s.hostname = []
    · rw [if_neg fun h => h.2 hnil, hnil]
      rfl
    · rw [if_pos ⟨hasked, hnil⟩]
      rfl
  show Ends _ _ w (.ok (PyCodec.rstripNul s.hostname)) w'
  rw [← hview]
  exact hends.bind (ends_done _)

theorem reads_getMgmtIp : Reads urandom network room ids NsdpWriter.getMgmtIp
    fun s => s.nsdpStore.mgmt := by
  intro w s hw
  obtain ⟨w', hw', hends⟩ := @reads_device urandom network room ids
    [Tag.ipAddress, Tag.netmask, Tag.gateway, Tag.dhcpMode] (by decide) w s hw
  refine ⟨w', hw', ?_⟩
  exact hends.bind (ends_done _)

end Exchanges

end NetgearSwitch.Virtual
