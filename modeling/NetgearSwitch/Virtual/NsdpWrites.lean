import NetgearSwitch.Nsdp.UdpClient
import NetgearSwitch.Nsdp.Writer
import NetgearSwitch.Virtual.VlanViews

/-!
# Writes through the NSDP face

What the virtual switch makes of the packets `NsdpWriter` has sent: how it answers a read of the
VLAN table, or as much of the answer as arrives, and what an authenticated record does to it.  The
writer overwrites a whole VLAN from two bitmaps it built from an earlier read.

§1 one packet · §2 reading · §3 writing · §4 membership
-/

namespace NetgearSwitch.Virtual

open Nsdp BigEndian Script VirtualSwitchState

/-! ## §1 One packet -/

/-- `_handle`, of a datagram already decoded. -/
def VirtualSwitchState.answerPacket (s : VirtualSwitchState) (salt : Bytes) (req : NSDPPacket) :
    VirtualSwitchState × Except NsdpFault (Option NSDPPacket) :=
  match req.op with
  | .readRequest =>
    match s.readResponse salt req with
    | (s', r) => (s', r.map some)
  | .writeRequest =>
    if s.nsdpAuthVersion = encpassV2 then s.writeResponseV2 req
    else
      match s.writeResponseV1 req with
      | (s', r) => (s', r.map some)
  | _ => (s, .ok none)

theorem VirtualSwitchState.handleNsdp_of_decode {s : VirtualSwitchState} {salt data : Bytes}
    {req : NSDPPacket} (h : NSDPPacket.decode data = .ok req) :
    s.handleNsdp salt data = s.answerPacket salt req := by
  rw [handleNsdp, h]
  rfl

/-- VLANs that fit their NSDP records. -/
structure NsdpVlans (s : VirtualSwitchState) : Prop where
  id_pos : ∀ v ∈ s.vlans, 0 < v
  id_le : ∀ v ∈ s.vlans, v ≤ 65535
  member_fits : ∀ v vsim, s.vlans.get? v = some vsim →
    ∀ p ∈ vsim.member, 0 < p ∧ p ≤ s.model.portCount
  untagged_sub : ∀ v vsim, s.vlans.get? v = some vsim → vsim.untagged ⊆ vsim.member

/-- A model name that NSDP can send. -/
def AsciiName (s : VirtualSwitchState) : Prop := ∀ c ∈ s.modelName, c.toNat < 128

/-! ## §2 Reading -/

theorem asciiEncode_servedName {s : VirtualSwitchState} (h : AsciiName s) :
    ∃ name, PyCodec.asciiEncode s.servedName = some name := by
  have hdisplay : ∀ key : ModelKey, ∀ c ∈ (getModel key).displayName, c.toNat < 128 := by
    intro key
    cases key <;> decide
  refine ⟨_, PyCodec.asciiEncode_of_ascii fun c hc => ?_⟩
  rw [VirtualSwitchState.servedName] at hc
  split_ifs at hc
  · exact hdisplay _ c hc
  · exact h c hc

/-- One VLAN as the NSDP reader reports it. -/
def VlanSim.nsdpInfo (v : ℤ) (vsim : VlanSim) : VLANInfo where
  vlanId := v
  name := none
  memberPorts := vsim.member
  taggedPorts := vsim.member \ vsim.untagged
  untaggedPorts := vsim.member \ (vsim.member \ vsim.untagged)

/-- The membership rows add one VLAN each. -/
theorem foldlM_readTlv_vlanMembers {α : Type} (n : ℕ) (value : α → Bytes)
    (record : α → NsdpVlanMembership) : ∀ (rows : List α) (acc : DeviceParse),
    (∀ r ∈ rows, parseVlanMembers (value r) n = some (record r)) →
    (rows.map fun r => (⟨Tag.vlanMembers, value r⟩ : TLVEntry)).foldlM (readTlv n) acc =
      .ok { acc with fields :=
        { acc.fields with vlanMembers := acc.fields.vlanMembers ++ rows.map record } }
  | [], acc, _ => by
    simp only [List.map_nil, List.append_nil]
    rfl
  | r :: rows, acc, h => by
    have hread : readTlv n acc ⟨Tag.vlanMembers, value r⟩ =
        .ok { acc with fields :=
          { acc.fields with vlanMembers := acc.fields.vlanMembers ++ [record r] } } := by
      have hr := h r List.mem_cons_self
      show (orRaise .valueError (parseVlanMembers (value r) n)).bind _ = _
      rw [hr]
      rfl
    rw [List.map_cons, List.foldlM_cons, hread]
    show (rows.map fun r => (⟨Tag.vlanMembers, value r⟩ : TLVEntry)).foldlM (readTlv n) _ = _
    rw [foldlM_readTlv_vlanMembers n value record rows _ fun r hr =>
      h r (List.mem_cons_of_mem _ hr)]
    simp only [List.map_cons, List.append_assoc, List.singleton_append]

/-- What the writer finds in a response to its reads of the VLAN table. -/
theorem parseDevice_vlans {resp : NSDPPacket} {name : Bytes} {n : ℕ} (hn : n < 256)
    {rows : List (ℤ × VlanSim)} {value : ℤ × VlanSim → Bytes}
    {record : ℤ × VlanSim → NsdpVlanMembership}
    (hrows : ∀ e ∈ rows, parseVlanMembers (value e) n = some (record e))
    (htlvs : resp.tlvs = ⟨Tag.model, name⟩ :: ⟨Tag.portCount, [UInt8.ofNat n]⟩ ::
      rows.map fun e => ⟨Tag.vlanMembers, value e⟩) (hmac : resp.serverMac.length = 6) :
    ∃ dev, parseDevice resp = .ok dev ∧ dev.vlanMembers = rows.map record := by
  have hcount : learnPortCount resp.tlvs = n := by
    have hkeep : ∀ (rows : List (ℤ × VlanSim)) (k : ℕ),
        (rows.map fun e => (⟨Tag.vlanMembers, value e⟩ : TLVEntry)).foldl (fun n t =>
          if t.tag = Tag.portCount then (t.value.head?.map UInt8.toNat).getD n else n) k = k := by
      intro rows
      induction rows with
      | nil => intro k; rfl
      | cons e rows ih => exact fun k => ih k
    rw [learnPortCount, htlvs]
    show (rows.map fun e => (⟨Tag.vlanMembers, value e⟩ : TLVEntry)).foldl _
      (UInt8.ofNat n).toNat = n
    rw [hkeep]
    exact UInt8.toNat_ofNat_of_lt' hn
  let fields : NsdpFields :=
    { portCount := some (UInt8.ofNat n).toNat
      vlanMembers := rows.map record }
  have hfold : resp.tlvs.foldlM (readTlv n) {} =
      .ok { model := some (decodeStr name), fields := fields } := by
    rw [htlvs]
    show (rows.map fun e => (⟨Tag.vlanMembers, value e⟩ : TLVEntry)).foldlM (readTlv n) _ = _
    rw [foldlM_readTlv_vlanMembers n value record rows _ hrows]
    rfl
  have hdevice : parseDevice resp =
      .ok { fields with model := decodeStr name, mac := resp.serverMac } := by
    rw [parseDevice, hcount, hfold]
    show (parseMac resp.serverMac).bind _ = _
    rw [parseMac, if_neg (not_not_intro hmac)]
    rfl
  exact ⟨_, hdevice, rfl⟩

theorem answerPacket_of_read {s s' : VirtualSwitchState} {salt : Bytes} {req resp : NSDPPacket}
    (hop : req.op = .readRequest) (h : s.readResponse salt req = (s', .ok resp)) :
    s.answerPacket salt req = (s', .ok (some resp)) := by
  rw [answerPacket, hop]
  dsimp only
  rw [h]
  rfl

/-- A VLAN's row of the answer. -/
theorem exists_vlanRow {s : VirtualSwitchState} (hfits : NsdpVlans s) {v : ℤ} {vsim : VlanSim}
    (hget : s.vlans.get? v = some vsim) :
    ∃ vid member tagged, packInt 2 v = some vid ∧
      portsToBitmap vsim.member (bitmapBytes s.model.portCount) = some member ∧
      portsToBitmap (vsim.member \ vsim.untagged) (bitmapBytes s.model.portCount) = some tagged ∧
      parseVlanMembers (vid ++ member ++ tagged) s.model.portCount =
        some ⟨v.toNat, vsim.member, vsim.member \ vsim.untagged⟩ := by
  have hv : v ∈ s.vlans := PyDict.mem_iff.mpr ⟨vsim, hget⟩
  have hmember := hfits.member_fits v vsim hget
  have htagged : ∀ p ∈ vsim.member \ vsim.untagged, 0 < p ∧ p ≤ s.model.portCount :=
    fun p hp => hmember p (Finset.mem_sdiff.mp hp).1
  have hpos := hfits.id_pos v hv
  have hle := hfits.id_le v hv
  have hvid : packInt 2 v = some (toBytes 2 v.toNat) := packInt_eq (by omega) (by omega)
  obtain ⟨member, hmemberBits⟩ := Option.isSome_iff_exists.mp
    (isSome_portsToBitmap_of_pos (fun p hp => (hmember p hp).1) (bitmapBytes s.model.portCount))
  obtain ⟨tagged, htaggedBits⟩ := Option.isSome_iff_exists.mp
    (isSome_portsToBitmap_of_pos (fun p hp => (htagged p hp).1) (bitmapBytes s.model.portCount))
  exact ⟨_, member, tagged, hvid, hmemberBits, htaggedBits,
    parseVlanMembers_eq (Int.le_of_lt hpos) hle hmember htagged hvid hmemberBits htaggedBits⟩

/-- The TLVs of the VLAN table. -/
def vlanAnswer (n : ℕ) (name : Bytes) (rows : List (ℤ × VlanSim)) (value : ℤ × VlanSim → Bytes) :
    List TLVEntry :=
  ⟨Tag.model, name⟩ :: ⟨Tag.portCount, [UInt8.ofNat n]⟩ ::
    rows.map fun e => ⟨Tag.vlanMembers, value e⟩

/-- An answer cut down to the model's name has no VLANs. -/
theorem parseDevice_modelAlone {resp : NSDPPacket} {name : Bytes}
    (htlvs : resp.tlvs = [⟨Tag.model, name⟩]) (hmac : resp.serverMac.length = 6) :
    ∃ dev, parseDevice resp = .ok dev ∧ dev.vlanMembers = [] := by
  have hdevice : parseDevice resp =
      .ok { ({} : NsdpFields) with model := decodeStr name, mac := resp.serverMac } := by
    rw [parseDevice, htlvs]
    show (parseMac resp.serverMac).bind _ = _
    rw [parseMac, if_neg (not_not_intro hmac)]
    rfl
  exact ⟨_, hdevice, rfl⟩

/-- A read of the VLAN table is answered in full, and what arrives of the answer parses back to as
many of the switch's VLANs. -/
theorem exists_vlanAnswer {s : VirtualSwitchState} (hname : AsciiName s) (hfits : NsdpVlans s) :
    ∃ name value, PyCodec.asciiEncode s.servedName = some name ∧
      (∀ e ∈ s.vlans.sortedItems, (value e).length = 2 + bitmapBytes s.model.portCount * 2) ∧
      (∀ salt, s.nsdpTlvs salt [Tag.model, Tag.portCount, Tag.vlanMembers] =
        (s, .ok (vlanAnswer s.model.portCount name s.vlans.sortedItems value))) ∧
      ∀ (resp : NSDPPacket) (k : ℕ), 0 < k →
        resp.tlvs = (vlanAnswer s.model.portCount name s.vlans.sortedItems value).take k →
        resp.serverMac.length = 6 → ∃ dev, parseDevice resp = .ok dev ∧
          NsdpWriter.vlans dev =
            (s.vlans.sortedItems.take (k - 2)).map fun e => e.2.nsdpInfo e.1 := by
  obtain ⟨name, hserved⟩ := asciiEncode_servedName hname
  let w := bitmapBytes s.model.portCount
  let value (e : ℤ × VlanSim) : Bytes := (packInt 2 e.1).getD [] ++
    (portsToBitmap e.2.member w).getD [] ++ (portsToBitmap (e.2.member \ e.2.untagged) w).getD []
  have hget : ∀ e ∈ s.vlans.sortedItems, s.vlans.get? e.1 = some e.2 :=
    fun e he => PyDict.mem_sortedItems.mp he
  have hrows : ∀ e ∈ s.vlans.sortedItems, ∃ vid member tagged, packInt 2 e.1 = some vid ∧
      portsToBitmap e.2.member w = some member ∧
      portsToBitmap (e.2.member \ e.2.untagged) w = some tagged ∧
      value e = vid ++ member ++ tagged ∧ parseVlanMembers (value e) s.model.portCount =
        some ⟨e.1.toNat, e.2.member, e.2.member \ e.2.untagged⟩ := by
    intro e he
    obtain ⟨vid, member, tagged, hvid, hmember, htagged, hrow⟩ := exists_vlanRow hfits (hget e he)
    have hvalue : value e = vid ++ member ++ tagged := by
      show (packInt 2 e.1).getD [] ++ (portsToBitmap e.2.member w).getD [] ++
        (portsToBitmap (e.2.member \ e.2.untagged) w).getD [] = _
      rw [hvid, hmember, htagged]
      rfl
    exact ⟨vid, member, tagged, hvid, hmember, htagged, hvalue, hvalue ▸ hrow⟩
  refine ⟨name, value, hserved, ?_, fun salt => ?_, fun resp k hk htlvs hmac => ?_⟩
  · intro e he
    obtain ⟨vid, member, tagged, hvid, hmember, htagged, hvalue, _⟩ := hrows e he
    have hports := hfits.member_fits e.1 e.2 (hget e he)
    have hid : vid.length = 2 := by
      have hpos := hfits.id_pos e.1 (PyDict.mem_iff.mpr ⟨e.2, hget e he⟩)
      have hle := hfits.id_le e.1 (PyDict.mem_iff.mpr ⟨e.2, hget e he⟩)
      rw [packInt_eq (by omega) (by omega), Option.some.injEq] at hvid
      rw [← hvid, length_toBytes]
    rw [hvalue, List.length_append, List.length_append, hid,
      (bitmapToPorts_portsToBitmap hports hmember).1,
      (bitmapToPorts_portsToBitmap
        (fun p hp => hports p (Finset.mem_sdiff.mp hp).1) htagged).1]
    omega
  · refine nsdpTlvs_vlans hserved (fun e he => ?_) salt
    obtain ⟨vid, member, tagged, hvid, hmember, htagged, hvalue, _⟩ := hrows e he
    exact ⟨vid, member, tagged, hvid, hmember, htagged, hvalue⟩
  · have hcount : s.model.portCount < 256 := by
      have hall : ∀ key : ModelKey, (getModel key).portCount < 256 := by
        intro key
        cases key <;> decide
      exact hall s.modelKey
    rcases Nat.lt_or_ge k 2 with hone | htwo
    · have hkone : k = 1 := by omega
      subst hkone
      obtain ⟨dev, hdev, hrecords⟩ := parseDevice_modelAlone htlvs hmac
      refine ⟨dev, hdev, ?_⟩
      rw [NsdpWriter.vlans, hrecords]
      rfl
    obtain ⟨k, rfl⟩ := Nat.exists_eq_add_of_le' htwo
    have hshown : ∀ e ∈ s.vlans.sortedItems.take k, e ∈ s.vlans.sortedItems :=
      fun e he => List.mem_of_mem_take he
    obtain ⟨dev, hdev, hrecords⟩ := parseDevice_vlans hcount (fun e he => by
      obtain ⟨_, _, _, _, _, _, _, hparse⟩ := hrows e (hshown e he)
      exact hparse) (by
        rw [htlvs, vlanAnswer, List.take_succ_cons, List.take_succ_cons, List.map_take]) hmac
    refine ⟨dev, hdev, ?_⟩
    rw [NsdpWriter.vlans, hrecords, List.map_map, Nat.add_sub_cancel]
    refine List.map_congr_left fun e he => ?_
    have hpos := hfits.id_pos e.1 (PyDict.mem_iff.mpr ⟨e.2, hget e (hshown e he)⟩)
    show (⟨((e.1.toNat : ℕ) : ℤ), none, _, _, _⟩ : VLANInfo) = _
    rw [Int.toNat_of_nonneg (Int.le_of_lt hpos)]
    rfl

theorem find?_nsdpInfo (vlans : PyDict ℤ VlanSim) (v : ℤ) :
    (vlans.sortedItems.map fun e => e.2.nsdpInfo e.1).find? (·.vlanId = v) =
      (vlans.get? v).map (VlanSim.nsdpInfo v) := by
  rw [List.find?_map]
  show (vlans.sortedItems.find? fun e => decide (e.1 = v)).map _ = _
  rw [PyDict.find?_sortedItems, Option.map_map]
  rfl

/-! ## §3 Writing -/

theorem exists_encodePasswordV1 {password : Text} (h : ∀ c ∈ password, c.toNat < 128) :
    ∃ enc, encodePasswordV1 password = some enc := by
  rw [encodePasswordV1, PyCodec.asciiEncode_of_ascii h]
  exact ⟨_, rfl⟩

/-- A v1 write that carries the password is authenticated, and the TLVs behind it applied. -/
theorem writeResponseV1_of_apply {s s' : VirtualSwitchState} {enc : Bytes}
    (henc : encodePasswordV1 s.nsdpPassword = some enc) {tlvs : List TLVEntry}
    (h : applyConfigTlvs Tag.password tlvs s = (s', .ok ())) {req : NSDPPacket}
    (hreq : req.tlvs = ⟨Tag.password, enc⟩ :: tlvs) :
    s.writeResponseV1 req =
      (s', .ok { s.responseTo .writeResponse req with result := resultSuccess }) := by
  have hknown : (req.tlvs.any fun t => t.tag = Tag.password ∧ t.value = enc) = true := by
    rw [hreq]
    exact List.any_eq_true.mpr ⟨_, List.mem_cons_self, decide_eq_true ⟨rfl, rfl⟩⟩
  rw [writeResponseV1, henc]
  dsimp only
  rw [if_pos hknown, hreq, applyConfigTlvs, if_pos rfl, h]

/-- A v2 write whose token answers the last salt is authenticated, and the TLVs behind it
applied. -/
theorem writeResponseV2_of_apply {s s' : VirtualSwitchState} {salt token : Bytes}
    (hunlocked : s.nsdpAuthFailures ≤ v2SilenceAt) (hsalt : s.nsdpLastSalt = some salt)
    (htoken : authV2Password s.nsdpPassword s.nsdpMac salt = .ok token) {tlvs : List TLVEntry}
    (h : applyConfigTlvs Tag.authV2Password tlvs s = (s', .ok ())) {req : NSDPPacket}
    (hreq : req.tlvs = ⟨Tag.authV2Password, token⟩ :: tlvs) :
    s.writeResponseV2 req = ({ s' with nsdpAuthFailures := 0 },
      .ok (some { s.responseTo .writeResponse req with result := resultSuccess })) := by
  have hfirst : firstTlvValue req Tag.authV2Password = some token := by
    rw [firstTlvValue, hreq]
    rfl
  have hexpected : s.expectedToken = .ok (some token) := by
    rw [expectedToken, hsalt]
    dsimp only
    rw [htoken]
  rw [writeResponseV2, if_neg (not_lt.mpr hunlocked), hfirst, hexpected]
  dsimp only
  rw [if_neg (by simp), hreq, applyConfigTlvs, if_pos rfl, h]

theorem answerPacket_of_writeV1 {s s' : VirtualSwitchState} {salt : Bytes} {req resp : NSDPPacket}
    (hop : req.op = .writeRequest) (hv1 : s.nsdpAuthVersion ≠ encpassV2)
    (h : s.writeResponseV1 req = (s', .ok resp)) :
    s.answerPacket salt req = (s', .ok (some resp)) := by
  rw [answerPacket, hop]
  dsimp only
  rw [if_neg hv1, h]
  rfl

theorem answerPacket_of_writeV2 {s s' : VirtualSwitchState} {salt : Bytes} {req resp : NSDPPacket}
    (hop : req.op = .writeRequest) (hv2 : s.nsdpAuthVersion = encpassV2)
    (h : s.writeResponseV2 req = (s', .ok (some resp))) :
    s.answerPacket salt req = (s', .ok (some resp)) := by
  rw [answerPacket, hop]
  dsimp only
  rw [if_pos hv2, h]

/-! ## §4 Membership -/

/-- The bitmaps of sets that fit are read back as the sets they were built from. -/
theorem vlanMembersTlv_inverse {v : ℤ} {members tagged : Finset ℤ} {count : ℕ} (hv : 0 ≤ v)
    (hle : v ≤ 65535) (hmembers : ∀ p ∈ members, 0 < p ∧ p ≤ count)
    (htagged : ∀ p ∈ tagged, 0 < p ∧ p ≤ count) :
    ∃ t, vlanMembersTlv v members tagged count = .ok t ∧ t.tag = Tag.vlanMembers ∧
      parseVlanMembers t.value count = some ⟨v.toNat, members, tagged⟩ := by
  have hvid : packInt 2 v = some (toBytes 2 v.toNat) := packInt_eq hv (by omega)
  obtain ⟨memberBits, hmemberBits⟩ := Option.isSome_iff_exists.mp
    (isSome_portsToBitmap_of_pos (fun p hp => (hmembers p hp).1) (bitmapBytes count))
  obtain ⟨taggedBits, htaggedBits⟩ := Option.isSome_iff_exists.mp
    (isSome_portsToBitmap_of_pos (fun p hp => (htagged p hp).1) (bitmapBytes count))
  refine ⟨⟨Tag.vlanMembers, toBytes 2 v.toNat ++ memberBits ++ taggedBits⟩, ?_, rfl,
    parseVlanMembers_eq hv hle hmembers htagged hvid hmemberBits htaggedBits⟩
  rw [vlanMembersTlv, hvid, hmemberBits, htaggedBits]
  rfl

/-- A membership record replaces the VLAN it names, whose name it keeps. -/
theorem applyNsdpWrite_vlanMembers {s : VirtualSwitchState} {value : Bytes}
    {m : NsdpVlanMembership} (h : parseVlanMembers value s.model.portCount = some m) :
    s.applyNsdpWrite Tag.vlanMembers value = .ok { s with
      vlans := s.vlans.set m.vlanId
        { name := ((s.vlans.get? m.vlanId).map VlanSim.name).getD []
          member := m.memberPorts
          untagged := m.untaggedPorts } } := by
  unfold applyNsdpWrite
  rw [if_neg (by decide), if_pos rfl, h]
  rfl

/-- The VLAN a membership write leaves, from the one it read. -/
def VlanSim.nsdpAfter (current : Option VlanSim) (v port : ℤ) (mode : VlanMode) : VlanSim :=
  let sets := NsdpWriter.membersAfter (current.map (VlanSim.nsdpInfo v)) port mode
  { name := (current.map VlanSim.name).getD []
    member := sets.1
    untagged := sets.1 \ sets.2 }

/-- The sets a membership write builds come from the record it read and from its port. -/
theorem membersAfter_subset {info : Option VLANInfo} {port : ℤ} {mode : VlanMode}
    {ports : Finset ℤ} (hport : port ∈ ports)
    (hmember : ∀ i ∈ info, i.memberPorts ⊆ ports) (htagged : ∀ i ∈ info, i.taggedPorts ⊆ ports) :
    (NsdpWriter.membersAfter info port mode).1 ⊆ ports ∧
      (NsdpWriter.membersAfter info port mode).2 ⊆ ports := by
  have hold : (info.map VLANInfo.memberPorts).getD ∅ ⊆ ports ∧
      (info.map VLANInfo.taggedPorts).getD ∅ ⊆ ports := by
    cases info with
    | none => exact ⟨Finset.empty_subset _, Finset.empty_subset _⟩
    | some i => exact ⟨hmember i rfl, htagged i rfl⟩
  cases mode with
  | excluded =>
    exact ⟨(Finset.erase_subset _ _).trans hold.1, (Finset.erase_subset _ _).trans hold.2⟩
  | tagged =>
    exact ⟨Finset.insert_subset hport hold.1, Finset.insert_subset hport hold.2⟩
  | untagged =>
    exact ⟨Finset.insert_subset hport hold.1, (Finset.erase_subset _ _).trans hold.2⟩

/-- The port's own bits are those of the mode, every other port's are the ones read. -/
theorem VlanSim.mem_nsdpAfter {vsim : VlanSim} (hsub : vsim.untagged ⊆ vsim.member)
    (v port : ℤ) (mode : VlanMode) (q : ℤ) :
    (q ∈ (VlanSim.nsdpAfter (some vsim) v port mode).member ↔
        if q = port then mode ≠ .excluded else q ∈ vsim.member) ∧
      (q ∈ (VlanSim.nsdpAfter (some vsim) v port mode).untagged ↔
        if q = port then mode = .untagged else q ∈ vsim.untagged) := by
  have hq : q ∈ vsim.untagged → q ∈ vsim.member := fun h => hsub h
  by_cases heq : q = port
  · subst heq
    cases mode <;> simp [VlanSim.nsdpAfter, NsdpWriter.membersAfter, VlanSim.nsdpInfo]
  · cases mode <;>
      simp [VlanSim.nsdpAfter, NsdpWriter.membersAfter, VlanSim.nsdpInfo, heq] <;> tauto

/-- A switch that wrote the record reports the port as asked. -/
theorem membershipOk_nsdpAfter (current : Option VlanSim) (v port : ℤ) (mode : VlanMode) :
    NsdpWriter.membershipOk (some ((VlanSim.nsdpAfter current v port mode).nsdpInfo v)) port mode =
      true := by
  cases mode <;>
    simp [NsdpWriter.membershipOk, VlanSim.nsdpInfo, VlanSim.nsdpAfter, NsdpWriter.membersAfter]

/-- A VLAN that fits its record takes its place among the others. -/
theorem nsdpVlans_set {s : VirtualSwitchState} (h : NsdpVlans s) {v : ℤ} {vsim : VlanSim}
    (hv : 0 < v) (hle : v ≤ 65535)
    (hmember : ∀ p ∈ vsim.member, 0 < p ∧ p ≤ s.model.portCount)
    (huntagged : vsim.untagged ⊆ vsim.member) {salt : Option Bytes} {failures : ℤ} :
    NsdpVlans
      { s with
        vlans := s.vlans.set v vsim
        nsdpLastSalt := salt
        nsdpAuthFailures := failures } := by
  have hold : ∀ u usim, (s.vlans.set v vsim).get? u = some usim →
      u = v ∧ usim = vsim ∨ s.vlans.get? u = some usim := by
    intro u usim hu
    rw [PyDict.get?_set] at hu
    split_ifs at hu with huv
    · exact Or.inl ⟨huv, (Option.some.inj hu).symm⟩
    · exact Or.inr hu
  refine ⟨?_, ?_, ?_, ?_⟩
  · intro u hu
    rcases PyDict.mem_set.mp hu with rfl | hu
    · exact hv
    · exact h.id_pos u hu
  · intro u hu
    rcases PyDict.mem_set.mp hu with rfl | hu
    · exact hle
    · exact h.id_le u hu
  · intro u usim hu
    rcases hold u usim hu with ⟨_, rfl⟩ | hu
    · exact hmember
    · exact h.member_fits u usim hu
  · intro u usim hu
    rcases hold u usim hu with ⟨_, rfl⟩ | hu
    · exact huntagged
    · exact h.untagged_sub u usim hu

/-- The sets of a membership write fit the bitmaps. -/
theorem membersAfter_fits {s : VirtualSwitchState} (hfits : NsdpVlans s) {v port : ℤ}
    {mode : VlanMode} (hpos : 0 < port) (hle : port ≤ s.model.portCount) :
    let sets := NsdpWriter.membersAfter ((s.vlans.get? v).map (VlanSim.nsdpInfo v)) port mode
    (∀ p ∈ sets.1, 0 < p ∧ p ≤ s.model.portCount) ∧ ∀ p ∈ sets.2, 0 < p ∧ p ≤ s.model.portCount := by
  have hread : ∀ i ∈ (s.vlans.get? v).map (VlanSim.nsdpInfo v),
      i.memberPorts ⊆ s.nsdpPorts ∧ i.taggedPorts ⊆ s.nsdpPorts := by
    intro i hi
    obtain ⟨vsim, hget, rfl⟩ := Option.map_eq_some_iff.mp hi
    have hmember : vsim.member ⊆ s.nsdpPorts := fun p hp =>
      Finset.mem_Icc.mpr (hfits.member_fits v vsim hget p hp)
    exact ⟨hmember, Finset.sdiff_subset.trans hmember⟩
  have hsets := @membersAfter_subset _ _ mode s.nsdpPorts (Finset.mem_Icc.mpr ⟨hpos, hle⟩)
    (fun i hi => (hread i hi).1) fun i hi => (hread i hi).2
  exact ⟨fun p hp => Finset.mem_Icc.mp (hsets.1 hp), fun p hp => Finset.mem_Icc.mp (hsets.2 hp)⟩

end NetgearSwitch.Virtual
