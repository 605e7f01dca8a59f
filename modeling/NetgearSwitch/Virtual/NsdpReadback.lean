import NetgearSwitch.Virtual.NsdpMembership

/-!
# Reading a switch over NSDP

What `parse_device` makes of the answer `nsdp_tlvs` gives, for every set of tags a client may ask
for.  A response is read part by part: a TLV says the same wherever it stands, so a part says what
it says, and the parts add up.

§1 a response in parts · §2 what a switch has to report · §3 reading it
-/

namespace NetgearSwitch.Nsdp

open BigEndian

/-! ## §1 A response in parts -/

/-- What two parts of a response say together: the later one has the last word on a value, and
adds its rows. -/
def DeviceParse.merge (a b : DeviceParse) : DeviceParse where
  model := b.model.or a.model
  mac := b.mac.or a.mac
  fields :=
    { hostname := b.fields.hostname.or a.fields.hostname
      ip := b.fields.ip.or a.fields.ip
      netmask := b.fields.netmask.or a.fields.netmask
      gateway := b.fields.gateway.or a.fields.gateway
      firmwareVersion := b.fields.firmwareVersion.or a.fields.firmwareVersion
      dhcpEnabled := b.fields.dhcpEnabled.or a.fields.dhcpEnabled
      portCount := b.fields.portCount.or a.fields.portCount
      serialNumber := b.fields.serialNumber.or a.fields.serialNumber
      vlanEngine := b.fields.vlanEngine.or a.fields.vlanEngine
      portStatus := a.fields.portStatus ++ b.fields.portStatus
      portNames := a.fields.portNames ++ b.fields.portNames
      portStatistics := a.fields.portStatistics ++ b.fields.portStatistics
      vlanMembers := a.fields.vlanMembers ++ b.fields.vlanMembers
      portPvids := a.fields.portPvids ++ b.fields.portPvids
      qosEngine := b.fields.qosEngine.or a.fields.qosEngine
      portMirroring := b.fields.portMirroring.or a.fields.portMirroring
      igmpSnooping := b.fields.igmpSnooping.or a.fields.igmpSnooping
      broadcastFiltering := b.fields.broadcastFiltering.or a.fields.broadcastFiltering
      loopDetection := b.fields.loopDetection.or a.fields.loopDetection }

@[simp] theorem DeviceParse.merge_empty (a : DeviceParse) : a.merge {} = a := by
  simp [merge]

@[simp] theorem DeviceParse.empty_merge (a : DeviceParse) : DeviceParse.merge {} a = a := by
  simp [merge]

theorem DeviceParse.merge_assoc (a b c : DeviceParse) :
    (a.merge b).merge c = a.merge (b.merge c) := by
  simp [merge, Option.or_assoc, List.append_assoc]

/-- A TLV says the same whatever was read before it. -/
theorem readTlv_eq_merge (n : ℕ) (acc : DeviceParse) (t : TLVEntry) :
    readTlv n acc t = (readTlv n {} t).map acc.merge := by
  have hok : ∀ a b : DeviceParse, b = acc.merge a →
      (Except.ok b : Except LibError DeviceParse) = (Except.ok a).map acc.merge :=
    fun a b h => congrArg Except.ok h
  have hbind : ∀ {α : Type} (x : Except LibError α) (f g : α → DeviceParse),
      (∀ v, f v = acc.merge (g v)) →
      (x >>= fun v => Except.ok (f v)) = (x >>= fun v => Except.ok (g v)).map acc.merge := by
    intro α x f g h
    cases x with
    | error e => rfl
    | ok v => exact congrArg Except.ok (h v)
  have hite : ∀ (c : Prop) [Decidable c] (x y x' y' : Except LibError DeviceParse),
      x = x'.map acc.merge → y = y'.map acc.merge →
      (if c then x else y) = (if c then x' else y').map acc.merge := by
    intro c _ x y x' y' hx hy
    split_ifs
    · exact hx
    · exact hy
  unfold readTlv
  dsimp only
  refine hite _ _ _ _ _ (hok _ _ ?_) ?_
  · simp [DeviceParse.merge]
  refine hite _ _ _ _ _ (hbind _ _ _ fun _ => ?_) ?_
  · simp [DeviceParse.merge]
  refine hite _ _ _ _ _ (hok _ _ ?_) ?_
  · simp [DeviceParse.merge]
  refine hite _ _ _ _ _ (hbind _ _ _ fun _ => ?_) ?_
  · simp [DeviceParse.merge]
  refine hite _ _ _ _ _ (hbind _ _ _ fun _ => ?_) ?_
  · simp [DeviceParse.merge]
  refine hite _ _ _ _ _ (hbind _ _ _ fun _ => ?_) ?_
  · simp [DeviceParse.merge]
  refine hite _ _ _ _ _ (hok _ _ ?_) ?_
  · simp [DeviceParse.merge]
  refine hite _ _ _ _ _ (hbind _ _ _ fun _ => ?_) ?_
  · simp [DeviceParse.merge]
  refine hite _ _ _ _ _ (hbind _ _ _ fun _ => ?_) ?_
  · simp [DeviceParse.merge]
  refine hite _ _ _ _ _ (hbind _ _ _ fun _ => ?_) ?_
  · simp [DeviceParse.merge]
  refine hite _ _ _ _ _ (hbind _ _ _ fun _ => ?_) ?_
  · simp [DeviceParse.merge]
  refine hite _ _ _ _ _ (hbind _ _ _ fun _ => ?_) ?_
  · simp [DeviceParse.merge]
  refine hite _ _ _ _ _ (hbind _ _ _ fun _ => ?_) ?_
  · simp [DeviceParse.merge]
  refine hite _ _ _ _ _ (hbind _ _ _ fun _ => ?_) ?_
  · simp [DeviceParse.merge]
  refine hite _ _ _ _ _ (hbind _ _ _ fun _ => ?_) ?_
  · simp [DeviceParse.merge]
  cases t.value with
  | nil => exact hok _ _ (by simp)
  | cons b rest =>
    dsimp only
    refine hite _ _ _ _ _ (hok _ _ ?_) (hite _ _ _ _ _ (hok _ _ ?_) (hite _ _ _ _ _ ?_
      (hite _ _ _ _ _ (hok _ _ ?_) (hite _ _ _ _ _ (hok _ _ ?_) (hite _ _ _ _ _ (hok _ _ ?_)
        (hok _ _ ?_))))))
    · simp [DeviceParse.merge]
    · simp [DeviceParse.merge]
    · split_ifs
      · exact hok _ _ (by simp [DeviceParse.merge])
      · rfl
    · simp [DeviceParse.merge]
    · simp [DeviceParse.merge]
    · simp [DeviceParse.merge]
    · simp

/-- What a TLV says of the port count. -/
theorem portCount_readTlv {n : ℕ} {t : TLVEntry} {a : DeviceParse} (h : readTlv n {} t = .ok a) :
    a.fields.portCount = if t.tag = Tag.portCount then t.value.head?.map UInt8.toNat else none := by
  let Silent (x : Except LibError DeviceParse) : Prop := ∀ a, x = .ok a → a.fields.portCount = none
  have hok : ∀ a : DeviceParse, a.fields.portCount = none → Silent (.ok a) := by
    intro a ha b hb
    rw [← Except.ok.inj hb]
    exact ha
  have hbind : ∀ {α : Type} (x : Except LibError α) (f : α → DeviceParse),
      (∀ v, (f v).fields.portCount = none) → Silent (x >>= fun v => Except.ok (f v)) := by
    intro α x f hf a h
    obtain ⟨v, _, h⟩ := bind_eq_ok.mp h
    rw [← Except.ok.inj h]
    exact hf v
  have hite : ∀ (c : Prop) [Decidable c] (x y : Except LibError DeviceParse),
      Silent x → Silent y → Silent (if c then x else y) := by
    intro c _ x y hx hy
    by_cases hc : c
    · rw [if_pos hc]
      exact hx
    · rw [if_neg hc]
      exact hy
  by_cases hcount : t.tag = Tag.portCount
  · rw [if_pos hcount]
    obtain ⟨tag, value⟩ := t
    dsimp only at hcount
    subst hcount
    cases value with
    | nil =>
      cases h
      rfl
    | cons b rest =>
      cases h
      rfl
  · rw [if_neg hcount]
    refine (?_ : Silent (readTlv n {} t)) a h
    unfold readTlv
    dsimp only
    refine hite _ _ _ (hok _ rfl) ?_
    refine hite _ _ _ (hbind _ _ fun _ => rfl) ?_
    refine hite _ _ _ (hok _ rfl) ?_
    refine hite _ _ _ (hbind _ _ fun _ => rfl) ?_
    refine hite _ _ _ (hbind _ _ fun _ => rfl) ?_
    refine hite _ _ _ (hbind _ _ fun _ => rfl) ?_
    refine hite _ _ _ (hok _ rfl) ?_
    refine hite _ _ _ (hbind _ _ fun _ => rfl) ?_
    refine hite _ _ _ (hbind _ _ fun _ => rfl) ?_
    refine hite _ _ _ (hbind _ _ fun _ => rfl) ?_
    refine hite _ _ _ (hbind _ _ fun _ => rfl) ?_
    refine hite _ _ _ (hbind _ _ fun _ => rfl) ?_
    refine hite _ _ _ (hbind _ _ fun _ => rfl) ?_
    refine hite _ _ _ (hbind _ _ fun _ => rfl) ?_
    refine hite _ _ _ (hbind _ _ fun _ => rfl) ?_
    cases t.value with
    | nil => exact hok _ rfl
    | cons b rest =>
      dsimp only
      rw [if_neg hcount]
      refine hite _ _ _ (hok _ rfl) (hite _ _ _ ?_ (hite _ _ _ (hok _ rfl)
        (hite _ _ _ (hok _ rfl) (hite _ _ _ (hok _ rfl) (hok _ rfl)))))
      by_cases hengine : b.toNat < 5
      · rw [dif_pos hengine]
        exact hok _ rfl
      · rw [dif_neg hengine]
        intro a ha
        cases ha

theorem foldlM_readTlv (n : ℕ) (ts : List TLVEntry) (acc : DeviceParse) :
    ts.foldlM (readTlv n) acc = (ts.foldlM (readTlv n) {}).map acc.merge := by
  induction ts generalizing acc with
  | nil => exact congrArg Except.ok (DeviceParse.merge_empty acc).symm
  | cons t ts ih =>
    rw [List.foldlM_cons, List.foldlM_cons, readTlv_eq_merge n acc t]
    cases readTlv n {} t with
    | error e => rfl
    | ok a =>
      show ts.foldlM (readTlv n) (acc.merge a) = (ts.foldlM (readTlv n) a).map acc.merge
      rw [ih, ih a]
      cases ts.foldlM (readTlv n) {} with
      | error e => rfl
      | ok b => exact congrArg Except.ok (DeviceParse.merge_assoc acc a b)

/-- The bytes TLVs take in a packet. -/
def tlvSize (tlvs : List TLVEntry) : ℕ := (tlvs.map fun t => 4 + t.value.length).sum

theorem tlvSize_append (ts us : List TLVEntry) : tlvSize (ts ++ us) = tlvSize ts + tlvSize us := by
  rw [tlvSize, List.map_append, List.sum_append]
  rfl

/-- What a part of the response to a request for `tags` says, in so many bytes. -/
structure Says (n : ℕ) (tags : List ℕ) (part : List TLVEntry) (a : DeviceParse) (size : ℕ) :
    Prop where
  reads : part.foldlM (readTlv n) {} = .ok a
  asked : ∀ t ∈ part, t.tag ∈ tags
  takes : tlvSize part = size

namespace Says

variable {n : ℕ} {tags : List ℕ} {part more : List TLVEntry} {a b : DeviceParse} {k m : ℕ}

theorem nil (n : ℕ) (tags : List ℕ) : Says n tags [] {} 0 := ⟨rfl, List.forall_mem_nil _, rfl⟩

theorem single {t : TLVEntry} (htag : t.tag ∈ tags) (h : readTlv n {} t = .ok a) :
    Says n tags [t] a (4 + t.value.length) where
  reads := by
    rw [List.foldlM_cons, h]
    rfl
  asked := List.forall_mem_singleton.mpr htag
  takes := by simp [tlvSize]

theorem append (ha : Says n tags part a k) (hb : Says n tags more b m) :
    Says n tags (part ++ more) (a.merge b) (k + m) where
  reads := by
    rw [List.foldlM_append, ha.reads]
    show more.foldlM (readTlv n) a = _
    rw [foldlM_readTlv, hb.reads]
    rfl
  asked := fun t ht => (List.mem_append.mp ht).elim (ha.asked t) (hb.asked t)
  takes := by rw [tlvSize_append, ha.takes, hb.takes]

/-- The first pass of `parse_device` finds the port count of the second. -/
theorem learnPortCount (h : Says n tags part a k) :
    Nsdp.learnPortCount part = a.fields.portCount.getD 8 := by
  let step (n : ℕ) (t : TLVEntry) : ℕ :=
    if t.tag = Tag.portCount then (t.value.head?.map UInt8.toNat).getD n else n
  have hpass : ∀ (ts : List TLVEntry) (a : DeviceParse) (k : ℕ), ts.foldlM (readTlv n) {} = .ok a →
      ts.foldl step k = a.fields.portCount.getD k := by
    intro ts
    induction ts with
    | nil =>
      intro a k ha
      cases ha
      rfl
    | cons t ts ih =>
      intro a k ha
      have ha : (readTlv n {} t).bind (fun b => ts.foldlM (readTlv n) b) = .ok a := ha
      cases hread : readTlv n {} t with
      | error e =>
        rw [hread] at ha
        cases ha
      | ok b =>
        rw [hread] at ha
        have ha : ts.foldlM (readTlv n) b = .ok a := ha
        rw [foldlM_readTlv] at ha
        cases hrest : ts.foldlM (readTlv n) {} with
        | error e =>
          rw [hrest] at ha
          cases ha
        | ok c =>
          rw [hrest] at ha
          obtain rfl := Except.ok.inj ha
          rw [List.foldl_cons, ih c (step k t) hrest]
          have hb := portCount_readTlv hread
          show c.fields.portCount.getD (step k t) = (c.fields.portCount.or b.fields.portCount).getD k
          rw [hb]
          cases c.fields.portCount with
          | some m => rfl
          | none =>
            show step k t = (if t.tag = Tag.portCount then t.value.head?.map UInt8.toNat else none).getD k
            by_cases htag : t.tag = Tag.portCount
            · rw [show step k t = _ from if_pos htag, if_pos htag]
            · rw [show step k t = _ from if_neg htag, if_neg htag]
              rfl
  exact hpass part a 8 h.reads

/-- The device of a response, by what its TLVs say. -/
theorem parseDevice {resp : NSDPPacket}
    (h : Says (Nsdp.learnPortCount resp.tlvs) tags resp.tlvs a k)
    {model : Text} (hmodel : a.model = some model) {mac : Bytes}
    (hmac : a.mac = some mac ∨ a.mac = none ∧ resp.serverMac = mac ∧ mac.length = 6) :
    Nsdp.parseDevice resp = .ok { a.fields with model := model, mac := mac } := by
  obtain ⟨model', mac', fields⟩ := a
  have h : resp.tlvs.foldlM (readTlv (Nsdp.learnPortCount resp.tlvs)) {} =
      .ok ⟨model', mac', fields⟩ := h.reads
  dsimp only at hmodel hmac
  rw [Nsdp.parseDevice, h, hmodel]
  rcases hmac with rfl | ⟨rfl, hserver, hlen⟩
  · rfl
  · show (parseMac resp.serverMac).bind _ = _
    rw [hserver, parseMac, if_neg (not_not_intro hlen)]
    rfl

end Says

end NetgearSwitch.Nsdp
namespace NetgearSwitch.Nsdp.Says

open BigEndian Virtual

variable {n tag : ℕ} {tags : List ℕ} {out : List TLVEntry}

/-- A part of one TLV says its value, where it was asked for. -/
theorem of_tlvWhen {asked : Prop} [Decidable asked] {value : Except NsdpFault Bytes} {β : Type}
    {x : β}
    (h : (¬ asked ∧ out = []) ∨ (asked ∧ ∃ v, value = .ok v ∧ out = [⟨tag, v⟩]))
    (htag : asked → tag ∈ tags) (say : Option β → DeviceParse) (hnone : say none = {}) (size : ℕ)
    (hvalue : ∀ v, value = .ok v →
      readTlv n {} ⟨tag, v⟩ = .ok (say (some x)) ∧ v.length = size) :
    Says n tags out (say (if asked then some x else none)) (if asked then 4 + size else 0) := by
  rcases h with ⟨hasked, rfl⟩ | ⟨hasked, v, hv, rfl⟩
  · rw [if_neg hasked, if_neg hasked, hnone]
    exact nil n tags
  · obtain ⟨hread, rfl⟩ := hvalue v hv
    rw [if_pos hasked, if_pos hasked]
    exact single (htag hasked) hread

/-- A part of one TLV a row says the rows, where they were asked for. -/
theorem of_tlvRows {asked : Prop} [Decidable asked] {α β : Type} {rows : List α}
    {value : α → Except NsdpFault Bytes} {f : α → β}
    (h : (¬ asked ∧ out = []) ∨
      (asked ∧ List.Forall₂ (fun r t => ∃ v, value r = .ok v ∧ t = ⟨tag, v⟩) rows out))
    (htag : asked → tag ∈ tags) (say : List β → DeviceParse) (hnil : say [] = {})
    (hcons : ∀ b bs, (say [b]).merge (say bs) = say (b :: bs)) (size : α → ℕ)
    (hvalue : asked → ∀ r ∈ rows, ∀ v, value r = .ok v →
      readTlv n {} ⟨tag, v⟩ = .ok (say [f r]) ∧ v.length = size r) :
    Says n tags out (say (if asked then rows.map f else []))
      (if asked then (rows.map fun r => 4 + size r).sum else 0) := by
  rcases h with ⟨hasked, rfl⟩ | ⟨hasked, hrows⟩
  · rw [if_neg hasked, if_neg hasked, hnil]
    exact nil n tags
  · rw [if_pos hasked, if_pos hasked]
    replace hvalue := hvalue hasked
    induction hrows with
    | nil =>
      rw [List.map_nil, hnil]
      exact nil n tags
    | cons hrow _ ih =>
      obtain ⟨v, hv, rfl⟩ := hrow
      obtain ⟨hread, hsize⟩ := hvalue _ List.mem_cons_self v hv
      rw [List.map_cons, List.map_cons, List.sum_cons, ← hcons, ← hsize]
      exact (single (htag hasked) hread).append (ih fun r hr => hvalue r (List.mem_cons_of_mem _ hr))

/-- A part of at most one row says it, where it was asked for. -/
theorem of_tlvOption {asked : Prop} [Decidable asked] {α β : Type} {row : Option α}
    {value : α → Except NsdpFault Bytes} {f : α → β}
    (h : (¬ asked ∧ out = []) ∨
      (asked ∧ List.Forall₂ (fun r t => ∃ v, value r = .ok v ∧ t = ⟨tag, v⟩) row.toList out))
    (htag : asked → tag ∈ tags) (say : Option β → DeviceParse) (hnone : say none = {}) (size : ℕ)
    (hvalue : ∀ r ∈ row, ∀ v, value r = .ok v →
      readTlv n {} ⟨tag, v⟩ = .ok (say (some (f r))) ∧ v.length = size) :
    Says n tags out (say (if asked then row.map f else none))
      (if asked ∧ row.isSome then 4 + size else 0) := by
  rcases h with ⟨hasked, rfl⟩ | ⟨hasked, hrows⟩
  · rw [if_neg hasked, if_neg fun h => hasked h.1, hnone]
    exact nil n tags
  · rw [if_pos hasked]
    cases row with
    | none =>
      cases hrows
      rw [Option.map_none, hnone, if_neg (by simp)]
      exact nil n tags
    | some r =>
      obtain ⟨t, ts, ⟨v, hv, rfl⟩, hnil, rfl⟩ := List.forall₂_cons_left_iff.mp hrows
      cases hnil
      obtain ⟨hread, rfl⟩ := hvalue r rfl v hv
      rw [if_pos ⟨hasked, rfl⟩]
      exact single (htag hasked) hread

end NetgearSwitch.Nsdp.Says

namespace NetgearSwitch.Virtual

open Nsdp BigEndian Script

/-! ## §2 What a switch has to report -/

/-- The code of a link of so many Mbit/s. -/
def linkSpeedOf (mbps : ℤ) : LinkSpeed :=
  if mbps = 10 then .full10M
  else if mbps = 100 then .full100M
  else if mbps = 1000 then .gigabit
  else if mbps = 10000 then .tenGigabit
  else .down

theorem fromByte_mbpsToSpeedByte (mbps : ℤ) :
    LinkSpeed.fromByte (mbpsToSpeedByte mbps) = linkSpeedOf mbps := by
  unfold mbpsToSpeedByte linkSpeedOf
  split_ifs <;> rfl

/-- An address the way `inet_ntoa` prints it. -/
def canonicalIpv4 (address : Text) : Option Text :=
  (PyCodec.inetAton address).bind PyCodec.inetNtoa

/-- A text without its trailing NULs; the empty one is none at all. -/
def labelText (text : Text) : Option Text :=
  if PyCodec.rstripNul text = [] then none else some (PyCodec.rstripNul text)

namespace PortSim

def nsdpStatus (port : ℤ) (sim : PortSim) : NsdpPortStatus where
  portId := port.toNat
  speed := if sim.link then linkSpeedOf sim.speed else .down
  flowControl := sim.flowControl

def nsdpName (port : ℤ) (sim : PortSim) : NsdpPortName where
  portId := port.toNat
  name := labelText (sim.description.getD [])

def nsdpStatistics (port : ℤ) (sim : PortSim) : NsdpPortStatistics where
  portId := port.toNat
  bytesReceived := (sim.rxOctets.getD 0).toNat
  bytesSent := (sim.txOctets.getD 0).toNat
  crcErrors := (sim.rxErrors.getD 0).toNat

end PortSim

def VlanSim.nsdpRecord (v : ℤ) (vsim : VlanSim) : NsdpVlanMembership where
  vlanId := v.toNat
  memberPorts := vsim.member
  taggedPorts := vsim.member \ vsim.untagged

/-- What a switch reports of the tags asked for. -/
def VirtualSwitchState.reported (s : VirtualSwitchState) (tags : List ℕ) : NsdpDevice where
  model := PyCodec.rstripNul s.servedName
  mac := s.nsdpMac
  hostname :=
    if Tag.hostname ∈ tags ∧ s.hostname ≠ [] then some (PyCodec.rstripNul s.hostname) else none
  ip := if Tag.ipAddress ∈ tags then canonicalIpv4 s.mgmt.address else none
  netmask := if Tag.netmask ∈ tags then canonicalIpv4 s.mgmt.netmask else none
  gateway := if Tag.gateway ∈ tags then canonicalIpv4 s.mgmt.gateway else none
  firmwareVersion :=
    if Tag.firmwareVer1 ∈ tags ∧ s.firmware ≠ [] then some (PyCodec.rstripNul s.firmware) else none
  dhcpEnabled := if Tag.dhcpMode ∈ tags then some (s.mgmt.mode = .dhcp) else none
  portCount := if Tag.portCount ∈ tags then some s.model.portCount else none
  serialNumber :=
    if Tag.serialNumber ∈ tags ∧ s.serial ≠ [] then some (PyCodec.rstripNul s.serial) else none
  portStatus :=
    if Tag.portStatus ∈ tags then s.ports.sortedItems.map fun e => e.2.nsdpStatus e.1 else []
  portNames :=
    if Tag.portName ∈ tags then s.ports.sortedItems.map fun e => e.2.nsdpName e.1 else []
  portStatistics :=
    if Tag.portStatistics ∈ tags then s.ports.sortedItems.map fun e => e.2.nsdpStatistics e.1
    else []
  vlanMembers :=
    if Tag.vlanMembers ∈ tags then s.vlans.sortedItems.map fun e => e.2.nsdpRecord e.1 else []
  portPvids :=
    if Tag.portPvid ∈ tags then s.pvids.sortedItems.map fun e => ⟨e.1.toNat, e.2.toNat⟩ else []
  qosEngine := if Tag.qosEngine ∈ tags then s.nsdpQosEngine.map Int.toNat else none
  portMirroring :=
    if Tag.portMirroring ∈ tags then
      s.nsdpPortMirroringDest.map fun dest => ⟨dest.toNat, s.nsdpPortMirroringSources⟩
    else none
  igmpSnooping :=
    if Tag.igmpSnooping ∈ tags then
      s.nsdpIgmpSnoopingEnabled.map fun on =>
        ⟨on, if s.nsdpIgmpSnoopingVlan.getD 0 = 0 then none
          else some (s.nsdpIgmpSnoopingVlan.getD 0).toNat⟩
    else none
  broadcastFiltering := if Tag.broadcastFiltering ∈ tags then s.nsdpBroadcastFiltering else none
  loopDetection := if Tag.loopDetection ∈ tags then s.nsdpLoopDetection else none

/-- The bytes of a TLV, where it was asked for. -/
def askedBytes (asked : Prop) [Decidable asked] (size : ℕ) : ℕ := if asked then size else 0

namespace VirtualSwitchState

/-- The bytes the TLVs of the identity take. -/
def identityBytes (s : VirtualSwitchState) (tags : List ℕ) : ℕ :=
  askedBytes (Tag.model ∈ tags) (4 + s.servedName.length) +
    askedBytes (Tag.mac ∈ tags) (4 + s.nsdpMac.length) + askedBytes (Tag.portCount ∈ tags) (4 + 1) +
    askedBytes (Tag.serialNumber ∈ tags ∧ s.serial ≠ []) (4 + (1 + s.serial.length)) +
    askedBytes (Tag.hostname ∈ tags ∧ s.hostname ≠ []) (4 + s.hostname.length) +
    askedBytes (Tag.firmwareVer1 ∈ tags ∧ s.firmware ≠ []) (4 + s.firmware.length) +
    askedBytes (Tag.authV2Encpass ∈ tags) (4 + 4)

/-- The bytes the TLVs of the configuration take. -/
def configBytes (s : VirtualSwitchState) (tags : List ℕ) : ℕ :=
  let width := bitmapBytes s.model.portCount
  askedBytes (Tag.portStatus ∈ tags) (s.ports.sortedItems.map fun _ => 4 + 3).sum +
    askedBytes (Tag.portName ∈ tags) (s.ports.sortedItems.map fun e =>
      4 + (1 + (PyCodec.utf8Encode (e.2.description.getD [])).length)).sum +
    askedBytes (Tag.portStatistics ∈ tags) (s.ports.sortedItems.map fun _ => 4 + 49).sum +
    askedBytes (Tag.vlanMembers ∈ tags) (s.vlans.sortedItems.map fun _ => 4 + (2 + width * 2)).sum +
    askedBytes (Tag.portPvid ∈ tags) (s.pvids.sortedItems.map fun _ => 4 + 3).sum +
    askedBytes (Tag.ipAddress ∈ tags) (4 + 4) + askedBytes (Tag.netmask ∈ tags) (4 + 4) +
    askedBytes (Tag.gateway ∈ tags) (4 + 4) + askedBytes (Tag.dhcpMode ∈ tags) (4 + 1) +
    askedBytes (Tag.qosEngine ∈ tags ∧ s.nsdpQosEngine.isSome) (4 + 1) +
    askedBytes (Tag.portMirroring ∈ tags ∧ s.nsdpPortMirroringDest.isSome) (4 + (1 + width)) +
    askedBytes (Tag.igmpSnooping ∈ tags ∧ s.nsdpIgmpSnoopingEnabled.isSome) (4 + 4) +
    askedBytes (Tag.broadcastFiltering ∈ tags ∧ s.nsdpBroadcastFiltering.isSome) (4 + 1) +
    askedBytes (Tag.loopDetection ∈ tags ∧ s.nsdpLoopDetection.isSome) (4 + 1)

end VirtualSwitchState

end NetgearSwitch.Virtual

namespace NetgearSwitch.Virtual

open Nsdp BigEndian Script

/-! ## §3 Reading it -/

/-- A switch whose port sets fit its bitmaps. -/
structure NsdpBitmaps (s : VirtualSwitchState) : Prop where
  member_fits : ∀ v vsim, s.vlans.get? v = some vsim →
    ∀ p ∈ vsim.member, 0 < p ∧ p ≤ s.model.portCount
  sources_fit : ∀ p ∈ s.nsdpPortMirroringSources, 0 < p ∧ p ≤ s.model.portCount

theorem decodeStr_of_asciiEncode {t : Text} {b : Bytes} (h : PyCodec.asciiEncode t = some b) :
    decodeStr b = PyCodec.rstripNul t := by
  rw [decodeStr, PyCodec.asciiDecodeReplace_of_asciiEncode h]

theorem packInt_eq_some {w : ℕ} {n : ℤ} {b : Bytes} (h : packInt w n = some b) :
    0 ≤ n ∧ n.toNat < 256 ^ w ∧ b = toBytes w n.toNat := by
  unfold packInt at h
  split_ifs at h with hn
  obtain ⟨hlt, rfl⟩ := pack_eq_some.mp h
  exact ⟨hn, hlt, rfl⟩

/-- A byte is one byte. -/
theorem packInt_one_eq_some {n : ℤ} {b : Bytes} (h : packInt 1 n = some b) :
    ∃ x : UInt8, b = [x] ∧ (x.toNat : ℤ) = n := by
  obtain ⟨hn, hlt, rfl⟩ := packInt_eq_some h
  refine ⟨UInt8.ofNat (n.toNat / 256 ^ 0), rfl, ?_⟩
  rw [pow_zero, Nat.div_one, UInt8.toNat_ofNat', Nat.mod_eq_of_lt (by simpa using hlt)]
  exact Int.toNat_of_nonneg hn

theorem boolByte_ne_zero (b : Bool) : (boolByte b ≠ 0) = (b = true) := by
  cases b <;> decide

/-- What the identity part of a read says. -/
theorem says_identityTlvs {s : VirtualSwitchState} {tags : List ℕ} {out : List TLVEntry} {n : ℕ}
    (hmac : s.nsdpMac.length = 6) (h : s.identityTlvs tags = .ok out) :
    Says n tags out
      { model := if Tag.model ∈ tags then some (PyCodec.rstripNul s.servedName) else none
        mac := if Tag.mac ∈ tags then some s.nsdpMac else none
        fields :=
          { hostname := (s.reported tags).hostname
            firmwareVersion := (s.reported tags).firmwareVersion
            portCount := (s.reported tags).portCount
            serialNumber := (s.reported tags).serialNumber } }
      (s.identityBytes tags) := by
  unfold VirtualSwitchState.identityTlvs at h
  obtain ⟨modelBytes, hname, h⟩ := bind_eq_ok.mp h
  obtain ⟨model, hmodel, h⟩ := bind_eq_ok.mp h
  obtain ⟨macPart, hmacPart, h⟩ := bind_eq_ok.mp h
  obtain ⟨portCount, hportCount, h⟩ := bind_eq_ok.mp h
  obtain ⟨serial, hserial, h⟩ := bind_eq_ok.mp h
  obtain ⟨hostname, hhostname, h⟩ := bind_eq_ok.mp h
  obtain ⟨firmware, hfirmware, h⟩ := bind_eq_ok.mp h
  obtain ⟨encpass, hencpass, h⟩ := bind_eq_ok.mp h
  cases h
  have htext : ∀ {text : Text} {v : Bytes}, orFault .valueError (PyCodec.asciiEncode text) = .ok v →
      decodeStr v = PyCodec.rstripNul text ∧ v.length = text.length := fun h =>
    ⟨decodeStr_of_asciiEncode (orFault_eq_ok.mp h), PyCodec.length_asciiEncode (orFault_eq_ok.mp h)⟩
  have hmodel : Says n tags model
      { model := if Tag.model ∈ tags then some (PyCodec.rstripNul s.servedName) else none }
      (askedBytes (Tag.model ∈ tags) (4 + s.servedName.length)) := by
    refine Says.of_tlvWhen (VirtualSwitchState.eq_of_tlvWhen hmodel) id
      (fun o => { model := o }) rfl _ fun v hv => ?_
    cases hv
    obtain ⟨hread, hlength⟩ := htext hname
    refine ⟨?_, hlength⟩
    show (Except.ok { model := some (decodeStr modelBytes) } : Except LibError DeviceParse) = _
    rw [hread]
    rfl
  have hmac : Says n tags macPart { mac := if Tag.mac ∈ tags then some s.nsdpMac else none }
      (askedBytes (Tag.mac ∈ tags) (4 + s.nsdpMac.length)) := by
    refine Says.of_tlvWhen (VirtualSwitchState.eq_of_tlvWhen hmacPart) id
      (fun o => { mac := o }) rfl _ fun v hv => ?_
    cases hv
    refine ⟨?_, rfl⟩
    show (parseMac s.nsdpMac).bind _ = _
    rw [parseMac, if_neg (not_not_intro hmac)]
    rfl
  have hportCount : Says n tags portCount { fields := { portCount := (s.reported tags).portCount } }
      (askedBytes (Tag.portCount ∈ tags) (4 + 1)) := by
    refine Says.of_tlvWhen (VirtualSwitchState.eq_of_tlvWhen hportCount) id
      (fun o => { fields := { portCount := o } }) rfl _ fun v hv => ?_
    obtain ⟨x, rfl, hx⟩ := packInt_one_eq_some (orFault_eq_ok.mp hv)
    refine ⟨?_, rfl⟩
    show (Except.ok { fields := { portCount := some x.toNat } } : Except LibError DeviceParse) = _
    rw [Int.natCast_inj.mp hx]
  have hserial : Says n tags serial
      { fields := { serialNumber := (s.reported tags).serialNumber } }
      (askedBytes (Tag.serialNumber ∈ tags ∧ s.serial ≠ []) (4 + (1 + s.serial.length))) := by
    refine Says.of_tlvWhen (VirtualSwitchState.eq_of_tlvWhen hserial) And.left
      (fun o => { fields := { serialNumber := o } }) rfl _ fun v hv => ?_
    have hv : (orFault .valueError (PyCodec.asciiEncode s.serial)).map ([0x01] ++ ·) = .ok v := hv
    cases hserial : orFault .valueError (PyCodec.asciiEncode s.serial) with
    | error fault =>
      rw [hserial] at hv
      cases hv
    | ok b =>
      rw [hserial] at hv
      cases hv
      obtain ⟨hread, hlength⟩ := htext hserial
      refine ⟨?_, by rw [List.length_append, hlength]; rfl⟩
      show (Except.ok { fields := { serialNumber := some (decodeStr b) } } :
        Except LibError DeviceParse) = _
      rw [hread]
  have hhostname : Says n tags hostname { fields := { hostname := (s.reported tags).hostname } }
      (askedBytes (Tag.hostname ∈ tags ∧ s.hostname ≠ []) (4 + s.hostname.length)) := by
    refine Says.of_tlvWhen (VirtualSwitchState.eq_of_tlvWhen hhostname) And.left
      (fun o => { fields := { hostname := o } }) rfl _ fun v hv => ?_
    obtain ⟨hread, hlength⟩ := htext hv
    refine ⟨?_, hlength⟩
    show (Except.ok { fields := { hostname := some (decodeStr v) } } :
      Except LibError DeviceParse) = _
    rw [hread]
  have hfirmware : Says n tags firmware
      { fields := { firmwareVersion := (s.reported tags).firmwareVersion } }
      (askedBytes (Tag.firmwareVer1 ∈ tags ∧ s.firmware ≠ []) (4 + s.firmware.length)) := by
    refine Says.of_tlvWhen (VirtualSwitchState.eq_of_tlvWhen hfirmware) And.left
      (fun o => { fields := { firmwareVersion := o } }) rfl _ fun v hv => ?_
    obtain ⟨hread, hlength⟩ := htext hv
    refine ⟨?_, hlength⟩
    show (Except.ok { fields := { firmwareVersion := some (decodeStr v) } } :
      Except LibError DeviceParse) = _
    rw [hread]
  have hencpass : Says n tags encpass {} (askedBytes (Tag.authV2Encpass ∈ tags) (4 + 4)) := by
    refine Says.of_tlvWhen (x := ()) (VirtualSwitchState.eq_of_tlvWhen hencpass) id
      (fun _ => {}) rfl _ fun v hv => ⟨by cases v <;> rfl, ?_⟩
    obtain ⟨_, _, rfl⟩ := packInt_eq_some (orFault_eq_ok.mp hv)
    exact length_toBytes 4 _
  have hall := (((((hmodel.append hmac).append hportCount).append hserial).append hhostname).append
    hfirmware).append hencpass
  rw [DeviceParse.merge_empty] at hall
  simp only [DeviceParse.merge, Option.or_none, Option.none_or, List.append_nil] at hall
  exact hall

section Rows

variable {n : ℕ} {port : ℤ} {p : Bytes}

/-- A row of the port states. -/
theorem readTlv_portStatus {sim : PortSim} (hport : packInt 1 port = some p) :
    readTlv n {} ⟨Tag.portStatus,
        p ++ [if sim.link then mbpsToSpeedByte sim.speed else 0x00, boolByte sim.flowControl]⟩ =
        .ok { fields := { portStatus := [sim.nsdpStatus port] } } ∧
      (p ++ [if sim.link then mbpsToSpeedByte sim.speed else 0x00,
        boolByte sim.flowControl]).length = 3 := by
  obtain ⟨x, rfl, hx⟩ := packInt_one_eq_some hport
  refine ⟨?_, rfl⟩
  show (Except.ok { fields := { portStatus := [⟨x.toNat, LinkSpeed.fromByte
    (if sim.link then mbpsToSpeedByte sim.speed else 0x00), boolByte sim.flowControl ≠ 0⟩] } } :
    Except LibError DeviceParse) = _
  have hspeed : LinkSpeed.fromByte (if sim.link then mbpsToSpeedByte sim.speed else 0x00) =
      if sim.link then linkSpeedOf sim.speed else .down := by
    split_ifs
    · exact fromByte_mbpsToSpeedByte _
    · rfl
  rw [hspeed, PortSim.nsdpStatus, ← hx]
  simp [boolByte_ne_zero]

/-- A row of the port names. -/
theorem readTlv_portName {sim : PortSim} (hport : packInt 1 port = some p) :
    readTlv n {} ⟨Tag.portName, p ++ PyCodec.utf8Encode (sim.description.getD [])⟩ =
        .ok { fields := { portNames := [sim.nsdpName port] } } ∧
      (p ++ PyCodec.utf8Encode (sim.description.getD [])).length =
        1 + (PyCodec.utf8Encode (sim.description.getD [])).length := by
  obtain ⟨x, rfl, hx⟩ := packInt_one_eq_some hport
  refine ⟨?_, by rw [List.length_append]; rfl⟩
  show (Except.ok { fields := { portNames := [⟨x.toNat, labelText (PyCodec.utf8DecodeReplace
    (PyCodec.utf8Encode (sim.description.getD [])))⟩] } } : Except LibError DeviceParse) = _
  rw [PyCodec.utf8DecodeReplace_utf8Encode, PortSim.nsdpName, ← hx]
  rfl

/-- A row of the port statistics. -/
theorem readTlv_portStatistics {sim : PortSim} {rx tx errors : Bytes}
    (hport : packInt 1 port = some p) (hrx : packInt 8 (sim.rxOctets.getD 0) = some rx)
    (htx : packInt 8 (sim.txOctets.getD 0) = some tx)
    (herrors : packInt 8 (sim.rxErrors.getD 0) = some errors) :
    readTlv n {} ⟨Tag.portStatistics, p ++ rx ++ tx ++ errors ++ List.replicate 24 0⟩ =
        .ok { fields := { portStatistics := [sim.nsdpStatistics port] } } ∧
      (p ++ rx ++ tx ++ errors ++ List.replicate 24 0).length = 49 := by
  obtain ⟨x, rfl, hx⟩ := packInt_one_eq_some hport
  obtain ⟨_, hrxlt, rfl⟩ := packInt_eq_some hrx
  obtain ⟨_, htxlt, rfl⟩ := packInt_eq_some htx
  obtain ⟨_, herrorslt, rfl⟩ := packInt_eq_some herrors
  let rx := toBytes 8 (sim.rxOctets.getD 0).toNat
  let tx := toBytes 8 (sim.txOctets.getD 0).toNat
  let errors := toBytes 8 (sim.rxErrors.getD 0).toNat
  let data := [x] ++ rx ++ tx ++ errors ++ List.replicate 24 0
  have hdata : data = [x] ++ (rx ++ (tx ++ (errors ++ List.replicate 24 0))) := by
    simp only [data, List.append_assoc]
  have hlen : data.length = 49 := by
    simp [data, rx, tx, errors]
  have hrest : ∀ a b, slice data (1 + a) (1 + b) =
      slice (rx ++ (tx ++ (errors ++ List.replicate 24 0))) a b := by
    intro a b
    rw [hdata, slice_append_right (by simp)]
    simp
  have hrxSlice : slice data 1 9 = rx := by
    rw [hrest 0 8]
    exact slice_append_left (length_toBytes 8 _)
  have htxSlice : slice data 9 17 = tx := by
    rw [hrest 8 16, slice_append_right (by simp [rx])]
    simp only [rx, length_toBytes]
    exact slice_append_left (length_toBytes 8 _)
  have herrorsSlice : slice data 17 25 = errors := by
    rw [hrest 16 24, slice_append_right (by simp [rx])]
    simp only [rx, length_toBytes]
    rw [slice_append_right (by simp [tx])]
    simp only [tx, length_toBytes]
    exact slice_append_left (length_toBytes 8 _)
  have hread : readTlv n {} ⟨Tag.portStatistics, data⟩ = (parsePortStatistics data).bind fun row =>
      .ok { fields := { portStatistics := [row] } } := rfl
  refine ⟨?_, hlen⟩
  show readTlv n {} ⟨Tag.portStatistics, data⟩ = _
  rw [hread, parsePortStatistics, if_neg (not_not_intro hlen), hrxSlice, htxSlice, herrorsSlice,
    ofBytes_toBytes 8 _ hrxlt, ofBytes_toBytes 8 _ htxlt, ofBytes_toBytes 8 _ herrorslt,
    PortSim.nsdpStatistics, ← hx]
  rfl

/-- A row of the PVIDs. -/
theorem readTlv_portPvid {v : ℤ} {pv : Bytes} (hport : packInt 1 port = some p)
    (hpv : packInt 2 v = some pv) :
    readTlv n {} ⟨Tag.portPvid, p ++ pv⟩ =
        .ok { fields := { portPvids := [⟨port.toNat, v.toNat⟩] } } ∧ (p ++ pv).length = 3 := by
  obtain ⟨x, rfl, hx⟩ := packInt_one_eq_some hport
  obtain ⟨_, hlt, rfl⟩ := packInt_eq_some hpv
  have hlen : ([x] ++ toBytes 2 v.toNat).length = 3 := by simp
  have hslice : slice ([x] ++ toBytes 2 v.toNat) 1 3 = toBytes 2 v.toNat := by
    rw [slice_append_right (by simp)]
    exact List.take_of_length_le (by simp)
  have hread : ∀ data, readTlv n {} ⟨Tag.portPvid, data⟩ = (parsePortPvid data).bind fun row =>
      .ok { fields := { portPvids := [row] } } := fun _ => rfl
  refine ⟨?_, hlen⟩
  rw [hread, parsePortPvid, if_neg (not_not_intro hlen), hslice, ofBytes_toBytes 2 _ hlt, ← hx]
  rfl

/-- A row of the VLANs; the bitmaps are read at the width they were written at. -/
theorem readTlv_vlanMembers {v : ℤ} {vsim : VlanSim} {width : ℕ} {vid member tagged : Bytes}
    (hports : ∀ q ∈ vsim.member, 0 < q ∧ q ≤ width) (hvid : packInt 2 v = some vid)
    (hmember : portsToBitmap vsim.member (bitmapBytes width) = some member)
    (htagged : portsToBitmap (vsim.member \ vsim.untagged) (bitmapBytes width) = some tagged) :
    readTlv width {} ⟨Tag.vlanMembers, vid ++ member ++ tagged⟩ =
        .ok { fields := { vlanMembers := [vsim.nsdpRecord v] } } ∧
      (vid ++ member ++ tagged).length = 2 + bitmapBytes width * 2 := by
  have hsub : ∀ q ∈ vsim.member \ vsim.untagged, 0 < q ∧ q ≤ width :=
    fun q hq => hports q (Finset.mem_sdiff.mp hq).1
  obtain ⟨hpos, hlt, hvidBytes⟩ := packInt_eq_some hvid
  constructor
  · show (orRaise .valueError (parseVlanMembers (vid ++ member ++ tagged) width)).bind _ = _
    rw [VirtualSwitchState.parseVlanMembers_eq hpos (by omega) hports hsub hvid hmember htagged]
    rfl
  · rw [List.length_append, List.length_append, hvidBytes, length_toBytes,
      (VirtualSwitchState.bitmapToPorts_portsToBitmap hports hmember).1,
      (VirtualSwitchState.bitmapToPorts_portsToBitmap hsub htagged).1]
    omega

/-- The DHCP mode. -/
theorem readTlv_dhcpMode (on : Bool) :
    readTlv n {} ⟨Tag.dhcpMode, [boolByte on]⟩ = .ok { fields := { dhcpEnabled := some on } } := by
  show (Except.ok { fields := { dhcpEnabled := some (decide (boolByte on ≠ 0)) } } :
    Except LibError DeviceParse) = _
  simp [boolByte_ne_zero]

/-- The QoS engine. -/
theorem readTlv_qosEngine (hport : packInt 1 port = some p) :
    readTlv n {} ⟨Tag.qosEngine, p⟩ = .ok { fields := { qosEngine := some port.toNat } } ∧
      p.length = 1 := by
  obtain ⟨x, rfl, hx⟩ := packInt_one_eq_some hport
  refine ⟨?_, rfl⟩
  show (Except.ok { fields := { qosEngine := some x.toNat } } : Except LibError DeviceParse) = _
  rw [← hx, Int.toNat_natCast]

/-- The mirror and its sources. -/
theorem readTlv_portMirroring {sources : Finset ℤ} {width : ℕ} {bits : Bytes}
    (hsources : ∀ q ∈ sources, 0 < q ∧ q ≤ width) (hport : packInt 1 port = some p)
    (hbits : portsToBitmap sources (bitmapBytes width) = some bits) :
    readTlv n {} ⟨Tag.portMirroring, p ++ bits⟩ =
        .ok { fields := { portMirroring := some ⟨port.toNat, sources⟩ } } ∧
      (p ++ bits).length = 1 + bitmapBytes width := by
  obtain ⟨x, rfl, hx⟩ := packInt_one_eq_some hport
  have hsets := VirtualSwitchState.bitmapToPorts_portsToBitmap hsources hbits
  refine ⟨?_, by rw [List.length_append, hsets.1]; rfl⟩
  show (Except.ok { fields := { portMirroring := some ⟨x.toNat, bitmapToPorts bits⟩ } } :
    Except LibError DeviceParse) = _
  rw [hsets.2, ← hx, Int.toNat_natCast]

/-- IGMP snooping; VLAN zero stands for none. -/
theorem readTlv_igmpSnooping (on : Bool) (hport : packInt 1 port = some p) :
    readTlv n {} ⟨Tag.igmpSnooping, [0x00, boolByte on, 0x00] ++ p⟩ =
        .ok { fields :=
          { igmpSnooping := some ⟨on, if port = 0 then none else some port.toNat⟩ } } ∧
      ([0x00, boolByte on, 0x00] ++ p).length = 4 := by
  obtain ⟨x, rfl, hx⟩ := packInt_one_eq_some hport
  refine ⟨?_, rfl⟩
  show (Except.ok { fields := { igmpSnooping := some ⟨boolByte on ≠ 0,
    if x ≠ 0 then some x.toNat else none⟩ } } : Except LibError DeviceParse) = _
  by_cases h0 : x = 0
  · subst h0
    simp [boolByte_ne_zero, ← hx]
  · have hne : x.toNat ≠ 0 := fun h => h0 (UInt8.toNat_inj.mp h)
    simp [boolByte_ne_zero, h0, hne, ← hx]

/-- Broadcast filtering. -/
theorem readTlv_broadcastFiltering (on : Bool) :
    readTlv n {} ⟨Tag.broadcastFiltering, [boolByte on]⟩ =
      .ok { fields := { broadcastFiltering := some on } } := by
  show (Except.ok { fields := { broadcastFiltering := some (decide (boolByte on ≠ 0)) } } :
    Except LibError DeviceParse) = _
  simp [boolByte_ne_zero]

/-- Loop detection. -/
theorem readTlv_loopDetection (on : Bool) :
    readTlv n {} ⟨Tag.loopDetection, [boolByte on]⟩ =
      .ok { fields := { loopDetection := some on } } := by
  show (Except.ok { fields := { loopDetection := some (decide (boolByte on ≠ 0)) } } :
    Except LibError DeviceParse) = _
  simp [boolByte_ne_zero]

end Rows

/-- A part of one address says it as `inet_ntoa` prints it. -/
theorem Says.of_tlvAddress {n tag : ℕ} {tags : List ℕ} {out : List TLVEntry} {asked : Prop} [Decidable asked]
    {address : Text}
    (h : (¬ asked ∧ out = []) ∨ (asked ∧ ∃ v, orFault .uncaught (PyCodec.inetAton address) = .ok v ∧
      out = [⟨tag, v⟩]))
    (htag : asked → tag ∈ tags) (say : Option Text → DeviceParse) (hnone : say none = {})
    (hread : ∀ v t, parseIpv4 v = .ok t → readTlv n {} ⟨tag, v⟩ = .ok (say (some t))) :
    Says n tags out (say (if asked then canonicalIpv4 address else none))
      (askedBytes asked (4 + 4)) := by
  unfold askedBytes
  rcases h with ⟨hasked, rfl⟩ | ⟨hasked, v, hv, rfl⟩
  · rw [if_neg hasked, if_neg hasked, hnone]
    exact Says.nil n tags
  · have hv := orFault_eq_ok.mp hv
    obtain ⟨t, ht⟩ := Option.isSome_iff_exists.mp
      (PyCodec.isSome_inetNtoa (PyCodec.length_inetAton hv))
    have hsays : Says n tags [⟨tag, v⟩] (say (some t)) (4 + v.length) :=
      Says.single (htag hasked) (hread v t (by rw [parseIpv4, ht]; rfl))
    rw [PyCodec.length_inetAton hv] at hsays
    rw [if_pos hasked, if_pos hasked, canonicalIpv4, hv, Option.bind_some, ht]
    exact hsays

/-- What the configuration part of a read says. -/
theorem says_configTlvs {s : VirtualSwitchState} {tags : List ℕ} {out : List TLVEntry} {n : ℕ}
    (hbitmaps : NsdpBitmaps s) (hwidth : Tag.vlanMembers ∈ tags → n = s.model.portCount)
    (h : s.configTlvs tags = .ok out) :
    Says n tags out
      { fields :=
          { portStatus := (s.reported tags).portStatus
            portNames := (s.reported tags).portNames
            portStatistics := (s.reported tags).portStatistics
            vlanMembers := (s.reported tags).vlanMembers
            portPvids := (s.reported tags).portPvids
            ip := (s.reported tags).ip
            netmask := (s.reported tags).netmask
            gateway := (s.reported tags).gateway
            dhcpEnabled := (s.reported tags).dhcpEnabled
            qosEngine := (s.reported tags).qosEngine
            portMirroring := (s.reported tags).portMirroring
            igmpSnooping := (s.reported tags).igmpSnooping
            broadcastFiltering := (s.reported tags).broadcastFiltering
            loopDetection := (s.reported tags).loopDetection } }
      (s.configBytes tags) := by
  unfold VirtualSwitchState.configTlvs at h
  obtain ⟨portStatus, hportStatus, h⟩ := bind_eq_ok.mp h
  obtain ⟨portName, hportName, h⟩ := bind_eq_ok.mp h
  obtain ⟨portStatistics, hportStatistics, h⟩ := bind_eq_ok.mp h
  obtain ⟨vlanMembers, hvlanMembers, h⟩ := bind_eq_ok.mp h
  obtain ⟨portPvid, hportPvid, h⟩ := bind_eq_ok.mp h
  obtain ⟨address, haddress, h⟩ := bind_eq_ok.mp h
  obtain ⟨netmask, hnetmask, h⟩ := bind_eq_ok.mp h
  obtain ⟨gateway, hgateway, h⟩ := bind_eq_ok.mp h
  obtain ⟨dhcp, hdhcp, h⟩ := bind_eq_ok.mp h
  obtain ⟨qos, hqos, h⟩ := bind_eq_ok.mp h
  obtain ⟨mirroring, hmirroring, h⟩ := bind_eq_ok.mp h
  obtain ⟨igmp, higmp, h⟩ := bind_eq_ok.mp h
  obtain ⟨broadcast, hbroadcast, h⟩ := bind_eq_ok.mp h
  obtain ⟨loop, hloop, h⟩ := bind_eq_ok.mp h
  cases h
  have hportStatus : Says n tags portStatus
      { fields := { portStatus := (s.reported tags).portStatus } }
      (askedBytes (Tag.portStatus ∈ tags) (s.ports.sortedItems.map fun _ => 4 + 3).sum) := by
    refine Says.of_tlvRows (VirtualSwitchState.eq_of_tlvRows hportStatus) id
      (fun rows => { fields := { portStatus := rows } }) rfl (fun _ _ => rfl) _ fun _ e _ v hv => ?_
    obtain ⟨port, hport, hv⟩ := bind_eq_ok.mp hv
    cases hv
    exact readTlv_portStatus (orFault_eq_ok.mp hport)
  have hportName : Says n tags portName
      { fields := { portNames := (s.reported tags).portNames } }
      (askedBytes (Tag.portName ∈ tags) (s.ports.sortedItems.map fun e =>
        4 + (1 + (PyCodec.utf8Encode (e.2.description.getD [])).length)).sum) := by
    refine Says.of_tlvRows (VirtualSwitchState.eq_of_tlvRows hportName) id
      (fun rows => { fields := { portNames := rows } }) rfl (fun _ _ => rfl) _ fun _ e _ v hv => ?_
    obtain ⟨port, hport, hv⟩ := bind_eq_ok.mp hv
    cases hv
    exact readTlv_portName (orFault_eq_ok.mp hport)
  have hportStatistics : Says n tags portStatistics
      { fields := { portStatistics := (s.reported tags).portStatistics } }
      (askedBytes (Tag.portStatistics ∈ tags) (s.ports.sortedItems.map fun _ => 4 + 49).sum) := by
    refine Says.of_tlvRows (VirtualSwitchState.eq_of_tlvRows hportStatistics) id
      (fun rows => { fields := { portStatistics := rows } }) rfl (fun _ _ => rfl) _ fun _ e _ v hv => ?_
    obtain ⟨port, hport, hv⟩ := bind_eq_ok.mp hv
    obtain ⟨rx, hrx, hv⟩ := bind_eq_ok.mp hv
    obtain ⟨tx, htx, hv⟩ := bind_eq_ok.mp hv
    obtain ⟨errors, herrors, hv⟩ := bind_eq_ok.mp hv
    cases hv
    exact readTlv_portStatistics (orFault_eq_ok.mp hport) (orFault_eq_ok.mp hrx)
      (orFault_eq_ok.mp htx) (orFault_eq_ok.mp herrors)
  have hvlanMembers : Says n tags vlanMembers
      { fields := { vlanMembers := (s.reported tags).vlanMembers } }
      (askedBytes (Tag.vlanMembers ∈ tags) (s.vlans.sortedItems.map fun _ =>
        4 + (2 + bitmapBytes s.model.portCount * 2)).sum) := by
    refine Says.of_tlvRows (VirtualSwitchState.eq_of_tlvRows hvlanMembers) id
      (fun rows => { fields := { vlanMembers := rows } }) rfl (fun _ _ => rfl) _ fun hasked e he v hv => ?_
    obtain ⟨vid, hvid, hv⟩ := bind_eq_ok.mp hv
    obtain ⟨member, hmember, hv⟩ := bind_eq_ok.mp hv
    obtain ⟨tagged, htagged, hv⟩ := bind_eq_ok.mp hv
    cases hv
    rw [hwidth hasked]
    exact readTlv_vlanMembers (hbitmaps.member_fits e.1 e.2 (PyDict.mem_sortedItems.mp he))
      (orFault_eq_ok.mp hvid) (orFault_eq_ok.mp hmember) (orFault_eq_ok.mp htagged)
  have hportPvid : Says n tags portPvid
      { fields := { portPvids := (s.reported tags).portPvids } }
      (askedBytes (Tag.portPvid ∈ tags) (s.pvids.sortedItems.map fun _ => 4 + 3).sum) := by
    refine Says.of_tlvRows (VirtualSwitchState.eq_of_tlvRows hportPvid) id
      (fun rows => { fields := { portPvids := rows } }) rfl (fun _ _ => rfl) _ fun _ e _ v hv => ?_
    obtain ⟨port, hport, hv⟩ := bind_eq_ok.mp hv
    obtain ⟨pv, hpv, hv⟩ := bind_eq_ok.mp hv
    cases hv
    exact readTlv_portPvid (orFault_eq_ok.mp hport) (orFault_eq_ok.mp hpv)
  have haddress : Says n tags address
      { fields := { ip := (s.reported tags).ip } }
      (askedBytes (Tag.ipAddress ∈ tags) (4 + 4)) :=
    Says.of_tlvAddress (VirtualSwitchState.eq_of_tlvWhen haddress) id
      (fun o => { fields := { ip := o } }) rfl fun _ _ h => by
        show (parseIpv4 _).bind _ = _
        rw [h]
        rfl
  have hnetmask : Says n tags netmask
      { fields := { netmask := (s.reported tags).netmask } }
      (askedBytes (Tag.netmask ∈ tags) (4 + 4)) :=
    Says.of_tlvAddress (VirtualSwitchState.eq_of_tlvWhen hnetmask) id
      (fun o => { fields := { netmask := o } }) rfl fun _ _ h => by
        show (parseIpv4 _).bind _ = _
        rw [h]
        rfl
  have hgateway : Says n tags gateway
      { fields := { gateway := (s.reported tags).gateway } }
      (askedBytes (Tag.gateway ∈ tags) (4 + 4)) :=
    Says.of_tlvAddress (VirtualSwitchState.eq_of_tlvWhen hgateway) id
      (fun o => { fields := { gateway := o } }) rfl fun _ _ h => by
        show (parseIpv4 _).bind _ = _
        rw [h]
        rfl
  have hdhcp : Says n tags dhcp
      { fields := { dhcpEnabled := (s.reported tags).dhcpEnabled } }
      (askedBytes (Tag.dhcpMode ∈ tags) (4 + 1)) := by
    refine Says.of_tlvWhen (VirtualSwitchState.eq_of_tlvWhen hdhcp) id
      (fun o => { fields := { dhcpEnabled := o } }) rfl _ fun v hv => ?_
    cases hv
    exact ⟨readTlv_dhcpMode _, rfl⟩
  have hqos : Says n tags qos
      { fields := { qosEngine := (s.reported tags).qosEngine } }
      (askedBytes (Tag.qosEngine ∈ tags ∧ s.nsdpQosEngine.isSome) (4 + 1)) := by
    refine Says.of_tlvOption (VirtualSwitchState.eq_of_tlvRows hqos) id
      (fun o => { fields := { qosEngine := o } }) rfl _ fun q _ v hv => ?_
    exact readTlv_qosEngine (orFault_eq_ok.mp hv)
  have hmirroring : Says n tags mirroring
      { fields := { portMirroring := (s.reported tags).portMirroring } }
      (askedBytes (Tag.portMirroring ∈ tags ∧ s.nsdpPortMirroringDest.isSome)
        (4 + (1 + bitmapBytes s.model.portCount))) := by
    refine Says.of_tlvOption (VirtualSwitchState.eq_of_tlvRows hmirroring) id
      (fun o => { fields := { portMirroring := o } }) rfl _ fun dest _ v hv => ?_
    obtain ⟨port, hport, hv⟩ := bind_eq_ok.mp hv
    obtain ⟨sources, hsources, hv⟩ := bind_eq_ok.mp hv
    cases hv
    exact readTlv_portMirroring hbitmaps.sources_fit (orFault_eq_ok.mp hport)
      (orFault_eq_ok.mp hsources)
  have higmp : Says n tags igmp
      { fields := { igmpSnooping := (s.reported tags).igmpSnooping } }
      (askedBytes (Tag.igmpSnooping ∈ tags ∧ s.nsdpIgmpSnoopingEnabled.isSome) (4 + 4)) := by
    refine Says.of_tlvOption (VirtualSwitchState.eq_of_tlvRows higmp) id
      (fun o => { fields := { igmpSnooping := o } }) rfl _ fun on _ v hv => ?_
    obtain ⟨vlan, hvlan, hv⟩ := bind_eq_ok.mp hv
    cases hv
    exact readTlv_igmpSnooping on (orFault_eq_ok.mp hvlan)
  have hbroadcast : Says n tags broadcast
      { fields := { broadcastFiltering := (s.reported tags).broadcastFiltering } }
      (askedBytes (Tag.broadcastFiltering ∈ tags ∧ s.nsdpBroadcastFiltering.isSome) (4 + 1)) := by
    have hsays := Says.of_tlvOption (f := id) (n := n) (VirtualSwitchState.eq_of_tlvRows hbroadcast) id
      (fun o => { fields := { broadcastFiltering := o } }) rfl _ fun on _ v hv => by
        cases hv
        exact ⟨readTlv_broadcastFiltering on, rfl⟩
    rwa [Option.map_id] at hsays
  have hloop : Says n tags loop
      { fields := { loopDetection := (s.reported tags).loopDetection } }
      (askedBytes (Tag.loopDetection ∈ tags ∧ s.nsdpLoopDetection.isSome) (4 + 1)) := by
    have hsays := Says.of_tlvOption (f := id) (n := n) (VirtualSwitchState.eq_of_tlvRows hloop) id
      (fun o => { fields := { loopDetection := o } }) rfl _ fun on _ v hv => by
        cases hv
        exact ⟨readTlv_loopDetection on, rfl⟩
    rwa [Option.map_id] at hsays
  have hall := ((((((((((((hportStatus.append hportName).append hportStatistics).append
    hvlanMembers).append hportPvid).append haddress).append hnetmask).append hgateway).append
    hdhcp).append hqos).append hmirroring).append higmp).append hbroadcast).append hloop
  simp only [DeviceParse.merge, Option.or_none, Option.none_or, List.append_nil, List.nil_append]
    at hall
  exact hall

/-- The bytes the TLVs of a read take. -/
def VirtualSwitchState.answerBytes (s : VirtualSwitchState) (salt : Bytes) (tags : List ℕ) : ℕ :=
  s.identityBytes tags + askedBytes (Tag.authV2Salt ∈ tags) (4 + salt.length) + s.configBytes tags

/-- What the TLVs of a read say. -/
theorem says_nsdpTlvs {s : VirtualSwitchState} {salt : Bytes} {tags : List ℕ}
    {tlvs : List TLVEntry} (hbitmaps : NsdpBitmaps s) (hmac : s.nsdpMac.length = 6)
    (hmodel : Tag.model ∈ tags) (hwidth : Tag.vlanMembers ∈ tags → Tag.portCount ∈ tags)
    (h : (s.nsdpTlvs salt tags).2 = .ok tlvs) :
    (∀ t ∈ tlvs, t.tag ∈ tags) ∧ tlvSize tlvs = s.answerBytes salt tags ∧
      ∀ resp : NSDPPacket, resp.tlvs = tlvs → resp.serverMac = s.nsdpMac →
        parseDevice resp = .ok (s.reported tags) := by
  obtain ⟨identity, config, hidentity, hconfig, rfl⟩ := VirtualSwitchState.nsdpTlvs_eq_ok h
  let n := (s.reported tags).portCount.getD 8
  have hn : Tag.vlanMembers ∈ tags → n = s.model.portCount := by
    intro hasked
    show ((if Tag.portCount ∈ tags then some s.model.portCount else none).getD 8) = _
    rw [if_pos (hwidth hasked)]
    rfl
  have hsalt : Says n tags (if Tag.authV2Salt ∈ tags then [⟨Tag.authV2Salt, salt⟩] else []) {}
      (askedBytes (Tag.authV2Salt ∈ tags) (4 + salt.length)) := by
    unfold askedBytes
    by_cases hasked : Tag.authV2Salt ∈ tags
    · rw [if_pos hasked, if_pos hasked]
      exact Says.single hasked (by cases salt <;> rfl)
    · rw [if_neg hasked, if_neg hasked]
      exact Says.nil n tags
  have hall := ((says_identityTlvs hmac hidentity).append hsalt).append
    (says_configTlvs hbitmaps hn hconfig)
  rw [DeviceParse.merge_empty, if_pos hmodel] at hall
  simp only [DeviceParse.merge, Option.or_none, Option.none_or, List.nil_append] at hall
  refine ⟨hall.asked, hall.takes, fun resp htlvs hserver => ?_⟩
  rw [← htlvs] at hall
  have hcount : learnPortCount resp.tlvs = n := hall.learnPortCount
  rw [← hcount] at hall
  refine hall.parseDevice rfl ?_
  by_cases hasked : Tag.mac ∈ tags
  · left
    exact if_pos hasked
  · right
    exact ⟨if_neg hasked, hserver, hmac⟩

section Reading

variable {urandom : ℕ → Bytes} {network : ℕ → DatagramNet.Delivery} {w : World VirtualNsdpFace}
  {s : VirtualSwitchState} {tags : List ℕ}

theorem mem_withModel {t : ℕ} : t ∈ NsdpWriter.withModel tags ↔ t = Tag.model ∨ t ∈ tags := by
  unfold NsdpWriter.withModel
  split_ifs with hmem
  · constructor
    · exact Or.inr
    · rintro (rfl | ht)
      · exact hmem
      · exact ht
  · exact List.mem_cons

/-- The tags a client may ask for in one datagram. -/
structure Askable (tags : List ℕ) : Prop where
  known : ∀ t ∈ tags, t ∈ Tag.catalogued ∧ t < Tag.endOfMark
  readable : Tag.authV2Password ∉ tags
  few : tags.length < 1000
  /-- The bitmaps of the VLANs are as wide as the port count has them. -/
  width : Tag.vlanMembers ∈ tags → Tag.portCount ∈ tags

theorem Askable.asked (h : Askable tags) :
    (∀ t ∈ NsdpWriter.withModel tags, t ∈ Tag.catalogued ∧ t < 0xFFFF) ∧
      Tag.authV2Password ∉ NsdpWriter.withModel tags ∧ (NsdpWriter.withModel tags).length ≤ 1000 ∧
      (Tag.vlanMembers ∈ NsdpWriter.withModel tags → Tag.portCount ∈ NsdpWriter.withModel tags) := by
  refine ⟨fun t ht => ?_, fun hmem => ?_, ?_, fun hmem => ?_⟩
  · rcases mem_withModel.mp ht with rfl | ht
    · exact (by decide : Tag.model ∈ Tag.catalogued ∧ Tag.model < 0xFFFF)
    · exact h.known t ht
  · rcases mem_withModel.mp hmem with heq | hmem
    · exact absurd heq (by decide)
    · exact h.readable hmem
  · have hfew := h.few
    unfold NsdpWriter.withModel
    split_ifs
    · omega
    · rw [List.length_cons]
      omega
  · rcases mem_withModel.mp hmem with heq | hmem
    · exact absurd heq (by decide)
    · exact mem_withModel.mpr (Or.inr (h.width hmem))

/-- A switch that has its records read back. -/
structure Reportable (s : VirtualSwitchState) : Prop where
  bitmaps : NsdpBitmaps s
  mac : s.nsdpMac.length = 6

/-- A read that fits a datagram is answered with the switch's own data. -/
theorem ends_device (h : w.Connected urandom network s) (hs : Reportable s) (htags : Askable tags)
    (hchecks : firstFailed (s.readChecks (NsdpWriter.withModel tags)) = none)
    (hsize : s.answerBytes (urandom w.net.server.taken) (NsdpWriter.withModel tags) ≤ 4064) :
    ∃ w', Ends (clientCall urandom network) (NsdpWriter.device tags) w
        (.ok (s.reported (NsdpWriter.withModel tags))) w' ∧
      w'.Connected urandom network
        (s.nsdpTlvs (urandom w.net.server.taken) (NsdpWriter.withModel tags)).1 ∧
      w'.client.authScheme = w.client.authScheme := by
  let asked := NsdpWriter.withModel tags
  let salt := urandom w.net.server.taken
  obtain ⟨hknown, hreadable, hfew, hwidth⟩ := htags.asked
  have hmodel : Tag.model ∈ asked := mem_withModel.mpr (Or.inl rfl)
  obtain ⟨tlvs, hanswer⟩ : ∃ tlvs, s.nsdpTlvs salt asked = ((s.nsdpTlvs salt asked).1, .ok tlvs) := by
    cases hr : (s.nsdpTlvs salt asked).2 with
    | error fault =>
      rw [VirtualSwitchState.nsdpTlvs_error_iff, hchecks] at hr
      cases hr
    | ok tlvs => exact ⟨tlvs, Prod.ext rfl hr⟩
  obtain ⟨htagged, htakes, hparse⟩ := @says_nsdpTlvs s salt asked tlvs hs.bitmaps hs.mac hmodel hwidth
    (congrArg Prod.snd hanswer)
  obtain ⟨t, ts, rfl⟩ : ∃ t ts, tlvs = t :: ts := by
    apply List.exists_cons_of_ne_nil
    rintro rfl
    -- a response with no TLV names no model
    let empty : NSDPPacket :=
      { op := .readResponse, clientMac := [], serverMac := s.nsdpMac, sequence := 0, tlvs := [] }
    have hnone := hparse empty rfl rfl
    cases hnone
  have hrows : ∀ r ∈ t :: ts, r.tag < 0xFFFF ∧ r.value.length < 65536 := by
    intro r hr
    have hle : 4 + r.value.length ≤ tlvSize (t :: ts) :=
      List.le_sum_of_mem (List.mem_map_of_mem (f := fun r : TLVEntry => 4 + r.value.length) hr)
    have hsize : s.answerBytes salt asked ≤ 4064 := hsize
    rw [htakes] at hle
    exact ⟨(hknown _ (htagged r hr)).2, by omega⟩
  obtain ⟨w', resp, hread, htlvs, hserver, hconnected, hclient⟩ :=
    h.read hknown hreadable hfew hanswer hrows (htakes.trans_le hsize)
  have hcall : clientCall urandom network w (.read asked) = (w', .ok resp) := hread
  refine ⟨w', ?_, hconnected, by rw [hclient]; rfl⟩
  apply Ends.bind (ends_call hcall)
  have hdev := hparse resp htlvs (by rw [hserver, rawField_of_length hs.mac])
  show Ends _ (done (parseDevice resp)) _ _ _
  rw [hdev]
  exact ends_done _

/-- A switch that raises while it reads itself leaves the client waiting. -/
theorem ends_device_silent (h : w.Connected urandom network s) (htags : Askable tags)
    {fault : NsdpFault}
    (hchecks : firstFailed (s.readChecks (NsdpWriter.withModel tags)) = some fault) :
    ∃ w', Ends (clientCall urandom network) (NsdpWriter.device tags) w (.error .nsdp) w' := by
  let asked := NsdpWriter.withModel tags
  obtain ⟨hknown, hreadable, hfew, _⟩ := htags.asked
  have hkept : ((w.readRequest asked).onWire.tlvs.map TLVEntry.tag).filter (· ∈ Tag.catalogued) =
      asked := by
    rw [w.readRequest_tags asked, List.filter_eq_self]
    exact fun t ht => decide_eq_true (hknown t ht).1
  have hanswer : sentBack (s.answerPacket (urandom w.net.server.taken)
      (w.readRequest asked).onWire).2 = none := by
    have hfails : (s.nsdpTlvs (urandom w.net.server.taken) asked).2 = .error fault :=
      VirtualSwitchState.nsdpTlvs_error_iff.mpr hchecks
    rcases hpair : s.nsdpTlvs (urandom w.net.server.taken) asked with ⟨s', r⟩
    rw [hpair] at hfails
    cases hfails
    have hread : s.readResponse (urandom w.net.server.taken) (w.readRequest asked).onWire =
        (s', .error fault) := by
      unfold VirtualSwitchState.readResponse
      rw [hkept, if_neg hreadable, hpair]
    unfold VirtualSwitchState.answerPacket
    rw [show (w.readRequest asked).onWire.op = .readRequest from rfl]
    dsimp only
    rw [hread]
    rfl
  have hread := h.read_silent asked (fun t ht => (hknown t ht).2) hfew hanswer
  have hcall : clientCall urandom network w (.read asked) =
      ((w.read (virtualEnvironment urandom network) asked).1, .error .nsdp) := Prod.ext rfl hread
  exact ⟨_, Ends.bind (ends_call hcall) (ends_done _)⟩

end Reading

/-- `_FULL_DEVICE_TAGS`: every tag `parse_device` decodes. -/
def fullDeviceTags : List ℕ :=
  [Tag.model, Tag.mac, Tag.hostname, Tag.portName, Tag.ipAddress, Tag.netmask, Tag.gateway,
    Tag.firmwareVer1, Tag.dhcpMode, Tag.portCount, Tag.serialNumber, Tag.vlanEngine, Tag.portStatus,
    Tag.portStatistics, Tag.vlanMembers, Tag.portPvid, Tag.qosEngine, Tag.portMirroring,
    Tag.igmpSnooping, Tag.broadcastFiltering, Tag.loopDetection]

theorem askable_fullDeviceTags : Askable fullDeviceTags :=
  ⟨by decide, by decide, by decide, fun _ => by decide⟩

/-- A ten-port switch with a name for one port and both kinds of VLAN ports. -/
def namedPorts : VirtualSwitchState :=
  { modelKey := .gs110emx
    hostname := "core".toList
    ports := .ofList
      [(1, { name := [], admin := true, link := true, speed := 10000, description := some ['ü'] }),
        (2, { name := [], admin := true, link := false, speed := 1000, rxOctets := some 70000 })]
    vlans := .ofList [(1, { name := [], member := {1, 2, 10}, untagged := {1} })]
    pvids := .ofList [(1, 1), (2, 1)]
    nsdpIgmpSnoopingEnabled := some true }

theorem reportable_namedPorts : Reportable namedPorts := by
  have hall : ∀ e ∈ namedPorts.vlans.items,
      ∀ p ∈ e.2.member, 0 < p ∧ p ≤ namedPorts.model.portCount := by decide
  exact ⟨⟨fun v vsim hget => hall (v, vsim) (PyDict.mem_items_of_get? hget), by decide⟩, rfl⟩

end NetgearSwitch.Virtual
