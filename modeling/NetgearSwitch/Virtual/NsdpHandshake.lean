import Mathlib.Algebra.Order.BigOperators.Group.List
import NetgearSwitch.Virtual.NsdpRuns
import NetgearSwitch.Virtual.NsdpWrites

/-!
# The write handshake

`UdpNsdpClient` and `VirtualNsdpFace` over a network that loses nothing.  A write takes up to
three exchanges: the scheme is read, the salt is read, and the TLVs follow the proof of the
password.  The client's bookkeeping, the numbers of the exchanges and the switch's own state all
move on between them; what stays is that the two are connected.

§1 the connection · §2 reading · §3 writing · §4 the handshake
-/

namespace NetgearSwitch.Nsdp

open BigEndian DatagramNet Virtual VirtualSwitchState

/-! ## §1 The connection -/

/-- The client and a serving switch in the state `s`: every request arrives from here on, and the
reply taken is the one the switch has just emitted. -/
structure World.Connected (urandom : ℕ → Bytes) (network : ℕ → Delivery)
    (w : World VirtualNsdpFace) (s : VirtualSwitchState) : Prop where
  lossless : ∀ i, network (w.net.exchanges + i) = ⟨true, some (w.net.emitted.length + i)⟩
  serving : w.net.server.serving = true
  state : w.net.server.state = s

/-- What a switch sends back: nothing where it raises, keeps silent or cannot encode its answer. -/
def sentBack : Except NsdpFault (Option NSDPPacket) → Option Bytes
  | .ok (some resp) => resp.encode
  | _ => none

namespace World.Connected

variable {urandom : ℕ → Bytes} {network : ℕ → Delivery} {w : World VirtualNsdpFace}
  {s s' : VirtualSwitchState}

/-- One exchange: the switch takes the request, and the client decodes what its buffer holds of the
reply. -/
theorem exchange_received (h : w.Connected urandom network s) {req resp : NSDPPacket}
    (hreq : req.onWire.Representable) (hreqSize : req.size ≤ 4096 + 4) {reply : Bytes}
    (hreply : resp.encode = some reply)
    (hanswer : s.answerPacket (urandom w.net.server.taken) req.onWire = (s', .ok (some resp)))
    (awaited : Op) :
    ∃ w' taken, w'.Connected urandom network s' ∧ w'.client = w.client ∧
      w.exchange (virtualEnvironment urandom network) awaited req =
        (w', match NSDPPacket.decode (reply.take 4096) with
          | .error _ => .error .nsdp
          | .ok received => .ok (taken, received)) := by
  obtain ⟨bytes, hbytes, hdecoded⟩ := NSDPPacket.decode_taken hreq hreqSize
  have hserve : w.net.server.serve urandom bytes =
      ({ w.net.server with state := s', taken := w.net.server.taken + 1 }, some reply) := by
    unfold VirtualNsdpFace.serve
    rw [if_pos h.serving, h.state, handleNsdp_of_decode hdecoded, hanswer]
    dsimp only
    rw [hreply]
  obtain ⟨net, hnet, hserver, hexchanges, hemitted⟩ :=
    Net.exchange_prompt (VirtualNsdpFace.serve urandom) hserve
  have hdelivery : network w.net.exchanges = ⟨true, some w.net.emitted.length⟩ := h.lossless 0
  let taken : Taken := ⟨w.net.exchanges, awaited, ⟨w.net.exchanges, reply⟩⟩
  refine ⟨{ w with net := net, taken := w.taken ++ [taken] }, taken, ⟨?_, ?_, ?_⟩, rfl, ?_⟩
  · intro i
    show network (net.exchanges + i) = ⟨true, some (net.emitted.length + i)⟩
    rw [hexchanges, hemitted, Nat.add_right_comm, Nat.add_right_comm w.net.emitted.length]
    exact h.lossless (i + 1)
  · show net.server.serving = true
    rw [hserver]
    exact h.serving
  · show net.server.state = s'
    rw [hserver]
  · unfold World.exchange
    rw [hbytes]
    dsimp only [virtualEnvironment]
    rw [hdelivery, hnet]
    dsimp only
    cases NSDPPacket.decode (reply.take 4096) <;> rfl

/-- One exchange, where the TLVs of both packets fit the buffers they are received in. -/
theorem exchange (h : w.Connected urandom network s) {req resp : NSDPPacket}
    (hreq : req.onWire.Representable) (hreqSize : req.size ≤ 4096 + 4)
    (hresp : resp.onWire.Representable) (hrespSize : resp.size ≤ 4096 + 4)
    (hanswer : s.answerPacket (urandom w.net.server.taken) req.onWire = (s', .ok (some resp)))
    (awaited : Op) :
    ∃ w' taken, w.exchange (virtualEnvironment urandom network) awaited req =
        (w', .ok (taken, resp.onWire)) ∧
      w'.Connected urandom network s' ∧ w'.client = w.client := by
  obtain ⟨reply, hreply, hresponse⟩ := NSDPPacket.decode_taken hresp hrespSize
  obtain ⟨w', taken, hconnected, hclient, hexchange⟩ :=
    h.exchange_received hreq hreqSize hreply hanswer awaited
  rw [hresponse] at hexchange
  exact ⟨w', taken, hexchange, hconnected, hclient⟩

/-- One exchange with a switch that sends nothing back. -/
theorem exchange_silent (h : w.Connected urandom network s) {req : NSDPPacket}
    (hreq : req.onWire.Representable) (hreqSize : req.size ≤ 4096 + 4)
    (hsilent : sentBack (s.answerPacket (urandom w.net.server.taken) req.onWire).2 = none)
    (awaited : Op) :
    (w.exchange (virtualEnvironment urandom network) awaited req).2 = .error .nsdp := by
  obtain ⟨bytes, hbytes, hdecoded⟩ := NSDPPacket.decode_taken hreq hreqSize
  have hserve : (w.net.server.serve urandom bytes).2 = none := by
    unfold VirtualNsdpFace.serve
    rw [if_pos h.serving, h.state, handleNsdp_of_decode hdecoded]
    revert hsilent
    rcases s.answerPacket (urandom w.net.server.taken) req.onWire with ⟨s', (_ | _) | _ | resp⟩
    · exact fun _ => rfl
    · exact fun _ => rfl
    · exact fun _ => rfl
    · intro hencode
      have hencode' : resp.encode = none := hencode
      dsimp only
      rw [hencode']
  have hdelivery : network w.net.exchanges = ⟨true, some w.net.emitted.length⟩ := h.lossless 0
  have hnothing : (w.net.exchange (VirtualNsdpFace.serve urandom) (network w.net.exchanges)
      bytes).2 = none := by
    rw [hdelivery]
    simp [Net.exchange, Net.answer, hserve]
  unfold World.exchange
  rw [hbytes]
  dsimp only [virtualEnvironment]
  rcases hpair : w.net.exchange (VirtualNsdpFace.serve urandom) (network w.net.exchanges) bytes
    with ⟨net, reply⟩
  rw [hpair] at hnothing
  cases hnothing
  rfl

theorem nextSeq (h : w.Connected urandom network s) : w.nextSeq.Connected urandom network s :=
  ⟨h.lossless, h.serving, h.state⟩

/-- What the client keeps on record does not touch the connection. -/
theorem accept (h : w.Connected urandom network s) (taken : Taken) (req resp : NSDPPacket) :
    (w.accept taken req resp).Connected urandom network s :=
  ⟨h.lossless, h.serving, h.state⟩

theorem withClient (h : w.Connected urandom network s) (client : UdpNsdpClient) :
    World.Connected urandom network { w with client := client } s :=
  ⟨h.lossless, h.serving, h.state⟩

end World.Connected

theorem World.sequence_nextSeq_lt {σ : Type} (w : World σ) : w.nextSeq.client.sequence < 2 ^ 32 :=
  lt_trans (Nat.mod_lt _ (by decide)) (by decide)

/-- A packet of this model's own making, between MAC addresses of any length. -/
theorem representable_onWire {p : NSDPPacket} (hresult : p.result < 2 ^ 16)
    (herror : p.errorAttr < 2 ^ 16) (hsequence : p.sequence < 2 ^ 32)
    (htlvs : ∀ t ∈ p.tlvs, t.tag < 0xFFFF ∧ t.value.length < 65536) : p.onWire.Representable :=
  ⟨length_rawField 6 _, length_rawField 6 _, hresult, herror, hsequence, htlvs⟩

/-! ## §2 Reading -/

/-- The request that a read of these tags sends. -/
def World.readRequest {σ : Type} (w : World σ) (tags : List ℕ) : NSDPPacket :=
  buildReadRequest w.nextSeq.client.clientMac broadcastMac w.nextSeq.client.sequence tags

section Request

variable {σ : Type} (w : World σ) {tags : List ℕ}

theorem World.read_eq (env : Environment σ) (tags : List ℕ) : w.read env tags =
    match w.nextSeq.exchange env .readResponse (w.readRequest tags) with
    | (w', .error e) => (w', .error e)
    | (w', .ok (taken, resp)) =>
      if resp.op ≠ .readResponse then (w', .error .nsdp)
      else (w'.accept taken (w.readRequest tags) resp, .ok resp) := rfl

theorem World.readRequest_tags (tags : List ℕ) :
    (w.readRequest tags).onWire.tlvs.map TLVEntry.tag = tags := by
  show (tags.map fun tag => (⟨tag, []⟩ : TLVEntry)).map TLVEntry.tag = tags
  rw [List.map_map]
  exact List.map_id' tags

/-- A switch that serves the tags answers the request with their TLVs. -/
theorem World.answerPacket_readRequest {s s' : VirtualSwitchState} {salt : Bytes}
    (tags : List ℕ) (htags : ∀ t ∈ tags, t ∈ Tag.catalogued) (hauth : Tag.authV2Password ∉ tags)
    {t : TLVEntry}
    {ts : List TLVEntry} (htlvs : s.nsdpTlvs salt tags = (s', .ok (t :: ts))) :
    s.answerPacket salt (w.readRequest tags).onWire = (s', .ok (some
      { s.responseTo .readResponse (w.readRequest tags).onWire with tlvs := t :: ts })) := by
  have hasked : ((w.readRequest tags).onWire.tlvs.map TLVEntry.tag).filter (· ∈ Tag.catalogued) =
      tags := by
    rw [w.readRequest_tags tags, List.filter_eq_self]
    exact fun t ht => decide_eq_true (htags t ht)
  apply answerPacket_of_read rfl
  unfold readResponse
  rw [hasked, if_neg hauth, htlvs]

theorem World.readRequest_representable (htags : ∀ t ∈ tags, t < Tag.endOfMark) :
    (w.readRequest tags).onWire.Representable := by
  apply representable_onWire (by decide : (0 : ℕ) < 2 ^ 16) (by decide : (0 : ℕ) < 2 ^ 16)
    w.sequence_nextSeq_lt
  intro r hr
  obtain ⟨tag, htag, rfl⟩ := List.mem_map.mp hr
  exact ⟨htags tag htag, Nat.zero_lt_of_lt (by decide : 0 < 65536)⟩

theorem World.readRequest_size (hcount : tags.length ≤ 1000) :
    (w.readRequest tags).size ≤ 4096 + 4 := by
  have hsum : ((w.readRequest tags).tlvs.map fun t => 4 + t.value.length).sum = 4 * tags.length := by
    show ((tags.map fun tag => (⟨tag, []⟩ : TLVEntry)).map fun t => 4 + t.value.length).sum = _
    rw [List.map_map]
    show (tags.map fun _ => 4).sum = _
    rw [List.map_const', List.sum_replicate_nat, Nat.mul_comm]
  rw [NSDPPacket.size, hsum, headerSize]
  omega

end Request

namespace World.Connected

variable {urandom : ℕ → Bytes} {network : ℕ → Delivery} {w : World VirtualNsdpFace}
  {s s' : VirtualSwitchState} {tags : List ℕ}

/-- A read of tags the switch serves is answered with their TLVs, as far as they come through the
client's buffer; the read fails where the buffer cuts one of them. -/
theorem read_through (h : w.Connected urandom network s) (tags : List ℕ)
    (htags : ∀ t ∈ tags, t ∈ Tag.catalogued ∧ t < 0xFFFF) (hauth : Tag.authV2Password ∉ tags)
    (hcount : tags.length ≤ 1000) {t : TLVEntry} {ts : List TLVEntry}
    (htlvs : s.nsdpTlvs (urandom w.net.server.taken) tags = (s', .ok (t :: ts)))
    (hrows : ∀ r ∈ t :: ts, r.tag < 0xFFFF ∧ r.value.length < 65536) :
    match tlvsThrough 4064 ((t :: ts).map TLVEntry.size) with
    | some k =>
      ∃ w' resp, w.read (virtualEnvironment urandom network) tags = (w', .ok resp) ∧
        resp.tlvs = (t :: ts).take k ∧ resp.serverMac = rawField 6 s.nsdpMac ∧
        w'.Connected urandom network s' ∧ w'.client = w.nextSeq.client
    | none => (w.read (virtualEnvironment urandom network) tags).2 = .error .nsdp := by
  let req := w.readRequest tags
  let resp : NSDPPacket := { s.responseTo .readResponse req.onWire with tlvs := t :: ts }
  have hresp : resp.onWire.Representable :=
    representable_onWire (by decide : (0 : ℕ) < 2 ^ 16) (by decide : (0 : ℕ) < 2 ^ 16)
      w.sequence_nextSeq_lt hrows
  obtain ⟨reply, hreply⟩ := hresp.encode_isSome
  rw [NSDPPacket.encode_onWire] at hreply
  have hanswer : s.answerPacket (urandom w.net.server.taken) req.onWire = (s', .ok (some resp)) :=
    w.answerPacket_readRequest tags (fun t ht => (htags t ht).1) hauth htlvs
  obtain ⟨w', taken, hconnected, hclient, hexchange⟩ := h.nextSeq.exchange_received
    (w.readRequest_representable fun t ht => (htags t ht).2) (w.readRequest_size hcount) hreply
    hanswer .readResponse
  have hdecoded := NSDPPacket.decode_through hresp (by decide : headerSize ≤ 4096) hreply
  rw [World.read_eq]
  revert hdecoded hexchange
  show _ → (match tlvsThrough 4064 ((t :: ts).map TLVEntry.size) with
    | some k => NSDPPacket.decode (reply.take 4096) = .ok { resp.onWire with tlvs := (t :: ts).take k }
    | none => ∃ e, NSDPPacket.decode (reply.take 4096) = .error e) → _
  cases tlvsThrough 4064 ((t :: ts).map TLVEntry.size) with
  | some k =>
    intro hexchange hdecoded
    dsimp only at hdecoded
    rw [hdecoded] at hexchange
    rw [hexchange]
    exact ⟨_, _, if_neg (not_not_intro rfl), rfl, rfl, hconnected.accept _ _ _, hclient⟩
  | none =>
    rintro hexchange ⟨e, he⟩
    rw [he] at hexchange
    rw [hexchange]

/-- A read of tags the switch serves, in a response that fits, is answered with their TLVs. -/
theorem read (h : w.Connected urandom network s)
    (htags : ∀ t ∈ tags, t ∈ Tag.catalogued ∧ t < 0xFFFF) (hauth : Tag.authV2Password ∉ tags)
    (hcount : tags.length ≤ 1000) {t : TLVEntry} {ts : List TLVEntry}
    (htlvs : s.nsdpTlvs (urandom w.net.server.taken) tags = (s', .ok (t :: ts)))
    (hrows : ∀ r ∈ t :: ts, r.tag < 0xFFFF ∧ r.value.length < 65536)
    (hsize : ((t :: ts).map fun r => 4 + r.value.length).sum ≤ 4064) :
    ∃ w' resp, w.read (virtualEnvironment urandom network) tags = (w', .ok resp) ∧
      resp.tlvs = t :: ts ∧ resp.serverMac = rawField 6 s.nsdpMac ∧
      w'.Connected urandom network s' ∧ w'.client = w.nextSeq.client := by
  have hsize' : ((t :: ts).map TLVEntry.size).sum ≤ 4064 := hsize
  have hthrough := h.read_through tags htags hauth hcount htlvs hrows
  rw [tlvsThrough_of_fits hsize', List.length_map] at hthrough
  dsimp only at hthrough
  rw [List.take_length] at hthrough
  exact hthrough

/-- A read that the switch sends nothing back to. -/
theorem read_silent (h : w.Connected urandom network s) (tags : List ℕ)
    (htags : ∀ t ∈ tags, t < Tag.endOfMark) (hcount : tags.length ≤ 1000)
    (hsilent : sentBack (s.answerPacket (urandom w.net.server.taken)
      (w.readRequest tags).onWire).2 = none) :
    (w.read (virtualEnvironment urandom network) tags).2 = .error .nsdp := by
  have hexchange := h.nextSeq.exchange_silent (w.readRequest_representable htags)
    (w.readRequest_size hcount) hsilent .readResponse
  rw [World.read_eq]
  rcases hpair : w.nextSeq.exchange (virtualEnvironment urandom network) .readResponse
    (w.readRequest tags) with ⟨w', r⟩
  have hr : r = .error .nsdp := (congrArg Prod.snd hpair).symm.trans hexchange
  rw [hr]

end World.Connected

end NetgearSwitch.Nsdp

namespace NetgearSwitch.Virtual.VirtualSwitchState

open Nsdp BigEndian

variable {s s' : VirtualSwitchState}

/-- A read of the encpass tag says which scheme the switch checks. -/
theorem nsdpTlvs_encpass {name : Bytes} (hname : PyCodec.asciiEncode s.servedName = some name)
    {value : Bytes} (hvalue : packInt 4 s.nsdpAuthVersion = some value) (salt : Bytes) :
    s.nsdpTlvs salt [Tag.authV2Encpass] = (s, .ok [⟨Tag.authV2Encpass, value⟩]) := by
  have hidentity : s.identityTlvs [Tag.authV2Encpass] = .ok [⟨Tag.authV2Encpass, value⟩] := by
    have hname' : PyCodec.asciiEncode
        (if s.modelName = [] then s.model.displayName else s.modelName) = some name := hname
    unfold identityTlvs
    simp only [hname', hvalue, orFault_some]
    rfl
  rw [nsdpTlvs, hidentity]
  rfl

/-! ## §3 Writing -/

/-- `apply_nsdp_write` of the TLVs, once each and in order. -/
def applyTlvs (s : VirtualSwitchState) (tlvs : List TLVEntry) :
    Except NsdpFault VirtualSwitchState :=
  tlvs.foldlM (fun s t => s.applyNsdpWrite t.tag t.value) s

theorem applyTlvs_cons (t : TLVEntry) (ts : List TLVEntry) (s : VirtualSwitchState) :
    s.applyTlvs (t :: ts) = (s.applyNsdpWrite t.tag t.value).bind (·.applyTlvs ts) :=
  List.foldlM_cons

/-- TLVs the decoders accept are applied, whatever the ones before them did. -/
theorem exists_applyTlvs : ∀ {tlvs : List TLVEntry} {s : VirtualSwitchState},
    (∀ t ∈ tlvs, s.configTlvFault t = none) → ∃ s', s.applyTlvs tlvs = .ok s'
  | [], s, _ => ⟨s, rfl⟩
  | t :: ts, s, h => by
    cases hwrite : s.applyNsdpWrite t.tag t.value with
    | error fault =>
      have hfault := applyNsdpWrite_error_iff.mp hwrite
      rw [h t List.mem_cons_self] at hfault
      cases hfault
    | ok s₁ =>
      obtain ⟨ports, vlans, pvids, mgmt, rfl⟩ := applyNsdpWrite_frame hwrite
      obtain ⟨s', hs'⟩ := @exists_applyTlvs ts
        { s with ports := ports, vlans := vlans, pvids := pvids, mgmt := mgmt }
        fun t ht => h t (List.mem_cons_of_mem _ ht)
      refine ⟨s', ?_⟩
      rw [applyTlvs_cons, hwrite]
      exact hs'

/-- Without a TLV of the auth tag, a request's TLVs are all applied. -/
theorem applyConfigTlvs_of_applyTlvs {authTag : ℕ} : ∀ {tlvs : List TLVEntry}
    {s : VirtualSwitchState}, (∀ t ∈ tlvs, t.tag ≠ authTag) → s.applyTlvs tlvs = .ok s' →
    applyConfigTlvs authTag tlvs s = (s', .ok ())
  | [], s, _, h => by
    cases h
    rfl
  | t :: ts, s, hauth, h => by
    rw [applyTlvs_cons] at h
    rw [applyConfigTlvs, if_neg (hauth t List.mem_cons_self)]
    cases hwrite : s.applyNsdpWrite t.tag t.value with
    | error fault =>
      rw [hwrite] at h
      cases h
    | ok s₁ =>
      rw [hwrite] at h
      exact applyConfigTlvs_of_applyTlvs (fun t ht => hauth t (List.mem_cons_of_mem _ ht)) h

/-- The salt on issue plays no part in a config TLV. -/
theorem applyNsdpWrite_lastSalt (s : VirtualSwitchState) (salt : Option Bytes) (tag : ℕ)
    (value : Bytes) :
    { s with nsdpLastSalt := salt }.applyNsdpWrite tag value =
      (s.applyNsdpWrite tag value).map fun s' => { s' with nsdpLastSalt := salt } := by
  have hbind : ∀ {α : Type} (o : Option α) (fault : NsdpFault) (f g : α → VirtualSwitchState),
      (∀ a, f a = ({ g a with nsdpLastSalt := salt } : VirtualSwitchState)) →
      (do
        let a ← orFault fault o
        Except.ok (f a)) = (do
        let a ← orFault fault o
        Except.ok (g a)).map fun s' : VirtualSwitchState => { s' with nsdpLastSalt := salt } := by
    intro α o fault f g h
    cases o with
    | none => rfl
    | some a => exact congrArg Except.ok (h a)
  have hite : ∀ (c : Prop) [Decidable c] (a b a' b' : VirtualSwitchState),
      a = { a' with nsdpLastSalt := salt } → b = { b' with nsdpLastSalt := salt } →
      (if c then Except.ok a else Except.ok b) = (if c then Except.ok a' else
        (Except.ok b' : Except NsdpFault VirtualSwitchState)).map fun s' =>
          { s' with nsdpLastSalt := salt } := by
    intro c _ a b a' b' ha hb
    split
    · exact congrArg Except.ok ha
    · exact congrArg Except.ok hb
  unfold applyNsdpWrite
  by_cases hpvid : tag = Tag.portPvid
  · rw [if_pos hpvid, if_pos hpvid]
    by_cases hlen : value.length < 3
    · rw [if_pos hlen, if_pos hlen]
      rfl
    · rw [if_neg hlen, if_neg hlen]
      rfl
  rw [if_neg hpvid, if_neg hpvid]
  by_cases hmembers : tag = Tag.vlanMembers
  · rw [if_pos hmembers, if_pos hmembers]
    exact hbind _ _ _ _ fun _ => rfl
  rw [if_neg hmembers, if_neg hmembers]
  by_cases hdestroy : tag = Tag.vlanDestroy
  · rw [if_pos hdestroy, if_pos hdestroy]
    by_cases hlen : value.length < 2
    · rw [if_pos hlen, if_pos hlen]
      rfl
    · rw [if_neg hlen, if_neg hlen]
      exact hite _ _ _ _ _ rfl rfl
  rw [if_neg hdestroy, if_neg hdestroy]
  by_cases hname : tag = Tag.portName
  · rw [if_pos hname, if_pos hname]
    cases value with
    | nil => rfl
    | cons port text => rfl
  rw [if_neg hname, if_neg hname]
  by_cases haddress : tag = Tag.ipAddress
  · rw [if_pos haddress, if_pos haddress]
    exact hbind _ _ _ _ fun _ => rfl
  rw [if_neg haddress, if_neg haddress]
  by_cases hnetmask : tag = Tag.netmask
  · rw [if_pos hnetmask, if_pos hnetmask]
    exact hbind _ _ _ _ fun _ => rfl
  rw [if_neg hnetmask, if_neg hnetmask]
  by_cases hgateway : tag = Tag.gateway
  · rw [if_pos hgateway, if_pos hgateway]
    exact hbind _ _ _ _ fun _ => rfl
  rw [if_neg hgateway, if_neg hgateway]
  by_cases hdhcp : tag = Tag.dhcpMode
  · rw [if_pos hdhcp, if_pos hdhcp]
    rfl
  rw [if_neg hdhcp, if_neg hdhcp]
  rfl

theorem applyTlvs_lastSalt (salt : Option Bytes) : ∀ (tlvs : List TLVEntry)
    (s : VirtualSwitchState), { s with nsdpLastSalt := salt }.applyTlvs tlvs =
      (s.applyTlvs tlvs).map fun s' => { s' with nsdpLastSalt := salt }
  | [], s => rfl
  | t :: ts, s => by
    rw [applyTlvs_cons, applyTlvs_cons, applyNsdpWrite_lastSalt]
    cases s.applyNsdpWrite t.tag t.value with
    | error fault => rfl
    | ok s₁ => exact applyTlvs_lastSalt salt ts s₁

end NetgearSwitch.Virtual.VirtualSwitchState

namespace NetgearSwitch.Nsdp

open BigEndian DatagramNet Virtual VirtualSwitchState

/-! ## §4 The handshake -/

/-- The scheme a switch advertises. -/
def advertisedScheme (s : VirtualSwitchState) : AuthScheme :=
  if s.nsdpAuthVersion = encpassV2 then .v2 else .v1

/-- The bytes of the value that proves the password. -/
def proofLength (s : VirtualSwitchState) : ℕ :=
  if s.nsdpAuthVersion = encpassV2 then 8 else s.nsdpPassword.length

/-- The bytes of the write request: the proof of the password stands before the TLVs. -/
def writeSize (s : VirtualSwitchState) (tlvs : List TLVEntry) : ℕ :=
  headerSize + (4 + proofLength s + (tlvs.map fun t => 4 + t.value.length).sum) + 4

/-- The write request either scheme sends, `auth` being what proves the password. -/
def writeRequest (client : UdpNsdpClient) (auth : TLVEntry) (tlvs : List TLVEntry) :
    NSDPPacket where
  op := .writeRequest
  clientMac := client.clientMac
  serverMac := broadcastMac
  sequence := client.sequence
  tlvs := auth :: tlvs

namespace World.Connected

variable {urandom : ℕ → Bytes} {network : ℕ → Delivery} {w w' : World VirtualNsdpFace}
  {s s' : VirtualSwitchState}

/-- The client finds the scheme out, or knows it. -/
theorem resolveScheme (h : w.Connected urandom network s)
    (hversion : s.nsdpAuthVersion = encpassV1 ∨ s.nsdpAuthVersion = encpassV2)
    (hscheme : w.client.authScheme = .auto ∨ w.client.authScheme = advertisedScheme s)
    (hname : w.client.authScheme = .auto → AsciiName s) :
    ∃ w', w.resolveScheme (virtualEnvironment urandom network) =
        (w', .ok (decide (s.nsdpAuthVersion = encpassV2))) ∧ w'.Connected urandom network s := by
  have hne : encpassV1 ≠ encpassV2 := by decide
  unfold World.resolveScheme
  rcases hauto : w.client.authScheme with _ | _ | _
  · obtain ⟨name, hserved⟩ := asciiEncode_servedName (hname hauto)
    obtain ⟨value, hvalue, hlength, hv2⟩ : ∃ value, packInt 4 s.nsdpAuthVersion = some value ∧
        value.length = 4 ∧ encpassIsV2 value = decide (s.nsdpAuthVersion = encpassV2) := by
      rcases hversion with hv | hv
      · rw [hv]
        exact ⟨[0, 0, 0, 1], by decide, rfl, by decide⟩
      · rw [hv]
        exact ⟨[0, 0, 0, 0x10], by decide, rfl, by decide⟩
    obtain ⟨w', resp, hread, htlvs, _, hconnected, _⟩ := h.read (by decide) (by decide) (by decide)
      (nsdpTlvs_encpass hserved hvalue _)
      (by
        intro r hr
        rw [List.mem_singleton.mp hr]
        exact ⟨(by decide : Tag.authV2Encpass < 0xFFFF), by rw [hlength]; decide⟩)
      (by simp [hlength])
    have hfirst : firstTlvValue resp Tag.authV2Encpass = some value := by
      rw [firstTlvValue, htlvs]
      rfl
    dsimp only
    rw [hread]
    dsimp only
    rw [hfirst, Option.getD_some, hv2]
    exact ⟨_, rfl, hconnected.withClient _⟩
  · have hv1 : s.nsdpAuthVersion ≠ encpassV2 := by
      intro hv2
      rw [hauto, advertisedScheme, if_pos hv2] at hscheme
      simp at hscheme
    rw [decide_eq_false hv1]
    exact ⟨w, rfl, h⟩
  · have hv2 : s.nsdpAuthVersion = encpassV2 := by
      by_contra hv1
      rw [hauto, advertisedScheme, if_neg hv1] at hscheme
      simp at hscheme
    rw [decide_eq_true hv2]
    exact ⟨w, rfl, h⟩

/-- A v1 request carries the password itself. -/
theorem buildWrite_v1
    (hscheme : w.resolveScheme (virtualEnvironment urandom network) = (w', .ok false))
    {password : Text} {enc : Bytes} (henc : encodePasswordV1 password = some enc)
    (tlvs : List TLVEntry) :
    w.buildWrite (virtualEnvironment urandom network) tlvs password =
      (w'.nextSeq, .ok (writeRequest w'.nextSeq.client ⟨Tag.password, enc⟩ tlvs)) := by
  unfold World.buildWrite
  rw [hscheme]
  dsimp only
  rw [buildWriteRequest, henc]
  rfl

/-- A v2 request carries the token for a salt the switch has just issued. -/
theorem buildWrite_v2
    (hscheme : w.resolveScheme (virtualEnvironment urandom network) = (w', .ok true))
    (hw' : w'.Connected urandom network s) (hname : AsciiName s)
    (hsalts : ∀ i, (urandom i).length = 4) (hmac : s.nsdpMac.length = 6)
    (hascii : ∀ c ∈ s.nsdpPassword, c.toNat < 128) (tlvs : List TLVEntry) :
    ∃ (w₁ : World VirtualNsdpFace) (salt token : Bytes),
      authV2Password s.nsdpPassword s.nsdpMac salt = .ok token ∧
      w.buildWrite (virtualEnvironment urandom network) tlvs s.nsdpPassword =
        (w₁.nextSeq, .ok (writeRequest w₁.nextSeq.client ⟨Tag.authV2Password, token⟩ tlvs)) ∧
      w₁.Connected urandom network { s with nsdpLastSalt := some salt } := by
  let salt := urandom w'.net.server.taken
  obtain ⟨name, hserved⟩ := asciiEncode_servedName hname
  obtain ⟨token, htoken⟩ := exists_token hascii hmac (hsalts w'.net.server.taken)
  obtain ⟨w₁, resp, hread, htlvs, hserver, hconnected, _⟩ := hw'.read (by decide) (by decide)
    (by decide) (nsdpTlvs_salt hserved salt)
    (by
      intro r hr
      rw [List.mem_singleton.mp hr]
      exact ⟨(by decide : Tag.authV2Salt < 0xFFFF), by rw [hsalts]; decide⟩)
    (by simp [salt, hsalts])
  have hfirst : firstTlvValue resp Tag.authV2Salt = some salt := by
    rw [firstTlvValue, htlvs]
    rfl
  refine ⟨w₁, salt, token, htoken, ?_, hconnected⟩
  unfold World.buildWrite
  rw [hscheme]
  dsimp only
  rw [hread]
  dsimp only
  rw [hfirst, hserver, rawField_of_length hmac]
  dsimp only
  rw [htoken]
  rfl

/-- The last exchange: the switch applies the TLVs and the client is told so. -/
theorem write_of_build {w₁ : World VirtualNsdpFace} {s₁ s₂ : VirtualSwitchState}
    {tlvs : List TLVEntry} {password : Text} {auth : TLVEntry}
    (hbuild : w.buildWrite (virtualEnvironment urandom network) tlvs password =
      (w₁.nextSeq, .ok (writeRequest w₁.nextSeq.client auth tlvs)))
    (hw₁ : w₁.Connected urandom network s₁) (htags : ∀ t ∈ auth :: tlvs, t.tag < 0xFFFF)
    (hsize : (writeRequest w₁.nextSeq.client auth tlvs).size ≤ 4096 + 4)
    (hanswer : ∀ salt, ∀ req : NSDPPacket, req.op = .writeRequest → req.tlvs = auth :: tlvs →
      s₁.answerPacket salt req =
        (s₂, .ok (some { s₁.responseTo .writeResponse req with result := resultSuccess }))) :
    ∃ w' resp, w.write (virtualEnvironment urandom network) tlvs password = (w', .ok resp) ∧
      w'.Connected urandom network s₂ := by
  let req := writeRequest w₁.nextSeq.client auth tlvs
  let resp : NSDPPacket :=
    { s₁.responseTo .writeResponse req.onWire with result := resultSuccess }
  have hsum : ((auth :: tlvs).map fun t => 4 + t.value.length).sum ≤ 4096 := by
    have : headerSize + ((auth :: tlvs).map fun t => 4 + t.value.length).sum + 4 ≤ 4096 + 4 := hsize
    omega
  have hreq : req.onWire.Representable := by
    refine representable_onWire (by decide : (0 : ℕ) < 2 ^ 16) (by decide : (0 : ℕ) < 2 ^ 16)
      w₁.sequence_nextSeq_lt fun t ht => ⟨htags t ht, ?_⟩
    have hle : 4 + t.value.length ≤ ((auth :: tlvs).map fun t => 4 + t.value.length).sum :=
      List.le_sum_of_mem (List.mem_map_of_mem (f := fun t : TLVEntry => 4 + t.value.length) ht)
    omega
  have hresp : resp.onWire.Representable :=
    representable_onWire (by decide : (0 : ℕ) < 2 ^ 16) (by decide : (0 : ℕ) < 2 ^ 16)
      w₁.sequence_nextSeq_lt fun t ht => absurd ht List.not_mem_nil
  obtain ⟨w', taken, hexchange, hconnected, _⟩ := hw₁.nextSeq.exchange hreq hsize hresp
    (by decide : headerSize + 0 + 4 ≤ 4096 + 4) (hanswer _ req.onWire rfl rfl) .writeResponse
  refine ⟨w'.accept taken req resp.onWire, resp.onWire, ?_, hconnected.accept _ _ _⟩
  unfold World.write
  rw [hbuild]
  dsimp only
  rw [hexchange]
  dsimp only
  have hop : ¬ resp.onWire.op ≠ .writeResponse := not_not_intro rfl
  exact (if_neg hop).trans rfl

end World.Connected

/-- What a write needs in order to reach the switch and be accepted: a client that detects the
scheme or was given the right one, and a switch in a state to answer it. -/
structure World.Accepts (urandom : ℕ → Bytes) (w : World VirtualNsdpFace)
    (s : VirtualSwitchState) : Prop where
  salts : ∀ i, (urandom i).length = 4
  version : s.nsdpAuthVersion = encpassV1 ∨ s.nsdpAuthVersion = encpassV2
  scheme : w.client.authScheme = .auto ∨ w.client.authScheme = advertisedScheme s
  password : ∀ c ∈ s.nsdpPassword, c.toNat < 128
  /-- The face names its model before it answers anything else. -/
  name : w.client.authScheme ≠ .v1 → AsciiName s
  mac : s.nsdpAuthVersion = encpassV2 → s.nsdpMac.length = 6
  unlocked : s.nsdpAuthVersion = encpassV2 → s.nsdpAuthFailures ≤ v2SilenceAt

/-- An accepted write: its TLVs are applied once each and in order, and the client is told so. -/
theorem World.Connected.write {urandom : ℕ → Bytes} {network : ℕ → Delivery}
    {w : World VirtualNsdpFace} {s s' : VirtualSwitchState} (h : w.Connected urandom network s)
    (haccepts : w.Accepts urandom s) {tlvs : List TLVEntry}
    (htags : ∀ t ∈ tlvs, t.tag < Tag.endOfMark ∧ t.tag ≠ Tag.password ∧ t.tag ≠ Tag.authV2Password)
    (hs' : s.applyTlvs tlvs = .ok s') (hsize : writeSize s tlvs ≤ 4096 + 4) :
    ∃ w' resp s'', w.write (virtualEnvironment urandom network) tlvs s.nsdpPassword =
        (w', .ok resp) ∧ w'.Connected urandom network s'' ∧
      ((s.nsdpAuthVersion = encpassV1 ∧ s'' = s') ∨ (s.nsdpAuthVersion = encpassV2 ∧
        ∃ salt, s'' = { s' with nsdpLastSalt := some salt, nsdpAuthFailures := 0 })) := by
  have hne : encpassV1 ≠ encpassV2 := by decide
  obtain ⟨w₀, hresolve, hconnected⟩ := h.resolveScheme haccepts.version haccepts.scheme fun hauto =>
    haccepts.name (by simp [hauto])
  rcases haccepts.version with hv1 | hv2
  · have hnot : s.nsdpAuthVersion ≠ encpassV2 := hv1 ▸ hne
    rw [decide_eq_false hnot] at hresolve
    obtain ⟨enc, henc⟩ := exists_encodePasswordV1 haccepts.password
    have happly := applyConfigTlvs_of_applyTlvs (fun t ht => (htags t ht).2.1) hs'
    obtain ⟨w', resp, hwrite, hdone⟩ := World.Connected.write_of_build
      (World.Connected.buildWrite_v1 hresolve henc tlvs) hconnected
      (List.forall_mem_cons.mpr
        ⟨(by decide : Tag.password < Tag.endOfMark), fun t ht => (htags t ht).1⟩)
      (by
        rw [writeSize, proofLength, if_neg hnot, ← length_encodePasswordV1 henc] at hsize
        exact hsize)
      (fun salt req hop hreq => answerPacket_of_writeV1 hop hnot
        (writeResponseV1_of_apply henc happly hreq))
    exact ⟨w', resp, s', hwrite, hdone, Or.inl ⟨hv1, rfl⟩⟩
  · rw [decide_eq_true hv2] at hresolve
    have hread : w.client.authScheme ≠ .v1 := by
      intro hv1
      have hscheme := haccepts.scheme
      rw [hv1, advertisedScheme, if_pos hv2] at hscheme
      simp at hscheme
    obtain ⟨w₁, salt, token, htoken, hbuild, hconnected₁⟩ := World.Connected.buildWrite_v2 hresolve
      hconnected (haccepts.name hread) haccepts.salts (haccepts.mac hv2) haccepts.password tlvs
    have hissued : { s with nsdpLastSalt := some salt }.applyTlvs tlvs =
        .ok { s' with nsdpLastSalt := some salt } := by
      rw [applyTlvs_lastSalt, hs']
      rfl
    have happly := applyConfigTlvs_of_applyTlvs (fun t ht => (htags t ht).2.2) hissued
    obtain ⟨w', resp, hwrite, hdone⟩ := World.Connected.write_of_build hbuild hconnected₁
      (List.forall_mem_cons.mpr
        ⟨(by decide : Tag.authV2Password < Tag.endOfMark), fun t ht => (htags t ht).1⟩)
      (by
        have hlength : token.length = 8 := length_authV2Password htoken
        rw [writeSize, proofLength, if_pos hv2, ← hlength] at hsize
        exact hsize)
      (fun _ req hop hreq => answerPacket_of_writeV2 hop hv2
        (writeResponseV2_of_apply (s := { s with nsdpLastSalt := some salt })
          (haccepts.unlocked hv2) rfl htoken happly hreq))
    exact ⟨w', resp, _, hwrite, hdone, Or.inr ⟨hv2, salt, rfl⟩⟩

/-- **The handshake completes.**  A client that has the password, and either detects the scheme or
was given the right one, has its TLVs applied once each and in order, and is told so; a v2 switch
has then forgotten its failures.  A model name only stands in the way of a client that reads. -/
theorem World.write_completes {urandom : ℕ → Bytes} {network : ℕ → Delivery}
    {w : World VirtualNsdpFace} {s : VirtualSwitchState} (h : w.Connected urandom network s)
    (hsalts : ∀ i, (urandom i).length = 4)
    (hversion : s.nsdpAuthVersion = encpassV1 ∨ s.nsdpAuthVersion = encpassV2)
    (hscheme : w.client.authScheme = .auto ∨ w.client.authScheme = advertisedScheme s)
    (hpassword : ∀ c ∈ s.nsdpPassword, c.toNat < 128)
    (hname : w.client.authScheme ≠ .v1 → AsciiName s)
    (hmac : s.nsdpAuthVersion = encpassV2 → s.nsdpMac.length = 6)
    (hunlocked : s.nsdpAuthVersion = encpassV2 → s.nsdpAuthFailures ≤ v2SilenceAt)
    {tlvs : List TLVEntry}
    (htags : ∀ t ∈ tlvs, t.tag < Tag.endOfMark ∧ t.tag ≠ Tag.password ∧ t.tag ≠ Tag.authV2Password)
    (hvalues : ∀ t ∈ tlvs, s.configTlvFault t = none) (hsize : writeSize s tlvs ≤ 4096) :
    ∃ w' resp s', w.write (virtualEnvironment urandom network) tlvs s.nsdpPassword =
        (w', .ok resp) ∧ s.applyTlvs tlvs = .ok s' ∧
      ((s.nsdpAuthVersion = encpassV1 ∧ w'.net.server.state = s') ∨
        (s.nsdpAuthVersion = encpassV2 ∧ ∃ salt, w'.net.server.state =
          { s' with nsdpLastSalt := some salt, nsdpAuthFailures := 0 })) := by
  obtain ⟨s', hs'⟩ := exists_applyTlvs hvalues
  obtain ⟨w', resp, s'', hwrite, hdone, hstate⟩ := h.write
    ⟨hsalts, hversion, hscheme, hpassword, hname, hmac, hunlocked⟩ htags hs' (by omega)
  refine ⟨w', resp, s', hwrite, hs', ?_⟩
  rwa [hdone.state]

/-- A new client before a switch whose replies are all prompt. -/
def freshWorld (s : VirtualSwitchState) : World VirtualNsdpFace :=
  World.start { clientMac := [0, 0, 0, 0, 0, 1] } { state := s }

theorem connected_freshWorld (s : VirtualSwitchState) :
    (freshWorld s).Connected (fun _ => [1, 2, 3, 4]) promptReplies s :=
  ⟨fun _ => rfl, rfl, rfl⟩

/-- A PVID write to a v2 switch. -/
theorem World.write_completes_pvid :
    ∃ w' resp s', (freshWorld freshV2Switch).write
        (virtualEnvironment (fun _ => [1, 2, 3, 4]) promptReplies)
        [⟨Tag.portPvid, [1, 0, 5]⟩] freshV2Switch.nsdpPassword = (w', .ok resp) ∧
      freshV2Switch.applyTlvs [⟨Tag.portPvid, [1, 0, 5]⟩] = .ok s' ∧
      ((freshV2Switch.nsdpAuthVersion = encpassV1 ∧ w'.net.server.state = s') ∨
        (freshV2Switch.nsdpAuthVersion = encpassV2 ∧ ∃ salt, w'.net.server.state =
          { s' with nsdpLastSalt := some salt, nsdpAuthFailures := 0 })) :=
  World.write_completes (connected_freshWorld _) (fun _ => rfl) (Or.inr rfl) (Or.inl rfl) (by decide)
    (fun _ => by unfold AsciiName; decide) (fun _ => rfl) (fun _ => by decide) (by decide)
    (by decide) (by decide)

/-- A v1 switch with a model name that is not ASCII. -/
def accentedSwitch : VirtualSwitchState := { plusSwitch with modelName := ['é'] }

/-- Its client never learns the scheme, and the write is lost. -/
theorem World.write_of_modelName :
    (freshWorld accentedSwitch).Connected (fun _ => [1, 2, 3, 4]) promptReplies accentedSwitch ∧
      accentedSwitch.nsdpAuthVersion = encpassV1 ∧
      (∀ c ∈ accentedSwitch.nsdpPassword, c.toNat < 128) ∧
      accentedSwitch.configTlvFault ⟨Tag.portPvid, [1, 0, 5]⟩ = none ∧
      ((freshWorld accentedSwitch).write
        (virtualEnvironment (fun _ => [1, 2, 3, 4]) promptReplies) [⟨Tag.portPvid, [1, 0, 5]⟩]
        accentedSwitch.nsdpPassword).2 = .error .nsdp :=
  ⟨connected_freshWorld _, rfl, by decide, by decide, by decide +kernel⟩

end NetgearSwitch.Nsdp
