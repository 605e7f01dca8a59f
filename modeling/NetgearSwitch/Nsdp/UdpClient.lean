import NetgearSwitch.Lib.DatagramNet
import NetgearSwitch.Virtual.NsdpFace

/-!
# The NSDP client over UDP

`UdpNsdpClient` of `transport/sync/nsdp_udp.py` in a network that loses, delays and duplicates
the switch's replies.  Every exchange binds the same client port and takes the first datagram
that arrives, so a late reply to one request can meet the next.  The client checks the op of a
response, and the result of a write, but never the sequence number.

The world keeps on record which datagrams the client took and which responses it accepted.
The record decides nothing; it is what the results are about.
-/

namespace NetgearSwitch.Nsdp

open DatagramNet

/-! ## §1 The client and its world -/

/-- `auth_scheme`: fixed, or still to be detected. -/
inductive AuthScheme
  | auto
  | v1
  | v2
  deriving DecidableEq, Repr

structure UdpNsdpClient where
  clientMac : Bytes
  sequence : ℕ := 0
  authScheme : AuthScheme := .auto

/-- `_BROADCAST_MAC`. -/
def broadcastMac : Bytes := List.replicate 6 0

/-- A datagram the client took, the exchange it took it in and the op it was waiting for. -/
structure Taken where
  exchange : ℕ
  awaited : Op
  datagram : Datagram

/-- A response that `read` or `write` returned. -/
structure Accepted where
  taken : Taken
  request : NSDPPacket
  response : NSDPPacket

/-- The switch, as the client meets it: how it answers a datagram, and what the network does
with each exchange. -/
structure Environment (σ : Type) where
  handle : σ → Bytes → σ × Option Bytes
  network : ℕ → Delivery

structure World (σ : Type) where
  client : UdpNsdpClient
  net : Net σ
  taken : List Taken := []
  accepted : List Accepted := []

namespace World

variable {σ : Type}

/-- A client that has not sent anything yet. -/
def start (client : UdpNsdpClient) (switch : σ) : World σ where
  client := client
  net := .fresh switch

/-- `_next_seq`. -/
def nextSeq (w : World σ) : World σ :=
  { w with client := { w.client with sequence := (w.client.sequence + 1) % 0x10000 } }

/-- Put an accepted response on record. -/
def accept (w : World σ) (taken : Taken) (request response : NSDPPacket) : World σ :=
  { w with accepted := w.accepted ++ [⟨taken, request, response⟩] }

variable (env : Environment σ)

/-- `_exchange`: send the request, take the first datagram, decode its first 4096 bytes. -/
def exchange (awaited : Op) (request : NSDPPacket) (w : World σ) :
    World σ × Except LibError (Taken × NSDPPacket) :=
  match request.encode with
  | none => (w, .error .structError)
  | some bytes =>
    match w.net.exchange env.handle (env.network w.net.exchanges) bytes with
    | (net, none) => ({ w with net := net }, .error .nsdp)  -- timed out
    | (net, some datagram) =>
      let taken : Taken := ⟨w.net.exchanges, awaited, datagram⟩
      let w := { w with net := net, taken := w.taken ++ [taken] }
      match NSDPPacket.decode (datagram.payload.take 4096) with
      | .error _ => (w, .error .nsdp)
      | .ok resp => (w, .ok (taken, resp))

/-! ## §2 Reading and writing -/

/-- `read`. -/
def read (tags : List ℕ) (w₀ : World σ) : World σ × Except LibError NSDPPacket :=
  let w := w₀.nextSeq
  let req := buildReadRequest w.client.clientMac broadcastMac w.client.sequence tags
  match w.exchange env .readResponse req with
  | (w', .error e) => (w', .error e)
  | (w', .ok (taken, resp)) =>
    if resp.op ≠ .readResponse then (w', .error .nsdp)
    else (w'.accept taken req resp, .ok resp)

/-- `_resolve_scheme`: is it v2?  Detected once, then kept. -/
def resolveScheme (w : World σ) : World σ × Except LibError Bool :=
  match w.client.authScheme with
  | .v1 => (w, .ok false)
  | .v2 => (w, .ok true)
  | .auto =>
    match w.read env [Tag.authV2Encpass] with
    | (w', .error e) => (w', .error e)
    | (w', .ok resp) =>
      let v2 := encpassIsV2 ((firstTlvValue resp Tag.authV2Encpass).getD [])
      ({ w' with client := { w'.client with authScheme := if v2 then .v2 else .v1 } }, .ok v2)

/-- `_build_write`: for v2 the switch is asked for a fresh salt first. -/
def buildWrite (tlvs : List TLVEntry) (password : Text) (w : World σ) :
    World σ × Except LibError NSDPPacket :=
  match w.resolveScheme env with
  | (w, .error e) => (w, .error e)
  | (w, .ok true) =>
    match w.read env [Tag.authV2Salt] with
    | (w, .error e) => (w, .error e)
    | (w, .ok saltResp) =>
      match firstTlvValue saltResp Tag.authV2Salt with
      | none => (w, .error .nsdp)
      | some salt =>
        match authV2Password password saltResp.serverMac salt with
        | .error e => (w, .error e)
        | .ok token =>
          let w := w.nextSeq
          (w, .ok (buildWriteRequestV2 w.client.clientMac broadcastMac w.client.sequence tlvs
            token))
  | (w, .ok false) =>
    let w := w.nextSeq
    (w, buildWriteRequest w.client.clientMac broadcastMac w.client.sequence password tlvs)

/-- `write`. -/
def write (tlvs : List TLVEntry) (password : Text) (w : World σ) :
    World σ × Except LibError NSDPPacket :=
  match w.buildWrite env tlvs password with
  | (w, .error e) => (w, .error e)
  | (w, .ok req) =>
    match w.exchange env .writeResponse req with
    | (w, .error e) => (w, .error e)
    | (w, .ok (taken, resp)) =>
      if resp.op ≠ .writeResponse then (w, .error .nsdp)
      else match checkResult resp with
        | .error e => (w, .error e)
        | .ok () => (w.accept taken req resp, .ok resp)

/-- A call the client's user makes. -/
inductive Call
  | read (tags : List ℕ)
  | write (tlvs : List TLVEntry) (password : Text)

/-- Make one call, whatever it returns or raises. -/
def call (w : World σ) : Call → World σ × Except LibError NSDPPacket
  | .read tags => w.read env tags
  | .write tlvs password => w.write env tlvs password

/-- Make the calls one after the other. -/
def run (calls : List Call) (w : World σ) : World σ :=
  calls.foldl (fun w c => (w.call env c).1) w

end World

/-! ## §3 What an accepted response answers -/

/-- A switch that answers a packet with a packet of the same sequence number. -/
def Environment.Echoes {σ : Type} (env : Environment σ) : Prop :=
  ∀ s s' p data reply, NSDPPacket.encode p = some data → env.handle s data = (s', some reply) →
    ∃ resp, NSDPPacket.encode resp = some reply ∧ resp.sequence = p.sequence

/-- Would the client return this datagram's packet: does it decode, has it the awaited op, and
does a write report success? -/
def Taken.Acceptable (t : Taken) : Prop :=
  ∃ resp, NSDPPacket.decode (t.datagram.payload.take 4096) = .ok resp ∧ resp.op = t.awaited ∧
    (t.awaited = .writeResponse → resp.result = resultSuccess)

/-- The switch emitted this datagram in the very exchange the client took it in. -/
def Taken.Fresh (t : Taken) : Prop := t.datagram.origin = t.exchange

/-- The response is the switch's answer to the request the client had just sent. -/
def Accepted.AnswersRequest (a : Accepted) : Prop :=
  a.taken.Fresh ∧ a.response.sequence = a.request.sequence

/-- What holds of the record at all times: the client accepted exactly the acceptable
datagrams it took, and a fresh one carries the sequence number of its request. -/
structure World.Recorded {σ : Type} (w : World σ) : Prop where
  acceptable : ∀ a ∈ w.accepted, a.taken ∈ w.taken ∧ a.taken.Acceptable
  accepted : ∀ t ∈ w.taken, t.Acceptable → ∃ a ∈ w.accepted, a.taken = t
  sequence : ∀ a ∈ w.accepted, a.taken.Fresh → a.response.sequence = a.request.sequence

namespace World

variable {σ : Type} {env : Environment σ}

/-- What an exchange does: nothing is taken, or one datagram is, and the packet it decodes to
carries the sequence of the request if the datagram is fresh. -/
theorem exchange_cases (hecho : env.Echoes) {awaited : Op} {req : NSDPPacket} {w w' : World σ}
    {r : Except LibError (Taken × NSDPPacket)} (h : w.exchange env awaited req = (w', r)) :
    w'.accepted = w.accepted ∧
      ((∃ e, r = .error e ∧ w'.taken = w.taken) ∨
        (∃ e t, r = .error e ∧ w'.taken = w.taken ++ [t] ∧ ¬ t.Acceptable) ∨
        ∃ t resp, r = .ok (t, resp) ∧ w'.taken = w.taken ++ [t] ∧ t.awaited = awaited ∧
          NSDPPacket.decode (t.datagram.payload.take 4096) = .ok resp ∧
          (t.Fresh → resp.sequence = req.sequence)) := by
  unfold exchange at h
  split at h
  · cases h
    exact ⟨rfl, Or.inl ⟨_, rfl, rfl⟩⟩
  · next bytes hbytes =>
    split at h
    · cases h
      exact ⟨rfl, Or.inl ⟨_, rfl, rfl⟩⟩
    · next net datagram hnet =>
      dsimp only at h
      split at h
      · next e hdec =>
        cases h
        refine ⟨rfl, Or.inr (Or.inl ⟨_, _, rfl, rfl, ?_⟩)⟩
        rintro ⟨resp, hresp, _⟩
        rw [hdec] at hresp
        cases hresp
      · next resp hdec =>
        cases h
        refine ⟨rfl, Or.inr (Or.inr ⟨_, resp, rfl, rfl, rfl, hdec, fun hfresh => ?_⟩)⟩
        have hreply := Net.handle_of_exchange env.handle (congrArg Prod.snd hnet) hfresh
        obtain ⟨resp', hencode, hsequence⟩ :=
          hecho w.net.server (env.handle w.net.server bytes).1 req bytes datagram.payload hbytes
            (Prod.ext rfl hreply)
        rw [NSDPPacket.sequence_of_decode_take hencode hdec, hsequence]

/-- An exchange that gives no accepted response keeps the record. -/
theorem Recorded.of_not_acceptable {w w' : World σ} (h : w.Recorded)
    (haccepted : w'.accepted = w.accepted)
    (htaken : w'.taken = w.taken ∨ ∃ t, w'.taken = w.taken ++ [t] ∧ ¬ t.Acceptable) :
    w'.Recorded := by
  have hsub : ∀ t ∈ w.taken, t ∈ w'.taken := by
    intro t ht
    rcases htaken with heq | ⟨_, heq, _⟩
    · rwa [heq]
    · rw [heq]
      exact List.mem_append_left _ ht
  refine ⟨?_, ?_, ?_⟩
  · intro a ha
    rw [haccepted] at ha
    obtain ⟨hmem, hacc⟩ := h.acceptable a ha
    exact ⟨hsub _ hmem, hacc⟩
  · intro t ht hacc
    rw [haccepted]
    rcases htaken with heq | ⟨t', heq, hnot⟩
    · rw [heq] at ht
      exact h.accepted t ht hacc
    · rw [heq] at ht
      rcases List.mem_append.mp ht with ht | ht
      · exact h.accepted t ht hacc
      · rw [List.mem_singleton.mp ht] at hacc
        exact absurd hacc hnot
  · rw [haccepted]
    exact h.sequence

/-- An accepted response keeps the record. -/
theorem Recorded.accept {w w' : World σ} {t : Taken} {req resp : NSDPPacket} (h : w.Recorded)
    (haccepted : w'.accepted = w.accepted) (htaken : w'.taken = w.taken ++ [t])
    (hacc : t.Acceptable) (hseq : t.Fresh → resp.sequence = req.sequence) :
    (w'.accept t req resp).Recorded := by
  have hrecord : (w'.accept t req resp).accepted = w.accepted ++ [⟨t, req, resp⟩] := by
    rw [World.accept, haccepted]
  have htaken' : (w'.accept t req resp).taken = w.taken ++ [t] := htaken
  refine ⟨?_, ?_, ?_⟩
  · rw [hrecord, htaken']
    intro a ha
    rcases List.mem_append.mp ha with ha | ha
    · obtain ⟨hmem, hok⟩ := h.acceptable a ha
      exact ⟨List.mem_append_left _ hmem, hok⟩
    · rw [List.mem_singleton.mp ha]
      exact ⟨List.mem_append_right _ (List.mem_singleton_self t), hacc⟩
  · rw [hrecord, htaken']
    intro t' ht' hacc'
    rcases List.mem_append.mp ht' with ht' | ht'
    · obtain ⟨a, ha, rfl⟩ := h.accepted t' ht' hacc'
      exact ⟨a, List.mem_append_left _ ha, rfl⟩
    · exact ⟨_, List.mem_append_right _ (List.mem_singleton_self _), (List.mem_singleton.mp ht').symm⟩
  · rw [hrecord]
    intro a ha
    rcases List.mem_append.mp ha with ha | ha
    · exact h.sequence a ha
    · rw [List.mem_singleton.mp ha]
      exact hseq

/-- The client's own bookkeeping is not on the record. -/
theorem Recorded.of_client {w : World σ} (h : w.Recorded) (client : UdpNsdpClient) :
    World.Recorded { w with client := client } :=
  ⟨h.acceptable, h.accepted, h.sequence⟩

theorem Recorded.exchange_error (hecho : env.Echoes) {awaited : Op} {req : NSDPPacket}
    {w w' : World σ} {e : LibError} (h : w.Recorded)
    (hx : w.exchange env awaited req = (w', .error e)) : w'.Recorded := by
  obtain ⟨haccepted, ⟨_, _, htaken⟩ | ⟨_, t, _, htaken, hnot⟩ | ⟨_, _, heq, _⟩⟩ :=
    exchange_cases hecho hx
  · exact h.of_not_acceptable haccepted (Or.inl htaken)
  · exact h.of_not_acceptable haccepted (Or.inr ⟨t, htaken, hnot⟩)
  · cases heq

/-- Both outcomes of an exchange that decoded: its packet is refused, or put on record. -/
theorem Recorded.exchange_ok (hecho : env.Echoes) {awaited : Op} {req resp : NSDPPacket}
    {w w' : World σ} {t : Taken} (h : w.Recorded)
    (hx : w.exchange env awaited req = (w', .ok (t, resp))) :
    (¬ (resp.op = awaited ∧ (awaited = .writeResponse → resp.result = resultSuccess)) →
        w'.Recorded) ∧
      (resp.op = awaited → (awaited = .writeResponse → resp.result = resultSuccess) →
        (w'.accept t req resp).Recorded) := by
  obtain ⟨haccepted, ⟨_, heq, _⟩ | ⟨_, _, heq, _⟩ | ⟨t', resp', heq, htaken, hawaited, hdec, hseq⟩⟩ :=
    exchange_cases hecho hx
  · cases heq
  · cases heq
  · cases heq
    subst hawaited
    constructor
    · intro hrefused
      refine h.of_not_acceptable haccepted (Or.inr ⟨t, htaken, ?_⟩)
      rintro ⟨resp'', hdec', hop, hresult⟩
      rw [hdec] at hdec'
      cases hdec'
      exact hrefused ⟨hop, hresult⟩
    · intro hop hresult
      exact h.accept haccepted htaken ⟨resp, hdec, hop, hresult⟩ hseq

theorem Recorded.read (hecho : env.Echoes) {w : World σ} (h : w.Recorded) (tags : List ℕ) :
    (w.read env tags).1.Recorded := by
  unfold World.read
  dsimp only
  have h₁ : w.nextSeq.Recorded := h.of_client _
  split
  · next w' e hx => exact h₁.exchange_error hecho hx
  · next w' t resp hx =>
    obtain ⟨hrefused, hok⟩ := h₁.exchange_ok hecho hx
    split_ifs with hop
    · exact hrefused fun hand => hop hand.1
    · exact hok (not_not.mp hop) (fun heq => by cases heq)

theorem Recorded.resolveScheme (hecho : env.Echoes) {w : World σ} (h : w.Recorded) :
    (w.resolveScheme env).1.Recorded := by
  unfold World.resolveScheme
  split
  · exact h
  · exact h
  · have hread := h.read hecho [Tag.authV2Encpass]
    split
    · next w' e heq =>
      rw [heq] at hread
      exact hread
    · next w' resp heq =>
      rw [heq] at hread
      exact hread.of_client _

theorem Recorded.buildWrite (hecho : env.Echoes) {w : World σ} (h : w.Recorded)
    (tlvs : List TLVEntry) (password : Text) : (w.buildWrite env tlvs password).1.Recorded := by
  have hscheme := h.resolveScheme hecho
  unfold World.buildWrite
  split
  · next w₁ e heq =>
    rw [heq] at hscheme
    exact hscheme
  · next w₁ heq =>
    rw [heq] at hscheme
    have hread := Recorded.read hecho hscheme [Tag.authV2Salt]
    split
    · next w₂ e heq₂ =>
      rw [heq₂] at hread
      exact hread
    · next w₂ resp heq₂ =>
      rw [heq₂] at hread
      split
      · exact hread
      · split
        · exact hread
        · exact hread.of_client _
  · next w₁ heq =>
    rw [heq] at hscheme
    exact hscheme.of_client _

theorem Recorded.write (hecho : env.Echoes) {w : World σ} (h : w.Recorded)
    (tlvs : List TLVEntry) (password : Text) : (w.write env tlvs password).1.Recorded := by
  have hbuild := h.buildWrite hecho tlvs password
  unfold World.write
  split
  · next w₁ e heq =>
    rw [heq] at hbuild
    exact hbuild
  · next w₁ req heq =>
    rw [heq] at hbuild
    split
    · next w₂ e hx => exact Recorded.exchange_error hecho hbuild hx
    · next w₂ t resp hx =>
      obtain ⟨hrefused, hok⟩ := Recorded.exchange_ok hecho hbuild hx
      split_ifs with hop
      · exact hrefused fun hand => hop hand.1
      · by_cases hresult : resp.result = resultSuccess
        · simp only [checkResult, hresult, if_true]
          exact hok (not_not.mp hop) fun _ => hresult
        · simp only [checkResult, hresult, if_false]
          exact hrefused fun hand => hresult (hand.2 rfl)

/-- The record holds after any run of calls. -/
theorem Recorded.run (hecho : env.Echoes) : ∀ (calls : List Call) {w : World σ}, w.Recorded →
    (w.run env calls).Recorded
  | [], _, h => h
  | .read tags :: calls, _, h => Recorded.run hecho calls (h.read hecho tags)
  | .write tlvs password :: calls, _, h => Recorded.run hecho calls (h.write hecho tlvs password)

theorem recorded_start (client : UdpNsdpClient) (switch : σ) :
    (start client switch).Recorded :=
  ⟨fun _ ha => absurd ha List.not_mem_nil, fun _ ht => absurd ht List.not_mem_nil,
    fun _ ha => absurd ha List.not_mem_nil⟩

/-- A call that returns puts the response it returns on record, and it is the last one. -/
theorem accepted_of_call {c : Call} {w w' : World σ} {resp : NSDPPacket}
    (h : w.call env c = (w', .ok resp)) :
    ∃ a, w'.accepted.getLast? = some a ∧ a.response = resp := by
  cases c with
  | read tags =>
    simp only [call, read] at h
    split at h
    · cases h
    · split_ifs at h
      · cases h
      · cases h
        exact ⟨_, List.getLast?_concat, rfl⟩
  | write tlvs password =>
    simp only [call, write] at h
    split at h
    · cases h
    · split at h
      · cases h
      · split_ifs at h
        · cases h
        · split at h
          · cases h
          · cases h
            exact ⟨_, List.getLast?_concat, rfl⟩

/-! ## §4 Stale replies -/

/-- Over any run, the accepted responses are the answers to their own requests exactly when
every acceptable datagram that was delivered was a fresh one: nothing but the network keeps a
late reply from being taken for the answer. -/
theorem answersRequest_iff_fresh (hecho : env.Echoes) (client : UdpNsdpClient) (switch : σ)
    (calls : List Call) :
    (∀ a ∈ ((start client switch).run env calls).accepted, a.AnswersRequest) ↔
      ∀ t ∈ ((start client switch).run env calls).taken, t.Acceptable → t.Fresh := by
  have hrecorded := Recorded.run hecho calls (recorded_start client switch)
  constructor
  · intro hanswers t ht hacc
    obtain ⟨a, ha, rfl⟩ := hrecorded.accepted t ht hacc
    exact (hanswers a ha).1
  · intro hfresh a ha
    obtain ⟨hmem, hacc⟩ := hrecorded.acceptable a ha
    have hown := hfresh _ hmem hacc
    exact ⟨hown, hrecorded.sequence a ha hown⟩

end World

open Virtual

/-- The virtual switch behind a network. -/
def virtualEnvironment (urandom : ℕ → Bytes) (network : ℕ → Delivery) :
    Environment VirtualNsdpFace where
  handle := VirtualNsdpFace.serve urandom
  network := network

theorem virtualEnvironment_echoes (urandom : ℕ → Bytes) (network : ℕ → Delivery) :
    (virtualEnvironment urandom network).Echoes := by
  intro f f' p data reply hencode hserve
  have hserve : f.serve urandom data = (f', some reply) := hserve
  unfold VirtualNsdpFace.serve at hserve
  split_ifs at hserve with hserving
  · split at hserve
    · cases hserve
    · cases hserve
    · cases hserve
    · next s' resp hhandle =>
      obtain ⟨req, hreq, hseq⟩ := VirtualSwitchState.sequence_handleNsdp hhandle
      split at hserve
      · next bytes hbytes =>
        cases hserve
        exact ⟨resp, hbytes, hseq.trans (NSDPPacket.sequence_of_decode_take hencode hreq)⟩
      · cases hserve
  · cases hserve

/-- A GS105PE with two VLANs. -/
def plusSwitch : VirtualSwitchState where
  modelKey := .gs105pe
  vlans := .ofList [(1, { name := [], member := {1, 2}, untagged := {1, 2} }),
    (5, { name := [], member := {1}, untagged := ∅ })]
  pvids := .ofList [(1, 1), (2, 1)]

/-- Two PVID writes: port 1 to VLAN 5, port 2 to VLAN 5. -/
def twoPvidWrites : List World.Call :=
  [.write [⟨Tag.portPvid, [1, 0, 5]⟩] "password".toList,
    .write [⟨Tag.portPvid, [2, 0, 5]⟩] "password".toList]

/-- A v1 client makes the two writes over a network. -/
def runTwoPvidWrites (network : ℕ → Delivery) : World VirtualNsdpFace :=
  (World.start { clientMac := [0, 0, 0, 0, 0, 1], authScheme := .v1 } { state := plusSwitch }).run
    (virtualEnvironment (fun _ => [1, 2, 3, 4]) network) twoPvidWrites

/-- Every request gets through and every reply is prompt. -/
def promptReplies (k : ℕ) : Delivery := ⟨true, some k⟩

theorem World.answersRequest_iff_fresh_prompt :
    (runTwoPvidWrites promptReplies).accepted.length = 2 ∧
      ∀ a ∈ (runTwoPvidWrites promptReplies).accepted, a.AnswersRequest := by
  have h : ((runTwoPvidWrites promptReplies).taken.map fun t => (t.exchange, t.datagram.origin)) =
      [(0, 0), (1, 1)] := by decide +kernel
  refine ⟨by decide +kernel, (World.answersRequest_iff_fresh
    (virtualEnvironment_echoes (fun _ => [1, 2, 3, 4]) promptReplies) _ _ _).mpr fun t ht _ => ?_⟩
  have hmem : (t.exchange, t.datagram.origin) ∈ [(0, 0), (1, 1)] :=
    h ▸ List.mem_map_of_mem ht
  simp only [List.mem_cons, Prod.mk.injEq, List.not_mem_nil, or_false] at hmem
  rcases hmem with ⟨he, ho⟩ | ⟨he, ho⟩
  · exact ho.trans he.symm
  · exact ho.trans he.symm

/-- The first write gets through but its reply is late; the second write is lost, and the late
reply arrives in its place. -/
def lateReply : ℕ → Delivery
  | 0 => ⟨true, none⟩
  | _ => ⟨false, some 0⟩

/-- The second write returns normally on the first one's reply, though the switch never saw
it. -/
theorem World.lateReply_accepted :
    (¬ ∀ a ∈ (runTwoPvidWrites lateReply).accepted, a.AnswersRequest) ∧
      (runTwoPvidWrites lateReply).net.server.state.pvids.get? 2 = some 1 := by
  have h : ((runTwoPvidWrites lateReply).accepted.map fun a =>
      (a.response.sequence, a.request.sequence)) = [(1, 2)] := by decide +kernel
  refine ⟨fun hanswers => ?_, by decide +kernel⟩
  obtain ⟨a, ha, heq⟩ := List.mem_map.mp (h ▸ List.mem_singleton_self (1, 2))
  have hsequence := (hanswers a ha).2
  rw [Prod.mk.injEq] at heq
  omega

end NetgearSwitch.Nsdp
