import NetgearSwitch.Lib.BigEndian

/-!
# The NSDP wire codec

The packet codec of `protocols/nsdp/protocol.py`: a 32-byte header (`>BB H H 2s 6s 6s I 4s
4s`), TLV entries (`>HH` tag and length, then the value bytes), and the end marker
`FFFF 0000`.  Encoding fails as `struct.error` when a number does not fit its field;
decoding fails with the `ValueError` the source raises.

`Tag` is an `IntEnum` in the source and an uncatalogued tag stays a plain integer; the two
compare by their integer, so a tag is its number here.
-/

namespace NetgearSwitch.Nsdp

open BigEndian

/-! ## §1 Operations and tags -/

/-- NSDP operation codes (header byte 1). -/
inductive Op
  | readRequest
  | readResponse
  | writeRequest
  | writeResponse
  deriving DecidableEq, Repr

/-- The operation's byte on the wire. -/
def Op.code : Op → ℕ
  | .readRequest => 1
  | .readResponse => 2
  | .writeRequest => 3
  | .writeResponse => 4

/-- `Op(op_raw)`: the operation of a wire byte, if it names one. -/
def Op.ofCode : ℕ → Option Op
  | 1 => some .readRequest
  | 2 => some .readResponse
  | 3 => some .writeRequest
  | 4 => some .writeResponse
  | _ => none

@[simp] theorem Op.ofCode_code (op : Op) : Op.ofCode op.code = some op := by
  cases op <;> rfl

namespace Tag

def startOfMark : ℕ := 0x0000
def endOfMark : ℕ := 0xFFFF
def model : ℕ := 0x0001
def hostname : ℕ := 0x0003
def mac : ℕ := 0x0004
def ipAddress : ℕ := 0x0006
def netmask : ℕ := 0x0007
def gateway : ℕ := 0x0008
def dhcpMode : ℕ := 0x000B
def firmwareVer1 : ℕ := 0x000D
def portCount : ℕ := 0x6000
def serialNumber : ℕ := 0x7800
def password : ℕ := 0x000A
def authV2Encpass : ℕ := 0x0014
def authV2Salt : ℕ := 0x0017
def authV2Password : ℕ := 0x001A
def portStatus : ℕ := 0x0C00
def portStatistics : ℕ := 0x1000
def portName : ℕ := 0xB000
def vlanEngine : ℕ := 0x2000
def vlanMembers : ℕ := 0x2800
def vlanDestroy : ℕ := 0x2C00
def portPvid : ℕ := 0x3000
def qosEngine : ℕ := 0x3400
def broadcastFiltering : ℕ := 0x5400
def portMirroring : ℕ := 0x5C00
def igmpSnooping : ℕ := 0x6800
def loopDetection : ℕ := 0x9000

/-- The tags the `Tag` enumeration names; any other number stays a plain integer. -/
def catalogued : List ℕ :=
  [startOfMark, endOfMark, model, hostname, mac, 0x0005, ipAddress, netmask, gateway, dhcpMode,
    firmwareVer1, 0x000E, portCount, serialNumber, password, authV2Encpass, authV2Salt,
    authV2Password, portStatus, portStatistics, portName, 0x2000, 0x2400, vlanMembers,
    vlanDestroy, 0x6400, portPvid, qosEngine, 0x3800, 0x4C00, 0x5000, broadcastFiltering, 0x5800,
    portMirroring, igmpSnooping, 0x6C00, 0x7000, 0x8000, loopDetection, 0x000C, 0x0013, 0x0400]

end Tag

/-! ## §2 TLV entries -/

/-- Why a byte string is not an NSDP packet: the `ValueError`s of the two decoders. -/
inductive DecodeError
  | shortTlv
  | truncatedTlv (declared present : ℕ)
  | shortPacket
  | badSignature (signature : Bytes)
  | badOp (code : ℕ)
  deriving DecidableEq, Repr

/-- One NSDP TLV: a 2-byte tag, 2-byte length, then that many value bytes. -/
structure TLVEntry where
  tag : ℕ
  value : Bytes := []
  deriving DecidableEq, Repr

/-- `struct.pack(">HH", tag, len(value)) + value`. -/
def TLVEntry.encode (t : TLVEntry) : Option Bytes := do
  let tag ← pack 2 t.tag
  let length ← pack 2 t.value.length
  some (tag ++ length ++ t.value)

/-- The leading TLV of `data` and how many bytes it takes. -/
def TLVEntry.decode (data : Bytes) : Except DecodeError (TLVEntry × ℕ) :=
  if data.length < 4 then .error .shortTlv
  else
    let length := ofBytes (slice data 2 4)
    if data.length < 4 + length then .error (.truncatedTlv length (data.length - 4))
    else .ok (⟨ofBytes (slice data 0 2), slice data 4 (4 + length)⟩, 4 + length)

/-- Every decoded TLV takes at least its own header, so the cursor always moves. -/
theorem TLVEntry.four_le_of_decode {data : Bytes} {entry : TLVEntry} {consumed : ℕ}
    (h : TLVEntry.decode data = .ok (entry, consumed)) : 4 ≤ consumed := by
  unfold TLVEntry.decode at h
  split at h
  · cases h
  · dsimp only at h
    split at h
    · cases h
    · cases h
      omega

theorem TLVEntry.encode_eq_some {t : TLVEntry} {bytes : Bytes} :
    t.encode = some bytes ↔ t.tag < 256 ^ 2 ∧ t.value.length < 256 ^ 2 ∧
      toBytes 2 t.tag ++ toBytes 2 t.value.length ++ t.value = bytes := by
  simp only [encode, Option.bind_eq_bind, Option.bind_eq_some_iff, pack_eq_some,
    Option.some.injEq]
  constructor
  · rintro ⟨tag, ⟨htag, rfl⟩, length, ⟨hlen, rfl⟩, rfl⟩
    exact ⟨htag, hlen, rfl⟩
  · rintro ⟨htag, hlen, rfl⟩
    exact ⟨_, ⟨htag, rfl⟩, _, ⟨hlen, rfl⟩, rfl⟩

/-- A TLV at the front of a byte string decodes to itself, whatever follows. -/
theorem TLVEntry.decode_encode_append {t : TLVEntry} {bytes : Bytes} (rest : Bytes)
    (h : t.encode = some bytes) :
    TLVEntry.decode (bytes ++ rest) = .ok (t, bytes.length) := by
  obtain ⟨htag, hlen, rfl⟩ := encode_eq_some.mp h
  have hvalue : slice (t.value ++ rest) 0 (4 + t.value.length - 2 - 2) = t.value :=
    slice_append_left (by omega)
  unfold decode
  simp only [List.append_assoc, slice_append_right, slice_append_left, length_toBytes,
    Nat.le_refl, Nat.reduceLeDiff, Nat.sub_self, Nat.reduceSub, ofBytes_toBytes _ _ htag,
    ofBytes_toBytes _ _ hlen, hvalue]
  rw [if_neg (by simp; omega), if_neg (by simp; omega)]
  simp
  omega

/-! ## §3 Packets -/

/-- A full NSDP datagram: a fixed header plus a list of TLVs.  `errorAttr` is the TLV tag
the switch blamed for `result`. -/
structure NSDPPacket where
  op : Op
  clientMac : Bytes
  serverMac : Bytes := List.replicate 6 0
  sequence : ℕ := 0
  result : ℕ := 0
  tlvs : List TLVEntry := []
  errorAttr : ℕ := 0
  deriving DecidableEq, Repr

def headerSize : ℕ := 32

/-- `b"NSDP"`. -/
def nsdpSignature : Bytes := [0x4E, 0x53, 0x44, 0x50]

/-- `struct.pack(">HH", 0xFFFF, 0x0000)`. -/
def endMarker : Bytes := [0xFF, 0xFF, 0x00, 0x00]

/-- The encodings of the TLVs, one after the other. -/
def encodeTlvs : List TLVEntry → Option Bytes
  | [] => some []
  | t :: ts => do
    let head ← t.encode
    let tail ← encodeTlvs ts
    some (head ++ tail)

def NSDPPacket.encode (p : NSDPPacket) : Option Bytes := do
  let result ← pack 2 p.result
  let errorAttr ← pack 2 p.errorAttr
  let sequence ← pack 4 p.sequence
  let header := [0x01] ++ [UInt8.ofNat p.op.code] ++ result ++ errorAttr ++ [0, 0] ++
    rawField 6 p.clientMac ++ rawField 6 p.serverMac ++ sequence ++ nsdpSignature ++
    [0, 0, 0, 0]
  let body ← encodeTlvs p.tlvs
  some (header ++ body ++ endMarker)

/-- The loop of `NSDPPacket.decode`: collect TLVs from `offset` until the end-of-mark tag or
until fewer than four bytes are left. -/
def decodeTlvs (data : Bytes) (offset : ℕ) : Except DecodeError (List TLVEntry) :=
  if offset + 4 ≤ data.length then
    match _h : TLVEntry.decode (data.drop offset) with
    | .error e => .error e
    | .ok (entry, consumed) =>
      if entry.tag = Tag.endOfMark then .ok []
      else
        match decodeTlvs data (offset + consumed) with
        | .error e => .error e
        | .ok tlvs => .ok (entry :: tlvs)
  else .ok []
termination_by data.length - offset
decreasing_by
  have := TLVEntry.four_le_of_decode _h
  omega

def NSDPPacket.decode (data : Bytes) : Except DecodeError NSDPPacket :=
  if data.length < headerSize then .error .shortPacket
  else if slice data 24 28 ≠ nsdpSignature then .error (.badSignature (slice data 24 28))
  else
    match decodeTlvs data headerSize with
    | .error e => .error e
    | .ok tlvs =>
      -- the op byte is only looked up once the TLVs have been read
      match Op.ofCode (ofBytes (slice data 1 2)) with
      | none => .error (.badOp (ofBytes (slice data 1 2)))
      | some op => .ok
        { op := op
          clientMac := slice data 8 14
          serverMac := slice data 14 20
          sequence := ofBytes (slice data 20 24)
          result := ofBytes (slice data 2 4)
          tlvs := tlvs
          errorAttr := ofBytes (slice data 4 6) }

/-! ## §4 Decoding inverts encoding

The induction is on the TLV list with the bytes already consumed generalised: every entry
says how long it is, so a value holding the end-marker bytes is skipped whole. -/

/-- What `struct.pack` can represent without loss, with the one tag value that ends a
packet left out. -/
structure NSDPPacket.Representable (p : NSDPPacket) : Prop where
  clientMac : p.clientMac.length = 6
  serverMac : p.serverMac.length = 6
  result : p.result < 2 ^ 16
  errorAttr : p.errorAttr < 2 ^ 16
  sequence : p.sequence < 2 ^ 32
  tlvs : ∀ t ∈ p.tlvs, t.tag < 0xFFFF ∧ t.value.length < 65536

theorem TLVEntry.encode_isSome {t : TLVEntry} (htag : t.tag < 0xFFFF)
    (hlen : t.value.length < 65536) : ∃ bytes, t.encode = some bytes :=
  ⟨_, encode_eq_some.mpr ⟨by omega, by omega, rfl⟩⟩

theorem encodeTlvs_isSome : ∀ {ts : List TLVEntry},
    (∀ t ∈ ts, t.tag < 0xFFFF ∧ t.value.length < 65536) → ∃ bytes, encodeTlvs ts = some bytes
  | [], _ => ⟨[], rfl⟩
  | t :: ts, h => by
    obtain ⟨ht, hl⟩ := h t List.mem_cons_self
    obtain ⟨head, hhead⟩ := TLVEntry.encode_isSome ht hl
    obtain ⟨tail, htail⟩ := encodeTlvs_isSome fun t' ht' => h t' (List.mem_cons_of_mem _ ht')
    exact ⟨head ++ tail, by simp [encodeTlvs, hhead, htail]⟩

/-- Where the loop stops: at an end-of-mark TLV that is all there, or before a rest too short
for a TLV header. -/
def BodyEnd (tail : Bytes) : Prop :=
  tail.length < 4 ∨
    ∃ (t : TLVEntry) (mark rest : Bytes),
      t.tag = Tag.endOfMark ∧ t.encode = some mark ∧ tail = mark ++ rest

/-- `body` is the encodings of `tlvs`, none of which has the end-of-mark tag, and then its end. -/
def BodyOf (body : Bytes) (tlvs : List TLVEntry) : Prop :=
  ∃ front tail, body = front ++ tail ∧ encodeTlvs tlvs = some front ∧
    (∀ t ∈ tlvs, t.tag ≠ Tag.endOfMark) ∧ BodyEnd tail

/-- The loop stops at the end of the body with nothing collected. -/
theorem decodeTlvs_bodyEnd (pre : Bytes) {tail : Bytes} (htail : BodyEnd tail) :
    decodeTlvs (pre ++ tail) pre.length = .ok [] := by
  rcases htail with hshort | ⟨t, mark, rest, hmark, henc, rfl⟩
  · rw [decodeTlvs, if_neg (by simp; omega)]
  · have hdec := TLVEntry.decode_encode_append rest henc
    have hlen := TLVEntry.four_le_of_decode hdec
    rw [decodeTlvs, if_pos (by simp; omega), List.drop_left]
    split
    · simp_all
    · simp_all

/-- From a cursor standing before encoded TLVs and the end of the body, the loop collects
exactly those TLVs. -/
theorem decodeTlvs_body : ∀ {ts : List TLVEntry} {front tail : Bytes} (pre : Bytes),
    encodeTlvs ts = some front → (∀ t ∈ ts, t.tag ≠ Tag.endOfMark) → BodyEnd tail →
    decodeTlvs (pre ++ (front ++ tail)) pre.length = .ok ts
  | [], front, tail, pre, hfront, _, htail => by
    cases hfront
    exact decodeTlvs_bodyEnd pre htail
  | t :: ts, front, tail, pre, hfront, htags, htail => by
    simp only [encodeTlvs, Option.bind_eq_bind, Option.bind_eq_some_iff, Option.some.injEq]
      at hfront
    obtain ⟨head, hhead, rest, hrest, rfl⟩ := hfront
    have hdec := TLVEntry.decode_encode_append (rest ++ tail) hhead
    have hlen := TLVEntry.four_le_of_decode hdec
    have htag : t.tag ≠ Tag.endOfMark := htags t List.mem_cons_self
    have ih := decodeTlvs_body (pre ++ head) hrest
      (fun t' ht' => htags t' (List.mem_cons_of_mem _ ht')) htail
    rw [List.length_append, List.append_assoc] at ih
    rw [List.append_assoc, decodeTlvs, if_pos (by simp; omega), List.drop_left]
    split
    · simp_all
    · simp_all

theorem bodyEnd_endMarker : BodyEnd endMarker :=
  Or.inr ⟨⟨Tag.endOfMark, []⟩, endMarker, [], rfl, by decide, rfl⟩

/-- The header `NSDPPacket.encode` writes, field by field. -/
def NSDPPacket.header (p : NSDPPacket) : Bytes :=
  [0x01] ++ [UInt8.ofNat p.op.code] ++ toBytes 2 p.result ++ toBytes 2 p.errorAttr ++ [0, 0] ++
    p.clientMac ++ p.serverMac ++ toBytes 4 p.sequence ++ nsdpSignature ++ [0, 0, 0, 0]

theorem NSDPPacket.encode_eq {p : NSDPPacket} (hp : p.Representable) {body : Bytes}
    (hbody : encodeTlvs p.tlvs = some body) :
    p.encode = some (p.header ++ (body ++ endMarker)) := by
  have hresult : p.result < 256 ^ 2 := hp.result
  have herror : p.errorAttr < 256 ^ 2 := hp.errorAttr
  have hseq : p.sequence < 256 ^ 4 := hp.sequence
  simp only [encode, pack_eq hresult, pack_eq herror, pack_eq hseq, hbody, header,
    rawField_of_length hp.clientMac, rawField_of_length hp.serverMac, Option.bind_eq_bind,
    Option.bind_some, List.append_assoc]

/-- What any byte string starting with a representable packet's header decodes to. -/
theorem NSDPPacket.decode_header {p : NSDPPacket} (hp : p.Representable) {rest : Bytes}
    {tlvs : List TLVEntry} (htlvs : decodeTlvs (p.header ++ rest) headerSize = .ok tlvs) :
    NSDPPacket.decode (p.header ++ rest) = .ok { p with tlvs := tlvs } := by
  have hresult : p.result < 256 ^ 2 := hp.result
  have herror : p.errorAttr < 256 ^ 2 := hp.errorAttr
  have hseq : p.sequence < 256 ^ 4 := hp.sequence
  have hop : ofBytes [UInt8.ofNat p.op.code] = p.op.code := by
    cases p.op <;> rfl
  have hlen : ¬ (p.header ++ rest).length < headerSize := by
    simp [header, hp.clientMac, hp.serverMac, nsdpSignature, headerSize]
    omega
  have hsig : nsdpSignature.length = 4 := rfl
  unfold decode
  rw [if_neg hlen, htlvs]
  simp only [header, List.append_assoc, slice_append_right, slice_append_left, length_toBytes,
    List.length_cons, List.length_nil, hp.clientMac, hp.serverMac, hsig, Nat.reduceLeDiff,
    Nat.reduceAdd, Nat.reduceSub, Nat.le_refl, Nat.sub_self, ofBytes_toBytes _ _ hresult,
    ofBytes_toBytes _ _ herror, ofBytes_toBytes _ _ hseq, hop, Op.ofCode_code, ne_eq,
    not_true_eq_false, if_false]

theorem NSDPPacket.Representable.encode_isSome {p : NSDPPacket} (hp : p.Representable) :
    ∃ data, p.encode = some data := by
  obtain ⟨body, hbody⟩ := encodeTlvs_isSome hp.tlvs
  exact ⟨_, encode_eq hp hbody⟩

/-- What an encoded packet decodes to is the packet. -/
theorem NSDPPacket.Representable.decode_of_encode {p : NSDPPacket} (hp : p.Representable)
    {data : Bytes} (h : p.encode = some data) : NSDPPacket.decode data = .ok p := by
  obtain ⟨body, hbody⟩ := encodeTlvs_isSome hp.tlvs
  have hlen : p.header.length = headerSize := by
    simp [header, hp.clientMac, hp.serverMac, nsdpSignature, headerSize]
  have hloop := decodeTlvs_body p.header hbody (fun t ht => (hp.tlvs t ht).1.ne) bodyEnd_endMarker
  rw [hlen] at hloop
  rw [encode_eq hp hbody, Option.some.injEq] at h
  rw [← h]
  exact decode_header hp hloop

/-- **The codec round trip.**  Every packet whose fields fit the header and whose tags stay
below the end-of-mark tag encodes, and decodes back to itself. -/
theorem NSDPPacket.decode_encode (p : NSDPPacket) (hclient : p.clientMac.length = 6)
    (hserver : p.serverMac.length = 6) (hresult : p.result < 2 ^ 16)
    (herror : p.errorAttr < 2 ^ 16) (hsequence : p.sequence < 2 ^ 32)
    (htlvs : ∀ t ∈ p.tlvs, t.tag < 0xFFFF ∧ t.value.length < 65536) :
    ∃ data, p.encode = some data ∧ NSDPPacket.decode data = .ok p := by
  have hp : p.Representable := ⟨hclient, hserver, hresult, herror, hsequence, htlvs⟩
  obtain ⟨data, hdata⟩ := hp.encode_isSome
  exact ⟨data, hdata, hp.decode_of_encode hdata⟩

/-- A write whose values hold the end marker's own bytes, with a repeated tag. -/
def markerInValue : NSDPPacket where
  op := .writeRequest
  clientMac := [0, 0, 0, 0, 0, 1]
  sequence := 0x10002
  tlvs := [⟨Tag.password, endMarker⟩, ⟨Tag.portPvid, [1, 0, 5]⟩, ⟨Tag.password, []⟩]

theorem NSDPPacket.decode_encode_markerInValue :
    ∃ data, markerInValue.encode = some data ∧ NSDPPacket.decode data = .ok markerInValue :=
  NSDPPacket.decode_encode markerInValue (by decide) (by decide) (by decide) (by decide)
    (by decide) (by decide)

/-! ## §5 The sequence number

It stands in the header, so cutting a datagram short loses the packet or leaves it alone. -/

theorem NSDPPacket.sequence_of_decode {data : Bytes} {p : NSDPPacket}
    (h : NSDPPacket.decode data = .ok p) :
    headerSize ≤ data.length ∧ p.sequence = ofBytes (slice data 20 24) := by
  unfold decode at h
  split at h
  · cases h
  · next hlen =>
    refine ⟨Nat.le_of_not_lt hlen, ?_⟩
    split at h
    · cases h
    · split at h
      · cases h
      · split at h
        · cases h
        · cases h
          rfl

theorem NSDPPacket.sequence_of_encode {data : Bytes} {p : NSDPPacket}
    (h : p.encode = some data) : ofBytes (slice data 20 24) = p.sequence := by
  simp only [encode, Option.bind_eq_bind, Option.bind_eq_some_iff, pack_eq_some,
    Option.some.injEq] at h
  obtain ⟨_, ⟨_, rfl⟩, _, ⟨_, rfl⟩, _, ⟨hseq, rfl⟩, body, _, rfl⟩ := h
  simp only [List.append_assoc, slice_append_right, slice_append_left, length_toBytes,
    length_rawField, List.length_cons, List.length_nil, Nat.reduceLeDiff, Nat.reduceAdd,
    Nat.reduceSub, Nat.le_refl, Nat.sub_self, ofBytes_toBytes _ _ hseq]

/-- What the first `k` bytes of an encoded packet decode to carries the packet's sequence. -/
theorem NSDPPacket.sequence_of_decode_take {data : Bytes} {p q : NSDPPacket} {k : ℕ}
    (h : p.encode = some data) (hq : NSDPPacket.decode (data.take k) = .ok q) :
    q.sequence = p.sequence := by
  obtain ⟨hlen, hseq⟩ := sequence_of_decode hq
  have hk : 24 ≤ k := by
    rw [List.length_take, headerSize] at hlen
    omega
  rw [hseq, slice_take hk]
  exact sequence_of_encode h

/-! ## §6 What the decoder accepts

A body is a run of complete TLVs up to its end: a complete TLV with the end-of-mark tag, or
fewer than four bytes.  The induction follows the decoder's own loop, with the bytes before the
cursor dropped. -/

/-- The datagrams `NSDPPacket.decode` is for. -/
structure WellFormedDatagram (data : Bytes) : Prop where
  header : headerSize ≤ data.length
  signature : slice data 24 28 = nsdpSignature
  op : ∃ op, Op.ofCode (ofBytes (slice data 1 2)) = some op
  body : ∃ tlvs, BodyOf (data.drop headerSize) tlvs

/-- A decoded TLV is the encoding it was read from, and that is all there. -/
theorem TLVEntry.encode_of_decode {data : Bytes} {t : TLVEntry} {consumed : ℕ}
    (h : TLVEntry.decode data = .ok (t, consumed)) :
    consumed ≤ data.length ∧ t.encode = some (data.take consumed) := by
  unfold TLVEntry.decode at h
  split at h
  · cases h
  · next hheader =>
    dsimp only at h
    split at h
    · cases h
    · next hlen =>
      cases h
      have htag : (slice data 0 2).length = 2 := length_slice (by omega)
      have hdeclared : (slice data 2 4).length = 2 := length_slice (by omega)
      have hvalue : (slice data 4 (4 + ofBytes (slice data 2 4))).length =
          ofBytes (slice data 2 4) := by
        rw [length_slice (by omega)]
        omega
      have htagLt := ofBytes_lt (slice data 0 2)
      have hlenLt := ofBytes_lt (slice data 2 4)
      have htagBytes := toBytes_ofBytes (slice data 0 2)
      have hlenBytes := toBytes_ofBytes (slice data 2 4)
      rw [htag] at htagLt htagBytes
      rw [hdeclared] at hlenLt hlenBytes
      refine ⟨by omega, encode_eq_some.mpr ⟨htagLt, ?_, ?_⟩⟩
      · rw [hvalue]
        exact hlenLt
      · rw [hvalue, htagBytes, hlenBytes, slice_append_slice data (by omega) (by omega),
          slice_append_slice data (by omega) (by omega), slice, List.drop_zero]

/-- What the loop collects is the body's TLVs. -/
theorem bodyOf_of_decodeTlvs {data : Bytes} {offset : ℕ} {tlvs : List TLVEntry}
    (h : decodeTlvs data offset = .ok tlvs) : BodyOf (data.drop offset) tlvs := by
  induction offset using decodeTlvs.induct data generalizing tlvs with
  | case1 offset hmore e hdec =>
    rw [decodeTlvs, if_pos hmore, hdec] at h
    cases h
  | case2 offset hmore entry consumed hdec hmark =>
    rw [decodeTlvs, if_pos hmore, hdec] at h
    simp only [hmark, if_true, Except.ok.injEq] at h
    subst h
    obtain ⟨hle, henc⟩ := TLVEntry.encode_of_decode hdec
    refine ⟨[], data.drop offset, rfl, rfl, by simp,
      Or.inr ⟨entry, _, (data.drop offset).drop consumed, hmark, henc, ?_⟩⟩
    exact (List.take_append_drop consumed _).symm
  | case3 offset hmore entry consumed hdec hmark e hrest =>
    rw [decodeTlvs, if_pos hmore, hdec] at h
    simp [hmark, hrest] at h
  | case4 offset hmore entry consumed hdec hmark rest hrest ih =>
    rw [decodeTlvs, if_pos hmore, hdec] at h
    simp only [hmark, if_false, hrest, Except.ok.injEq] at h
    subst h
    obtain ⟨hle, henc⟩ := TLVEntry.encode_of_decode hdec
    obtain ⟨front, tail, hbody, hfront, htags, hend⟩ := ih hrest
    refine ⟨(data.drop offset).take consumed ++ front, tail, ?_, ?_, ?_, hend⟩
    · rw [List.append_assoc, ← hbody, ← List.drop_drop]
      exact (List.take_append_drop consumed _).symm
    · simp [encodeTlvs, henc, hfront]
    · intro t ht
      rcases List.mem_cons.mp ht with rfl | ht
      · exact hmark
      · exact htags t ht
  | case5 offset hmore =>
    rw [decodeTlvs, if_neg hmore] at h
    cases h
    refine ⟨[], data.drop offset, rfl, rfl, by simp, Or.inl ?_⟩
    rw [List.length_drop]
    omega

/-- From a cursor before a body, the loop collects the body's TLVs. -/
theorem decodeTlvs_of_bodyOf {data : Bytes} {offset : ℕ} {tlvs : List TLVEntry}
    (hoffset : offset ≤ data.length) (h : BodyOf (data.drop offset) tlvs) :
    decodeTlvs data offset = .ok tlvs := by
  obtain ⟨front, tail, hbody, hfront, htags, hend⟩ := h
  have hloop := decodeTlvs_body (data.take offset) hfront htags hend
  rwa [← hbody, List.take_append_drop, List.length_take, Nat.min_eq_left hoffset] at hloop

/-- **The grammar of a datagram.**  Decoding raises on every other byte string; on a
well-formed one it answers a packet, and the encodings of the packet's TLVs are the body up to
its end, byte for byte. -/
theorem NSDPPacket.decode_accepts (data : Bytes) :
    ((∃ p, NSDPPacket.decode data = .ok p) ↔ WellFormedDatagram data) ∧
      ((∃ e, NSDPPacket.decode data = .error e) ↔ ¬ WellFormedDatagram data) ∧
      ∀ p, NSDPPacket.decode data = .ok p → BodyOf (data.drop headerSize) p.tlvs := by
  have hok : ∀ p, NSDPPacket.decode data = .ok p →
      WellFormedDatagram data ∧ BodyOf (data.drop headerSize) p.tlvs := by
    intro p h
    unfold NSDPPacket.decode at h
    split at h
    · cases h
    · next hlen =>
      split at h
      · cases h
      · next hsig =>
        split at h
        · cases h
        · next tlvs htlvs =>
          have hbody := bodyOf_of_decodeTlvs htlvs
          split at h
          · cases h
          · next op hop =>
            cases h
            exact ⟨⟨Nat.le_of_not_lt hlen, not_not.mp hsig, ⟨op, hop⟩, ⟨tlvs, hbody⟩⟩, hbody⟩
  have hwell : WellFormedDatagram data → ∃ p, NSDPPacket.decode data = .ok p := by
    rintro ⟨hlen, hsig, ⟨op, hop⟩, ⟨tlvs, hbody⟩⟩
    have htlvs := decodeTlvs_of_bodyOf hlen hbody
    unfold NSDPPacket.decode
    rw [if_neg (Nat.not_lt.mpr hlen), if_neg (not_not.mpr hsig), htlvs, hop]
    exact ⟨_, rfl⟩
  have hiff : (∃ p, NSDPPacket.decode data = .ok p) ↔ WellFormedDatagram data :=
    ⟨fun ⟨p, h⟩ => (hok p h).1, hwell⟩
  refine ⟨hiff, ?_, fun p h => (hok p h).2⟩
  rw [← hiff]
  cases NSDPPacket.decode data with
  | error e => simp
  | ok p => simp

/-! ## §7 Datagrams cut short

A datagram is received into a buffer, and what does not fit is lost.  Losing the end marker does
no harm; a packet cut any shorter decodes to its first TLVs, or not at all. -/

/-- The packet as it comes off the wire: a MAC address has six bytes there. -/
def NSDPPacket.onWire (p : NSDPPacket) : NSDPPacket :=
  { p with clientMac := rawField 6 p.clientMac, serverMac := rawField 6 p.serverMac }

theorem NSDPPacket.encode_onWire (p : NSDPPacket) : p.onWire.encode = p.encode := by
  have hfield : ∀ mac : Bytes, rawField 6 (rawField 6 mac) = rawField 6 mac :=
    fun mac => rawField_of_length (length_rawField 6 mac)
  simp only [encode, onWire, hfield]

/-- The bytes of a datagram. -/
def NSDPPacket.size (p : NSDPPacket) : ℕ :=
  headerSize + (p.tlvs.map fun t => 4 + t.value.length).sum + 4

theorem length_of_encodeTlvs : ∀ {ts : List TLVEntry} {body : Bytes}, encodeTlvs ts = some body →
    body.length = (ts.map fun t => 4 + t.value.length).sum
  | [], body, h => by
    cases h
    rfl
  | t :: ts, body, h => by
    simp only [encodeTlvs, Option.bind_eq_bind, Option.bind_eq_some_iff, Option.some.injEq] at h
    obtain ⟨head, hhead, tail, htail, rfl⟩ := h
    obtain ⟨_, _, rfl⟩ := TLVEntry.encode_eq_some.mp hhead
    have ih := length_of_encodeTlvs htail
    simp only [List.length_append, length_toBytes, ih, List.map_cons, List.sum_cons]

theorem bodyEnd_take_endMarker (k : ℕ) : BodyEnd (endMarker.take k) := by
  by_cases hk : k < 4
  · exact Or.inl ((List.length_take_le k endMarker).trans_lt hk)
  · rw [List.take_of_length_le (Nat.le_of_not_lt hk)]
    exact bodyEnd_endMarker

/-- Part of a TLV is no TLV. -/
theorem TLVEntry.decode_of_short {t : TLVEntry} {bytes rest : Bytes} (h : t.encode = some bytes)
    {k : ℕ} (hk : k < bytes.length) :
    ∃ e, TLVEntry.decode ((bytes ++ rest).take k) = .error e := by
  obtain ⟨_, hlen, rfl⟩ := encode_eq_some.mp h
  have hlength : ((toBytes 2 t.tag ++ toBytes 2 t.value.length ++ t.value ++ rest).take k).length =
      k := by
    rw [List.length_take, List.length_append]
    omega
  unfold decode
  rw [hlength]
  split
  · exact ⟨_, rfl⟩
  · next hfour =>
    have hdeclared : ofBytes (slice ((toBytes 2 t.tag ++ toBytes 2 t.value.length ++ t.value ++
        rest).take k) 2 4) = t.value.length := by
      rw [slice_take (by omega)]
      simp only [List.append_assoc, slice_append_right, slice_append_left, length_toBytes,
        Nat.le_refl, Nat.sub_self, Nat.reduceSub, ofBytes_toBytes _ _ hlen]
    simp only [List.length_append, length_toBytes] at hk
    dsimp only
    rw [hdeclared, if_pos (by omega)]
    exact ⟨_, rfl⟩

/-- How many of the TLVs with these sizes come whole through a buffer with `room` bytes for them:
all that fit, as long as less than a TLV's header is left over.  One that is cut in two spoils the
packet. -/
def tlvsThrough (room : ℕ) : List ℕ → Option ℕ
  | [] => some 0
  | size :: sizes =>
    if size ≤ room then (tlvsThrough (room - size) sizes).map (· + 1)
    else if room < 4 then some 0
    else none

theorem tlvsThrough_of_fits : ∀ {sizes : List ℕ} {room : ℕ}, sizes.sum ≤ room →
    tlvsThrough room sizes = some sizes.length
  | [], _, _ => rfl
  | size :: sizes, room, h => by
    rw [List.sum_cons] at h
    rw [tlvsThrough, if_pos (by omega), tlvsThrough_of_fits (by omega)]
    rfl

/-- The bytes a TLV takes. -/
def TLVEntry.size (t : TLVEntry) : ℕ := 4 + t.value.length

/-- From a cursor before encoded TLVs and the end marker, cut short, the loop collects the TLVs that
come through, and fails where one is cut. -/
theorem decodeTlvs_through : ∀ {ts : List TLVEntry} {front : Bytes} (pre : Bytes) (room : ℕ),
    encodeTlvs ts = some front → (∀ t ∈ ts, t.tag ≠ Tag.endOfMark) →
    match tlvsThrough room (ts.map TLVEntry.size) with
    | some k =>
      decodeTlvs (pre ++ (front ++ endMarker).take room) pre.length = .ok (ts.take k)
    | none => ∃ e, decodeTlvs (pre ++ (front ++ endMarker).take room) pre.length = .error e
  | [], front, pre, room, hfront, _ => by
    cases hfront
    exact decodeTlvs_bodyEnd pre (bodyEnd_take_endMarker room)
  | t :: ts, front, pre, room, hfront, htags => by
    simp only [encodeTlvs, Option.bind_eq_bind, Option.bind_eq_some_iff, Option.some.injEq]
      at hfront
    obtain ⟨head, hhead, tail, htail, rfl⟩ := hfront
    have hsize : head.length = t.size := by
      obtain ⟨_, _, rfl⟩ := TLVEntry.encode_eq_some.mp hhead
      simp only [List.length_append, length_toBytes, TLVEntry.size]
    rw [List.map_cons, tlvsThrough]
    by_cases hfits : t.size ≤ room
    · -- the first TLV comes through, and the cursor moves past it
      have hcut : (head ++ tail ++ endMarker).take room =
          head ++ (tail ++ endMarker).take (room - t.size) := by
        rw [List.append_assoc, List.take_append, List.take_of_length_le (by omega), hsize]
      have hstep : ∀ r : Except DecodeError (List TLVEntry),
          decodeTlvs (pre ++ head ++ (tail ++ endMarker).take (room - t.size))
            (pre ++ head).length = r →
          decodeTlvs (pre ++ (head ++ tail ++ endMarker).take room) pre.length =
            r.map (t :: ·) := by
        intro r hr
        have hdec := TLVEntry.decode_encode_append ((tail ++ endMarker).take (room - t.size)) hhead
        have hfour := TLVEntry.four_le_of_decode hdec
        rw [List.append_assoc, List.length_append] at hr
        rw [hcut, decodeTlvs, if_pos (by simp only [List.length_append]; omega), List.drop_left]
        split
        · next e he =>
          rw [hdec] at he
          cases he
        · next entry consumed hentry =>
          rw [hdec] at hentry
          cases hentry
          rw [if_neg (htags t List.mem_cons_self), hr]
          cases r <;> rfl
      have ih := decodeTlvs_through (pre ++ head) (room - t.size) htail
        fun t' ht' => htags t' (List.mem_cons_of_mem _ ht')
      rw [if_pos hfits]
      cases hthrough : tlvsThrough (room - t.size) (ts.map TLVEntry.size) with
      | none =>
        rw [hthrough] at ih
        obtain ⟨e, he⟩ := ih
        exact ⟨e, hstep _ he⟩
      | some k =>
        rw [hthrough] at ih
        exact hstep _ ih
    · rw [if_neg hfits]
      have hlength : ((head ++ tail ++ endMarker).take room).length = room := by
        rw [List.length_take, List.append_assoc, List.length_append]
        omega
      by_cases hshort : room < 4
      · rw [if_pos hshort]
        exact decodeTlvs_bodyEnd pre (Or.inl (by omega))
      · obtain ⟨e, he⟩ := @TLVEntry.decode_of_short t head (tail ++ endMarker) hhead room (by omega)
        rw [← List.append_assoc] at he
        rw [if_neg hshort]
        refine ⟨e, ?_⟩
        rw [decodeTlvs, if_pos (by rw [List.length_append]; omega), List.drop_left]
        split
        · next e' he' =>
          rw [he] at he'
          cases he'
          rfl
        · next hok =>
          rw [he] at hok
          cases hok

/-- A datagram whose TLVs are spoiled is no packet. -/
theorem NSDPPacket.decode_error {data : Bytes} {e : DecodeError}
    (h : decodeTlvs data headerSize = .error e) : ∃ e, NSDPPacket.decode data = .error e := by
  cases hdecode : NSDPPacket.decode data with
  | error e' => exact ⟨e', rfl⟩
  | ok q =>
    have hbody := (NSDPPacket.decode_accepts data).2.2 q hdecode
    have hlen := (sequence_of_decode hdecode).1
    rw [decodeTlvs_of_bodyOf hlen hbody] at h
    cases h

/-- A packet with a value too long for its length field is not sent. -/
theorem NSDPPacket.encode_eq_none {p : NSDPPacket} {t : TLVEntry} {ts : List TLVEntry}
    (htlvs : p.tlvs = t :: ts) (hlong : 65536 ≤ t.value.length) : p.encode = none := by
  have hnone : t.encode = none := by
    rw [← Option.not_isSome_iff_eq_none]
    intro hsome
    obtain ⟨bytes, hbytes⟩ := Option.isSome_iff_exists.mp hsome
    have hlen := (TLVEntry.encode_eq_some.mp hbytes).2.1
    omega
  have hbody : encodeTlvs p.tlvs = none := by
    rw [htlvs, encodeTlvs, hnone]
    rfl
  simp only [encode, hbody, Option.bind_eq_bind, Option.bind_none, Option.bind_fun_none]

/-- What a packet decodes to when it is received in a buffer of `n` bytes: the packet with the TLVs
that come through, or nothing where one is cut. -/
theorem NSDPPacket.decode_through {p : NSDPPacket} (hp : p.onWire.Representable) {n : ℕ}
    (hn : headerSize ≤ n) {data : Bytes} (hdata : p.encode = some data) :
    match tlvsThrough (n - headerSize) (p.tlvs.map TLVEntry.size) with
    | some k => NSDPPacket.decode (data.take n) = .ok { p.onWire with tlvs := p.tlvs.take k }
    | none => ∃ e, NSDPPacket.decode (data.take n) = .error e := by
  obtain ⟨body, hbody⟩ := encodeTlvs_isSome hp.tlvs
  have hheader : p.onWire.header.length = headerSize := by
    simp [header, hp.clientMac, hp.serverMac, nsdpSignature, headerSize]
  have hcut : data.take n = p.onWire.header ++ (body ++ endMarker).take (n - headerSize) := by
    have hwhole := hdata.symm.trans ((encode_onWire p).symm.trans (encode_eq hp hbody))
    rw [Option.some.inj hwhole, List.take_append, List.take_of_length_le (by omega), hheader]
  have hloop := decodeTlvs_through p.onWire.header (n - headerSize) hbody
    fun t ht => (hp.tlvs t ht).1.ne
  have htlvs : p.onWire.tlvs = p.tlvs := rfl
  rw [hheader, htlvs] at hloop
  rw [hcut]
  revert hloop
  cases tlvsThrough (n - headerSize) (p.tlvs.map TLVEntry.size) with
  | some k => exact fun hloop => decode_header hp hloop
  | none =>
    exact fun ⟨e, he⟩ => decode_error he

/-- A packet whose TLVs fit the buffer it is received in comes through whole. -/
theorem NSDPPacket.decode_taken {p : NSDPPacket} (hp : p.onWire.Representable) {n : ℕ}
    (hsize : p.size ≤ n + 4) :
    ∃ data, p.encode = some data ∧ NSDPPacket.decode (data.take n) = .ok p.onWire := by
  obtain ⟨data, hdata⟩ := hp.encode_isSome
  rw [encode_onWire] at hdata
  rw [size] at hsize
  have hthrough := decode_through hp (by omega : headerSize ≤ n) hdata
  rw [tlvsThrough_of_fits (by show (p.tlvs.map fun t => 4 + t.value.length).sum ≤ _; omega)] at hthrough
  dsimp only at hthrough
  rw [List.length_map, List.take_length] at hthrough
  exact ⟨data, hdata, hthrough⟩

/-- From a cursor before encoded TLVs and the end marker, cut short, the loop collects the first
of the TLVs. -/
theorem decodeTlvs_take : ∀ {ts : List TLVEntry} {front : Bytes} (pre : Bytes) {n : ℕ}
    {us : List TLVEntry}, encodeTlvs ts = some front →
    decodeTlvs ((pre ++ (front ++ endMarker)).take n) pre.length = .ok us → us <+: ts
  | [], front, pre, n, us, hfront, h => by
    cases hfront
    rw [decodeTlvs] at h
    split at h
    · next hmore =>
      have hn : pre.length + 4 ≤ n := hmore.trans (List.length_take_le _ _)
      have hrest : ((pre ++ ([] ++ endMarker)).take n).drop pre.length = endMarker := by
        rw [List.drop_take, List.drop_left, List.nil_append,
          List.take_of_length_le (by show 4 ≤ n - pre.length; omega)]
      have hmark : TLVEntry.decode endMarker = .ok (⟨Tag.endOfMark, []⟩, 4) := by decide
      rw [hrest, hmark] at h
      cases h
      exact List.nil_prefix
    · cases h
      exact List.nil_prefix
  | t :: ts, front, pre, n, us, hfront, h => by
    simp only [encodeTlvs, Option.bind_eq_bind, Option.bind_eq_some_iff, Option.some.injEq]
      at hfront
    obtain ⟨head, hhead, tail, htail, rfl⟩ := hfront
    rw [decodeTlvs] at h
    split at h
    · next hmore =>
      have hn : pre.length + 4 ≤ n := hmore.trans (List.length_take_le _ _)
      have hrest : ((pre ++ (head ++ tail ++ endMarker)).take n).drop pre.length =
          (head ++ (tail ++ endMarker)).take (n - pre.length) := by
        rw [List.drop_take, List.drop_left, List.append_assoc]
      rw [hrest] at h
      by_cases hk : head.length ≤ n - pre.length
      · rw [List.take_append, List.take_of_length_le hk, TLVEntry.decode_encode_append _ hhead] at h
        dsimp only at h
        split at h
        · cases h
          exact List.nil_prefix
        · have hfront : pre ++ (head ++ tail ++ endMarker) = pre ++ head ++ (tail ++ endMarker) := by
            simp only [List.append_assoc]
          rw [hfront, ← List.length_append] at h
          split at h
          · cases h
          · next vs hvs =>
            cases h
            exact List.prefix_cons_inj t |>.mpr (decodeTlvs_take (pre ++ head) htail hvs)
      · obtain ⟨e, he⟩ := @TLVEntry.decode_of_short t head (tail ++ endMarker) hhead _
          (Nat.lt_of_not_le hk)
        rw [he] at h
        cases h
    · cases h
      exact List.nil_prefix

/-- What a datagram cut short decodes to is a packet of the same kind, with the first of its
TLVs; those fit the buffer. -/
theorem NSDPPacket.decode_take {data : Bytes} {p q : NSDPPacket} {n : ℕ}
    (h : p.encode = some data) (hq : NSDPPacket.decode (data.take n) = .ok q) :
    q.op = p.op ∧ q.tlvs <+: p.tlvs ∧ q.size ≤ n + 4 := by
  obtain ⟨front, tail, hdrop, hfront, _, _⟩ := (NSDPPacket.decode_accepts (data.take n)).2.2 q hq
  have hsize : q.size ≤ n + 4 := by
    have hlen := congrArg List.length hdrop
    have hwhole := (sequence_of_decode hq).1
    rw [List.length_append, List.length_drop, length_of_encodeTlvs hfront] at hlen
    have htake := List.length_take_le n data
    rw [size]
    omega
  simp only [encode, Option.bind_eq_bind, Option.bind_eq_some_iff, pack_eq_some,
    Option.some.injEq] at h
  obtain ⟨_, ⟨_, rfl⟩, _, ⟨_, rfl⟩, _, ⟨_, rfl⟩, body, hbody, rfl⟩ := h
  let header := [0x01] ++ [UInt8.ofNat p.op.code] ++ toBytes 2 p.result ++ toBytes 2 p.errorAttr ++
    [0, 0] ++ rawField 6 p.clientMac ++ rawField 6 p.serverMac ++ toBytes 4 p.sequence ++
    nsdpSignature ++ [0, 0, 0, 0]
  have hheader : header.length = headerSize := by
    simp [header, nsdpSignature, headerSize]
  have hlong := (sequence_of_decode hq).1
  have hcode : ofBytes (slice ((header ++ body ++ endMarker).take n) 1 2) = p.op.code := by
    rw [slice_take (by rw [List.length_take, headerSize] at hlong; omega)]
    have hop : ofBytes [UInt8.ofNat p.op.code] = p.op.code := by
      cases p.op <;> rfl
    simp only [header, List.append_assoc, slice_append_right, slice_append_left, List.length_cons,
      List.length_nil, Nat.reduceAdd, Nat.sub_self, Nat.reduceSub, Nat.le_refl, hop]
  unfold decode at hq
  split at hq
  · cases hq
  · split at hq
    · cases hq
    · split at hq
      · cases hq
      · next tlvs htlvs =>
        rw [hcode, Op.ofCode_code] at hq
        cases hq
        refine ⟨rfl, ?_, hsize⟩
        rw [← hheader, List.append_assoc header] at htlvs
        exact decodeTlvs_take header hbody htlvs

end NetgearSwitch.Nsdp
