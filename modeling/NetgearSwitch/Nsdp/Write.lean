import NetgearSwitch.Lib.Bitmap
import NetgearSwitch.Lib.PyCodec
import NetgearSwitch.Lib.PyDict
import NetgearSwitch.Errors
import NetgearSwitch.Nsdp.Protocol

/-!
# NSDP requests

Write authentication (`protocols/nsdp/auth.py`), the request builders and value encoders of
`protocols/nsdp/write.py`, the VLAN parser of `protocols/nsdp/parsers.py` and the result check
of `protocols/nsdp/client.py`.
-/

namespace NetgearSwitch.Nsdp

open BigEndian

/-! ## §1 Authentication -/

/-- `b"NtgrSmartSwitchRock"`. -/
def v1Key : Bytes :=
  [0x4E, 0x74, 0x67, 0x72, 0x53, 0x6D, 0x61, 0x72, 0x74, 0x53, 0x77, 0x69, 0x74, 0x63, 0x68, 0x52,
    0x6F, 0x63, 0x6B]

def encpassV1 : ℤ := 0x01
def encpassV2 : ℤ := 0x10

/-- `encode_password_v1`: the password XORed with the repeating key; `none` where it is not
ASCII. -/
def encodePasswordV1 (password : Text) : Option Bytes :=
  (PyCodec.asciiEncode password).map fun pw =>
    pw.mapIdx fun i b => b ^^^ v1Key.getD (i % v1Key.length) 0

theorem length_encodePasswordV1 {password : Text} {enc : Bytes}
    (h : encodePasswordV1 password = some enc) : enc.length = password.length := by
  obtain ⟨pw, hpw, rfl⟩ := Option.map_eq_some_iff.mp h
  obtain ⟨_, rfl⟩ := PyCodec.asciiEncode_eq_some.mp hpw
  rw [List.length_mapIdx, List.length_map]

/-- The XOR of the salt, MAC and key bytes at the places listed. -/
private def fold (s m k : Bytes) (si mi ki : List ℕ) : UInt8 :=
  (si.map (s.getD · 0) ++ mi.map (m.getD · 0) ++ ki.map (k.getD · 0)).foldl (· ^^^ ·) 0

/-- `auth_v2_password`: the 8-byte token. -/
def authV2Password (password : Text) (switchMac salt : Bytes) : Except LibError Bytes :=
  if salt.length ≠ 4 then .error .valueError
  else if switchMac.length ≠ 6 then .error .valueError
  else do
    let pw ← orRaise .unicodeError (PyCodec.asciiEncode password)
    let k := rawField 20 pw
    let x := fold salt switchMac k
    .ok
      [x [3, 2] [1, 5] [0, 1, 2], x [3, 1] [4, 0] [3, 4, 5], x [0, 2] [3, 2] [6, 7, 8],
        x [0, 1] [4, 5] [9, 10, 11], x [3, 2] [1, 5] [12, 13, 14], x [3, 1] [4, 0] [15, 16, 17],
        x [0, 2] [3, 2] [18, 19, 0], x [0, 1] [4, 5] [1, 3, 5]]

theorem length_authV2Password {password : Text} {switchMac salt token : Bytes}
    (h : authV2Password password switchMac salt = .ok token) : token.length = 8 := by
  unfold authV2Password at h
  split_ifs at h
  cases hpw : PyCodec.asciiEncode password with
  | none =>
    rw [hpw] at h
    cases h
  | some pw =>
    rw [hpw] at h
    cases h
    rfl

/-- There is a token for an ASCII password, a MAC of six bytes and a salt of four. -/
theorem exists_token {password : Text} (h : ∀ c ∈ password, c.toNat < 128) {mac salt : Bytes}
    (hmac : mac.length = 6) (hsalt : salt.length = 4) :
    ∃ token, authV2Password password mac salt = .ok token := by
  unfold authV2Password
  rw [if_neg (not_not_intro hsalt), if_neg (not_not_intro hmac), PyCodec.asciiEncode_of_ascii h]
  exact ⟨_, rfl⟩

/-- `encpass_is_v2`. -/
def encpassIsV2 (value : Bytes) : Bool := value ≠ [] ∧ (ofBytes value : ℤ) = encpassV2

example : (authV2Password "password".toList [0x12, 0x34, 0x56, 0x78, 0x9A, 0xBC]
    [0x12, 0x34, 0x56, 0x78]).toOption = some [0xC4, 0xAF, 0x7C, 0x00, 0xA6, 0xC4, 0x1A, 0x7D] := by
  decide

/-! ## §2 Requests -/

def resultSuccess : ℕ := 0x0000
def resultBadPassword : ℕ := 0x0700
def resultBadPasswordV2 : ℕ := 0x0D00
def resultLockedV2 : ℕ := 0x0E00
def resultReadonly : ℕ := 0x0300

/-- `build_read_request`: one empty TLV a tag. -/
def buildReadRequest (clientMac serverMac : Bytes) (sequence : ℕ) (tags : List ℕ) : NSDPPacket where
  op := .readRequest
  clientMac := clientMac
  serverMac := serverMac
  sequence := sequence
  tlvs := tags.map fun tag => ⟨tag, []⟩

/-- `build_write_request`: the v1 `PASSWORD` TLV, then the config TLVs. -/
def buildWriteRequest (clientMac serverMac : Bytes) (sequence : ℕ) (password : Text)
    (tlvs : List TLVEntry) : Except LibError NSDPPacket := do
  let encoded ← orRaise .unicodeError (encodePasswordV1 password)
  .ok
    { op := .writeRequest
      clientMac := clientMac
      serverMac := serverMac
      sequence := sequence
      tlvs := ⟨Tag.password, encoded⟩ :: tlvs }

/-- `build_write_request_v2`: the v2 token first, then the config TLVs. -/
def buildWriteRequestV2 (clientMac serverMac : Bytes) (sequence : ℕ) (tlvs : List TLVEntry)
    (authToken : Bytes) : NSDPPacket where
  op := .writeRequest
  clientMac := clientMac
  serverMac := serverMac
  sequence := sequence
  tlvs := ⟨Tag.authV2Password, authToken⟩ :: tlvs

/-- `first_tlv_value`. -/
def firstTlvValue (packet : NSDPPacket) (tag : ℕ) : Option Bytes :=
  (packet.tlvs.find? fun t => t.tag = tag).map TLVEntry.value

/-- `check_result`: anything but success raises, whatever the message says. -/
def checkResult (packet : NSDPPacket) : Except LibError Unit :=
  if packet.result = resultSuccess then .ok () else .error .nsdp

/-! ## §3 VLAN values -/

/-- `ports_to_bitmap`: `none` is the `IndexError` of a port far below 1. -/
def portsToBitmap (ports : Finset ℤ) (widthBytes : ℕ) : Option Bytes :=
  Bitmap.encodeNumbers widthBytes (PySet.sorted ports)

/-- `bitmap_to_ports`. -/
def bitmapToPorts (bitmap : Bytes) : Finset ℤ := Bitmap.numbers bitmap

/-- The bytes of a VLAN port bitmap, `(port_count + 7) // 8`. -/
def bitmapBytes (portCount : ℕ) : ℕ := (portCount + 7) / 8

/-- `pvid_tlv`. -/
def pvidTlv (port vlan : ℤ) : Except LibError TLVEntry := do
  let portByte ← orRaise .valueError (packInt 1 port)
  let vlanBytes ← orRaise .structError (packInt 2 vlan)
  .ok ⟨Tag.portPvid, portByte ++ vlanBytes⟩

/-- `vlan_members_tlv`. -/
def vlanMembersTlv (vlan : ℤ) (members tagged : Finset ℤ) (portCount : ℕ) :
    Except LibError TLVEntry := do
  let vlanBytes ← orRaise .structError (packInt 2 vlan)
  let memberBits ← orRaise .indexError (portsToBitmap members (bitmapBytes portCount))
  let taggedBits ← orRaise .indexError (portsToBitmap tagged (bitmapBytes portCount))
  .ok ⟨Tag.vlanMembers, vlanBytes ++ memberBits ++ taggedBits⟩

/-- `vlan_destroy_tlv`. -/
def vlanDestroyTlv (vlan : ℤ) : Except LibError TLVEntry := do
  let vlanBytes ← orRaise .structError (packInt 2 vlan)
  .ok ⟨Tag.vlanDestroy, vlanBytes⟩

/-- One VLAN's membership on the wire. -/
structure NsdpVlanMembership where
  vlanId : ℕ
  memberPorts : Finset ℤ
  taggedPorts : Finset ℤ
  deriving DecidableEq

def NsdpVlanMembership.untaggedPorts (m : NsdpVlanMembership) : Finset ℤ :=
  m.memberPorts \ m.taggedPorts

/-- `parse_vlan_members`: `none` is its `ValueError` on a short value. -/
def parseVlanMembers (data : Bytes) (portCount : ℕ) : Option NsdpVlanMembership :=
  let w := bitmapBytes portCount
  if data.length < 2 + w * 2 then none
  else some
    { vlanId := ofBytes (slice data 0 2)
      memberPorts := bitmapToPorts (slice data 2 (2 + w))
      taggedPorts := bitmapToPorts (slice data (2 + w) (2 + w * 2)) }

end NetgearSwitch.Nsdp
