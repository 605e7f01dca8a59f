import NetgearSwitch.Nsdp.Write

/-!
# What an NSDP response says of the device

The parsers of `protocols/nsdp/parsers.py` and the value types of `protocols/nsdp/types.py`.
`parse_device` reads a response twice: once for the port count, which gives the bitmaps their
width, and once for everything else.  A value of a wrong length is a `ValueError`.
-/

namespace NetgearSwitch.Nsdp

open BigEndian PyCodec

/-! ## §1 Values -/

/-- `LinkSpeed`; a code it does not list is `down`. -/
inductive LinkSpeed
  | down
  | half10M
  | full10M
  | half100M
  | full100M
  | gigabit
  | tenGigabit
  | tenGigabitPriorArt
  deriving DecidableEq, Repr

namespace LinkSpeed

/-- `LinkSpeed.from_byte`. -/
def fromByte (b : UInt8) : LinkSpeed :=
  if b = 0x01 then half10M
  else if b = 0x02 then full10M
  else if b = 0x03 then half100M
  else if b = 0x04 then full100M
  else if b = 0x05 then gigabit
  else if b = 0x06 then tenGigabit
  else if b = 0xFF then tenGigabitPriorArt
  else down

def speedMbps : LinkSpeed → ℤ
  | down => 0
  | half10M | full10M => 10
  | half100M | full100M => 100
  | gigabit => 1000
  | tenGigabit | tenGigabitPriorArt => 10000

end LinkSpeed

structure NsdpPortStatus where
  portId : ℕ
  speed : LinkSpeed
  flowControl : Bool

structure NsdpPortName where
  portId : ℕ
  name : Option Text

structure NsdpPortStatistics where
  portId : ℕ
  bytesReceived : ℕ
  bytesSent : ℕ
  crcErrors : ℕ

structure NsdpPortPvid where
  portId : ℕ
  vlanId : ℕ

structure NsdpPortMirroring where
  destinationPort : ℕ
  sourcePorts : Finset ℤ

structure NsdpIgmpSnooping where
  enabled : Bool
  vlanId : Option ℕ

/-- What a response may say or leave out. -/
structure NsdpFields where
  hostname : Option Text := none
  ip : Option Text := none
  netmask : Option Text := none
  gateway : Option Text := none
  firmwareVersion : Option Text := none
  dhcpEnabled : Option Bool := none
  portCount : Option ℕ := none
  serialNumber : Option Text := none
  /-- A member of `VLANEngine`, by its number. -/
  vlanEngine : Option (Fin 5) := none
  portStatus : List NsdpPortStatus := []
  portNames : List NsdpPortName := []
  portStatistics : List NsdpPortStatistics := []
  vlanMembers : List NsdpVlanMembership := []
  portPvids : List NsdpPortPvid := []
  qosEngine : Option ℕ := none
  portMirroring : Option NsdpPortMirroring := none
  igmpSnooping : Option NsdpIgmpSnooping := none
  broadcastFiltering : Option Bool := none
  loopDetection : Option Bool := none

/-- A device always has a model and a MAC address. -/
structure NsdpDevice extends NsdpFields where
  model : Text
  mac : Bytes

/-! ## §2 Parsers -/

/-- `_decode_str`. -/
def decodeStr (data : Bytes) : Text := rstripNul (asciiDecodeReplace data)

/-- `parse_ipv4`. -/
def parseIpv4 (data : Bytes) : Except LibError Text := orRaise .valueError (inetNtoa data)

/-- `parse_mac`, without the colons it prints between the bytes. -/
def parseMac (data : Bytes) : Except LibError Bytes :=
  if data.length ≠ 6 then .error .valueError else .ok data

def parsePortStatus (data : Bytes) : Except LibError NsdpPortStatus :=
  match data with
  | [port, speed, flow] => .ok ⟨port.toNat, LinkSpeed.fromByte speed, flow ≠ 0⟩
  | _ => .error .valueError

/-- `parse_port_name`: a port without a description answers its number alone. -/
def parsePortName (data : Bytes) : Except LibError NsdpPortName :=
  match data with
  | [] => .error .valueError
  | port :: rest =>
    let text := rstripNul (utf8DecodeReplace rest)
    .ok ⟨port.toNat, if text = [] then none else some text⟩

def parsePortStatistics (data : Bytes) : Except LibError NsdpPortStatistics :=
  if data.length ≠ 49 then .error .valueError
  else .ok
    { portId := (data.getD 0 0).toNat
      bytesReceived := ofBytes (slice data 1 9)
      bytesSent := ofBytes (slice data 9 17)
      crcErrors := ofBytes (slice data 17 25) }

def parsePortPvid (data : Bytes) : Except LibError NsdpPortPvid :=
  if data.length ≠ 3 then .error .valueError
  else .ok ⟨(data.getD 0 0).toNat, ofBytes (slice data 1 3)⟩

def parseSerial (data : Bytes) : Except LibError Text :=
  match data with
  | 0x01 :: rest => .ok (decodeStr rest)
  | _ => .error .valueError

def parsePortMirroring (data : Bytes) : Except LibError NsdpPortMirroring :=
  match data with
  | [] => .error .valueError
  | dest :: sources => .ok ⟨dest.toNat, bitmapToPorts sources⟩

def parseIgmpSnooping (data : Bytes) : Except LibError NsdpIgmpSnooping :=
  match data with
  | _ :: on :: _ :: vlan :: _ => .ok ⟨on ≠ 0, if vlan ≠ 0 then some vlan.toNat else none⟩
  | _ :: on :: _ => .ok ⟨on ≠ 0, none⟩
  | _ => .error .valueError

/-! ## §3 The device -/

/-- What the second pass over a response has read so far. -/
structure DeviceParse where
  model : Option Text := none
  mac : Option Bytes := none
  fields : NsdpFields := {}

/-- The port count of the first pass, 8 until a response says otherwise. -/
def learnPortCount (tlvs : List TLVEntry) : ℕ :=
  tlvs.foldl (fun n t => if t.tag = Tag.portCount then (t.value.head?.map UInt8.toNat).getD n else n)
    8

/-- One TLV of the second pass. -/
def readTlv (portCount : ℕ) (acc : DeviceParse) (t : TLVEntry) : Except LibError DeviceParse :=
  let fields := acc.fields
  let keep (fields : NsdpFields) : Except LibError DeviceParse := .ok { acc with fields := fields }
  if t.tag = Tag.model then .ok { acc with model := some (decodeStr t.value) }
  else if t.tag = Tag.mac then do
    let mac ← parseMac t.value
    .ok { acc with mac := some mac }
  else if t.tag = Tag.hostname then keep { fields with hostname := some (decodeStr t.value) }
  else if t.tag = Tag.ipAddress then do
    let ip ← parseIpv4 t.value
    keep { fields with ip := some ip }
  else if t.tag = Tag.netmask then do
    let netmask ← parseIpv4 t.value
    keep { fields with netmask := some netmask }
  else if t.tag = Tag.gateway then do
    let gateway ← parseIpv4 t.value
    keep { fields with gateway := some gateway }
  else if t.tag = Tag.firmwareVer1 then
    keep { fields with firmwareVersion := some (decodeStr t.value) }
  else if t.tag = Tag.serialNumber then do
    let serial ← parseSerial t.value
    keep { fields with serialNumber := some serial }
  else if t.tag = Tag.portStatus then do
    let row ← parsePortStatus t.value
    keep { fields with portStatus := fields.portStatus ++ [row] }
  else if t.tag = Tag.portName then do
    let row ← parsePortName t.value
    keep { fields with portNames := fields.portNames ++ [row] }
  else if t.tag = Tag.portStatistics then do
    let row ← parsePortStatistics t.value
    keep { fields with portStatistics := fields.portStatistics ++ [row] }
  else if t.tag = Tag.vlanMembers then do
    let row ← orRaise .valueError (parseVlanMembers t.value portCount)
    keep { fields with vlanMembers := fields.vlanMembers ++ [row] }
  else if t.tag = Tag.portPvid then do
    let row ← parsePortPvid t.value
    keep { fields with portPvids := fields.portPvids ++ [row] }
  else if t.tag = Tag.portMirroring then do
    let mirroring ← parsePortMirroring t.value
    keep { fields with portMirroring := some mirroring }
  else if t.tag = Tag.igmpSnooping then do
    let igmp ← parseIgmpSnooping t.value
    keep { fields with igmpSnooping := some igmp }
  else
    -- the tags an empty value says nothing of
    match t.value with
    | [] => .ok acc
    | b :: _ =>
      if t.tag = Tag.dhcpMode then keep { fields with dhcpEnabled := some (b ≠ 0) }
      else if t.tag = Tag.portCount then keep { fields with portCount := some b.toNat }
      else if t.tag = Tag.vlanEngine then
        if h : b.toNat < 5 then keep { fields with vlanEngine := some ⟨b.toNat, h⟩ }
        else .error .valueError
      else if t.tag = Tag.qosEngine then keep { fields with qosEngine := some b.toNat }
      else if t.tag = Tag.broadcastFiltering then
        keep { fields with broadcastFiltering := some (b ≠ 0) }
      else if t.tag = Tag.loopDetection then keep { fields with loopDetection := some (b ≠ 0) }
      else .ok acc

/-- `parse_device`. -/
def parseDevice (packet : NSDPPacket) : Except LibError NsdpDevice := do
  let acc ← packet.tlvs.foldlM (readTlv (learnPortCount packet.tlvs)) {}
  let model ← orRaise .valueError acc.model
  let mac ← match acc.mac with
    | some mac => .ok mac
    | none => parseMac packet.serverMac
  .ok { acc.fields with model := model, mac := mac }

end NetgearSwitch.Nsdp
