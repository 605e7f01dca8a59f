import NetgearSwitch.Lib.Script
import NetgearSwitch.Lib.PyLines
import NetgearSwitch.Nsdp.Device

/-!
# The NSDP reader and writer

`NsdpReader` of `nsdp_read.py`, as far as the writer reads, and `NsdpWriter` of `nsdp_write.py`.
Every operation is a script over the two calls of an NSDP client; a call is answered with the
response packet or with what the client raised.
-/

namespace NetgearSwitch.Nsdp

open Script

/-! ## §1 The client -/

/-- A call of an NSDP client. -/
inductive NsdpCall
  | read (tags : List ℕ)
  | write (tlvs : List TLVEntry) (password : Text)
  deriving DecidableEq

abbrev NsdpScript := Script NsdpCall (Except LibError NSDPPacket) LibError

/-- A switch as the writer meets it through a client. -/
abbrev NsdpMachine (δ : Type) := Machine δ NsdpCall (Except LibError NSDPPacket)

structure NsdpWriter where
  modelKey : ModelKey
  password : Text
  protectedPorts : Finset ℤ := ∅
  /-- `_require_nsdp`. -/
  hasNsdp : .nsdp ∈ (getModel modelKey).backends

namespace NsdpWriter

variable (w : NsdpWriter)

def model : SwitchModel := getModel w.modelKey

/-! ## §2 Reading -/

/-- `_with_model`. -/
def withModel (tags : List ℕ) : List ℕ := if Tag.model ∈ tags then tags else Tag.model :: tags

/-- `_device`. -/
def device (tags : List ℕ) : NsdpScript NsdpDevice := do
  let answer ← call (.read (withModel tags))
  done (answer.bind parseDevice)

/-- The description `_ports` gives a port: the last label its number carries. -/
def description (dev : NsdpDevice) (port : ℕ) : Option Text :=
  (dev.portNames.reverse.find? (·.portId = port)).bind NsdpPortName.name

/-- `_ports`. -/
def ports (dev : NsdpDevice) : List PortStatus :=
  dev.portStatus.map fun s =>
    { port := s.portId
      name := none
      -- the link speed does not tell a disabled port from an idle one
      adminEnabled := true
      linkUp := s.speed ≠ .down
      speedMbps := if s.speed.speedMbps = (0 : ℤ) then none else some s.speed.speedMbps
      description := description dev s.portId }

/-- `_vlans`. -/
def vlans (dev : NsdpDevice) : List VLANInfo :=
  dev.vlanMembers.map fun m =>
    { vlanId := m.vlanId
      name := none
      memberPorts := m.memberPorts
      taggedPorts := m.taggedPorts
      untaggedPorts := m.untaggedPorts }

def getPorts : NsdpScript (List PortStatus) := do
  let dev ← device [Tag.portCount, Tag.portStatus, Tag.portName]
  pure (ports dev)

def getVlans : NsdpScript (List VLANInfo) := do
  let dev ← device [Tag.portCount, Tag.vlanMembers]
  pure (vlans dev)

def getPvids : NsdpScript (List (ℤ × ℤ)) := do
  let dev ← device [Tag.portPvid]
  pure (dev.portPvids.map fun p => (p.portId, p.vlanId))

def getHostname : NsdpScript Text := do
  let dev ← device [Tag.hostname]
  pure (dev.hostname.getD [])

def getMgmtIp : NsdpScript MgmtIpConfig := do
  let dev ← device [Tag.ipAddress, Tag.netmask, Tag.gateway, Tag.dhcpMode]
  pure { address := dev.ip, netmask := dev.netmask, gateway := dev.gateway }

/-- `_vlan`. -/
def vlan (v : ℤ) : NsdpScript (Option VLANInfo) := do
  let all ← getVlans
  pure (all.find? (·.vlanId = v))

/-! ## §3 Writing -/

/-- `_guard`. -/
def guard (port : ℤ) (force : Bool) : NsdpScript Unit :=
  ensure (¬ (port ∈ w.protectedPorts ∧ ¬ force)) .protectedPort

/-- `client.write`, of TLVs that may fail to be built. -/
def send (tlvs : Except LibError (List TLVEntry)) : NsdpScript Unit := do
  let tlvs ← done tlvs
  let answer ← call (.write tlvs w.password)
  let _ ← done answer
  pure ()

/-- `_require_vlan_exists`. -/
def requireVlanExists (v : ℤ) : NsdpScript Unit := do
  let current ← vlan v
  ensure (current.isSome) .nsdp

/-- `hostname_tlv`. -/
def hostnameTlv (name : Text) : Except LibError TLVEntry := do
  let bytes ← orRaise .unicodeError (PyCodec.asciiEncode name)
  .ok ⟨Tag.hostname, bytes⟩

/-- `port_name_tlv`. -/
def portNameTlv (port : ℤ) (name : Text) : Except LibError TLVEntry := do
  let portByte ← orRaise .valueError (BigEndian.packInt 1 port)
  .ok ⟨Tag.portName, portByte ++ PyCodec.utf8Encode name⟩

/-- `ipv4_tlv`. -/
def ipv4Tlv (tag : ℕ) (dotted : Text) : Except LibError TLVEntry := do
  let bytes ← orRaise .osError (PyCodec.inetAton dotted)
  .ok ⟨tag, bytes⟩

def setHostname (name : Text) : NsdpScript Unit := do
  ensure (PyText.strip name ≠ []) .valueError
  let _ ← getHostname
  w.send ((hostnameTlv name).map ([·]))
  let after ← getHostname
  ensure (after = name) .writeVerification

/-- The last description the rows give a port; `none` also where no row is the port's. -/
def describedAs (rows : List PortStatus) (port : ℤ) : Option Text :=
  (rows.reverse.find? (·.port = port)).bind PortStatus.description

def setPortDescription (port : ℤ) (text : Text) (force : Bool) : NsdpScript Unit := do
  w.guard port force
  let _ ← getPorts
  w.send ((portNameTlv port text).map ([·]))
  let after ← getPorts
  ensure (describedAs after port = if text = [] then none else some text) .writeVerification

/-- `dict(pvids).get(port)`. -/
def pvidOf (pvids : List (ℤ × ℤ)) (port : ℤ) : Option ℤ :=
  (pvids.reverse.find? (·.1 = port)).map Prod.snd

def setPvid (port v : ℤ) (force : Bool) : NsdpScript Unit := do
  w.guard port force
  requireVlanExists v
  let _ ← getPvids
  w.send ((pvidTlv port v).map ([·]))
  let after ← getPvids
  ensure (pvidOf after port = some v) .writeVerification

/-- `_members_after`: the members and the tagged ports one change leaves. -/
def membersAfter (current : Option VLANInfo) (port : ℤ) (mode : VlanMode) :
    Finset ℤ × Finset ℤ :=
  let members := (current.map VLANInfo.memberPorts).getD ∅
  let tagged := (current.map VLANInfo.taggedPorts).getD ∅
  match mode with
  | .excluded => (members.erase port, tagged.erase port)
  | .tagged => (insert port members, insert port tagged)
  | .untagged => (insert port members, tagged.erase port)

/-- `_membership_ok`: a VLAN that is not there excludes every port. -/
def membershipOk (after : Option VLANInfo) (port : ℤ) (mode : VlanMode) : Bool :=
  match after with
  | none => mode = .excluded
  | some info =>
    match mode with
    | .excluded => port ∉ info.memberPorts
    | _ => port ∈ info.memberPorts ∧ (port ∈ info.taggedPorts ↔ mode = .tagged)

def setVlanMembership (v port : ℤ) (mode : VlanMode) (force : Bool) : NsdpScript Unit := do
  w.guard port force
  let before ← vlan v
  let (members, tagged) := membersAfter before port mode
  w.send ((vlanMembersTlv v members tagged w.model.portCount).map ([·]))
  let after ← vlan v
  ensure (membershipOk after port mode = true) .writeVerification

def setMgmtIp (address netmask gateway : Text) (force : Bool) : NsdpScript Unit := do
  ensure (force = true) .protectedPort
  let _ ← getMgmtIp
  w.send do
    let a ← ipv4Tlv Tag.ipAddress address
    let n ← ipv4Tlv Tag.netmask netmask
    let g ← ipv4Tlv Tag.gateway gateway
    .ok [a, n, g]
  let after ← getMgmtIp
  ensure (after = ⟨some address, some netmask, some gateway⟩) .writeVerification

/-- `create_vlan`: an empty membership record; the name has nowhere to go. -/
def createVlan (v : ℤ) : NsdpScript Unit := do
  let before ← getVlans
  if before.any (·.vlanId = v) then
    pure ()
  else do
    w.send ((vlanMembersTlv v ∅ ∅ w.model.portCount).map ([·]))
    let after ← getVlans
    ensure (after.any (·.vlanId = v) = true) .writeVerification

def deleteVlan (v : ℤ) (force : Bool) : NsdpScript Unit := do
  ensure (force = true) .protectedPort
  let _ ← getVlans
  w.send ((vlanDestroyTlv v).map ([·]))
  let after ← getVlans
  ensure (after.all (·.vlanId ≠ v) = true) .writeVerification

/-- What NSDP has no known tag for: PoE, port admin, speed, flow control and syslog. -/
def unsupported : NsdpScript Unit := raise .unsupportedCapability

end NsdpWriter

end NetgearSwitch.Nsdp
