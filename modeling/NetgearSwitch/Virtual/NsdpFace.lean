import NetgearSwitch.Nsdp.Write
import NetgearSwitch.Virtual.State

/-!
# The NSDP face of the virtual switch

`nsdp_tlvs` and `apply_nsdp_write` of `virtual/state.py`, and the datagram handler of
`virtual/faces/nsdp.py`.  A handler that raises leaves behind what it had already changed, so
every function here returns the state together with its outcome.  The serve loop survives a
`ValueError` and dies of anything else.

The four bytes `os.urandom` gives a salt read are an argument.
-/

namespace NetgearSwitch.Virtual

open Nsdp BigEndian

/-- What a handler raised: the `ValueError` the serve loop ignores, or anything else
(`struct.error`, `IndexError`, `OSError`), which ends the serving thread. -/
inductive NsdpFault
  | valueError
  | uncaught
  deriving DecidableEq, Repr

/-- Read an optional value as one that raises `fault` when it is missing. -/
def orFault {α : Type} (fault : NsdpFault) : Option α → Except NsdpFault α
  | some a => .ok a
  | none => .error fault

@[simp] theorem orFault_some {α : Type} (fault : NsdpFault) (a : α) :
    orFault fault (some a) = .ok a := rfl

@[simp] theorem orFault_none {α : Type} (fault : NsdpFault) :
    orFault fault (none : Option α) = .error fault := rfl

theorem orFault_eq_ok {α : Type} {fault : NsdpFault} {o : Option α} {a : α} :
    orFault fault o = .ok a ↔ o = some a := by
  cases o <;> simp

/-! ## §1 Reading -/

/-- `_mbps_to_speed_byte`. -/
def mbpsToSpeedByte (mbps : ℤ) : UInt8 :=
  if mbps = 10 then 0x02
  else if mbps = 100 then 0x04
  else if mbps = 1000 then 0x05
  else if mbps = 10000 then 0x06
  else 0x00

def boolByte (b : Bool) : UInt8 := if b then 1 else 0

namespace VirtualSwitchState

/-- One TLV, if it is to be answered. -/
private def tlvWhen (answered : Prop) [Decidable answered] (tag : ℕ) (value : Except NsdpFault Bytes) :
    Except NsdpFault (List TLVEntry) :=
  if answered then value.map fun v => [⟨tag, v⟩] else .ok []

/-- One TLV for every row of a table, if they are to be answered. -/
private def tlvRows {α : Type} (answered : Prop) [Decidable answered] (tag : ℕ) (rows : List α)
    (value : α → Except NsdpFault Bytes) : Except NsdpFault (List TLVEntry) :=
  if answered then rows.mapM fun r => (value r).map fun v => ⟨tag, v⟩ else .ok []

/-- `nsdp_tlvs` up to the salt: identity and the auth scheme. -/
def identityTlvs (s : VirtualSwitchState) (tags : List ℕ) : Except NsdpFault (List TLVEntry) := do
  let ascii (t : Text) := orFault .valueError (PyCodec.asciiEncode t)
  let modelBytes ← ascii (if s.modelName = [] then s.model.displayName else s.modelName)
  let model ← tlvWhen (Tag.model ∈ tags) Tag.model (.ok modelBytes)
  let mac ← tlvWhen (Tag.mac ∈ tags) Tag.mac (.ok s.nsdpMac)
  let portCount ← tlvWhen (Tag.portCount ∈ tags) Tag.portCount
    (orFault .valueError (packInt 1 s.model.portCount))
  let serial ← tlvWhen (Tag.serialNumber ∈ tags ∧ s.serial ≠ []) Tag.serialNumber
    ((ascii s.serial).map ([0x01] ++ ·))
  let hostname ← tlvWhen (Tag.hostname ∈ tags ∧ s.hostname ≠ []) Tag.hostname (ascii s.hostname)
  let firmware ← tlvWhen (Tag.firmwareVer1 ∈ tags ∧ s.firmware ≠ []) Tag.firmwareVer1
    (ascii s.firmware)
  let encpass ← tlvWhen (Tag.authV2Encpass ∈ tags) Tag.authV2Encpass
    (orFault .uncaught (packInt 4 s.nsdpAuthVersion))
  .ok (model ++ mac ++ portCount ++ serial ++ hostname ++ firmware ++ encpass)

/-- `nsdp_tlvs` after the salt: ports, VLANs, management address and the optional features. -/
def configTlvs (s : VirtualSwitchState) (tags : List ℕ) : Except NsdpFault (List TLVEntry) := do
  let width := bitmapBytes s.model.portCount
  let byte (n : ℤ) := orFault .valueError (packInt 1 n)
  let field (w : ℕ) (n : ℤ) := orFault .uncaught (packInt w n)
  let bits (ports : Finset ℤ) := orFault .uncaught (portsToBitmap ports width)
  let aton (t : Text) := orFault .uncaught (PyCodec.inetAton t)
  let portStatus ← tlvRows (Tag.portStatus ∈ tags) Tag.portStatus s.ports.sortedItems fun e => do
    let port ← byte e.1
    .ok (port ++
      [if e.2.link then mbpsToSpeedByte e.2.speed else 0x00, boolByte e.2.flowControl])
  let portName ← tlvRows (Tag.portName ∈ tags) Tag.portName s.ports.sortedItems fun e => do
    let port ← byte e.1
    .ok (port ++ PyCodec.utf8Encode (e.2.description.getD []))
  let portStatistics ← tlvRows (Tag.portStatistics ∈ tags) Tag.portStatistics
    s.ports.sortedItems fun e => do
      let port ← byte e.1
      let rx ← field 8 (e.2.rxOctets.getD 0)
      let tx ← field 8 (e.2.txOctets.getD 0)
      let errors ← field 8 (e.2.rxErrors.getD 0)
      .ok (port ++ rx ++ tx ++ errors ++ List.replicate 24 0)
  let vlanMembers ← tlvRows (Tag.vlanMembers ∈ tags) Tag.vlanMembers s.vlans.sortedItems fun e => do
    let vid ← field 2 e.1
    let member ← bits e.2.member
    let tagged ← bits (e.2.member \ e.2.untagged)
    .ok (vid ++ member ++ tagged)
  let portPvid ← tlvRows (Tag.portPvid ∈ tags) Tag.portPvid s.pvids.sortedItems fun e => do
    let port ← byte e.1
    let pv ← field 2 e.2
    .ok (port ++ pv)
  let address ← tlvWhen (Tag.ipAddress ∈ tags) Tag.ipAddress (aton s.mgmt.address)
  let netmask ← tlvWhen (Tag.netmask ∈ tags) Tag.netmask (aton s.mgmt.netmask)
  let gateway ← tlvWhen (Tag.gateway ∈ tags) Tag.gateway (aton s.mgmt.gateway)
  let dhcp ← tlvWhen (Tag.dhcpMode ∈ tags) Tag.dhcpMode (.ok [boolByte (s.mgmt.mode = .dhcp)])
  let qos ← tlvRows (Tag.qosEngine ∈ tags) Tag.qosEngine s.nsdpQosEngine.toList byte
  let mirroring ← tlvRows (Tag.portMirroring ∈ tags) Tag.portMirroring
    s.nsdpPortMirroringDest.toList fun dest => do
      let dest ← byte dest
      let sources ← bits s.nsdpPortMirroringSources
      .ok (dest ++ sources)
  let igmp ← tlvRows (Tag.igmpSnooping ∈ tags) Tag.igmpSnooping
    s.nsdpIgmpSnoopingEnabled.toList fun on => do
      let vlan ← byte (s.nsdpIgmpSnoopingVlan.getD 0)
      .ok ([0x00, boolByte on, 0x00] ++ vlan)
  let broadcast ← tlvRows (Tag.broadcastFiltering ∈ tags) Tag.broadcastFiltering
    s.nsdpBroadcastFiltering.toList fun on => .ok [boolByte on]
  let loop ← tlvRows (Tag.loopDetection ∈ tags) Tag.loopDetection
    s.nsdpLoopDetection.toList fun on => .ok [boolByte on]
  .ok (portStatus ++ portName ++ portStatistics ++ vlanMembers ++ portPvid ++ address ++ netmask ++
    gateway ++ dhcp ++ qos ++ mirroring ++ igmp ++ broadcast ++ loop)

/-- `nsdp_tlvs`: only the tags requested; reading the salt draws a new one. -/
def nsdpTlvs (s : VirtualSwitchState) (salt : Bytes) (tags : List ℕ) :
    VirtualSwitchState × Except NsdpFault (List TLVEntry) :=
  match s.identityTlvs tags with
  | .error fault => (s, .error fault)
  | .ok identity =>
    if Tag.authV2Salt ∈ tags then
      let s := { s with nsdpLastSalt := some salt }
      (s, (s.configTlvs tags).map fun config => identity ++ [⟨Tag.authV2Salt, salt⟩] ++ config)
    else (s, (s.configTlvs tags).map fun config => identity ++ config)

end VirtualSwitchState

/-! ### What reading can raise

A read makes one check after another, each with the fault it raises when it fails; which checks
these are is read off the state and the tags, and the first that fails decides. -/

/-- The fault of the first check that fails. -/
def firstFailed : List (NsdpFault × Bool) → Option NsdpFault
  | [] => none
  | (fault, ok) :: checks => if ok then firstFailed checks else some fault

theorem firstFailed_append (checks more : List (NsdpFault × Bool)) :
    firstFailed (checks ++ more) = (firstFailed checks).or (firstFailed more) := by
  induction checks with
  | nil => rfl
  | cons c checks ih =>
    obtain ⟨fault, ok⟩ := c
    cases ok
    · rfl
    · simpa [firstFailed] using ih

/-- `x` makes exactly these checks. -/
def Checks {α : Type} (x : Except NsdpFault α) (checks : List (NsdpFault × Bool)) : Prop :=
  ∀ fault, x = .error fault ↔ firstFailed checks = some fault

namespace Checks

variable {α β : Type}

theorem ok (a : α) : Checks (.ok a) [] := by
  intro fault
  simp [firstFailed]

theorem orFault (fault : NsdpFault) (o : Option α) :
    Checks (Virtual.orFault fault o) [(fault, o.isSome)] := by
  intro f
  cases o <;> simp [firstFailed]

theorem bind {x : Except NsdpFault α} {f : α → Except NsdpFault β}
    {checks more : List (NsdpFault × Bool)} (hx : Checks x checks)
    (hf : ∀ a, Checks (f a) more) : Checks (x >>= f) (checks ++ more) := by
  intro fault
  rw [firstFailed_append]
  cases x with
  | error e =>
    have hfirst : firstFailed checks = some e := (hx e).mp rfl
    show (Except.error e : Except NsdpFault β) = .error fault ↔ _
    simp [hfirst]
  | ok a =>
    have hfirst : firstFailed checks = none := by
      cases hc : firstFailed checks with
      | none => rfl
      | some e => cases (hx e).mpr hc
    show f a = .error fault ↔ _
    rw [hfirst, Option.none_or]
    exact hf a fault

/-- A part that cannot fail adds no check. -/
theorem bind_ok {x : Except NsdpFault α} {f : α → Except NsdpFault β}
    {checks : List (NsdpFault × Bool)} (hx : Checks x []) (hf : ∀ a, Checks (f a) checks) :
    Checks (x >>= f) checks :=
  hx.bind hf

theorem map {x : Except NsdpFault α} {checks : List (NsdpFault × Bool)} (g : α → β)
    (hx : Checks x checks) : Checks (x.map g) checks := by
  intro fault
  rw [← hx fault]
  cases x <;> simp [Except.map]

theorem mapM {rows : List α} {f : α → Except NsdpFault β}
    {checks : α → List (NsdpFault × Bool)} (hf : ∀ r ∈ rows, Checks (f r) (checks r)) :
    Checks (rows.mapM f) (rows.flatMap checks) := by
  induction rows with
  | nil => exact ok []
  | cons r rows ih =>
    have htail := ih fun r' hr' => hf r' (List.mem_cons_of_mem _ hr')
    rw [List.mapM_cons, List.flatMap_cons]
    refine (hf r List.mem_cons_self).bind fun b => ?_
    have hmore := htail.bind fun bs => ok (b :: bs)
    rwa [List.append_nil] at hmore

end Checks

/-- The checks of a part that is only read when asked for. -/
def checkWhen (answered : Prop) [Decidable answered] (checks : List (NsdpFault × Bool)) :
    List (NsdpFault × Bool) :=
  if answered then checks else []

@[simp] theorem checkWhen_nil (answered : Prop) [Decidable answered] :
    checkWhen answered [] = [] := by
  simp [checkWhen]

namespace VirtualSwitchState

private theorem checks_tlvWhen {answered : Prop} [Decidable answered] (tag : ℕ)
    {value : Except NsdpFault Bytes} {checks : List (NsdpFault × Bool)}
    (h : Checks value checks) : Checks (tlvWhen answered tag value) (checkWhen answered checks) := by
  unfold tlvWhen checkWhen
  split
  · exact h.map _
  · exact Checks.ok _

private theorem checks_tlvRows {α : Type} {answered : Prop} [Decidable answered] (tag : ℕ)
    {rows : List α} {value : α → Except NsdpFault Bytes}
    {checks : α → List (NsdpFault × Bool)} (h : ∀ r, Checks (value r) (checks r)) :
    Checks (tlvRows answered tag rows value) (checkWhen answered (rows.flatMap checks)) := by
  unfold tlvRows checkWhen
  split
  · exact Checks.mapM fun r _ => (h r).map _
  · exact Checks.ok _

private theorem checks_tlvWhen_ok {answered : Prop} [Decidable answered] (tag : ℕ)
    {value : Bytes} : Checks (tlvWhen answered tag (.ok value)) [] := by
  have h := @checks_tlvWhen answered _ tag _ _ (Checks.ok value)
  simpa using h

/-- A part whose values cannot fail makes no check. -/
private theorem checks_tlvRows_ok {α : Type} {answered : Prop} [Decidable answered] (tag : ℕ)
    {rows : List α} {value : α → Bytes} :
    Checks (tlvRows answered tag rows fun r => .ok (value r)) [] := by
  have hnone : rows.flatMap (fun _ => ([] : List (NsdpFault × Bool))) = [] :=
    List.flatMap_eq_nil_iff.mpr fun _ _ => rfl
  have h := @checks_tlvRows α answered _ tag rows _ _ fun r => Checks.ok (value r)
  rwa [hnone, checkWhen_nil] at h

end VirtualSwitchState

/-- `t.encode("ascii")`. -/
def asciiCheck (t : Text) : NsdpFault × Bool := (.valueError, (PyCodec.asciiEncode t).isSome)

/-- `bytes([n])`. -/
def byteCheck (n : ℤ) : NsdpFault × Bool := (.valueError, (packInt 1 n).isSome)

/-- `struct.pack` of a `w`-byte field. -/
def fieldCheck (w : ℕ) (n : ℤ) : NsdpFault × Bool := (.uncaught, (packInt w n).isSome)

/-- `ports_to_bitmap`. -/
def bitmapCheck (ports : Finset ℤ) (width : ℕ) : NsdpFault × Bool :=
  (.uncaught, (portsToBitmap ports width).isSome)

/-- `socket.inet_aton`. -/
def addressCheck (t : Text) : NsdpFault × Bool := (.uncaught, (PyCodec.inetAton t).isSome)

namespace VirtualSwitchState

/-- What `identityTlvs` checks. -/
def identityChecks (s : VirtualSwitchState) (tags : List ℕ) : List (NsdpFault × Bool) :=
  [asciiCheck (if s.modelName = [] then s.model.displayName else s.modelName)] ++
    checkWhen (Tag.portCount ∈ tags) [byteCheck s.model.portCount] ++
    checkWhen (Tag.serialNumber ∈ tags ∧ s.serial ≠ []) [asciiCheck s.serial] ++
    checkWhen (Tag.hostname ∈ tags ∧ s.hostname ≠ []) [asciiCheck s.hostname] ++
    checkWhen (Tag.firmwareVer1 ∈ tags ∧ s.firmware ≠ []) [asciiCheck s.firmware] ++
    checkWhen (Tag.authV2Encpass ∈ tags) [fieldCheck 4 s.nsdpAuthVersion]

/-- What `configTlvs` checks. -/
def configChecks (s : VirtualSwitchState) (tags : List ℕ) : List (NsdpFault × Bool) :=
  let width := bitmapBytes s.model.portCount
  [checkWhen (Tag.portStatus ∈ tags) (s.ports.sortedItems.flatMap fun e => [byteCheck e.1]),
    checkWhen (Tag.portName ∈ tags) (s.ports.sortedItems.flatMap fun e => [byteCheck e.1]),
    checkWhen (Tag.portStatistics ∈ tags) (s.ports.sortedItems.flatMap fun e =>
      [byteCheck e.1, fieldCheck 8 (e.2.rxOctets.getD 0), fieldCheck 8 (e.2.txOctets.getD 0),
        fieldCheck 8 (e.2.rxErrors.getD 0)]),
    checkWhen (Tag.vlanMembers ∈ tags) (s.vlans.sortedItems.flatMap fun e =>
      [fieldCheck 2 e.1, bitmapCheck e.2.member width,
        bitmapCheck (e.2.member \ e.2.untagged) width]),
    checkWhen (Tag.portPvid ∈ tags) (s.pvids.sortedItems.flatMap fun e =>
      [byteCheck e.1, fieldCheck 2 e.2]),
    checkWhen (Tag.ipAddress ∈ tags) [addressCheck s.mgmt.address],
    checkWhen (Tag.netmask ∈ tags) [addressCheck s.mgmt.netmask],
    checkWhen (Tag.gateway ∈ tags) [addressCheck s.mgmt.gateway],
    checkWhen (Tag.qosEngine ∈ tags) (s.nsdpQosEngine.toList.flatMap fun n => [byteCheck n]),
    checkWhen (Tag.portMirroring ∈ tags) (s.nsdpPortMirroringDest.toList.flatMap fun dest =>
      [byteCheck dest, bitmapCheck s.nsdpPortMirroringSources width]),
    checkWhen (Tag.igmpSnooping ∈ tags) (s.nsdpIgmpSnoopingEnabled.toList.flatMap fun _ =>
      [byteCheck (s.nsdpIgmpSnoopingVlan.getD 0)])].flatten

/-- What reading the tags checks. -/
def readChecks (s : VirtualSwitchState) (tags : List ℕ) : List (NsdpFault × Bool) :=
  s.identityChecks tags ++ s.configChecks tags

theorem checks_identityTlvs (s : VirtualSwitchState) (tags : List ℕ) :
    Checks (s.identityTlvs tags) (s.identityChecks tags) := by
  have hascii : ∀ t, Checks (orFault .valueError (PyCodec.asciiEncode t)) [asciiCheck t] :=
    fun t => Checks.orFault _ _
  have h : Checks (s.identityTlvs tags) _ :=
    (hascii _).bind fun _ => (checks_tlvWhen _ (Checks.ok _)).bind fun _ =>
    (checks_tlvWhen _ (Checks.ok _)).bind fun _ =>
    (checks_tlvWhen _ (Checks.orFault _ _)).bind fun _ =>
    (checks_tlvWhen _ ((hascii _).map _)).bind fun _ =>
    (checks_tlvWhen _ (hascii _)).bind fun _ => (checks_tlvWhen _ (hascii _)).bind fun _ =>
    (checks_tlvWhen _ (Checks.orFault _ _)).bind fun _ => Checks.ok _
  simpa [identityChecks, byteCheck, fieldCheck] using h

theorem checks_configTlvs (s : VirtualSwitchState) (tags : List ℕ) :
    Checks (s.configTlvs tags) (s.configChecks tags) := by
  have hbyte : ∀ n, Checks (orFault .valueError (packInt 1 n)) [byteCheck n] :=
    fun n => Checks.orFault _ _
  have hfield : ∀ w n, Checks (orFault .uncaught (packInt w n)) [fieldCheck w n] :=
    fun w n => Checks.orFault _ _
  have hbits : ∀ ports, Checks (orFault .uncaught
      (portsToBitmap ports (bitmapBytes s.model.portCount)))
      [bitmapCheck ports (bitmapBytes s.model.portCount)] := fun ports => Checks.orFault _ _
  have haton : ∀ t, Checks (orFault .uncaught (PyCodec.inetAton t)) [addressCheck t] :=
    fun t => Checks.orFault _ _
  have hport : ∀ (n : ℤ) (rest : Bytes), Checks (do
      let port ← orFault .valueError (packInt 1 n)
      Except.ok (port ++ rest)) [byteCheck n] := fun n rest => (hbyte n).bind fun _ => Checks.ok _
  have hcounters : ∀ e : ℤ × PortSim, Checks (do
      let port ← orFault .valueError (packInt 1 e.1)
      let rx ← orFault .uncaught (packInt 8 (e.2.rxOctets.getD 0))
      let tx ← orFault .uncaught (packInt 8 (e.2.txOctets.getD 0))
      let errors ← orFault .uncaught (packInt 8 (e.2.rxErrors.getD 0))
      Except.ok (port ++ rx ++ tx ++ errors ++ List.replicate 24 0))
      [byteCheck e.1, fieldCheck 8 (e.2.rxOctets.getD 0), fieldCheck 8 (e.2.txOctets.getD 0),
        fieldCheck 8 (e.2.rxErrors.getD 0)] := fun e =>
    (hbyte _).bind fun _ => (hfield 8 _).bind fun _ => (hfield 8 _).bind fun _ =>
      (hfield 8 _).bind fun _ => Checks.ok _
  have hvlan : ∀ e : ℤ × VlanSim, Checks (do
      let vid ← orFault .uncaught (packInt 2 e.1)
      let member ← orFault .uncaught (portsToBitmap e.2.member (bitmapBytes s.model.portCount))
      let tagged ← orFault .uncaught
        (portsToBitmap (e.2.member \ e.2.untagged) (bitmapBytes s.model.portCount))
      Except.ok (vid ++ member ++ tagged))
      [fieldCheck 2 e.1, bitmapCheck e.2.member (bitmapBytes s.model.portCount),
        bitmapCheck (e.2.member \ e.2.untagged) (bitmapBytes s.model.portCount)] := fun e =>
    (hfield 2 _).bind fun _ => (hbits _).bind fun _ => (hbits _).bind fun _ => Checks.ok _
  have hpvid : ∀ e : ℤ × ℤ, Checks (do
      let port ← orFault .valueError (packInt 1 e.1)
      let pv ← orFault .uncaught (packInt 2 e.2)
      Except.ok (port ++ pv)) [byteCheck e.1, fieldCheck 2 e.2] := fun e =>
    (hbyte _).bind fun _ => (hfield 2 _).bind fun _ => Checks.ok _
  have hmirror : ∀ dest : ℤ, Checks (do
      let dest ← orFault .valueError (packInt 1 dest)
      let sources ← orFault .uncaught
        (portsToBitmap s.nsdpPortMirroringSources (bitmapBytes s.model.portCount))
      Except.ok (dest ++ sources)) [byteCheck dest, bitmapCheck s.nsdpPortMirroringSources
        (bitmapBytes s.model.portCount)] := fun dest =>
    (hbyte _).bind fun _ => (hbits _).bind fun _ => Checks.ok _
  have higmp : ∀ on : Bool, Checks (do
      let vlan ← orFault .valueError (packInt 1 (s.nsdpIgmpSnoopingVlan.getD 0))
      Except.ok ([0x00, boolByte on, 0x00] ++ vlan)) [byteCheck (s.nsdpIgmpSnoopingVlan.getD 0)] :=
    fun on => (hbyte _).bind fun _ => Checks.ok _
  unfold configTlvs configChecks
  -- one part of the read after the other, each against its own entry of the table
  rw [List.flatten_cons]
  refine Checks.bind (checks_tlvRows _ fun e => hport _ _) fun _ => ?_
  rw [List.flatten_cons]
  refine Checks.bind (checks_tlvRows _ fun e => hport _ _) fun _ => ?_
  rw [List.flatten_cons]
  refine Checks.bind (checks_tlvRows _ fun e => hcounters e) fun _ => ?_
  rw [List.flatten_cons]
  refine Checks.bind (checks_tlvRows _ fun e => hvlan e) fun _ => ?_
  rw [List.flatten_cons]
  refine Checks.bind (checks_tlvRows _ fun e => hpvid e) fun _ => ?_
  rw [List.flatten_cons]
  refine Checks.bind (checks_tlvWhen _ (haton _)) fun _ => ?_
  rw [List.flatten_cons]
  refine Checks.bind (checks_tlvWhen _ (haton _)) fun _ => ?_
  rw [List.flatten_cons]
  refine Checks.bind (checks_tlvWhen _ (haton _)) fun _ => ?_
  refine Checks.bind_ok (checks_tlvWhen_ok _) fun _ => ?_
  rw [List.flatten_cons]
  refine Checks.bind (checks_tlvRows _ fun n => hbyte n) fun _ => ?_
  rw [List.flatten_cons]
  refine Checks.bind (checks_tlvRows _ fun dest => hmirror dest) fun _ => ?_
  rw [List.flatten_singleton]
  rw [← List.append_nil (checkWhen (Tag.igmpSnooping ∈ tags) _)]
  refine Checks.bind (checks_tlvRows _ fun on => higmp on) fun _ => ?_
  refine Checks.bind_ok (checks_tlvRows_ok _) fun _ => ?_
  refine Checks.bind_ok (checks_tlvRows_ok _) fun _ => ?_
  exact Checks.ok _

/-! ### The membership TLVs of a read -/

private theorem tag_of_tlvWhen {answered : Prop} [Decidable answered] {tag : ℕ}
    {value : Except NsdpFault Bytes} {out : List TLVEntry}
    (h : tlvWhen answered tag value = .ok out) : ∀ t ∈ out, t.tag = tag := by
  unfold tlvWhen at h
  split_ifs at h with hans
  · cases value with
    | error fault => cases h
    | ok v =>
      cases h
      intro t ht
      rw [List.mem_singleton.mp ht]
  · cases h
    exact List.forall_mem_nil _

/-- What each row of a table is read back as, when its own TLV is. -/
private theorem map_tlvRows {α β : Type} {answered : Prop} [Decidable answered] {tag : ℕ}
    {rows : List α} {value : α → Except NsdpFault Bytes} {out : List TLVEntry}
    (h : tlvRows answered tag rows value = .ok out) {g : Bytes → β} {k : α → β}
    (hrow : ∀ r ∈ rows, ∀ v, value r = .ok v → g v = k r) :
    (∀ t ∈ out, t.tag = tag) ∧ (answered → out.map (fun t => g t.value) = rows.map k) := by
  unfold tlvRows at h
  split_ifs at h with hans
  · induction rows generalizing out with
    | nil =>
      cases h
      exact ⟨List.forall_mem_nil _, fun _ => rfl⟩
    | cons r rows ih =>
      rw [List.mapM_cons] at h
      obtain ⟨t, ht, h⟩ := bind_eq_ok.mp h
      obtain ⟨ts, hts, h⟩ := bind_eq_ok.mp h
      cases h
      cases hv : value r with
      | error fault =>
        rw [hv] at ht
        cases ht
      | ok v =>
        rw [hv] at ht
        cases ht
        obtain ⟨htags, hmap⟩ := ih (fun r' hr' => hrow r' (List.mem_cons_of_mem _ hr')) hts
        refine ⟨List.forall_mem_cons.mpr ⟨rfl, htags⟩, fun ha => ?_⟩
        rw [List.map_cons, List.map_cons, hmap ha, hrow r List.mem_cons_self v hv]
  · cases h
    exact ⟨List.forall_mem_nil _, fun ha => absurd ha hans⟩

/-- A part of one TLV, as it is answered. -/
theorem eq_of_tlvWhen {answered : Prop} [Decidable answered] {tag : ℕ}
    {value : Except NsdpFault Bytes} {out : List TLVEntry}
    (h : tlvWhen answered tag value = .ok out) :
    (¬ answered ∧ out = []) ∨ (answered ∧ ∃ v, value = .ok v ∧ out = [⟨tag, v⟩]) := by
  unfold tlvWhen at h
  split_ifs at h with hans
  · cases value with
    | error fault => cases h
    | ok v =>
      cases h
      exact Or.inr ⟨hans, v, rfl, rfl⟩
  · cases h
    exact Or.inl ⟨hans, rfl⟩

/-- A part of one TLV a row, as it is answered. -/
theorem eq_of_tlvRows {α : Type} {answered : Prop} [Decidable answered] {tag : ℕ} {rows : List α}
    {value : α → Except NsdpFault Bytes} {out : List TLVEntry}
    (h : tlvRows answered tag rows value = .ok out) :
    (¬ answered ∧ out = []) ∨
      (answered ∧ List.Forall₂ (fun r t => ∃ v, value r = .ok v ∧ t = ⟨tag, v⟩) rows out) := by
  unfold tlvRows at h
  split_ifs at h with hans
  · right
    refine ⟨hans, ?_⟩
    induction rows generalizing out with
    | nil =>
      cases h
      exact List.Forall₂.nil
    | cons r rows ih =>
      rw [List.mapM_cons] at h
      obtain ⟨t, ht, h⟩ := bind_eq_ok.mp h
      obtain ⟨ts, hts, h⟩ := bind_eq_ok.mp h
      cases h
      cases hv : value r with
      | error fault =>
        rw [hv] at ht
        cases ht
      | ok v =>
        rw [hv] at ht
        cases ht
        exact List.Forall₂.cons ⟨v, hv, rfl⟩ (ih hts)
  · cases h
    exact Or.inl ⟨hans, rfl⟩

private theorem tag_of_tlvRows {α : Type} {answered : Prop} [Decidable answered] {tag : ℕ}
    {rows : List α} {value : α → Except NsdpFault Bytes} {out : List TLVEntry}
    (h : tlvRows answered tag rows value = .ok out) : ∀ t ∈ out, t.tag = tag :=
  (map_tlvRows h (g := fun _ => ()) (k := fun _ => ()) fun _ _ _ _ => rfl).1

private theorem filter_tag_eq_nil {out : List TLVEntry} {tag : ℕ}
    (h : ∀ t ∈ out, t.tag = tag) (hne : tag ≠ Tag.vlanMembers) :
    out.filter (fun t => decide (t.tag = Tag.vlanMembers)) = [] := by
  refine List.filter_eq_nil_iff.mpr fun t ht => ?_
  rw [decide_eq_true_eq, h t ht]
  exact hne

/-- What a read that succeeds answers. -/
theorem nsdpTlvs_eq_ok {s : VirtualSwitchState} {salt : Bytes} {tags : List ℕ}
    {tlvs : List TLVEntry} (h : (s.nsdpTlvs salt tags).2 = .ok tlvs) :
    ∃ identity config, s.identityTlvs tags = .ok identity ∧ s.configTlvs tags = .ok config ∧
      tlvs = identity ++ (if Tag.authV2Salt ∈ tags then [⟨Tag.authV2Salt, salt⟩] else []) ++
        config := by
  have hlast : ({ s with nsdpLastSalt := some salt } : VirtualSwitchState).configTlvs tags =
      s.configTlvs tags := rfl
  unfold nsdpTlvs at h
  cases hid : s.identityTlvs tags with
  | error fault =>
    rw [hid] at h
    cases h
  | ok identity =>
    rw [hid] at h
    dsimp only at h
    rw [hlast] at h
    cases hconfig : s.configTlvs tags with
    | error fault =>
      rw [hconfig] at h
      split_ifs at h <;> cases h
    | ok config =>
      rw [hconfig] at h
      refine ⟨identity, config, rfl, rfl, ?_⟩
      split_ifs at h ⊢ with hsalt
      · exact (Except.ok.inj h).symm
      · rw [List.append_nil]
        exact (Except.ok.inj h).symm

/-- A read that asks for the membership answers one TLV a VLAN, in the order of the ids. -/
theorem vlanMembers_of_nsdpTlvs {s : VirtualSwitchState} {salt : Bytes} {tags : List ℕ}
    {tlvs : List TLVEntry} (htag : Tag.vlanMembers ∈ tags)
    (h : (s.nsdpTlvs salt tags).2 = .ok tlvs) {β : Type} {g : Bytes → β} {k : ℤ × VlanSim → β}
    (hrow : ∀ e ∈ s.vlans.sortedItems, ∀ vid member tagged, packInt 2 e.1 = some vid →
      portsToBitmap e.2.member (bitmapBytes s.model.portCount) = some member →
      portsToBitmap (e.2.member \ e.2.untagged) (bitmapBytes s.model.portCount) = some tagged →
      g (vid ++ member ++ tagged) = k e) :
    (tlvs.filter fun t => t.tag = Tag.vlanMembers).map (fun t => g t.value) =
      s.vlans.sortedItems.map k := by
  obtain ⟨identity, config, hidentity, hconfig, rfl⟩ := nsdpTlvs_eq_ok h
  have hsalt : (if Tag.authV2Salt ∈ tags then [(⟨Tag.authV2Salt, salt⟩ : TLVEntry)] else []).filter
      (fun t => decide (t.tag = Tag.vlanMembers)) = [] := by
    split_ifs <;> rfl
  have hnone : identity.filter (fun t => decide (t.tag = Tag.vlanMembers)) = [] := by
    unfold identityTlvs at hidentity
    obtain ⟨_, _, hidentity⟩ := bind_eq_ok.mp hidentity
    obtain ⟨model, hmodel, hidentity⟩ := bind_eq_ok.mp hidentity
    obtain ⟨mac, hmac, hidentity⟩ := bind_eq_ok.mp hidentity
    obtain ⟨portCount, hportCount, hidentity⟩ := bind_eq_ok.mp hidentity
    obtain ⟨serial, hserial, hidentity⟩ := bind_eq_ok.mp hidentity
    obtain ⟨hostname, hhostname, hidentity⟩ := bind_eq_ok.mp hidentity
    obtain ⟨firmware, hfirmware, hidentity⟩ := bind_eq_ok.mp hidentity
    obtain ⟨encpass, hencpass, hidentity⟩ := bind_eq_ok.mp hidentity
    cases hidentity
    simp only [List.filter_append, filter_tag_eq_nil (tag_of_tlvWhen hmodel) (by decide),
      filter_tag_eq_nil (tag_of_tlvWhen hmac) (by decide),
      filter_tag_eq_nil (tag_of_tlvWhen hportCount) (by decide),
      filter_tag_eq_nil (tag_of_tlvWhen hserial) (by decide),
      filter_tag_eq_nil (tag_of_tlvWhen hhostname) (by decide),
      filter_tag_eq_nil (tag_of_tlvWhen hfirmware) (by decide),
      filter_tag_eq_nil (tag_of_tlvWhen hencpass) (by decide), List.append_nil]
  unfold configTlvs at hconfig
  obtain ⟨portStatus, hportStatus, hconfig⟩ := bind_eq_ok.mp hconfig
  obtain ⟨portName, hportName, hconfig⟩ := bind_eq_ok.mp hconfig
  obtain ⟨portStatistics, hportStatistics, hconfig⟩ := bind_eq_ok.mp hconfig
  obtain ⟨vlanMembers, hvlanMembers, hconfig⟩ := bind_eq_ok.mp hconfig
  obtain ⟨portPvid, hportPvid, hconfig⟩ := bind_eq_ok.mp hconfig
  obtain ⟨address, haddress, hconfig⟩ := bind_eq_ok.mp hconfig
  obtain ⟨netmask, hnetmask, hconfig⟩ := bind_eq_ok.mp hconfig
  obtain ⟨gateway, hgateway, hconfig⟩ := bind_eq_ok.mp hconfig
  obtain ⟨dhcp, hdhcp, hconfig⟩ := bind_eq_ok.mp hconfig
  obtain ⟨qos, hqos, hconfig⟩ := bind_eq_ok.mp hconfig
  obtain ⟨mirroring, hmirroring, hconfig⟩ := bind_eq_ok.mp hconfig
  obtain ⟨igmp, higmp, hconfig⟩ := bind_eq_ok.mp hconfig
  obtain ⟨broadcast, hbroadcast, hconfig⟩ := bind_eq_ok.mp hconfig
  obtain ⟨loop, hloop, hconfig⟩ := bind_eq_ok.mp hconfig
  cases hconfig
  -- of all the tables of the answer, only the membership is left by the filter
  obtain ⟨htags, hmap⟩ := @map_tlvRows _ _ _ _ _ _ _ _ hvlanMembers g k (by
    intro e he v hv
    obtain ⟨vid, hvid, hv⟩ := bind_eq_ok.mp hv
    obtain ⟨member, hmember, hv⟩ := bind_eq_ok.mp hv
    obtain ⟨tagged, htagged, hv⟩ := bind_eq_ok.mp hv
    cases hv
    exact hrow e he vid member tagged (orFault_eq_ok.mp hvid) (orFault_eq_ok.mp hmember)
      (orFault_eq_ok.mp htagged))
  have hall : vlanMembers.filter (fun t => decide (t.tag = Tag.vlanMembers)) = vlanMembers :=
    List.filter_eq_self.mpr fun t ht => decide_eq_true (htags t ht)
  simp only [List.filter_append, hnone, hsalt, hall,
    filter_tag_eq_nil (tag_of_tlvRows hportStatus) (by decide),
    filter_tag_eq_nil (tag_of_tlvRows hportName) (by decide),
    filter_tag_eq_nil (tag_of_tlvRows hportStatistics) (by decide),
    filter_tag_eq_nil (tag_of_tlvRows hportPvid) (by decide),
    filter_tag_eq_nil (tag_of_tlvWhen haddress) (by decide),
    filter_tag_eq_nil (tag_of_tlvWhen hnetmask) (by decide),
    filter_tag_eq_nil (tag_of_tlvWhen hgateway) (by decide),
    filter_tag_eq_nil (tag_of_tlvWhen hdhcp) (by decide),
    filter_tag_eq_nil (tag_of_tlvRows hqos) (by decide),
    filter_tag_eq_nil (tag_of_tlvRows hmirroring) (by decide),
    filter_tag_eq_nil (tag_of_tlvRows higmp) (by decide),
    filter_tag_eq_nil (tag_of_tlvRows hbroadcast) (by decide),
    filter_tag_eq_nil (tag_of_tlvRows hloop) (by decide), List.append_nil, List.nil_append]
  exact hmap htag

private theorem mapM_eq_ok {α β : Type} {f : α → Except NsdpFault β} {g : α → β} {rows : List α}
    (h : ∀ r ∈ rows, f r = .ok (g r)) : rows.mapM f = .ok (rows.map g) := by
  induction rows with
  | nil => rfl
  | cons r rows ih =>
    rw [List.mapM_cons, h r List.mem_cons_self, ih fun r hr => h r (List.mem_cons_of_mem _ hr)]
    rfl

/-- The name the face answers for a model: the state's own, or else the registry's. -/
def servedName (s : VirtualSwitchState) : Text :=
  if s.modelName = [] then s.model.displayName else s.modelName

/-- What a reader of the VLAN table is answered. -/
theorem nsdpTlvs_vlans {s : VirtualSwitchState} {name : Bytes}
    (hname : PyCodec.asciiEncode s.servedName = some name) {value : ℤ × VlanSim → Bytes}
    (hrows : ∀ e ∈ s.vlans.sortedItems, ∃ vid member tagged, packInt 2 e.1 = some vid ∧
      portsToBitmap e.2.member (bitmapBytes s.model.portCount) = some member ∧
      portsToBitmap (e.2.member \ e.2.untagged) (bitmapBytes s.model.portCount) = some tagged ∧
      value e = vid ++ member ++ tagged) (salt : Bytes) :
    s.nsdpTlvs salt [Tag.model, Tag.portCount, Tag.vlanMembers] =
      (s, .ok (⟨Tag.model, name⟩ :: ⟨Tag.portCount, [UInt8.ofNat s.model.portCount]⟩ ::
        s.vlans.sortedItems.map fun e => ⟨Tag.vlanMembers, value e⟩)) := by
  have hcount : packInt 1 s.model.portCount = some [UInt8.ofNat s.model.portCount] := by
    have hall : ∀ key : ModelKey,
        packInt 1 (getModel key).portCount = some [UInt8.ofNat (getModel key).portCount] := by
      intro key
      cases key <;> decide
    exact hall s.modelKey
  have hidentity : s.identityTlvs [Tag.model, Tag.portCount, Tag.vlanMembers] =
      .ok [⟨Tag.model, name⟩, ⟨Tag.portCount, [UInt8.ofNat s.model.portCount]⟩] := by
    have hname' : PyCodec.asciiEncode
        (if s.modelName = [] then s.model.displayName else s.modelName) = some name := hname
    unfold identityTlvs
    simp only [hname', hcount, orFault_some, tlvWhen]
    rfl
  have htable : s.vlans.sortedItems.mapM (fun e => (do
      let vid ← orFault .uncaught (packInt 2 e.1)
      let member ← orFault .uncaught (portsToBitmap e.2.member (bitmapBytes s.model.portCount))
      let tagged ← orFault .uncaught
        (portsToBitmap (e.2.member \ e.2.untagged) (bitmapBytes s.model.portCount))
      .ok (vid ++ member ++ tagged)).map fun v => (⟨Tag.vlanMembers, v⟩ : TLVEntry)) =
      .ok (s.vlans.sortedItems.map fun e => ⟨Tag.vlanMembers, value e⟩) := by
    apply mapM_eq_ok
    intro e he
    obtain ⟨vid, member, tagged, hvid, hmember, htagged, hvalue⟩ := hrows e he
    rw [hvid, hmember, htagged, hvalue]
    rfl
  have hconfig : s.configTlvs [Tag.model, Tag.portCount, Tag.vlanMembers] =
      .ok (s.vlans.sortedItems.map fun e => ⟨Tag.vlanMembers, value e⟩) := by
    unfold configTlvs
    simp only [tlvWhen, tlvRows]
    rw [if_pos (by decide : Tag.vlanMembers ∈ [Tag.model, Tag.portCount, Tag.vlanMembers]), htable]
    generalize (s.vlans.sortedItems.map fun e => (⟨Tag.vlanMembers, value e⟩ : TLVEntry)) = rows
    -- every other table is left out
    show (Except.ok ([] ++ [] ++ [] ++ rows ++ [] ++ [] ++ [] ++ [] ++ [] ++ [] ++ [] ++ [] ++ [] ++
      []) : Except NsdpFault (List TLVEntry)) = .ok rows
    simp only [List.append_nil, List.nil_append]
  rw [nsdpTlvs, hidentity]
  dsimp only
  rw [if_neg (by decide), hconfig]
  rfl

/-- Reading the salt draws it. -/
theorem nsdpTlvs_salt {s : VirtualSwitchState} {name : Bytes}
    (hname : PyCodec.asciiEncode s.servedName = some name) (salt : Bytes) :
    s.nsdpTlvs salt [Tag.authV2Salt] =
      ({ s with nsdpLastSalt := some salt }, .ok [⟨Tag.authV2Salt, salt⟩]) := by
  have hidentity : s.identityTlvs [Tag.authV2Salt] = .ok [] := by
    have hname' : PyCodec.asciiEncode
        (if s.modelName = [] then s.model.displayName else s.modelName) = some name := hname
    unfold identityTlvs
    simp only [hname', orFault_some, tlvWhen]
    rfl
  rw [nsdpTlvs, hidentity]
  rfl

end VirtualSwitchState

/-! ## §2 Writing -/

namespace VirtualSwitchState

/-- `apply_nsdp_write`: one config TLV.  Unknown tags are a deliberate no-op. -/
def applyNsdpWrite (s : VirtualSwitchState) (tag : ℕ) (value : Bytes) :
    Except NsdpFault VirtualSwitchState :=
  if tag = Tag.portPvid then
    if value.length < 3 then .error .uncaught
    else .ok { s with pvids := s.pvids.set (value.getD 0 0).toNat (ofBytes (slice value 1 3)) }
  else if tag = Tag.vlanMembers then do
    let m ← orFault .valueError (parseVlanMembers value s.model.portCount)
    let name := ((s.vlans.get? m.vlanId).map VlanSim.name).getD []
    let vsim : VlanSim := { name := name, member := m.memberPorts, untagged := m.untaggedPorts }
    .ok { s with vlans := s.vlans.set m.vlanId vsim }
  else if tag = Tag.vlanDestroy then
    if value.length < 2 then .error .uncaught
    else
      let vid : ℤ := ofBytes (slice value 0 2)
      if vid ∈ s.vlans then
        -- a PVID may not name a VLAN that no longer exists
        .ok { s with
          vlans := s.vlans.pop vid
          pvids := s.pvids.mapValues fun _ pv => if pv = vid then 1 else pv }
      else .ok s
  else if tag = Tag.portName then
    match value with
    | [] => .error .uncaught
    | port :: text =>
      let text := PyCodec.rstripNul (PyCodec.utf8DecodeReplace text)
      .ok { s with ports := s.ports.modify port.toNat fun sim =>
        { sim with description := if text = [] then none else some text } }
  else if tag = Tag.ipAddress then do
    let address ← orFault .uncaught (PyCodec.inetNtoa value)
    .ok { s with mgmt := { s.mgmt with address := address } }
  else if tag = Tag.netmask then do
    let netmask ← orFault .uncaught (PyCodec.inetNtoa value)
    .ok { s with mgmt := { s.mgmt with netmask := netmask } }
  else if tag = Tag.gateway then do
    let gateway ← orFault .uncaught (PyCodec.inetNtoa value)
    .ok { s with mgmt := { s.mgmt with gateway := gateway } }
  else if tag = Tag.dhcpMode then
    .ok { s with mgmt := { s.mgmt with mode := if value.take 1 = [1] then .dhcp else .static } }
  else .ok s

/-- Apply the config TLVs in order, all but those of the auth tag; a TLV that raises keeps
what the ones before it did. -/
def applyConfigTlvs (authTag : ℕ) :
    List TLVEntry → VirtualSwitchState → VirtualSwitchState × Except NsdpFault Unit
  | [], s => (s, .ok ())
  | t :: ts, s =>
    if t.tag = authTag then applyConfigTlvs authTag ts s
    else match s.applyNsdpWrite t.tag t.value with
      | .error fault => (s, .error fault)
      | .ok s' => applyConfigTlvs authTag ts s'

/-! ## §3 The datagram handler -/

/-- The response frame both handlers start from. -/
def responseTo (s : VirtualSwitchState) (op : Op) (req : NSDPPacket) : NSDPPacket where
  op := op
  clientMac := req.clientMac
  serverMac := s.nsdpMac
  sequence := req.sequence

/-- `_read_response`. -/
def readResponse (s : VirtualSwitchState) (salt : Bytes) (req : NSDPPacket) :
    VirtualSwitchState × Except NsdpFault NSDPPacket :=
  let tags := (req.tlvs.map TLVEntry.tag).filter (· ∈ Tag.catalogued)
  let resp := s.responseTo .readResponse req
  if Tag.authV2Password ∈ tags then
    (s, .ok { resp with result := resultReadonly, errorAttr := Tag.authV2Password })
  else
    match s.nsdpTlvs salt tags with
    | (s', .error fault) => (s', .error fault)
    | (s', .ok tlvs) =>
      match tlvs, req.tlvs with
      | [], [t] =>
        -- a sole tag this device does not serve is an error, not an empty success
        if t.tag = Tag.endOfMark then (s', .ok resp)
        else (s', .ok { resp with result := resultReadonly, errorAttr := t.tag })
      | _, _ => (s', .ok { resp with tlvs := tlvs })

/-- `_write_response_v1`. -/
def writeResponseV1 (s : VirtualSwitchState) (req : NSDPPacket) :
    VirtualSwitchState × Except NsdpFault NSDPPacket :=
  match encodePasswordV1 s.nsdpPassword with
  | none => (s, .error .valueError)
  | some expected =>
    let resp := s.responseTo .writeResponse req
    if req.tlvs.any fun t => t.tag = Tag.password ∧ t.value = expected then
      match applyConfigTlvs Tag.password req.tlvs s with
      | (s', .error fault) => (s', .error fault)
      | (s', .ok ()) => (s', .ok { resp with result := resultSuccess })
    else (s, .ok { resp with result := resultBadPassword, errorAttr := Tag.password })

def v2EscalateAt : ℤ := 3
def v2SilenceAt : ℤ := 5

/-- The token the switch expects for its last salt; `none` before any salt was issued. -/
def expectedToken (s : VirtualSwitchState) : Except NsdpFault (Option Bytes) :=
  match s.nsdpLastSalt with
  | none => .ok none
  | some salt =>
    match authV2Password s.nsdpPassword s.nsdpMac salt with
    | .ok token => .ok (some token)
    | .error _ => .error .valueError

/-- The refusal of a wrong token, which blames the request's first TLV. -/
def rejectToken (s : VirtualSwitchState) (req : NSDPPacket) : VirtualSwitchState × NSDPPacket :=
  let failures := s.nsdpAuthFailures + 1
  ({ s with nsdpAuthFailures := failures },
    { s.responseTo .writeResponse req with
      result := if v2EscalateAt < failures then resultLockedV2 else resultBadPasswordV2
      errorAttr := (req.tlvs.head?.map TLVEntry.tag).getD 0 })

/-- `_write_response_v2`: no response at all while the lockout is engaged. -/
def writeResponseV2 (s : VirtualSwitchState) (req : NSDPPacket) :
    VirtualSwitchState × Except NsdpFault (Option NSDPPacket) :=
  if v2SilenceAt < s.nsdpAuthFailures then (s, .ok none)
  else
    let token := firstTlvValue req Tag.authV2Password
    match s.expectedToken with
    | .error fault => (s, .error fault)
    | .ok expected =>
      if token = none ∨ expected = none ∨ token ≠ expected then
        ((s.rejectToken req).1, .ok (some (s.rejectToken req).2))
      else
        match applyConfigTlvs Tag.authV2Password req.tlvs s with
        | (s', .error fault) => (s', .error fault)
        | (s', .ok ()) =>
          ({ s' with nsdpAuthFailures := 0 },
            .ok (some { s.responseTo .writeResponse req with result := resultSuccess }))

/-- `_handle`. -/
def handleNsdp (s : VirtualSwitchState) (salt data : Bytes) :
    VirtualSwitchState × Except NsdpFault (Option NSDPPacket) :=
  match NSDPPacket.decode data with
  | .error _ => (s, .error .valueError)
  | .ok req =>
    match req.op with
    | .readRequest =>
      match s.readResponse salt req with
      | (s', r) => (s', r.map some)
    | .writeRequest =>
      if s.nsdpAuthVersion = encpassV2 then s.writeResponseV2 req
      else
        match s.writeResponseV1 req with
        | (s', r) => (s', r.map some)
    | _ => (s, .ok none)

end VirtualSwitchState

/-- The serving thread: the state it serves, whether it still runs, and how many datagrams it
has taken. -/
structure VirtualNsdpFace where
  state : VirtualSwitchState
  serving : Bool := true
  taken : ℕ := 0

/-- One turn of the serve loop; `urandom` is the salt drawn at each turn. -/
def VirtualNsdpFace.serve (urandom : ℕ → Bytes) (f : VirtualNsdpFace) (data : Bytes) :
    VirtualNsdpFace × Option Bytes :=
  if f.serving then
    match f.state.handleNsdp (urandom f.taken) (data.take 4096) with
    | (s', .error .valueError) => ({ f with state := s', taken := f.taken + 1 }, none)
    | (s', .error .uncaught) => ({ state := s', serving := false, taken := f.taken + 1 }, none)
    | (s', .ok none) => ({ f with state := s', taken := f.taken + 1 }, none)
    | (s', .ok (some resp)) =>
      match resp.encode with
      | some bytes => ({ f with state := s', taken := f.taken + 1 }, some bytes)
      | none => ({ state := s', serving := false, taken := f.taken + 1 }, none)
  else (f, none)

/-! ## §4 Every response answers its request -/

namespace VirtualSwitchState

theorem sequence_readResponse {s s' : VirtualSwitchState} {salt : Bytes} {req resp : NSDPPacket}
    (h : s.readResponse salt req = (s', .ok resp)) : resp.sequence = req.sequence := by
  unfold readResponse at h
  dsimp only at h
  split_ifs at h with hauth
  · cases h
    rfl
  · split at h
    · cases h
    · split at h
      · split_ifs at h
        · cases h
          rfl
        · cases h
          rfl
      · cases h
        rfl

theorem sequence_writeResponseV1 {s s' : VirtualSwitchState} {req resp : NSDPPacket}
    (h : s.writeResponseV1 req = (s', .ok resp)) : resp.sequence = req.sequence := by
  unfold writeResponseV1 at h
  split at h
  · cases h
  · dsimp only at h
    split_ifs at h with hpassword
    · split at h
      · cases h
      · cases h
        rfl
    · cases h
      rfl

theorem sequence_writeResponseV2 {s s' : VirtualSwitchState} {req resp : NSDPPacket}
    (h : s.writeResponseV2 req = (s', .ok (some resp))) : resp.sequence = req.sequence := by
  unfold writeResponseV2 at h
  split_ifs at h with hsilent
  · cases h
  · dsimp only at h
    split at h
    · cases h
    · split_ifs at h with hbad
      · cases h
        rfl
      · split at h
        · cases h
        · cases h
          rfl

/-- Whatever the handler answers carries the request's sequence number. -/
theorem sequence_handleNsdp {s s' : VirtualSwitchState} {salt data : Bytes} {resp : NSDPPacket}
    (h : s.handleNsdp salt data = (s', .ok (some resp))) :
    ∃ req, NSDPPacket.decode data = .ok req ∧ resp.sequence = req.sequence := by
  unfold handleNsdp at h
  split at h
  · cases h
  · next req hreq =>
    refine ⟨req, hreq, ?_⟩
    split at h
    · cases hr : s.readResponse salt req with
      | mk s₁ r =>
        rw [hr] at h
        cases r with
        | error fault => cases h
        | ok p =>
          cases h
          exact sequence_readResponse hr
    · split_ifs at h with hv2
      · exact sequence_writeResponseV2 h
      · cases hr : s.writeResponseV1 req with
        | mk s₁ r =>
          rw [hr] at h
          cases r with
          | error fault => cases h
          | ok p =>
            cases h
            exact sequence_writeResponseV1 hr
    · cases h

end VirtualSwitchState

end NetgearSwitch.Virtual
