import NetgearSwitch.Virtual.ApplyWrite
import NetgearSwitch.Virtual.OidRows

/-!
# The two dispatch chains of SNMP SET

`is_writable_oid` and `apply_write` test the text of an OID against the same columns in two
separate chains.  Here both are taken as they stand, over any text; on the dotted text of an OID
they are the `isWritableOid` and `applyWrite` of the number level.

The tests count every digit character as a digit, where `int` reads decimal digits only and no
more than 4300 of them.  A column that the first chain leaves out on some models therefore still
raises in the second.
-/

namespace NetgearSwitch.Virtual

open Snmp PyText

/-! ## §1 The tests -/

/-- What follows `base` and a dot in the text, where that is a text of digits. -/
def digitsBehind (base : Oid) (oid : Text) : Option Text :=
  (after? (dottedText base ++ ['.']) oid).filter isDigitText

/-- `_is_col(base)`. -/
def isCol (base : Oid) (oid : Text) : Bool := (digitsBehind base oid).isSome

/-- `_tail(base)`. -/
def tailText (base : Oid) (oid : Text) : Except ApplyError (Option ℤ) :=
  match digitsBehind base oid with
  | none => .ok none
  | some rest =>
    match intOfDigits rest with
    | none => .error .valueError
    | some n => .ok (some n)

/-! ## §2 The chains -/

/-- The columns every model has, as `is_writable_oid` lists them. -/
def writableColumns : List Oid :=
  [Snmp.ifAdminStatus, Snmp.ifAlias, pethPsePortTable ++ [3, 1], Snmp.dot1qPvid,
    dot1qVlanStaticEgress, dot1qVlanStaticUntagged, dot1qVlanStaticRowStatus, dot1qVlanStaticName]

/-- The columns that count on a switchport model only. -/
def switchportColumns : List Oid :=
  [fastpathSwitchportMode, fastpathSwitchportAccessVlan, fastpathSwitchportNativeVlan,
    fastpathSwitchportAllowedVlans, fastpathSwitchportTaggedVlans, fastpathSwitchportUntaggedVlans]

/-- The part of `is_writable_oid` for the vendor subtree. -/
def isVendorWritable (v : VendorOids) (oid : Text) : Bool :=
  oid = dottedText v.mgmtWriteAddrUnverified || oid = dottedText v.mgmtWriteNetmaskUnverified ||
    oid = dottedText v.mgmtWriteGatewayUnverified || oid = dottedText v.syslogAdminMode ||
    isCol v.syslogHostStatus oid || oid = dottedText v.dhcpModeUnverified ++ ".0".toList

namespace VirtualSwitchState

/-- `is_writable_oid`. -/
def isWritableOidText (s : VirtualSwitchState) (oid : Text) : Bool :=
  writableColumns.any (isCol · oid) || s.switchportModel && switchportColumns.any (isCol · oid) ||
    ((vendorOids s.model).map (isVendorWritable · oid)).getD false

/-- What `apply_write` asks of a column's row besides its OID. -/
def handles (s : VirtualSwitchState) : Column → Bool
  | .ifAdminStatus port | .ifAlias port => port ∈ s.ports
  | .staticEgress vid | .staticUntagged vid => vid ∈ s.vlans
  | .switchportMode _ | .switchportAccessVlan _ | .switchportNativeVlan _
  | .switchportAllowedVlans _ | .switchportTaggedVlans _ | .switchportUntaggedVlans _ =>
    s.switchportModel
  | _ => true

/-- One column of `apply_write` after another, and then `next`. -/
def applyTails (s : VirtualSwitchState) (oid : Text) (value : SetValue)
    (next : Except ApplyError VirtualSwitchState) :
    List (Oid × (ℤ → Column)) → Except ApplyError VirtualSwitchState
  | [] => next
  | c :: cs =>
    match tailText c.1 oid with
    | .error e => .error e
    | .ok none => s.applyTails oid value next cs
    | .ok (some n) =>
      if s.handles (c.2 n) then s.applyColumn (c.2 n) value
      else s.applyTails oid value next cs

/-- The part of `apply_write` for the vendor subtree. -/
def applyVendor (s : VirtualSwitchState) (v : VendorOids) (oid : Text) (value : SetValue) :
    Except ApplyError VirtualSwitchState :=
  if oid = dottedText v.mgmtWriteAddrUnverified then s.applyColumn .mgmtAddress value
  else if oid = dottedText v.mgmtWriteNetmaskUnverified then s.applyColumn .mgmtNetmask value
  else if oid = dottedText v.mgmtWriteGatewayUnverified then s.applyColumn .mgmtGateway value
  else if oid = dottedText v.dhcpModeUnverified ++ ".0".toList then s.applyColumn .dhcpMode value
  else if oid = dottedText v.syslogAdminMode then s.applyColumn .syslogAdminMode value
  else
    match tailText v.syslogHostStatus oid with
    | .error e => .error e
    | .ok none => .ok s
    | .ok (some index) => s.applyColumn (.syslogHostStatus index) value

/-- The end of `apply_write`. -/
def applyVendorPart (s : VirtualSwitchState) (oid : Text) (value : SetValue) :
    Except ApplyError VirtualSwitchState :=
  match vendorOids s.model with
  | none => .ok s
  | some v => s.applyVendor v oid value

/-- `apply_write`. -/
def applyWriteText (s : VirtualSwitchState) (oid : Text) (value : SetValue) :
    Except ApplyError VirtualSwitchState :=
  s.applyTails oid value (s.applyVendorPart oid value) tailColumns

end VirtualSwitchState

/-! ## §3 Which texts a column recognises -/

theorem digitsBehind_eq_some {base : Oid} (hbase : base ≠ []) {oid rest : Text} :
    digitsBehind base oid = some rest ↔
      oid = joinDot (oidParts base ++ [rest]) ∧ isDigitText rest = true := by
  have hparts : oidParts base ≠ [] := by simpa [oidParts] using hbase
  have hjoin : dottedText base ++ ['.'] ++ rest = joinDot (oidParts base ++ [rest]) := by
    rw [joinDot_concat hparts, List.append_assoc]
    rfl
  rw [digitsBehind, Option.filter_eq_some_iff, ← hjoin]
  constructor
  · rintro ⟨hafter, hdigits⟩
    exact ⟨eq_append_of_after? hafter, hdigits⟩
  · rintro ⟨rfl, hdigits⟩
    exact ⟨after?_append _ _, hdigits⟩

theorem isAnyDigit_dot : isAnyDigit '.' = false := by decide

theorem not_mem_of_isDigitText {t : Text} (h : isDigitText t = true) : '.' ∉ t := by
  intro hmem
  rw [isDigitText, Bool.and_eq_true, List.all_eq_true] at h
  have hdot := h.2 '.' hmem
  rw [isAnyDigit_dot] at hdot
  exact Bool.false_ne_true hdot

/-- Two lists of parts without dots are told apart by their texts. -/
theorem joinDot_inj {ps qs : List Text} (hps : ps ≠ []) (hqs : qs ≠ []) (hp : ∀ p ∈ ps, '.' ∉ p)
    (hq : ∀ q ∈ qs, '.' ∉ q) (h : joinDot ps = joinDot qs) : ps = qs := by
  rw [← splitOn_joinDot hps hp, h, splitOn_joinDot hqs hq]

theorem oidParts_injective : Function.Injective oidParts :=
  List.map_injective_iff.mpr natText_injective

private theorem noDot_concat (base : Oid) {rest : Text} (h : isDigitText rest = true) :
    ∀ p ∈ oidParts base ++ [rest], '.' ∉ p := by
  intro p hp
  rcases List.mem_append.mp hp with hp | hp
  · exact not_mem_oidParts hp
  · rw [List.mem_singleton.mp hp]
    exact not_mem_of_isDigitText h

/-- A text is recognised by one column only. -/
theorem base_unique {base base' : Oid} (hbase : base ≠ []) (hbase' : base' ≠ [])
    {oid rest rest' : Text} (h : digitsBehind base oid = some rest)
    (h' : digitsBehind base' oid = some rest') : base = base' := by
  obtain ⟨rfl, hdigits⟩ := (digitsBehind_eq_some hbase).mp h
  obtain ⟨heq, hdigits'⟩ := (digitsBehind_eq_some hbase').mp h'
  have hparts := joinDot_inj (by simp) (by simp) (noDot_concat base hdigits)
    (noDot_concat base' hdigits') heq
  exact oidParts_injective (List.append_inj_left' hparts rfl)

/-- A recognised text is no OID that ends elsewhere. -/
theorem ne_dottedText {base w : Oid} (hbase : base ≠ []) {oid rest : Text}
    (h : digitsBehind base oid = some rest) (hw : w.dropLast ≠ base) : oid ≠ dottedText w := by
  rintro rfl
  obtain ⟨heq, hdigits⟩ := (digitsBehind_eq_some hbase).mp h
  have hne : w ≠ [] := by
    rintro rfl
    have hlength := congrArg List.length heq
    rw [joinDot_concat (by simpa [oidParts] using hbase)] at hlength
    simp [dottedText] at hlength
  have hparts : oidParts w = oidParts base ++ [rest] :=
    joinDot_inj (by simpa [oidParts] using hne) (by simp) (fun _ hp => not_mem_oidParts hp)
      (noDot_concat base hdigits) heq
  have hdrop : (oidParts w).dropLast = oidParts base := by rw [hparts, List.dropLast_concat]
  rw [oidParts, ← List.map_dropLast] at hdrop
  exact hw (oidParts_injective hdrop)

theorem tailText_of_none {base : Oid} {oid : Text} (h : digitsBehind base oid = none) :
    tailText base oid = .ok none := by
  rw [tailText, h]

/-! ## §4 Walking down the chains -/

namespace VirtualSwitchState

variable {s : VirtualSwitchState} {oid : Text} {value : SetValue}
  {next : Except ApplyError VirtualSwitchState} {cs : List (Oid × (ℤ → Column))}

theorem applyTails_of_none (h : ∀ c ∈ cs, digitsBehind c.1 oid = none) :
    s.applyTails oid value next cs = next := by
  induction cs with
  | nil => rfl
  | cons c cs ih =>
    rw [applyTails, tailText_of_none (h c List.mem_cons_self)]
    exact ih fun d hd => h d (List.mem_cons_of_mem _ hd)

/-- What the column that recognises the text makes of it. -/
def columnResult (s : VirtualSwitchState) (c : Oid × (ℤ → Column)) (rest : Text) (value : SetValue)
    (next : Except ApplyError VirtualSwitchState) : Except ApplyError VirtualSwitchState :=
  match intOfDigits rest with
  | none => .error .valueError
  | some n => if s.handles (c.2 n) then s.applyColumn (c.2 n) value else next

/-- The chain ends at the one column that recognises the text. -/
theorem applyTails_of_some (hnodup : (cs.map Prod.fst).Nodup) (hne : ∀ c ∈ cs, c.1 ≠ [])
    {c : Oid × (ℤ → Column)} (hc : c ∈ cs) {rest : Text} (h : digitsBehind c.1 oid = some rest) :
    s.applyTails oid value next cs = s.columnResult c rest value next := by
  induction cs with
  | nil => cases hc
  | cons d cs ih =>
    obtain ⟨hd, hcs⟩ := List.nodup_cons.mp (List.map_cons ▸ hnodup)
    have hother : ∀ e ∈ cs, e.1 ≠ d.1 := fun e he heq => hd (heq ▸ List.mem_map_of_mem he)
    rcases List.mem_cons.mp hc with rfl | hc
    · have hnext : s.applyTails oid value next cs = next := by
        apply applyTails_of_none
        intro e he
        cases hrest : digitsBehind e.1 oid with
        | none => rfl
        | some rest' =>
          exact absurd (base_unique (hne e (List.mem_cons_of_mem _ he))
            (hne c List.mem_cons_self) hrest h) (hother e he)
      rw [applyTails, tailText, columnResult]
      cases hint : intOfDigits rest with
      | none => simp only [h, hint]
      | some n => simp only [h, hint, hnext]
    · have hnone : digitsBehind d.1 oid = none := by
        cases hrest : digitsBehind d.1 oid with
        | none => rfl
        | some rest' =>
          exact absurd (base_unique (hne c (List.mem_cons_of_mem _ hc))
            (hne d List.mem_cons_self) h hrest) (hother c hc)
      rw [applyTails, tailText_of_none hnone]
      exact ih hcs (fun e he => hne e (List.mem_cons_of_mem _ he)) hc

end VirtualSwitchState

/-! ## §5 Numeric OIDs -/

theorem eq_of_tail {base oid : Oid} {n : ℤ} (h : tail base oid = some n) :
    ∃ k : ℕ, n = k ∧ oid = base ++ [k] := by
  induction base generalizing oid with
  | nil =>
    match oid, h with
    | [k], h => exact ⟨k, (Option.some_injective _ h).symm, rfl⟩
  | cons b base ih =>
    cases oid with
    | nil => cases h
    | cons o oid =>
      rw [tail] at h
      split_ifs at h with hbo
      obtain ⟨k, hk, rfl⟩ := ih h
      exact ⟨k, hk, by rw [hbo, List.cons_append]⟩

/-- The arcs are small enough for `int` to read them. -/
def ReadableArcs (oid : Oid) : Prop := ∀ n ∈ oid, (natText n).length ≤ 4300

/-- 32-bit arcs, as SNMP has them. -/
theorem readableArcs_of_lt {oid : Oid} (h : ∀ n ∈ oid, n < 2 ^ 32) : ReadableArcs oid := by
  intro n hn
  have hlt : n < 10 ^ 10 := (h n hn).trans (by decide)
  exact (length_natText_le (by decide) hlt).trans (by decide)

theorem digitsBehind_concat {base : Oid} (hbase : base ≠ []) (k : ℕ) :
    digitsBehind base (dottedText (base ++ [k])) = some (natText k) := by
  refine (digitsBehind_eq_some hbase).mpr ⟨?_, isDigitText_natText k⟩
  rw [dottedText, List.map_append]
  rfl

theorem oid_eq_concat {base oid : Oid} (hbase : base ≠ []) (hoid : oid ≠ []) {rest : Text}
    (h : digitsBehind base (dottedText oid) = some rest) : ∃ k, oid = base ++ [k] := by
  obtain ⟨heq, hdigits⟩ := (digitsBehind_eq_some hbase).mp h
  have hparts : oidParts oid = oidParts base ++ [rest] :=
    joinDot_inj (by simpa [oidParts] using hoid) (by simp) (fun _ hp => not_mem_oidParts hp)
      (noDot_concat base hdigits) heq
  obtain ⟨front, last, rfl⟩ := (List.eq_nil_or_concat oid).resolve_left hoid
  rw [oidParts, List.concat_eq_append, List.map_append] at hparts
  have hfront := oidParts_injective (List.append_inj_left' hparts rfl)
  exact ⟨last, by rw [List.concat_eq_append, hfront]⟩

/-- On the text of an OID the two readings of its last arc agree. -/
theorem tailText_dottedText {base oid : Oid} (hbase : base ≠ []) (hoid : oid ≠ [])
    (harcs : ReadableArcs oid) : tailText base (dottedText oid) = .ok (tail base oid) := by
  cases hbehind : digitsBehind base (dottedText oid) with
  | none =>
    rw [tailText_of_none hbehind]
    cases htail : tail base oid with
    | none => rfl
    | some n =>
      obtain ⟨k, _, rfl⟩ := eq_of_tail htail
      cases hbehind.symm.trans (digitsBehind_concat hbase k)
  | some rest =>
    obtain ⟨k, rfl⟩ := oid_eq_concat hbase hoid hbehind
    have hk : (natText k).length ≤ 4300 := harcs k (by simp)
    rw [tailText, digitsBehind_concat hbase, tail_append]
    simp only [intOfDigits_natText hk]

/-! ## §6 The rows a write is confined to -/

/-- The VLAN of a per-VLAN column. -/
def Column.vid? : Column → Option ℤ
  | .staticEgress vid | .staticUntagged vid | .staticRowStatus vid | .staticName vid => some vid
  | _ => none

/-- The port of a per-port column. -/
def Column.port? : Column → Option ℤ
  | .ifAdminStatus port | .ifAlias port | .pethPsePortAdmin port | .dot1qPvid port
  | .switchportMode port | .switchportAccessVlan port | .switchportNativeVlan port
  | .switchportAllowedVlans port | .switchportTaggedVlans port
  | .switchportUntaggedVlans port => some port
  | _ => none

/-- Apart from the VLAN `vid` nothing changed but the record of this PDU's egress writes. -/
structure VlanConfined (s : VirtualSwitchState) (vid : ℤ) (s' : VirtualSwitchState) : Prop where
  rest : ∃ vlans writes, s' = { s with vlans := vlans, pduEgressWrites := writes }
  others : ∀ v, v ≠ vid → s'.vlans.get? v = s.vlans.get? v

/-- Apart from the rows of the port nothing changed. -/
structure PortConfined (s : VirtualSwitchState) (port : ℤ) (s' : VirtualSwitchState) : Prop where
  rest : ∃ ports pvids poe, s' = { s with ports := ports, pvids := pvids, poe := poe }
  others : ∀ q, q ≠ port → s'.ports.get? q = s.ports.get? q ∧ s'.pvids.get? q = s.pvids.get? q ∧
    s'.poe.get? q = s.poe.get? q

section Confined

variable {s s' : VirtualSwitchState} {vid port : ℤ} {value : SetValue}

theorem VlanConfined.refl (s : VirtualSwitchState) (vid : ℤ) : VlanConfined s vid s :=
  ⟨⟨s.vlans, s.pduEgressWrites, rfl⟩, fun _ _ => rfl⟩

theorem PortConfined.refl (s : VirtualSwitchState) (port : ℤ) : PortConfined s port s :=
  ⟨⟨s.ports, s.pvids, s.poe, rfl⟩, fun _ _ => ⟨rfl, rfl, rfl⟩⟩

/-- One VLAN's row set. -/
theorem VlanConfined.set (s : VirtualSwitchState) (vid : ℤ) (vsim : VlanSim)
    (writes : Finset ℤ) :
    VlanConfined s vid { s with vlans := s.vlans.set vid vsim, pduEgressWrites := writes } :=
  ⟨⟨_, _, rfl⟩, fun _ hv => PyDict.get?_set_ne s.vlans vsim hv⟩

/-- One port's rows changed, its PVID apart. -/
theorem PortConfined.modify (s : VirtualSwitchState) (port : ℤ) {ports : PyDict ℤ PortSim}
    {poe : PyDict ℤ PoeSim} (hports : ∀ q, q ≠ port → ports.get? q = s.ports.get? q)
    (hpoe : ∀ q, q ≠ port → poe.get? q = s.poe.get? q) :
    PortConfined s port { s with ports := ports, poe := poe } :=
  ⟨⟨ports, s.pvids, poe, rfl⟩, fun q hq => ⟨hports q hq, rfl, hpoe q hq⟩⟩

theorem vlanConfined_of_applyStaticEgress (hmodel : s.switchportModel = false)
    (h : s.applyStaticEgress vid value = .ok s') : VlanConfined s vid s' := by
  unfold VirtualSwitchState.applyStaticEgress at h
  split at h
  · cases h
    exact .refl s vid
  · next vsim hvid =>
    obtain ⟨s₁, hs₁, hrest⟩ := bind_eq_ok.mp h
    obtain ⟨octets, _, hok⟩ := bind_eq_ok.mp hrest
    have heq := VirtualSwitchState.rejectIfReadonlyQbridge_eq_ok hs₁
    rw [hmodel, if_neg Bool.false_ne_true] at heq
    rw [heq] at hok
    dsimp only at hok
    rw [hmodel, if_neg Bool.false_ne_true] at hok
    split_ifs at hok
    · cases hok
      exact .set s vid _ _
    · cases hok
      exact .set s vid _ s.pduEgressWrites

theorem vlanConfined_of_applyStaticUntagged (h : s.applyStaticUntagged vid value = .ok s') :
    VlanConfined s vid s' := by
  unfold VirtualSwitchState.applyStaticUntagged at h
  split at h
  · cases h
    exact .refl s vid
  · split_ifs at h
    · cases h
      exact .refl s vid
    · obtain ⟨octets, _, hok⟩ := bind_eq_ok.mp h
      cases hok
      exact .set s vid _ s.pduEgressWrites

/-- A write of a per-VLAN column stays with its VLAN. -/
theorem vlanConfined_of_applyColumn {c : Column} (hmodel : s.switchportModel = false)
    (hc : c.vid? = some vid) (h : s.applyColumn c value = .ok s') : VlanConfined s vid s' := by
  cases c with
  | staticEgress v =>
    cases hc
    exact vlanConfined_of_applyStaticEgress hmodel h
  | staticUntagged v =>
    cases hc
    exact vlanConfined_of_applyStaticUntagged h
  | staticRowStatus v =>
    cases hc
    obtain ⟨n, _, h⟩ := bind_eq_ok.mp h
    by_cases hdestroy : n = rowStatusDestroy
    · rw [if_pos hdestroy] at h
      cases h
      refine ⟨⟨_, s.pduEgressWrites, rfl⟩, fun v hv => ?_⟩
      exact (PyDict.get?_pop s.vlans vid v).trans (if_neg hv)
    · rw [if_neg hdestroy] at h
      by_cases hvid : vid ∈ s.vlans
      · rw [if_pos hvid] at h
        cases h
        exact .refl s vid
      · rw [if_neg hvid] at h
        obtain ⟨_, _, hok⟩ := bind_eq_ok.mp h
        split_ifs at hok
        · cases hok
          exact .set s vid _ s.pduEgressWrites
        · cases hok
          exact .refl s vid
  | staticName v =>
    cases hc
    simp only [VirtualSwitchState.applyColumn] at h
    split at h
    · cases h
      exact .set s vid _ s.pduEgressWrites
    · obtain ⟨_, _, hok⟩ := bind_eq_ok.mp h
      cases hok
      exact .set s vid _ s.pduEgressWrites
  | _ => cases hc

theorem portConfined_applyPoeAdmin (s : VirtualSwitchState) (port : ℤ) (on : Bool) :
    PortConfined s port (s.applyPoeAdmin port on) := by
  unfold VirtualSwitchState.applyPoeAdmin
  split
  · exact .refl s port
  · refine .modify s port (fun q hq => ?_) fun q hq => PyDict.get?_set_ne s.poe _ hq
    split_ifs
    · rfl
    · exact (PyDict.get?_modify s.ports port q _).trans (if_neg hq)

/-- A write of a per-port column stays with its port: off the switchport models the switchport
columns do nothing. -/
theorem portConfined_of_applyColumn {c : Column} (hmodel : s.switchportModel = false)
    (hc : c.port? = some port) (h : s.applyColumn c value = .ok s') : PortConfined s port s' := by
  cases c with
  | ifAdminStatus p =>
    cases hc
    simp only [VirtualSwitchState.applyColumn] at h
    split_ifs at h
    · obtain ⟨n, _, hok⟩ := bind_eq_ok.mp h
      cases hok
      exact .modify s port (fun q hq => (PyDict.get?_modify s.ports port q _).trans (if_neg hq))
        fun _ _ => rfl
    · cases h
      exact .refl s port
  | ifAlias p =>
    cases hc
    simp only [VirtualSwitchState.applyColumn] at h
    by_cases hport : port ∈ s.ports
    · rw [if_pos hport] at h
      cases h
      exact .modify s port (fun q hq => (PyDict.get?_modify s.ports port q _).trans (if_neg hq))
        fun _ _ => rfl
    · rw [if_neg hport] at h
      cases h
      exact .refl s port
  | pethPsePortAdmin p =>
    cases hc
    obtain ⟨n, _, hok⟩ := bind_eq_ok.mp h
    cases hok
    exact portConfined_applyPoeAdmin s port _
  | dot1qPvid p =>
    cases hc
    obtain ⟨n, _, hok⟩ := bind_eq_ok.mp h
    cases hok
    exact ⟨⟨s.ports, _, s.poe, rfl⟩, fun q hq => ⟨rfl, PyDict.get?_set_ne s.pvids n hq, rfl⟩⟩
  | switchportMode p | switchportAccessVlan p | switchportNativeVlan p
  | switchportAllowedVlans p | switchportTaggedVlans p | switchportUntaggedVlans p =>
    simp only [VirtualSwitchState.applyColumn, hmodel, Bool.false_eq_true, if_false] at h
    cases h
    exact .refl s port
  | _ => cases hc

end Confined

/-! ## §7 Both chains together -/

/-- The OIDs of the vendor subtree that are tested as a whole. -/
def vendorScalars (v : VendorOids) : List Oid :=
  [v.mgmtWriteAddrUnverified, v.mgmtWriteNetmaskUnverified, v.mgmtWriteGatewayUnverified,
    v.dhcpModeUnverified ++ [0], v.syslogAdminMode]

theorem dottedText_dhcpMode (v : VendorOids) :
    dottedText v.dhcpModeUnverified ++ ".0".toList = dottedText (v.dhcpModeUnverified ++ [0]) := by
  have hne : oidParts v.dhcpModeUnverified ≠ [] := by
    simp [oidParts, VendorOids.dhcpModeUnverified]
  have hparts : oidParts (v.dhcpModeUnverified ++ [0]) = oidParts v.dhcpModeUnverified ++ [['0']] := by
    have hzero : natText 0 = ['0'] := by simp [natText, digitChar]
    rw [oidParts, List.map_append, List.map_singleton, hzero]
    rfl
  show _ = joinDot (oidParts (v.dhcpModeUnverified ++ [0]))
  rw [hparts, joinDot_concat hne]
  rfl

theorem tailColumns_ne_nil : ∀ c ∈ tailColumns, c.1 ≠ [] := by decide

theorem nodup_tailColumns : (tailColumns.map Prod.fst).Nodup := by decide

/-- Both chains name the same columns. -/
theorem mem_tailColumns_iff {base : Oid} : (∃ c ∈ tailColumns, c.1 = base) ↔
    base ∈ writableColumns ∨ base ∈ switchportColumns := by
  have hto : ∀ c ∈ tailColumns, c.1 ∈ writableColumns ∨ c.1 ∈ switchportColumns := by decide
  have hfrom : ∀ base ∈ writableColumns ++ switchportColumns, ∃ c ∈ tailColumns, c.1 = base := by
    decide
  constructor
  · rintro ⟨c, hc, rfl⟩
    exact hto c hc
  · intro h
    exact hfrom base (List.mem_append.mpr h)

theorem disjoint_columns : ∀ base ∈ switchportColumns, base ∉ writableColumns := by decide

/-- The vendor subtree claims no text that one of the columns recognises. -/
theorem isVendorWritable_of_tail {s : VirtualSwitchState} {v : VendorOids}
    (hv : vendorOids s.model = some v) {c : Oid × (ℤ → Column)} (hc : c ∈ tailColumns)
    {oid rest : Text} (h : digitsBehind c.1 oid = some rest) : isVendorWritable v oid = false := by
  have hapart : (∀ w ∈ vendorScalars v, w.dropLast ≠ c.1) ∧ v.syslogHostStatus ≠ c.1 := by
    have hbases : ∀ base ∈ [fmBase, smpBase], ∀ c ∈ tailColumns,
        (∀ w ∈ vendorScalars ⟨base⟩, w.dropLast ≠ c.1) ∧
          (VendorOids.mk base).syslogHostStatus ≠ c.1 := by decide
    obtain ⟨base, hbase, rfl⟩ := Option.map_eq_some_iff.mp hv
    exact hbases base (by simpa using vendorBase_eq hbase ⟨s.modelKey, rfl⟩) c hc
  have hne := tailColumns_ne_nil c hc
  have hscalar : ∀ w ∈ vendorScalars v, oid ≠ dottedText w := fun w hw =>
    ne_dottedText hne h (hapart.1 w hw)
  have hhost : isCol v.syslogHostStatus oid = false := by
    rw [isCol, Option.isSome_eq_false_iff, Option.isNone_iff_eq_none]
    cases hrest : digitsBehind v.syslogHostStatus oid with
    | none => rfl
    | some rest' =>
      exact absurd (base_unique (by simp [VendorOids.syslogHostStatus]) hne hrest h) hapart.2
  rw [isVendorWritable, dottedText_dhcpMode, hhost]
  simp only [vendorScalars, List.forall_mem_cons, List.not_mem_nil, false_implies, implies_true,
    and_true] at hscalar
  obtain ⟨haddr, hmask, hgateway, hdhcp, hsyslog⟩ := hscalar
  simp only [haddr, hmask, hgateway, hdhcp, hsyslog, decide_false, Bool.or_false]

namespace VirtualSwitchState

variable {s s' : VirtualSwitchState} {oid : Text} {value : SetValue}

theorem applyVendor_of_not_writable {v : VendorOids} (h : isVendorWritable v oid = false) :
    s.applyVendor v oid value = .ok s := by
  simp only [isVendorWritable, Bool.or_eq_false_iff, decide_eq_false_iff_not] at h
  obtain ⟨⟨⟨⟨⟨haddr, hmask⟩, hgateway⟩, hsyslog⟩, hhost⟩, hdhcp⟩ := h
  rw [isCol, Option.isSome_eq_false_iff, Option.isNone_iff_eq_none] at hhost
  rw [applyVendor, if_neg haddr, if_neg hmask, if_neg hgateway, if_neg hdhcp, if_neg hsyslog,
    tailText_of_none hhost]

theorem applyVendorPart_of_not_writable
    (h : ((vendorOids s.model).map (isVendorWritable · oid)).getD false = false) :
    s.applyVendorPart oid value = .ok s := by
  unfold applyVendorPart
  cases hv : vendorOids s.model with
  | none => rfl
  | some v =>
    rw [hv] at h
    exact applyVendor_of_not_writable h

/-- A column that recognises the text decides the write. -/
theorem applyWriteText_of_some {c : Oid × (ℤ → Column)} (hc : c ∈ tailColumns) {rest : Text}
    (h : digitsBehind c.1 oid = some rest) :
    s.applyWriteText oid value = s.columnResult c rest value (.ok s) := by
  have hvendor : s.applyVendorPart oid value = .ok s := by
    apply applyVendorPart_of_not_writable
    cases hv : vendorOids s.model with
    | none => rfl
    | some v => exact isVendorWritable_of_tail hv hc h
  rw [applyWriteText, applyTails_of_some nodup_tailColumns tailColumns_ne_nil hc h, hvendor]

/-- The text names a switchport column, by digits that `int` refuses, on a model without the
switchport table. -/
def StrayDigits (s : VirtualSwitchState) (oid : Text) : Prop :=
  s.switchportModel = false ∧ ∃ base ∈ switchportColumns, ∃ rest,
    digitsBehind base oid = some rest ∧ intOfDigits rest = none

theorem isWritableOidText_eq_false : s.isWritableOidText oid = false ↔
    (∀ base ∈ writableColumns, digitsBehind base oid = none) ∧
      (s.switchportModel = true → ∀ base ∈ switchportColumns, digitsBehind base oid = none) ∧
      ((vendorOids s.model).map (isVendorWritable · oid)).getD false = false := by
  have hany : ∀ bases : List Oid, bases.any (isCol · oid) = false ↔
      ∀ base ∈ bases, digitsBehind base oid = none := by
    intro bases
    rw [List.any_eq_false]
    simp only [isCol, Option.not_isSome_iff_eq_none]
  rw [isWritableOidText, Bool.or_eq_false_iff, Bool.or_eq_false_iff, Bool.and_eq_false_imp, hany,
    hany, and_assoc]

/-- The switchport columns count on a switchport model only. -/
theorem handles_switchport {c : Oid × (ℤ → Column)} (hc : c ∈ tailColumns)
    (hbase : c.1 ∈ switchportColumns) (n : ℤ) : s.handles (c.2 n) = s.switchportModel := by
  simp only [tailColumns, List.mem_cons, List.not_mem_nil, or_false] at hc
  rcases hc with rfl | rfl | rfl | rfl | rfl | rfl | rfl | rfl | rfl | rfl | rfl | rfl | rfl | rfl
  -- the six switchport columns stand in the middle of the chain
  iterate 6 exact absurd hbase (by decide)
  iterate 6 rfl
  iterate 2 exact absurd hbase (by decide)

/-- A text the first chain does not know is left alone by the second, stray digits apart. -/
theorem applyWriteText_of_not_writable (h : s.isWritableOidText oid = false)
    (hstray : ¬ s.StrayDigits oid) : s.applyWriteText oid value = .ok s := by
  obtain ⟨hplain, hswitchport, hvendor⟩ := isWritableOidText_eq_false.mp h
  by_cases hcol : ∃ c ∈ tailColumns, (digitsBehind c.1 oid).isSome
  · obtain ⟨c, hc, hsome⟩ := hcol
    obtain ⟨rest, hrest⟩ := Option.isSome_iff_exists.mp hsome
    have hbase : c.1 ∈ switchportColumns := by
      rcases mem_tailColumns_iff.mp ⟨c, hc, rfl⟩ with hbase | hbase
      · cases (hplain c.1 hbase).symm.trans hrest
      · exact hbase
    have hmodel : s.switchportModel = false := by
      rw [← Bool.not_eq_true]
      intro hmodel
      cases (hswitchport hmodel c.1 hbase).symm.trans hrest
    rw [applyWriteText_of_some hc hrest, columnResult]
    cases hint : intOfDigits rest with
    | none => exact absurd ⟨hmodel, c.1, hbase, rest, hrest, hint⟩ hstray
    | some n =>
      dsimp only
      rw [handles_switchport hc hbase, hmodel, if_neg Bool.false_ne_true]
  · push Not at hcol
    rw [applyWriteText, applyTails_of_none, applyVendorPart_of_not_writable hvendor]
    intro c hc
    exact Option.not_isSome_iff_eq_none.mp (hcol c hc)

/-- Stray digits: unknown to the first chain, and the second one raises. -/
theorem StrayDigits.raises (h : s.StrayDigits oid) (value : SetValue) :
    s.isWritableOidText oid = false ∧ s.applyWriteText oid value = .error .valueError := by
  obtain ⟨hmodel, base, hbase, rest, hrest, hint⟩ := h
  obtain ⟨c, hc, rfl⟩ := mem_tailColumns_iff.mpr (Or.inr hbase)
  constructor
  · refine isWritableOidText_eq_false.mpr ⟨fun base' hbase' => ?_, fun hmodel' => ?_, ?_⟩
    · cases hrest' : digitsBehind base' oid with
      | none => rfl
      | some rest' =>
        obtain ⟨c', hc', rfl⟩ := mem_tailColumns_iff.mpr (Or.inl hbase')
        have heq := base_unique (tailColumns_ne_nil c' hc') (tailColumns_ne_nil c hc) hrest' hrest
        exact absurd (heq ▸ hbase') (disjoint_columns c.1 hbase)
    · rw [hmodel] at hmodel'
      exact absurd hmodel' Bool.false_ne_true
    · cases hv : vendorOids s.model with
      | none => rfl
      | some v => exact isVendorWritable_of_tail hv hc hrest
  · rw [applyWriteText_of_some hc hrest, columnResult, hint]

/-- An accepted write of a column is confined to the row its OID names. -/
theorem confined_of_applyWriteText (hmodel : s.switchportModel = false)
    (h : s.applyWriteText oid value = .ok s') {c : Oid × (ℤ → Column)} (hc : c ∈ tailColumns)
    {n : ℤ} (hn : tailText c.1 oid = .ok (some n)) :
    (∀ vid, (c.2 n).vid? = some vid → VlanConfined s vid s') ∧
      ∀ port, (c.2 n).port? = some port → PortConfined s port s' := by
  obtain ⟨rest, hrest, hint⟩ : ∃ rest, digitsBehind c.1 oid = some rest ∧
      (intOfDigits rest).map (fun k : ℕ => (k : ℤ)) = some n := by
    unfold tailText at hn
    split at hn
    · cases hn
    · next rest hrest =>
      split at hn
      · cases hn
      · next k hk =>
        cases hn
        exact ⟨rest, hrest, by rw [hk, Option.map_some]⟩
  obtain ⟨k, hk, rfl⟩ := Option.map_eq_some_iff.mp hint
  rw [applyWriteText_of_some hc hrest, columnResult, hk] at h
  dsimp only at h
  split_ifs at h
  · exact ⟨fun vid hvid => vlanConfined_of_applyColumn hmodel hvid h,
      fun port hport => portConfined_of_applyColumn hmodel hport h⟩
  · cases h
    exact ⟨fun vid _ => .refl s vid, fun port _ => .refl s port⟩

/-- **What the two chains agree on.**  A text that `is_writable_oid` refuses is left alone by
`apply_write`, and off the switchport models an accepted write is confined to the row its OID
names: all of this exactly where the text does not name a switchport column by digits that `int`
refuses. -/
theorem writableAgrees_iff (s : VirtualSwitchState) (oid : Text) (value : SetValue) :
    ((s.isWritableOidText oid = false → s.applyWriteText oid value = .ok s) ∧
      (s.switchportModel = false → ∀ s', s.applyWriteText oid value = .ok s' →
        ∀ c ∈ tailColumns, ∀ n, tailText c.1 oid = .ok (some n) →
          (∀ vid, (c.2 n).vid? = some vid → VlanConfined s vid s') ∧
          ∀ port, (c.2 n).port? = some port → PortConfined s port s')) ↔ ¬ s.StrayDigits oid := by
  constructor
  · rintro ⟨hagree, _⟩ hstray
    obtain ⟨hwritable, hraises⟩ := hstray.raises value
    cases (hagree hwritable).symm.trans hraises
  · intro hstray
    refine ⟨fun hwritable => applyWriteText_of_not_writable hwritable hstray, ?_⟩
    intro hmodel s' h c hc n hn
    exact confined_of_applyWriteText hmodel h hc hn

/-- The mode of port "²" on a switch without the switchport table. -/
theorem writableAgrees_superscript :
    ({ modelKey := .gsm7252ps } : VirtualSwitchState).isWritableOidText
        (dottedText fastpathSwitchportMode ++ ".²".toList) = false ∧
      ({ modelKey := .gsm7252ps } : VirtualSwitchState).applyWriteText
        (dottedText fastpathSwitchportMode ++ ".²".toList) (.int 1) = .error .valueError := by
  have hdigits : digitsBehind fastpathSwitchportMode
      (dottedText fastpathSwitchportMode ++ ".²".toList) = some "²".toList := by
    refine (digitsBehind_eq_some (by decide)).mpr ⟨?_, by decide⟩
    exact (joinDot_concat (by decide) _).symm
  have hstray : ({ modelKey := .gsm7252ps } : VirtualSwitchState).StrayDigits
      (dottedText fastpathSwitchportMode ++ ".²".toList) :=
    ⟨by decide, fastpathSwitchportMode, by decide, "²".toList, hdigits, by decide⟩
  exact hstray.raises (.int 1)

end VirtualSwitchState

/-! ## §8 The number level -/

theorem dottedText_inj {oid w : Oid} (hoid : oid ≠ []) (hw : w ≠ []) :
    dottedText oid = dottedText w ↔ oid = w := by
  constructor
  · intro h
    exact oidParts_injective (joinDot_inj (by simpa [oidParts] using hoid)
      (by simpa [oidParts] using hw) (fun _ hp => not_mem_oidParts hp)
      (fun _ hp => not_mem_oidParts hp) h)
  · rintro rfl
    rfl

/-- A per-instance column that an OID names is the one the dispatch finds. -/
theorem column_of_tail (m : SwitchModel) {oid : Oid} {c : Oid × (ℤ → Column)}
    (hc : c ∈ tailColumns) {n : ℤ} (h : tail c.1 oid = some n) : column m oid = some (c.2 n) := by
  have hfind : tailColumns.findSome? (fun c => (tail c.1 oid).map c.2) = some (c.2 n) := by
    cases hfirst : tailColumns.findSome? (fun c => (tail c.1 oid).map c.2) with
    | none =>
      have hnone := List.findSome?_eq_none_iff.mp hfirst c hc
      rw [h] at hnone
      cases hnone
    | some d =>
      obtain ⟨e, he, hd⟩ := List.exists_of_findSome?_eq_some hfirst
      obtain ⟨m, hm, rfl⟩ := Option.map_eq_some_iff.mp hd
      obtain ⟨k, rfl, rfl⟩ := eq_of_tail h
      obtain ⟨j, rfl, heq⟩ := eq_of_tail hm
      have hbase : e.1 = c.1 := (List.append_inj_left' heq rfl).symm
      have hlast : [k] = [j] := List.append_inj_right' heq rfl
      cases hlast
      rw [List.inj_on_of_nodup_map nodup_tailColumns he hc hbase]
  rw [column, hfind]

namespace VirtualSwitchState

variable {s : VirtualSwitchState} {oid : Oid}

/-- Where the row is not there, the effect of the column is none. -/
theorem applyColumn_of_not_handles {c : Column} (h : s.handles c = false) (value : SetValue) :
    s.applyColumn c value = .ok s := by
  cases c with
  | ifAdminStatus p | ifAlias p =>
    have hport : p ∉ s.ports := by simpa [handles] using h
    simp only [applyColumn, if_neg hport]
  | staticEgress vid =>
    have hvid : vid ∉ s.vlans := by simpa [handles] using h
    rw [applyColumn, applyStaticEgress, PyDict.not_mem_iff.mp hvid]
  | staticUntagged vid =>
    have hvid : vid ∉ s.vlans := by simpa [handles] using h
    rw [applyColumn, applyStaticUntagged, PyDict.not_mem_iff.mp hvid]
  | switchportMode p | switchportAccessVlan p | switchportNativeVlan p
  | switchportAllowedVlans p | switchportTaggedVlans p | switchportUntaggedVlans p =>
    have hmodel : s.switchportModel = false := h
    simp only [applyColumn, hmodel, Bool.false_eq_true, if_false]
  | _ => cases h

private theorem vendorScalar_ne_nil {v : VendorOids} : ∀ w ∈ vendorScalars v, w ≠ [] := by
  simp [vendorScalars, VendorOids.mgmtWriteAddrUnverified, VendorOids.mgmtWriteNetmaskUnverified,
    VendorOids.mgmtWriteGatewayUnverified, VendorOids.syslogAdminMode]

theorem applyVendor_dottedText (v : VendorOids) (hoid : oid ≠ []) (harcs : ReadableArcs oid)
    (value : SetValue) : s.applyVendor v (dottedText oid) value =
      match vendorColumn v oid with
      | none => .ok s
      | some c => s.applyColumn c value := by
  have hinj : ∀ w ∈ vendorScalars v, dottedText oid = dottedText w ↔ oid = w := fun w hw =>
    dottedText_inj hoid (vendorScalar_ne_nil w hw)
  simp only [vendorScalars, List.forall_mem_cons, List.not_mem_nil, false_implies, implies_true,
    and_true] at hinj
  obtain ⟨haddr, hmask, hgateway, hdhcp, hsyslog⟩ := hinj
  have hhost : v.syslogHostStatus ≠ [] := by simp [VendorOids.syslogHostStatus]
  rw [applyVendor, dottedText_dhcpMode, tailText_dottedText hhost hoid harcs]
  simp only [haddr, hmask, hgateway, hdhcp, hsyslog, vendorColumn]
  split_ifs
  iterate 5 rfl
  cases tail v.syslogHostStatus oid <;> rfl

/-- On the text of an OID the second chain is `applyWrite`. -/
theorem applyWriteText_dottedText (s : VirtualSwitchState) (hoid : oid ≠ [])
    (harcs : ReadableArcs oid) (value : SetValue) :
    s.applyWriteText (dottedText oid) value = s.applyWrite oid value := by
  by_cases hcol : ∃ c ∈ tailColumns, (tail c.1 oid).isSome
  · obtain ⟨c, hc, hsome⟩ := hcol
    obtain ⟨n, hn⟩ := Option.isSome_iff_exists.mp hsome
    obtain ⟨k, rfl, rfl⟩ := eq_of_tail hn
    have hk : (natText k).length ≤ 4300 := harcs k (by simp)
    rw [applyWriteText_of_some hc (digitsBehind_concat (tailColumns_ne_nil c hc) k), columnResult,
      intOfDigits_natText hk, applyWrite, column_of_tail s.model hc hn]
    dsimp only
    cases hhandles : s.handles (c.2 k) with
    | false => rw [if_neg Bool.false_ne_true, applyColumn_of_not_handles hhandles]
    | true => rw [if_pos rfl]
  · push Not at hcol
    have htail : ∀ c ∈ tailColumns, tail c.1 oid = none := fun c hc =>
      Option.not_isSome_iff_eq_none.mp (hcol c hc)
    have hbehind : ∀ c ∈ tailColumns, digitsBehind c.1 (dottedText oid) = none := by
      intro c hc
      cases hrest : digitsBehind c.1 (dottedText oid) with
      | none => rfl
      | some rest =>
        obtain ⟨k, rfl⟩ := oid_eq_concat (tailColumns_ne_nil c hc) hoid hrest
        cases (tail_append c.1 k).symm.trans (htail c hc)
    have hfind : tailColumns.findSome? (fun c => (tail c.1 oid).map c.2) = none :=
      List.findSome?_eq_none_iff.mpr fun c hc => by rw [htail c hc, Option.map_none]
    rw [applyWriteText, applyTails_of_none hbehind, applyVendorPart, applyWrite, column, hfind]
    dsimp only
    cases vendorOids s.model with
    | none => rfl
    | some v => exact applyVendor_dottedText v hoid harcs value

/-- The columns of the vendor subtree are writable on every model that has one. -/
theorem isWritableOid_of_vendorColumn {v : VendorOids} (hv : vendorOids s.model = some v)
    (hfind : tailColumns.findSome? (fun c => (tail c.1 oid).map c.2) = none) :
    s.isWritableOid oid = (vendorColumn v oid).isSome := by
  rw [isWritableOid, column, hfind, hv, Option.bind_some, vendorColumn]
  split_ifs
  iterate 5 rfl
  cases tail v.syslogHostStatus oid <;> rfl

theorem isVendorWritable_dottedText (v : VendorOids) (hoid : oid ≠ []) (harcs : ReadableArcs oid) :
    isVendorWritable v (dottedText oid) = (vendorColumn v oid).isSome := by
  have hinj : ∀ w ∈ vendorScalars v, dottedText oid = dottedText w ↔ oid = w := fun w hw =>
    dottedText_inj hoid (vendorScalar_ne_nil w hw)
  simp only [vendorScalars, List.forall_mem_cons, List.not_mem_nil, false_implies, implies_true,
    and_true] at hinj
  obtain ⟨haddr, hmask, hgateway, hdhcp, hsyslog⟩ := hinj
  have hhost : isCol v.syslogHostStatus (dottedText oid) = (tail v.syslogHostStatus oid).isSome := by
    have hne : v.syslogHostStatus ≠ [] := by simp [VendorOids.syslogHostStatus]
    have htail := tailText_dottedText hne hoid harcs
    rw [tailText] at htail
    rw [isCol]
    cases hrest : digitsBehind v.syslogHostStatus (dottedText oid) with
    | none =>
      rw [hrest] at htail
      rw [← Except.ok.inj htail]
      rfl
    | some rest =>
      obtain ⟨k, rfl⟩ := oid_eq_concat hne hoid hrest
      rw [tail_append]
      rfl
  rw [isVendorWritable, dottedText_dhcpMode, hhost]
  simp only [haddr, hmask, hgateway, hdhcp, hsyslog, vendorColumn]
  split_ifs <;> simp_all

theorem isWritableOid_of_tail {c : Oid × (ℤ → Column)} (hc : c ∈ tailColumns) {n : ℤ}
    (h : tail c.1 oid = some n) :
    s.isWritableOid oid = if c.1 ∈ switchportColumns then s.switchportModel else true := by
  rw [isWritableOid, column_of_tail s.model hc h]
  simp only [tailColumns, List.mem_cons, List.not_mem_nil, or_false] at hc
  rcases hc with rfl | rfl | rfl | rfl | rfl | rfl | rfl | rfl | rfl | rfl | rfl | rfl | rfl | rfl
  iterate 6 exact (if_neg (by decide)).symm
  iterate 6 exact (if_pos (by decide)).symm
  iterate 2 exact (if_neg (by decide)).symm

/-- On the text of an OID the first chain is `isWritableOid`. -/
theorem isWritableOidText_dottedText (s : VirtualSwitchState) (hoid : oid ≠ [])
    (harcs : ReadableArcs oid) : s.isWritableOidText (dottedText oid) = s.isWritableOid oid := by
  by_cases hcol : ∃ c ∈ tailColumns, (tail c.1 oid).isSome
  · obtain ⟨c, hc, hsome⟩ := hcol
    obtain ⟨n, hn⟩ := Option.isSome_iff_exists.mp hsome
    rw [isWritableOid_of_tail hc hn]
    obtain ⟨k, rfl, rfl⟩ := eq_of_tail hn
    have hbehind := digitsBehind_concat (tailColumns_ne_nil c hc) k
    -- only the column's own base recognises the text
    have hany : ∀ bases : List Oid, (∀ b ∈ bases, b ≠ []) →
        bases.any (isCol · (dottedText (c.1 ++ [k]))) = decide (c.1 ∈ bases) := by
      intro bases hne
      rw [Bool.eq_iff_iff, List.any_eq_true, decide_eq_true_eq]
      constructor
      · rintro ⟨b, hb, hisCol⟩
        obtain ⟨rest, hrest⟩ := Option.isSome_iff_exists.mp hisCol
        rwa [← base_unique (hne b hb) (tailColumns_ne_nil c hc) hrest hbehind]
      · intro hmem
        exact ⟨c.1, hmem, by rw [isCol, hbehind]; rfl⟩
    have hvendor : ((vendorOids s.model).map
        (isVendorWritable · (dottedText (c.1 ++ [k])))).getD false = false := by
      cases hv : vendorOids s.model with
      | none => rfl
      | some v => exact isVendorWritable_of_tail hv hc hbehind
    rw [isWritableOidText, hany _ (by decide), hany _ (by decide), hvendor, Bool.or_false]
    rcases mem_tailColumns_iff.mp ⟨c, hc, rfl⟩ with hbase | hbase
    · have hnot : c.1 ∉ switchportColumns := fun hmem => disjoint_columns c.1 hmem hbase
      rw [decide_eq_true hbase, Bool.true_or, if_neg hnot]
    · have hnot : c.1 ∉ writableColumns := disjoint_columns c.1 hbase
      rw [decide_eq_false hnot, decide_eq_true hbase, Bool.false_or, Bool.and_true, if_pos hbase]
  · push Not at hcol
    have htail : ∀ c ∈ tailColumns, tail c.1 oid = none := fun c hc =>
      Option.not_isSome_iff_eq_none.mp (hcol c hc)
    have hfind : tailColumns.findSome? (fun c => (tail c.1 oid).map c.2) = none :=
      List.findSome?_eq_none_iff.mpr fun c hc => by rw [htail c hc, Option.map_none]
    have hany : ∀ bases : List Oid, (∀ b ∈ bases, ∃ c ∈ tailColumns, c.1 = b) →
        bases.any (isCol · (dottedText oid)) = false := by
      intro bases hbases
      rw [List.any_eq_false]
      intro b hb hisCol
      obtain ⟨c, hc, rfl⟩ := hbases b hb
      obtain ⟨rest, hrest⟩ := Option.isSome_iff_exists.mp hisCol
      obtain ⟨k, rfl⟩ := oid_eq_concat (tailColumns_ne_nil c hc) hoid hrest
      cases (tail_append c.1 k).symm.trans (htail c hc)
    rw [isWritableOidText, hany _ fun b hb => mem_tailColumns_iff.mpr (Or.inl hb),
      hany _ fun b hb => mem_tailColumns_iff.mpr (Or.inr hb), Bool.and_false, Bool.or_false,
      Bool.false_or]
    cases hv : vendorOids s.model with
    | none =>
      rw [isWritableOid, column, hfind, hv]
      rfl
    | some v =>
      rw [isWritableOid_of_vendorColumn hv hfind]
      exact isVendorWritable_dottedText v hoid harcs

end VirtualSwitchState

end NetgearSwitch.Virtual
