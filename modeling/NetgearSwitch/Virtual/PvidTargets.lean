import NetgearSwitch.Snmp.Write
import NetgearSwitch.Virtual.CliModes
import NetgearSwitch.Virtual.DerivedRuns
import NetgearSwitch.Virtual.NsdpMembership
import NetgearSwitch.Virtual.PortToggles
import NetgearSwitch.Virtual.RefusedWrites
import NetgearSwitch.Virtual.ViewRuns

/-!
# The VLAN a PVID names

A port's PVID should name a VLAN of the switch, whatever VLANs are created and deleted through
whichever face.  The CLI and the NSDP handler say so and put the ports of a deleted VLAN back into
VLAN 1.  The SNMP, Plus and GoAhead faces delete the VLAN and leave the ports, most PVID writes do
not look whether there is such a VLAN, and the NSDP handler deletes VLAN 1 itself.

For each face there is a condition on a request and the state it meets under which the PVIDs go on
naming VLANs.  A run of calls whose requests all meet theirs never leaves a port behind.

§1 the invariant · §2 SNMP · §3 the CLI · §4 NSDP · §5 the web · §6 calls and runs
-/

namespace NetgearSwitch.Virtual

open BigEndian Snmp Nsdp Http Cli PyText Script

namespace VirtualSwitchState

variable {s s' : VirtualSwitchState}

/-! ## §1 The invariant -/

/-- Every port's PVID names a VLAN. -/
def PvidsExist (s : VirtualSwitchState) : Prop := ∀ p v, s.pvids.get? p = some v → v ∈ s.vlans

/-- No port's PVID names VLAN `vid`. -/
def Unused (s : VirtualSwitchState) (vid : ℤ) : Prop := ∀ p, s.pvids.get? p ≠ some vid

theorem PvidsExist.mono (h : s.PvidsExist) (hpvids : s'.pvids = s.pvids)
    (hvlans : ∀ v ∈ s.vlans, v ∈ s'.vlans) : s'.PvidsExist := by
  intro p v hp
  rw [hpvids] at hp
  exact hvlans v (h p v hp)

theorem PvidsExist.set (h : s.PvidsExist) {p n : ℤ} (hn : n ∈ s.vlans) :
    ({ s with pvids := s.pvids.set p n } : VirtualSwitchState).PvidsExist := by
  intro q v hq
  have hget : (s.pvids.set p n).get? q = some v := hq
  rw [PyDict.get?_set] at hget
  by_cases hqp : q = p
  · rw [if_pos hqp] at hget
    cases hget
    exact hn
  · rw [if_neg hqp] at hget
    exact h q v hget

theorem PvidsExist.pop (h : s.PvidsExist) {vid : ℤ} (hvid : s.Unused vid) :
    ({ s with vlans := s.vlans.pop vid } : VirtualSwitchState).PvidsExist := by
  intro p v hp
  refine PyDict.mem_pop.mpr ⟨?_, h p v hp⟩
  rintro rfl
  exact hvid p hp

/-- A VLAN deleted and its ports put back into VLAN 1. -/
theorem PvidsExist.fallBack (h : s.PvidsExist) {vid : ℤ}
    (hvid : s.Unused vid ∨ vid ≠ 1 ∧ 1 ∈ s.vlans) :
    ({ s with
        vlans := s.vlans.pop vid
        pvids := s.pvids.mapValues fun _ pv => if pv = vid then 1 else pv } :
      VirtualSwitchState).PvidsExist := by
  intro p v hp
  have hget : ((s.pvids.mapValues fun _ pv => if pv = vid then 1 else pv).get? p) = some v := hp
  rw [PyDict.get?_mapValues, Option.map_eq_some_iff] at hget
  obtain ⟨pv, hpv, rfl⟩ := hget
  by_cases heq : pv = vid
  · rw [if_pos heq]
    rcases hvid with hunused | ⟨hne, hone⟩
    · exact absurd (heq ▸ hpv) (hunused p)
    · exact PyDict.mem_pop.mpr ⟨Ne.symm hne, hone⟩
  · rw [if_neg heq]
    exact PyDict.mem_pop.mpr ⟨heq, h p pv hpv⟩

/-! ## §2 SNMP -/

/-- The VLAN that a switchport row makes the PVID of its port is one of the switch. -/
def RowNames (s : VirtualSwitchState) (r : SwitchportRow) : Prop :=
  (r.mode = switchportModeAccess → r.accessVlan ∈ s.vlans) ∧
    (r.mode = switchportModeTrunk → r.nativeVlan ∈ s.vlans)

theorem PvidsExist.applySwitchport (h : s.PvidsExist) {p : ℤ} (hrow : s.RowNames (s.row p)) :
    (s.applySwitchport p).PvidsExist := by
  have hpvids : (s.applySwitchport p).pvids =
      if (s.row p).mode = switchportModeAccess then s.pvids.set p (s.row p).accessVlan
      else if (s.row p).mode = switchportModeTrunk then s.pvids.set p (s.row p).nativeVlan
      else s.pvids := by
    rw [← row_switchportDefaults s p p]
    rfl
  obtain ⟨haccess, hnative⟩ := hrow
  have hstep : ∀ pvids : PyDict ℤ ℤ, (s.applySwitchport p).pvids = pvids →
      ({ s with pvids := pvids } : VirtualSwitchState).PvidsExist →
      (s.applySwitchport p).PvidsExist := by
    intro pvids heq hs
    exact hs.mono heq fun v hv => (mem_vlans_applySwitchport s p).mpr hv
  by_cases hmode : (s.row p).mode = switchportModeAccess
  · rw [if_pos hmode] at hpvids
    exact hstep _ hpvids (h.set (haccess hmode))
  · rw [if_neg hmode] at hpvids
    by_cases htrunk : (s.row p).mode = switchportModeTrunk
    · rw [if_pos htrunk] at hpvids
      exact hstep _ hpvids (h.set (hnative htrunk))
    · rw [if_neg htrunk] at hpvids
      exact hstep _ hpvids h

/-- The write of one column leaves no port behind: a PVID written is that of a VLAN, a VLAN
destroyed is one that no PVID names, and a switchport row derived anew names one. -/
def ColumnKeepsPvids (s : VirtualSwitchState) (value : SetValue) : Column → Prop
  | .dot1qPvid _ => ∀ n, value.toInt = some n → n ∈ s.vlans
  | .staticRowStatus vid => value.toInt = some rowStatusDestroy → s.Unused vid
  | .staticEgress vid => s.switchportModel = true → vid ∈ s.vlans →
    ∀ p ∈ s.ports.keys, s.RowNames (s.row p)
  | .switchportMode port => s.switchportModel = true → ∀ n, value.toInt = some n →
    s.RowNames { s.row port with mode := n }
  | .switchportAccessVlan port => s.switchportModel = true → ∀ n, value.toInt = some n →
    s.RowNames { s.row port with accessVlan := n }
  | .switchportNativeVlan port => s.switchportModel = true → ∀ n, value.toInt = some n →
    s.RowNames { s.row port with nativeVlan := n }
  | .switchportAllowedVlans port => s.switchportModel = true → s.RowNames (s.row port)
  | _ => True

def VarbindKeepsPvids (s : VirtualSwitchState) (oid : Oid) (value : SetValue) : Prop :=
  ∀ c, column s.model oid = some c → s.ColumnKeepsPvids value c

/-- A row edited and its port derived anew. -/
theorem PvidsExist.editRow (h : s.PvidsExist) {t : VirtualSwitchState} {p : ℤ}
    (hpvids : t.pvids = s.pvids) (hvlans : t.vlans = s.vlans) (hrow : s.RowNames (t.row p)) :
    (t.applySwitchport p).PvidsExist := by
  have ht : t.PvidsExist := h.mono hpvids fun v hv => by rwa [hvlans]
  refine ht.applySwitchport ?_
  unfold RowNames at hrow ⊢
  rwa [hvlans]

/-- The mode and the two VLANs of a row are the parts that give a PVID. -/
theorem RowNames.of_reconcilePort {vid : ℤ} {incoming : Finset ℤ} {p q : ℤ}
    (h : reconcilePort vid incoming s p = some s') (hrow : s.RowNames (s.row q)) :
    s'.RowNames (s'.row q) := by
  have hids : ∀ v, v ∈ s'.vlans ↔ v ∈ s.vlans := by
    intro v
    rw [← mem_vlanIds, (portStep_reconcilePort h).vlanIds, mem_vlanIds]
  have hparts : (s'.row q).mode = (s.row q).mode ∧ (s'.row q).accessVlan = (s.row q).accessVlan ∧
      (s'.row q).nativeVlan = (s.row q).nativeVlan := by
    by_cases hqp : q = p
    · subst hqp
      unfold reconcilePort at h
      dsimp only at h
      split_ifs at h with htrunk hin hgeneral hin
      · obtain ⟨bits, -, rfl⟩ := Option.map_eq_some_iff.mp h
        simp
      · obtain ⟨bits, -, rfl⟩ := Option.map_eq_some_iff.mp h
        simp
      · cases h
        simp
      · cases h
        simp
      · cases h
        simp
    · rw [(portStep_reconcilePort h).row_of_ne hqp]
      exact ⟨rfl, rfl, rfl⟩
  obtain ⟨hmode, haccess, hnative⟩ := hparts
  unfold RowNames at hrow ⊢
  rw [hmode, haccess, hnative, hids, hids]
  exact hrow

theorem PvidsExist.reconcilePort {vid : ℤ} {incoming : Finset ℤ} {p : ℤ} (h : s.PvidsExist)
    (hrow : s.RowNames (s.row p)) (hstep : reconcilePort vid incoming s p = some s') :
    s'.PvidsExist := by
  have hdefaults : (s.switchportDefaults p).row p = s.row p := row_switchportDefaults s p p
  unfold VirtualSwitchState.reconcilePort at hstep
  dsimp only at hstep
  split_ifs at hstep with htrunk hin hgeneral hin
  · obtain ⟨bits, -, rfl⟩ := Option.map_eq_some_iff.mp hstep
    refine h.editRow rfl rfl ?_
    rw [row_setAllowedVlans_self, hdefaults]
    exact hrow
  · obtain ⟨bits, -, rfl⟩ := Option.map_eq_some_iff.mp hstep
    refine h.editRow rfl rfl ?_
    rw [row_setAllowedVlans_self, hdefaults]
    exact hrow
  · cases hstep
    refine h.editRow rfl rfl ?_
    rw [row_setGeneral_self, hdefaults]
    exact hrow
  · cases hstep
    refine h.editRow rfl rfl ?_
    rw [row_setGeneral_self, hdefaults]
    exact hrow
  · cases hstep
    exact h.editRow rfl rfl (by rwa [hdefaults])

/-- The reconcile loop over ports whose rows all name a VLAN. -/
theorem PvidsExist.reconcile {vid : ℤ} {incoming : Finset ℤ} : ∀ {ports : List ℤ}
    {s s' : VirtualSwitchState}, s.PvidsExist → (∀ p ∈ ports, s.RowNames (s.row p)) →
      ports.foldlM (VirtualSwitchState.reconcilePort vid incoming) s = some s' → s'.PvidsExist
  | [], s, s', h, _, hfold => by
    cases hfold
    exact h
  | p :: ports, s, s', h, hrows, hfold => by
    rw [List.foldlM_cons, Option.bind_eq_bind, Option.bind_eq_some_iff] at hfold
    obtain ⟨s₁, h₁, hrest⟩ := hfold
    have hs₁ : s₁.PvidsExist := h.reconcilePort (hrows p List.mem_cons_self) h₁
    exact hs₁.reconcile
      (fun q hq => (hrows q (List.mem_cons_of_mem p hq)).of_reconcilePort h₁) hrest

theorem PvidsExist.applyColumn {c : Column} {value : SetValue} (h : s.PvidsExist)
    (hkeeps : s.ColumnKeepsPvids value c) (happly : s.applyColumn c value = .ok s') :
    s'.PvidsExist := by
  have heffect := effect_of_applyColumn happly
  cases heffect with
  | unrelated => exact h
  | pvid port n =>
    obtain ⟨m, hm, hok⟩ := bind_eq_ok.mp happly
    have hpvids := congrArg (VirtualSwitchState.pvids) (Except.ok.inj hok)
    have hset := h.set (p := port) (hkeeps m (toInt_of_readInt hm))
    intro q v hq
    exact hset q v (by rw [← hq]; exact congrArg (·.get? q) hpvids)
  | row port t hc hmodel =>
    cases c with
    | switchportMode q =>
      cases hc
      simp only [VirtualSwitchState.applyColumn, hmodel, if_true] at happly
      obtain ⟨n, hn, hok⟩ := bind_eq_ok.mp happly
      rw [← Except.ok.inj hok]
      refine h.editRow rfl rfl ?_
      rw [row_setMode_self]
      exact hkeeps hmodel n (toInt_of_readInt hn)
    | switchportAccessVlan q =>
      cases hc
      simp only [VirtualSwitchState.applyColumn, hmodel, if_true] at happly
      obtain ⟨n, hn, hok⟩ := bind_eq_ok.mp happly
      rw [← Except.ok.inj hok]
      refine h.editRow rfl rfl ?_
      rw [row_setAccessVlan_self]
      exact hkeeps hmodel n (toInt_of_readInt hn)
    | switchportNativeVlan q =>
      cases hc
      simp only [VirtualSwitchState.applyColumn, hmodel, if_true] at happly
      obtain ⟨n, hn, hok⟩ := bind_eq_ok.mp happly
      split_ifs at hok
      rw [← Except.ok.inj hok]
      refine h.editRow rfl rfl ?_
      rw [row_setNativeVlan_self]
      exact hkeeps hmodel n (toInt_of_readInt hn)
    | switchportAllowedVlans q =>
      cases hc
      simp only [VirtualSwitchState.applyColumn, hmodel, if_true] at happly
      obtain ⟨octets, -, hok⟩ := bind_eq_ok.mp happly
      rw [← Except.ok.inj hok]
      refine h.editRow rfl rfl ?_
      rw [row_setAllowedVlans_self]
      exact hkeeps hmodel
    | _ => cases hc
  | reconcile vid octets hvalue hmodel hvid hstep =>
    have hrows := hkeeps hmodel hvid
    refine PvidsExist.reconcile (s := s.ports.keys.foldl switchportDefaults s) ?_ ?_ hstep
    · refine h.mono ?_ fun v hv => by rwa [vlans_foldl_switchportDefaults]
      exact List.foldlRecOn (motive := fun t : VirtualSwitchState => t.pvids = s.pvids) _ _ rfl fun t ht p _ => ht
    · intro p hp
      have hports : (s.ports.keys.foldl switchportDefaults s).ports = s.ports :=
        List.foldlRecOn (motive := fun t : VirtualSwitchState => t.ports = s.ports) _ _ rfl fun t ht p _ => ht
      rw [hports] at hp
      rw [row_foldl_switchportDefaults]
      unfold RowNames
      rw [vlans_foldl_switchportDefaults]
      exact hrows p hp
  | membership vid vsim member untagged writes hc hmodel hvid =>
    exact h.mono rfl fun v hv => PyDict.mem_set.mpr (Or.inr hv)
  | destroy vid =>
    obtain ⟨n, hn, hok⟩ := bind_eq_ok.mp happly
    by_cases hdestroy : n = rowStatusDestroy
    · subst hdestroy
      exact h.pop (hkeeps (toInt_of_readInt hn))
    · by_cases hvid : s.Unused vid
      · exact h.pop hvid
      · -- the VLAN is there, since a PVID names it, and the write is a no-op
        rw [if_neg hdestroy] at hok
        have hmem : vid ∈ s.vlans := by
          unfold Unused at hvid
          push Not at hvid
          obtain ⟨p, hp⟩ := hvid
          exact h p vid hp
        rw [if_pos hmem] at hok
        exact (Except.ok.inj hok) ▸ h
  | create vid name => exact h.mono rfl fun v hv => PyDict.mem_set.mpr (Or.inr hv)
  | rename vid vsim name => exact h.mono rfl fun v hv => PyDict.mem_set.mpr (Or.inr hv)

theorem PvidsExist.applyWrite {oid : Oid} {value : SetValue} (h : s.PvidsExist)
    (hkeeps : s.VarbindKeepsPvids oid value) (hwrite : s.applyWrite oid value = .ok s') :
    s'.PvidsExist := by
  unfold VirtualSwitchState.applyWrite at hwrite
  cases hcolumn : column s.model oid with
  | none =>
    rw [hcolumn] at hwrite
    cases hwrite
    exact h
  | some c =>
    rw [hcolumn] at hwrite
    exact h.applyColumn (hkeeps c hcolumn) hwrite

/-- Every varbind leaves no port behind, in the state the ones before it leave. -/
def EachKeepsPvids (s : VirtualSwitchState) : List VarBind → Prop
  | [] => True
  | (oid, value) :: rest =>
    s.VarbindKeepsPvids oid value ∧ ∀ s', s.applyWrite oid value = .ok s' → s'.EachKeepsPvids rest

/-- A SET leaves no port behind when it is refused or none of its varbinds does. -/
def SetKeepsPvids (s : VirtualSwitchState) (varBinds : List VarBind) : Prop :=
  s.snapshot.Refuses varBinds ∨ s.snapshot.EachKeepsPvids varBinds

theorem PvidsExist.applyVarbinds : ∀ {varBinds : List VarBind} {idx : ℕ}
    {s s' : VirtualSwitchState}, s.PvidsExist → s.EachKeepsPvids varBinds →
      s.applyVarbinds idx varBinds = .ok s' → s'.PvidsExist
  | [], idx, s, s', h, _, happly => by
    cases happly
    exact h
  | (oid, value) :: rest, idx, s, s', h, hkeeps, happly => by
    rw [VirtualSwitchState.applyVarbinds] at happly
    split_ifs at happly with hwritable
    split at happly
    · cases happly
    · next s₁ hs₁ =>
      obtain ⟨hfirst, hrest⟩ := hkeeps
      have hs := h.applyWrite hfirst hs₁
      exact hs.applyVarbinds (hrest s₁ hs₁) happly

theorem PvidsExist.applySet {varBinds : List VarBind} (h : s.PvidsExist)
    (hkeeps : s.SetKeepsPvids varBinds) : (s.applySet varBinds).PvidsExist := by
  have hsnapshot : s.snapshot.PvidsExist := h
  unfold VirtualSwitchState.applySet
  cases happly : s.snapshot.applyVarbinds 0 varBinds with
  | error e => exact hsnapshot
  | ok s' =>
    have hs' : s'.PvidsExist := by
      rcases hkeeps with hrefuses | hkeeps
      · obtain ⟨e, he⟩ := refuses_iff.mp hrefuses
        rw [happly] at he
        cases he
      · exact hsnapshot.applyVarbinds hkeeps happly
    exact loadView_induction (fun t p ht => ht.mono rfl fun v hv => hv) hs'

/-! ## §3 The CLI -/

/-- A VLAN deleted that a PVID names has VLAN 1 to put the port back into. -/
def VlanDbKeepsPvids (s : VirtualSwitchState) : VlanDbCommand → Prop
  | .delete vid => vid = 1 ∨ s.Unused vid ∨ 1 ∈ s.vlans
  | _ => True

theorem PvidsExist.vlanDbCommand (h : s.PvidsExist) {command : VlanDbCommand}
    (hkeeps : s.VlanDbKeepsPvids command) : (s.vlanDbCommand command).1.PvidsExist := by
  cases command with
  | create vid =>
    unfold VirtualSwitchState.vlanDbCommand
    dsimp only
    split_ifs
    · exact h
    · exact h.mono rfl fun v hv => PyDict.mem_set.mpr (Or.inr hv)
  | rename vid name =>
    unfold VirtualSwitchState.vlanDbCommand
    dsimp only
    split
    · exact h
    · exact h.mono rfl fun v hv => PyDict.mem_set.mpr (Or.inr hv)
  | delete vid =>
    unfold VirtualSwitchState.vlanDbCommand
    dsimp only
    split_ifs with hone hvid
    · exact h
    · refine h.fallBack ?_
      rcases hkeeps with rfl | hunused | hmem
      · exact absurd rfl hone
      · exact Or.inl hunused
      · exact Or.inr ⟨hone, hmem⟩
    · exact h

/-- The interface mode looks for the VLAN before it sets a PVID. -/
theorem PvidsExist.interfaceCommand (h : s.PvidsExist) (port : ℤ) (command : InterfaceCommand) :
    (s.interfaceCommand port command).1.PvidsExist := by
  have hset : ∀ vid vsim,
      ({ s with vlans := s.vlans.set vid vsim } : VirtualSwitchState).PvidsExist :=
    fun vid vsim => h.mono rfl fun v hv => PyDict.mem_set.mpr (Or.inr hv)
  have hpoe : ∀ on, (s.applyPoeAdmin port on).PvidsExist := by
    intro on
    obtain ⟨ports, poe, -, heq⟩ := keys_ports_applyPoeAdmin s port on
    rw [heq]
    exact h
  unfold VirtualSwitchState.interfaceCommand
  cases command with
  | switchportMode mode =>
    dsimp only
    split_ifs
    · exact h
    · exact h
  | poeReset =>
    dsimp only
    split_ifs
    · exact h
    · exact h
  | poe on =>
    dsimp only
    split_ifs
    · exact hpoe on
    · exact h
  | shutdown enabled =>
    dsimp only
    split_ifs
    · exact h
    · exact h
  | participation included vid =>
    dsimp only
    split
    · exact h
    · split_ifs
      · exact h
      · exact hset _ _
      · exact hset _ _
  | tagging tagged vid =>
    dsimp only
    split
    · exact h
    · split_ifs
      · exact h
      · exact hset _ _
      · exact hset _ _
  | pvid vid =>
    dsimp only
    split_ifs with hvid hgeneral
    · exact h.set hvid
    · exact h
    · exact h
  | flowControl on => exact h
  | speedAuto => exact h
  | speedForced rate =>
    dsimp only
    split_ifs
    · exact h
    · exact h
  | description text => exact h
  | noDescription => exact h

/-! ## §4 NSDP -/

/-- A config TLV leaves no port behind: a PVID written is that of a VLAN, and a VLAN deleted that a
PVID names is not VLAN 1 and has VLAN 1 to put the port back into. -/
def TlvKeepsPvids (s : VirtualSwitchState) (tag : ℕ) (value : Bytes) : Prop :=
  if tag = Tag.portPvid then 3 ≤ value.length → (ofBytes (slice value 1 3) : ℤ) ∈ s.vlans
  else if tag = Tag.vlanDestroy then
    2 ≤ value.length →
      s.Unused (ofBytes (slice value 0 2)) ∨ (ofBytes (slice value 0 2) : ℤ) ≠ 1 ∧ 1 ∈ s.vlans
  else True

theorem PvidsExist.applyNsdpWrite {tag : ℕ} {value : Bytes} (h : s.PvidsExist)
    (hkeeps : s.TlvKeepsPvids tag value) (hwrite : s.applyNsdpWrite tag value = .ok s') :
    s'.PvidsExist := by
  unfold TlvKeepsPvids at hkeeps
  by_cases hpvid : tag = Tag.portPvid
  · rw [if_pos hpvid] at hkeeps
    unfold VirtualSwitchState.applyNsdpWrite at hwrite
    rw [if_pos hpvid] at hwrite
    split_ifs at hwrite with hlength
    cases hwrite
    exact h.set (hkeeps (Nat.le_of_not_lt hlength))
  by_cases hdestroy : tag = Tag.vlanDestroy
  · rw [if_neg hpvid, if_pos hdestroy] at hkeeps
    unfold VirtualSwitchState.applyNsdpWrite at hwrite
    rw [if_neg hpvid, if_neg (by rw [hdestroy]; decide), if_pos hdestroy] at hwrite
    by_cases hlength : value.length < 2
    · rw [if_pos hlength] at hwrite
      cases hwrite
    · rw [if_neg hlength] at hwrite
      dsimp only at hwrite
      split_ifs at hwrite
      · cases hwrite
        exact h.fallBack (hkeeps (Nat.le_of_not_lt hlength))
      · cases hwrite
        exact h
  · -- every other tag leaves the PVIDs and takes no VLAN away
    unfold VirtualSwitchState.applyNsdpWrite at hwrite
    rw [if_neg hpvid] at hwrite
    by_cases hmembers : tag = Tag.vlanMembers
    · rw [if_pos hmembers] at hwrite
      obtain ⟨m, -, hok⟩ := bind_eq_ok.mp hwrite
      cases hok
      exact h.mono rfl fun v hv => PyDict.mem_set.mpr (Or.inr hv)
    · rw [if_neg hmembers, if_neg hdestroy] at hwrite
      by_cases hname : tag = Tag.portName
      · rw [if_pos hname] at hwrite
        cases value with
        | nil => cases hwrite
        | cons port text =>
          cases hwrite
          exact h
      rw [if_neg hname] at hwrite
      split_ifs at hwrite
      · obtain ⟨address, -, hok⟩ := bind_eq_ok.mp hwrite
        cases hok
        exact h
      · obtain ⟨netmask, -, hok⟩ := bind_eq_ok.mp hwrite
        cases hok
        exact h
      · obtain ⟨gateway, -, hok⟩ := bind_eq_ok.mp hwrite
        cases hok
        exact h
      all_goals
        cases hwrite
        exact h

/-- Every config TLV leaves no port behind, in the state the ones before it leave. -/
def TlvsKeepPvids (authTag : ℕ) : List TLVEntry → VirtualSwitchState → Prop
  | [], _ => True
  | t :: ts, s =>
    if t.tag = authTag then TlvsKeepPvids authTag ts s
    else s.TlvKeepsPvids t.tag t.value ∧
      ∀ s', s.applyNsdpWrite t.tag t.value = .ok s' → TlvsKeepPvids authTag ts s'

theorem PvidsExist.applyConfigTlvs {authTag : ℕ} {ts : List TLVEntry} (h : s.PvidsExist)
    (hkeeps : TlvsKeepPvids authTag ts s) : (applyConfigTlvs authTag ts s).1.PvidsExist := by
  induction ts generalizing s with
  | nil => exact h
  | cons t ts ih =>
    rw [VirtualSwitchState.applyConfigTlvs]
    rw [TlvsKeepPvids] at hkeeps
    by_cases htag : t.tag = authTag
    · rw [if_pos htag] at hkeeps ⊢
      exact ih h hkeeps
    · rw [if_neg htag] at hkeeps ⊢
      obtain ⟨hfirst, hrest⟩ := hkeeps
      cases hwrite : s.applyNsdpWrite t.tag t.value with
      | error fault => exact h
      | ok s' => exact ih (h.applyNsdpWrite hfirst hwrite) (hrest s' hwrite)

/-- A request that is no authenticated write leaves the configuration; one that is applies its
config TLVs. -/
theorem config_answerPacket (s : VirtualSwitchState) (salt : Bytes) (req : NSDPPacket) :
    (s.answerPacket salt req).1.config = s.config ∨
      s.Authentic req ∧ (s.answerPacket salt req).1.config =
        (VirtualSwitchState.applyConfigTlvs s.authTag req.tlvs s).1.config := by
  unfold answerPacket
  cases hop : req.op with
  | readRequest =>
    refine Or.inl ?_
    show (s.readResponse salt req).1.config = s.config
    rw [readResponse_state]
    split_ifs <;> rfl
  | writeRequest =>
    dsimp only
    by_cases hversion : s.nsdpAuthVersion = encpassV2
    · rw [if_pos hversion]
      have htag : s.authTag = Tag.authV2Password := if_pos hversion
      unfold writeResponseV2
      by_cases hlocked : v2SilenceAt < s.nsdpAuthFailures
      · rw [if_pos hlocked]
        exact Or.inl rfl
      rw [if_neg hlocked]
      dsimp only
      cases hexpected : s.expectedToken with
      | error fault => exact Or.inl rfl
      | ok expected =>
        dsimp only
        by_cases hreject : firstTlvValue req Tag.authV2Password = none ∨ expected = none ∨
            firstTlvValue req Tag.authV2Password ≠ expected
        · rw [if_pos hreject]
          exact Or.inl rfl
        · rw [if_neg hreject]
          push Not at hreject
          obtain ⟨-, hsome, heq⟩ := hreject
          have hauth : s.Authentic req := by
            unfold Authentic
            rw [if_pos hversion]
            unfold expectedToken at hexpected
            cases hsalt : s.nsdpLastSalt with
            | none =>
              rw [hsalt] at hexpected
              exact absurd (Except.ok.inj hexpected).symm hsome
            | some last =>
              rw [hsalt] at hexpected
              dsimp only at hexpected
              cases htoken : authV2Password s.nsdpPassword s.nsdpMac last with
              | error e =>
                rw [htoken] at hexpected
                cases hexpected
              | ok token =>
                rw [htoken] at hexpected
                refine ⟨hop, not_lt.mp hlocked, last, token, rfl, htoken, ?_⟩
                rw [heq]
                exact (Except.ok.inj hexpected).symm
          refine Or.inr ⟨hauth, ?_⟩
          rw [htag]
          cases happly : VirtualSwitchState.applyConfigTlvs Tag.authV2Password req.tlvs s with
          | mk s' r =>
            cases r with
            | error fault => rfl
            | ok u => rfl
    · rw [if_neg hversion]
      have htag : s.authTag = Tag.password := if_neg hversion
      unfold writeResponseV1
      cases hpassword : encodePasswordV1 s.nsdpPassword with
      | none => exact Or.inl rfl
      | some expected =>
        dsimp only
        by_cases hany : (req.tlvs.any fun t => t.tag = Tag.password ∧ t.value = expected) = true
        · rw [if_pos hany]
          have hauth : s.Authentic req := by
            unfold Authentic
            rw [if_neg hversion]
            obtain ⟨t, ht, heq⟩ := List.any_eq_true.mp hany
            obtain ⟨htag', hvalue⟩ := of_decide_eq_true heq
            refine ⟨hop, expected, hpassword, ?_⟩
            rwa [← htag', ← hvalue]
          refine Or.inr ⟨hauth, ?_⟩
          rw [htag]
          cases happly : VirtualSwitchState.applyConfigTlvs Tag.password req.tlvs s with
          | mk s' r =>
            cases r with
            | error fault => rfl
            | ok u => rfl
        · rw [if_neg hany]
          exact Or.inl rfl
  | _ => exact Or.inl rfl

theorem PvidsExist.of_config (h : s.PvidsExist) (hconfig : s'.config = s.config) :
    s'.PvidsExist := by
  have hpvids : s'.config.pvids = s.config.pvids := by rw [hconfig]
  have hvlans : s'.config.vlans = s.config.vlans := by rw [hconfig]
  have hvlans' : s'.vlans = s.vlans := hvlans
  exact h.mono hpvids fun v hv => by rwa [hvlans']

theorem PvidsExist.answerPacket {salt : Bytes} {req : NSDPPacket} (h : s.PvidsExist)
    (hkeeps : s.Authentic req → TlvsKeepPvids s.authTag req.tlvs s) :
    (s.answerPacket salt req).1.PvidsExist := by
  rcases s.config_answerPacket salt req with hconfig | ⟨hauth, hconfig⟩
  · exact h.of_config hconfig
  · exact (h.applyConfigTlvs (hkeeps hauth)).of_config hconfig

end VirtualSwitchState

/-- A write leaves no port behind, where the switch takes it: as much of the packet as its buffer
holds, in the state that the packet meets. -/
def WriteKeepsPvids (env : Environment VirtualNsdpFace) (w : World VirtualNsdpFace) :
    NsdpCall → Prop
  | .read _ => True
  | .write tlvs password => ∀ w' req bytes q, w.buildWrite env tlvs password = (w', .ok req) →
    req.encode = some bytes → NSDPPacket.decode (bytes.take 4096) = .ok q →
      w'.net.server.state.Authentic q →
        VirtualSwitchState.TlvsKeepPvids w'.net.server.state.authTag q.tlvs w'.net.server.state

section Client

variable {urandom : ℕ → Bytes} {network : ℕ → DatagramNet.Delivery} {w : World VirtualNsdpFace}
  {I : VirtualSwitchState → Prop}

/-- What a call of the client does to an invariant of the configuration: a read keeps it, and a write
does as the config TLVs that the switch accepts. -/
theorem state_clientCall {q : NsdpCall}
    (hconfig : ∀ {s s' : VirtualSwitchState}, s'.config = s.config → I s → I s')
    (hwrite : ∀ tlvs password w' req bytes p, q = .write tlvs password →
      w.buildWrite (virtualEnvironment urandom network) tlvs password = (w', .ok req) →
      req.encode = some bytes → NSDPPacket.decode (bytes.take 4096) = .ok p →
      w'.net.server.state.Authentic p → I w'.net.server.state →
        I (VirtualSwitchState.applyConfigTlvs w'.net.server.state.authTag p.tlvs
          w'.net.server.state).1)
    (h : I w.net.server.state) : I (clientCall urandom network w q).1.net.server.state := by
  have hsalted : ∀ {s' : VirtualSwitchState},
      (∃ salt, s' = { w.net.server.state with nsdpLastSalt := salt }) → I s' := by
    rintro s' ⟨salt, rfl⟩
    have hkept : ({ w.net.server.state with nsdpLastSalt := salt } : VirtualSwitchState).config =
      w.net.server.state.config := rfl
    exact hconfig hkept h
  cases q with
  | read tags => exact hsalted (World.read_state tags w)
  | write tlvs password =>
    obtain ⟨hbuilt, -⟩ := @World.buildWrite_state urandom network tlvs password w
    show I (w.write (virtualEnvironment urandom network) tlvs password).1.net.server.state
    unfold World.write
    cases hsent : w.buildWrite (virtualEnvironment urandom network) tlvs password with
    | mk w' r =>
      rw [hsent] at hbuilt
      cases r with
      | error e => exact hsalted hbuilt
      | ok req =>
        have hexchange : I (w'.exchange (virtualEnvironment urandom network) .writeResponse
            req).1.net.server.state := by
          rcases @World.exchange_decoded urandom network .writeResponse req w' with
            hsame | ⟨salt, bytes, p, hbytes, hp, heq⟩
          · rw [hsame]
            exact hsalted hbuilt
          · rw [heq]
            rcases w'.net.server.state.config_answerPacket salt p with hkept | ⟨hauth, happlied⟩
            · exact hconfig hkept (hsalted hbuilt)
            · exact hconfig happlied
                (hwrite tlvs password w' req bytes p rfl hsent hbytes hp hauth (hsalted hbuilt))
        dsimp only
        split
        · next hfail =>
          rw [hfail] at hexchange
          exact hexchange
        · next hok =>
          rw [hok] at hexchange
          split_ifs
          · exact hexchange
          · split
            · exact hexchange
            · exact hexchange

theorem pvidsExist_clientCall {q : NsdpCall} (h : w.net.server.state.PvidsExist)
    (hkeeps : WriteKeepsPvids (virtualEnvironment urandom network) w q) :
    (clientCall urandom network w q).1.net.server.state.PvidsExist := by
  refine state_clientCall (fun hconfig hs => hs.of_config hconfig) ?_ h
  rintro tlvs password w' req bytes p rfl hbuilt hbytes hp hauth hs
  exact hs.applyConfigTlvs (hkeeps w' req bytes p hbuilt hbytes hp hauth)

end Client

/-! ## §5 The web -/

/-- The VLANs that a Plus form deletes before it raises, if it does: those of its keys `vlanck<n>`. -/
def droppedVlans : List (Text × Text) → List ℤ
  | [] => []
  | (key, value) :: fields =>
    if key.take 6 = "vlanck".toList ∧ isNumber (key.drop 6) then
      match pyInt value with
      | none => []
      | some vid => vid :: droppedVlans fields
    else droppedVlans fields

/-- `int(form.get("pvid", "0"))`; `none` where it raises. -/
def formPvid (form : Form) : Option ℤ :=
  match form.get? "pvid".toList with
  | none => some 0
  | some text => pyInt text

namespace VirtualSwitchState

variable {s s' : VirtualSwitchState}

/-- `_apply_pvid` of the Plus pages: what is left of the device, whether it raises or not. -/
def applyPlusPvid (s : VirtualSwitchState) (form : Form) : VirtualSwitchState :=
  match formPvid form with
  | none => s
  | some vlan =>
    if vlan ≤ 0 then s
    else { s with pvids := (keyedPorts form).foldl (fun pvids port => pvids.set port vlan) s.pvids }

/-- `_apply_vlan_cfg`: what is left of the device, whether it raises or not. -/
def applyVlanCfg (s : VirtualSwitchState) (form : Form) : VirtualSwitchState :=
  if form.get? "ACTION".toList = some "Add".toList ∧ "ADD_VLANID".toList ∈ form then
    match (form.get? "ADD_VLANID".toList).bind pyInt with
    | none => s
    | some vid => { s with vlans := s.vlans.setDefault vid { name := [] } }
  else if form.get? "ACTION".toList = some "Delete".toList then
    { s with vlans := (droppedVlans form.items).foldl (fun vlans vid => vlans.pop vid) s.vlans }
  else s

/-- `apply_form`: what is left of the device, whether it raises or not. -/
def applyForm (s : VirtualSwitchState) (spec : HttpModelSpec) (path : Text) (form : Form) :
    VirtualSwitchState :=
  if some path = spec.poeConfigPath then (s.applyPlusPoe form).1
  else if some path = spec.pvidPath then s.applyPlusPvid form
  else if some path = spec.vlanMembershipPath ∧ "hiddenMem".toList ∈ form then
    (s.applyMembershipForm form).getD s
  else if some path = spec.vlanConfigPath then s.applyVlanCfg form
  else s

/-- The device after a call on its web face.  A token face writes on its port page only, the GS105PE
face has pages to read only, and a managed face the pages of `postForm`. -/
def afterCall (s : VirtualSwitchState) (c : Call) : VirtualSwitchState :=
  match httpSpec s.modelKey, c with
  | some spec, .postForm path data =>
    if spec.isXmlApiDialect then s
    else if spec.isFastpathDialect then (s.postForm spec path (parseQs data)).1
    else if spec.sessionTokenField.isSome then
      if some path = spec.dashboardPath then (s.applyPortSettings (parseQs data)).1 else s
    else if spec.htmlDialect = .gs105pe then s
    else s.applyForm spec path (parseQs data)
  | some spec, .postXml path body =>
    if spec.isXmlApiDialect ∧ path = "wcd".toList then (s.applyXml body).1 else s
  | _, _ => s

/-- A Plus form leaves no port behind: the VLAN of the PVID page is one of the switch, and no PVID
names a VLAN that the VLAN page deletes. -/
def FormKeepsPvids (s : VirtualSwitchState) (spec : HttpModelSpec) (path : Text) (form : Form) :
    Prop :=
  (some path = spec.pvidPath → keyedPorts form ≠ [] → ∀ vlan, formPvid form = some vlan → 0 < vlan →
    vlan ∈ s.vlans) ∧
  (some path = spec.vlanConfigPath → form.get? "ACTION".toList = some "Delete".toList →
    ∀ vid ∈ droppedVlans form.items, s.Unused vid)

/-- An element of a GoAhead body leaves no port behind. -/
def StepKeepsPvids (s : VirtualSwitchState) (step : WcdStep) : Prop :=
  (∀ vid, step.vlanWrite = some (vid, .drop) → s.Unused vid) ∧
    ∀ port vid, step.pvidWrite = some (port, vid) → vid ∈ s.vlans

/-- Every element up to the one that the loop stops at leaves no port behind, in the state it
meets. -/
def StepsKeepPvids : List WcdStep → VirtualSwitchState → Prop
  | [], _ => True
  | step :: steps, s =>
    step.check s.vlanIds = none → s.StepKeepsPvids step ∧ StepsKeepPvids steps (s.stepEffect step)

/-- A call on the web face leaves no port behind. -/
def CallKeepsPvids (s : VirtualSwitchState) : Call → Prop
  | .postForm path data => ∀ spec, httpSpec s.modelKey = some spec →
    s.FormKeepsPvids spec path (parseQs data)
  | .postXml _ body => ∀ steps, bodySteps body = some steps → StepsKeepPvids steps s
  | _ => True

theorem PvidsExist.applyPlusPoe (h : s.PvidsExist) (form : Form) :
    (s.applyPlusPoe form).1.PvidsExist := by
  unfold VirtualSwitchState.applyPlusPoe
  split_ifs
  · split <;> exact h
  · exact h
  · exact h
  · exact h

theorem PvidsExist.applySelectedPorts (h : s.PvidsExist) (on : Bool) (parts : List Text) :
    (VirtualSwitchState.applySelectedPorts on parts s).1.PvidsExist := by
  induction parts generalizing s with
  | nil => exact h
  | cons part parts ih =>
    rw [VirtualSwitchState.applySelectedPorts]
    split_ifs
    · exact ih h
    · split
      · exact h
      · exact ih h

theorem PvidsExist.applyPortSettings (h : s.PvidsExist) (form : Form) :
    (s.applyPortSettings form).1.PvidsExist := by
  unfold VirtualSwitchState.applyPortSettings
  dsimp only
  split_ifs
  · exact h
  · exact h
  · exact h.applySelectedPorts _ _

theorem PvidsExist.applyMembershipForm (h : s.PvidsExist) (form : Form) :
    ((s.applyMembershipForm form).getD s).PvidsExist := by
  unfold VirtualSwitchState.applyMembershipForm
  split
  · exact h
  · next hidden _ =>
    cases hvlan : (form.get? "VLAN_ID".toList).bind pyInt with
    | none =>
      have hnone : (do
          let text ← form.get? "VLAN_ID".toList
          let vid ← pyInt text
          some { s with vlans := s.vlans.modify vid fun vsim => vsim.setMembers hidden } :
          Option VirtualSwitchState) = none := by
        cases htext : form.get? "VLAN_ID".toList with
        | none => rfl
        | some text =>
          rw [htext] at hvlan
          have hint : pyInt text = none := hvlan
          simp [hint]
      rw [hnone]
      exact h
    | some vid =>
      obtain ⟨text, htext, hint⟩ := Option.bind_eq_some_iff.mp hvlan
      simp only [htext, hint, Option.bind_eq_bind, Option.bind_some, Option.getD_some]
      exact h.mono rfl fun v hv => PyDict.mem_modify.mpr hv

theorem PvidsExist.setAll {vlan : ℤ} (hvlan : vlan ∈ s.vlans) :
    ∀ (ports : List ℤ) {s' : VirtualSwitchState}, s'.PvidsExist → s'.vlans = s.vlans →
      ({ s' with pvids := ports.foldl (fun pvids port => pvids.set port vlan) s'.pvids } :
        VirtualSwitchState).PvidsExist
  | [], s', h, _ => h
  | port :: ports, s', h, heq => by
    have hstep := h.set (p := port) (heq ▸ hvlan)
    exact setAll hvlan ports hstep heq

theorem PvidsExist.applyPlusPvid (h : s.PvidsExist) {form : Form}
    (hkeeps : keyedPorts form ≠ [] → ∀ vlan, formPvid form = some vlan → 0 < vlan →
      vlan ∈ s.vlans) : (s.applyPlusPvid form).PvidsExist := by
  unfold VirtualSwitchState.applyPlusPvid
  cases hvlan : formPvid form with
  | none => exact h
  | some vlan =>
    dsimp only
    by_cases hpos : vlan ≤ 0
    · rw [if_pos hpos]
      exact h
    · rw [if_neg hpos]
      cases hports : keyedPorts form with
      | nil => exact h
      | cons port ports =>
        have hmem := hkeeps (by rw [hports]; exact List.cons_ne_nil _ _) vlan hvlan (not_le.mp hpos)
        exact setAll hmem (port :: ports) h rfl

theorem PvidsExist.popAll : ∀ (vids : List ℤ) {s : VirtualSwitchState}, s.PvidsExist →
    (∀ vid ∈ vids, s.Unused vid) →
      ({ s with vlans := vids.foldl (fun vlans vid => vlans.pop vid) s.vlans } :
        VirtualSwitchState).PvidsExist
  | [], s, h, _ => h
  | vid :: vids, s, h, hunused => by
    have hstep := h.pop (hunused vid List.mem_cons_self)
    exact popAll vids hstep fun v hv => hunused v (List.mem_cons_of_mem vid hv)

theorem PvidsExist.applyVlanCfg (h : s.PvidsExist) {form : Form}
    (hkeeps : form.get? "ACTION".toList = some "Delete".toList →
      ∀ vid ∈ droppedVlans form.items, s.Unused vid) : (s.applyVlanCfg form).PvidsExist := by
  unfold VirtualSwitchState.applyVlanCfg
  split_ifs with hadd hdelete
  · split
    · exact h
    · exact h.mono rfl fun v hv => PyDict.mem_setDefault.mpr (Or.inr hv)
  · exact popAll _ h (hkeeps hdelete)
  · exact h

theorem PvidsExist.applyForm (h : s.PvidsExist) {spec : HttpModelSpec} {path : Text} {form : Form}
    (hkeeps : s.FormKeepsPvids spec path form) : (s.applyForm spec path form).PvidsExist := by
  obtain ⟨hpvid, hvlan⟩ := hkeeps
  unfold VirtualSwitchState.applyForm
  split_ifs with hpoe hpath hmembers hconfig
  · exact h.applyPlusPoe form
  · exact h.applyPlusPvid (hpvid hpath)
  · exact h.applyMembershipForm form
  · exact h.applyVlanCfg (hvlan hconfig)
  · exact h

/-- The pages of a managed model set no PVID and take no VLAN away. -/
theorem PvidsExist.postForm (h : s.PvidsExist) (spec : HttpModelSpec) (path : Text) (form : Form) :
    (s.postForm spec path form).1.PvidsExist := by
  have hvlans : ∀ vid vsim,
      ({ s with vlans := s.vlans.set vid vsim } : VirtualSwitchState).PvidsExist :=
    fun vid vsim => h.mono rfl fun v hv => PyDict.mem_set.mpr (Or.inr hv)
  have hmembership : ∀ vid, (s.applyMembership vid form).1.PvidsExist := by
    intro vid
    unfold applyMembership
    split
    · exact h
    · split
      · exact h
      · dsimp only
        split
        · exact hvlans _ _
        · exact hvlans _ _
  have hpage : ∀ answer, s.postVlanPage spec path form = some answer → answer.1.PvidsExist := by
    intro answer hanswer
    unfold postVlanPage at hanswer
    split_ifs at hanswer
    split at hanswer
    · cases hanswer
      exact h
    · next vid _ =>
      have hvid := hmembership vid
      split at hanswer
      · next heq =>
        rw [heq] at hvid
        cases hanswer
        exact hvid
      · next heq =>
        rw [heq] at hvid
        cases hanswer
        exact hvid
  have hports : ∀ checkbox, (s.applyPorts form checkbox).1.PvidsExist := by
    intro checkbox
    unfold applyPorts applyPortAdmin
    split_ifs
    · rw [applyPortAdminRows_eq]
      exact h
    · exact h
  have hpoe : ∀ checkbox unitRequired, (s.applyPoe form checkbox unitRequired).1.PvidsExist := by
    intro checkbox unitRequired
    unfold applyPoe
    split_ifs
    · rw [applyPoeRows_eq]
      exact h
    · exact h
  have hmgmt : ∀ fields, (s.applyMgmtIp fields form).1.PvidsExist := by
    intro fields
    unfold applyMgmtIp
    split
    · exact h
    · split
      · exact h
      · dsimp only
        split <;> exact h
  have hsyslog : (s.applySyslogRows form).1.PvidsExist := by
    unfold applySyslogRows
    dsimp only
    split
    · exact h
    · split
      · exact h
      · split <;> exact h
  have hxui : ∀ answer, s.postXuiPage spec path form = some answer → answer.1.PvidsExist := by
    intro answer hanswer
    unfold postXuiPage at hanswer
    dsimp only at hanswer
    split at hanswer
    · split_ifs at hanswer
      cases hanswer
      exact hsyslog
    · obtain ⟨boxes, -, hboxes⟩ := Option.bind_eq_some_iff.mp hanswer
      obtain ⟨portsCheckbox, poeCheckbox, unitRequired⟩ := boxes
      dsimp only at hboxes
      split at hboxes
      · obtain ⟨fields, -, rfl⟩ := Option.map_eq_some_iff.mp hboxes
        exact hmgmt fields
      · split at hboxes
        · cases hboxes
          exact hports _
        · split at hboxes
          · cases hboxes
            exact hpoe _ _
          · cases hboxes
  unfold VirtualSwitchState.postForm
  split
  · next answer hanswer => exact hpage answer hanswer
  · cases hanswer : s.postXuiPage spec path form with
    | none => exact h
    | some answer => exact hxui answer hanswer

theorem mem_writeVlan {vlans : PyDict ℤ VlanSim} {w : ℤ × VlanWrite} (hw : w.2 ≠ .drop) {v : ℤ}
    (hv : v ∈ vlans) : v ∈ writeVlan vlans w := by
  obtain ⟨vid, write⟩ := w
  cases write with
  | drop => exact absurd rfl hw
  | name t =>
    unfold writeVlan
    dsimp only
    split_ifs
    · exact PyDict.mem_modify.mpr hv
    · exact PyDict.mem_set.mpr (Or.inr hv)
  | member action el => exact PyDict.mem_modify.mpr hv

theorem PvidsExist.stepEffect (h : s.PvidsExist) {step : WcdStep} (hkeeps : s.StepKeepsPvids step) :
    (s.stepEffect step).PvidsExist := by
  obtain ⟨hdrop, hset⟩ := hkeeps
  cases hpvid : step.pvidWrite with
  | some w =>
    -- an element that sets a PVID writes no VLAN
    have hvlan : step.vlanWrite = none := by
      cases step with
      | pvid iface => rfl
      | _ => cases hpvid
    have hstate := h.set (p := w.1) (hset w.1 w.2 hpvid)
    unfold VirtualSwitchState.stepEffect
    rw [hpvid, hvlan]
    exact hstate
  | none =>
    unfold VirtualSwitchState.stepEffect
    rw [hpvid]
    cases hvlan : step.vlanWrite with
    | none => exact h
    | some w =>
      obtain ⟨vid, write⟩ := w
      by_cases hw : write = .drop
      · subst hw
        exact h.pop (hdrop vid hvlan)
      · exact h.mono rfl fun v hv => mem_writeVlan hw hv

theorem PvidsExist.runSteps {steps : List WcdStep} (h : s.PvidsExist)
    (hkeeps : StepsKeepPvids steps s) : (runSteps steps s).1.PvidsExist := by
  induction steps generalizing s with
  | nil => exact h
  | cons step steps ih =>
    unfold VirtualSwitchState.runSteps RunUntil.run
    cases hcheck : step.check s.vlanIds with
    | some r => exact h
    | none =>
      obtain ⟨hstep, hrest⟩ := hkeeps hcheck
      exact ih (h.stepEffect hstep) hrest

theorem PvidsExist.applyXml {body : Text} (h : s.PvidsExist)
    (hkeeps : ∀ steps, bodySteps body = some steps → StepsKeepPvids steps s) :
    (s.applyXml body).1.PvidsExist := by
  unfold bodySteps at hkeeps
  unfold VirtualSwitchState.applyXml
  split_ifs at hkeeps ⊢ with hdtd
  · exact h
  · cases hroot : Xml.parseDocument body with
    | none => exact h
    | some root =>
      rw [hroot] at hkeeps
      dsimp only
      split
      · exact h
      · next hcert =>
        rw [applySections_eq]
        refine h.runSteps (hkeeps _ ?_)
        rw [Option.bind_some, hcert]

theorem PvidsExist.afterCall {c : Call} (h : s.PvidsExist) (hkeeps : s.CallKeepsPvids c) :
    (s.afterCall c).PvidsExist := by
  unfold VirtualSwitchState.afterCall
  cases hspec : httpSpec s.modelKey with
  | none => exact h
  | some spec =>
    cases c with
    | getPage path => exact h
    | postMultipart path data file => exact h
    | postForm path data =>
      dsimp only
      split_ifs
      · exact h
      · exact h.postForm spec path _
      · exact h.applyPortSettings _
      · exact h
      · exact h
      · exact h.applyForm (hkeeps spec hspec)
    | postXml path body =>
      dsimp only
      split_ifs
      · exact h.applyXml hkeeps
      · exact h

end VirtualSwitchState

/-! ## §6 Calls and runs -/

/-- A switch with all its faces, over the state of its view. -/
structure LabSwitch where
  switch : VirtualSwitch
  nsdp : World VirtualNsdpFace

/-- What the clients read, the PDU that a client makes of the varbinds of a SET, if it makes one, and
what the NSDP client's network and the switch's salts do. -/
structure ClientSide where
  read : StateMibView → SnmpRequest → SnmpReply
  pdu : List SetVarbind → Option (List VarBind)
  render : VirtualSwitchState → Text → Text
  page : VirtualSwitchState → Call → Except LibError Text
  urandom : ℕ → Bytes
  network : ℕ → DatagramNet.Delivery

/-- A call of a writer over one of the faces.  The writers are scripts, so whatever a call may do
is covered, the guards it passes or fails and the answers it believes. -/
inductive WriterCall
  | snmp (p : SnmpScript Unit)
  | cli (session : ℕ) (p : CliScript Unit)
  | nsdp (p : NsdpScript Unit)
  | web (p : HttpScript Unit)

namespace LabSwitch

variable (side : ClientSide)

def state (d : LabSwitch) : VirtualSwitchState := d.switch.view.state

def snmpFace : Machine LabSwitch SnmpRequest SnmpReply
  | d, .set varbinds =>
    match side.pdu varbinds with
    | none => (d, .error .snmp)
    | some pdu => ({ d with switch := d.switch.perform (.set pdu) },
        match (d.switch.view.writeVariables pdu).2 with
        | .echoed _ => .ok []
        | _ => .error .snmp)
  | d, q => (d, side.read d.switch.view q)

def cliFace (session : ℕ) : Machine LabSwitch CliCall (Except LibError Text)
  | d, .run command => ({ d with switch := d.switch.perform (.cli session command) },
      (d.switch.session session).replyText side.render command)
  | d, .writeMemory _ _ => (d, .ok [])

/-- The NSDP client and its network, with the switch in the state it is in now. -/
def world (d : LabSwitch) : World VirtualNsdpFace :=
  { d.nsdp with net := { d.nsdp.net with server := { d.nsdp.net.server with state := d.state } } }

def nsdpFace : NsdpMachine LabSwitch := fun d q =>
  let answer := clientCall side.urandom side.network d.world q
  (⟨d.switch.withState answer.1.net.server.state, answer.1⟩, answer.2)

def webFace : Machine LabSwitch Call (Except LibError Text) := fun d c =>
  ({ d with switch := d.switch.withState (d.state.afterCall c) }, side.page d.state c)

/-- The switch a call leaves, whether it succeeds or raises. -/
def perform (d : LabSwitch) : WriterCall → LabSwitch
  | .snmp p => (p.run (snmpFace side) d).device
  | .cli session p => (p.run (cliFace side session) d).device
  | .nsdp p => (p.run (nsdpFace side) d).device
  | .web p => (p.run (webFace side) d).device

/-- The switches that a run goes through, the start included. -/
def trace (d : LabSwitch) : List WriterCall → List LabSwitch
  | [] => [d]
  | call :: calls => d :: (d.perform side call).trace calls

def SnmpKeeps (d : LabSwitch) : SnmpRequest → Prop
  | .set varbinds => ∀ pdu, side.pdu varbinds = some pdu → d.state.SetKeepsPvids pdu
  | _ => True

def CliKeeps (session : ℕ) (d : LabSwitch) : CliCall → Prop
  | .run command => (d.switch.session session).modes.head? = some .vlanDb →
    ∀ c, VlanDbCommand.ofText (strip command) = some c → d.state.VlanDbKeepsPvids c
  | _ => True

/-- Every request that a call makes leaves no port behind, in the state it meets. -/
def Keeps (d : LabSwitch) : WriterCall → Prop
  | .snmp p => p.Heeds (snmpFace side) (SnmpKeeps side) d
  | .cli session p => p.Heeds (cliFace side session) (CliKeeps session) d
  | .nsdp p => p.Heeds (nsdpFace side) (fun d q =>
    WriteKeepsPvids (virtualEnvironment side.urandom side.network) d.world q) d
  | .web p => p.Heeds (webFace side) (fun d c => d.state.CallKeepsPvids c) d

/-- Every call of the run keeps, on the switch it meets. -/
def RunKeeps (d : LabSwitch) : List WriterCall → Prop
  | [] => True
  | call :: calls => d.Keeps side call ∧ (d.perform side call).RunKeeps calls

variable {side} {d : LabSwitch}

theorem pvidsExist_snmpFace {q : SnmpRequest} (h : d.state.PvidsExist)
    (hkeeps : d.SnmpKeeps side q) : (snmpFace side d q).1.state.PvidsExist := by
  cases q with
  | set varbinds =>
    unfold snmpFace
    dsimp only
    cases hpdu : side.pdu varbinds with
    | none => exact h
    | some pdu =>
      show (d.switch.view.writeVariables pdu).1.state.PvidsExist
      rw [VirtualSwitchState.state_writeVariables]
      exact h.applySet (hkeeps pdu hpdu)
  | get base index => exact h
  | walk base => exact h

theorem pvidsExist_cliFace {session : ℕ} {q : CliCall} (h : d.state.PvidsExist)
    (hkeeps : d.CliKeeps session q) : (cliFace side session d q).1.state.PvidsExist := by
  cases q with
  | writeMemory save confirm => exact h
  | run command =>
    have hsession : (d.switch.session session).state.PvidsExist := h
    have heffect := VirtualCliFace.effect_of_run (d.switch.session session) command
    show ((d.switch.session session).run command).1.state.PvidsExist
    generalize ((d.switch.session session).run command).1.state = s at heffect
    cases heffect with
    | unrelated => exact hsession
    | vlanDb c hmode hcommand => exact hsession.vlanDbCommand (hkeeps hmode c hcommand)
    | interface port c => exact hsession.interfaceCommand port c

theorem pvidsExist_perform {call : WriterCall} (h : d.state.PvidsExist)
    (hkeeps : d.Keeps side call) : (d.perform side call).state.PvidsExist := by
  cases call with
  | snmp p =>
    exact Heeds.device (I := fun d => d.state.PvidsExist)
      (fun d q hd hq => pvidsExist_snmpFace hd hq) hkeeps h
  | cli session p =>
    exact Heeds.device (I := fun d => d.state.PvidsExist)
      (fun d q hd hq => pvidsExist_cliFace hd hq) hkeeps h
  | nsdp p =>
    exact Heeds.device (I := fun d => d.state.PvidsExist)
      (fun d q hd hq => @pvidsExist_clientCall _ _ d.world q hd hq) hkeeps h
  | web p =>
    exact Heeds.device (I := fun d => d.state.PvidsExist)
      (fun d q hd hq => VirtualSwitchState.PvidsExist.afterCall hd hq) hkeeps h

/-- **No dangling PVID.**  A run of calls, over any of the faces, whose requests all leave no port
behind goes through switches only where every port's PVID names a VLAN. -/
theorem pvidsExist_of_runKeeps {calls : List WriterCall} (h : d.state.PvidsExist)
    (hkeeps : d.RunKeeps side calls) : ∀ e ∈ d.trace side calls, e.state.PvidsExist := by
  induction calls generalizing d with
  | nil =>
    intro e he
    rw [List.mem_singleton.mp he]
    exact h
  | cons call calls ih =>
    obtain ⟨hcall, hrest⟩ := hkeeps
    intro e he
    rcases List.mem_cons.mp he with rfl | he
    · exact h
    · exact ih (pvidsExist_perform h hcall) hrest e he

end LabSwitch

theorem VirtualSwitchState.pvidsExist_of_items {s : VirtualSwitchState}
    (h : ∀ e ∈ s.pvids.items, e.2 ∈ s.vlans) : s.PvidsExist :=
  fun p v hp => h (p, v) (PyDict.mem_items_of_get? hp)

/-- A switch with the state `s`, none of its sessions used. -/
def LabSwitch.ofState (s : VirtualSwitchState) : LabSwitch where
  switch := ⟨⟨s, (loadView s).2.getD []⟩, fun _ => { state := s }⟩
  nsdp := freshWorld s

/-- The clients of a switch that has neither an SNMP face nor a CLI, over a network that loses
nothing. -/
def nsdpSide : ClientSide where
  read := fun _ _ => .error .snmp
  pdu := fun _ => none
  render := fun _ _ => []
  page := fun _ _ => .error .http
  urandom := fun _ => [1, 2, 3, 4]
  network := promptReplies

/-- A switch whose ports have VLAN 1 for their PVID. -/
def tenPortsLab : LabSwitch := LabSwitch.ofState (tenPorts "GS110EMX".toList)

/-! A writer's calls on a switch whose ports are all in VLAN 1: as long as VLAN 1 stays, deleting
another VLAN and putting a port back into VLAN 1 leave no port behind. -/

/-- VLAN 1 is there, and is the PVID of every port. -/
def VirtualSwitchState.AllInVlan1 (s : VirtualSwitchState) : Prop :=
  (∀ p v, s.pvids.get? p = some v → v = 1) ∧ 1 ∈ s.vlans

theorem VirtualSwitchState.AllInVlan1.of_config {s s' : VirtualSwitchState} (h : s.AllInVlan1)
    (hconfig : s'.config = s.config) : s'.AllInVlan1 := by
  have hpvids := congrArg VirtualSwitchState.pvids hconfig
  have hvlans := congrArg VirtualSwitchState.vlans hconfig
  obtain ⟨hall, hone⟩ := h
  refine ⟨fun p v hp => hall p v ?_, ?_⟩
  · exact (congrArg (PyDict.get? · p) hpvids).symm.trans hp
  · exact Eq.mpr (congrArg ((1 : ℤ) ∈ ·) hvlans) hone

/-- A TLV that leaves no port behind on such a switch, and leaves such a switch. -/
def StaysInVlan1 (t : TLVEntry) : Prop := ∀ s : VirtualSwitchState, s.AllInVlan1 →
  s.TlvKeepsPvids t.tag t.value ∧ ∀ s', s.applyNsdpWrite t.tag t.value = .ok s' → s'.AllInVlan1

theorem staysInVlan1_auth {t : TLVEntry} (h : t.tag = Tag.password ∨ t.tag = Tag.authV2Password) :
    StaysInVlan1 t := by
  intro s hs
  rcases h with h | h
  · rw [h]
    exact ⟨trivial, fun s' hs' => by cases hs'; exact hs⟩
  · rw [h]
    exact ⟨trivial, fun s' hs' => by cases hs'; exact hs⟩

/-- VLAN 7 deleted. -/
theorem staysInVlan1_destroy : StaysInVlan1 ⟨Tag.vlanDestroy, [0, 7]⟩ := by
  rintro s ⟨hall, hone⟩
  have hunused : s.Unused 7 := by
    intro p hp
    cases hall p 7 hp
  refine ⟨fun _ => Or.inl hunused, fun s' hs' => ?_⟩
  have hdestroy : s.applyNsdpWrite Tag.vlanDestroy [0, 7] = if (7 : ℤ) ∈ s.vlans then
      .ok { s with
        vlans := s.vlans.pop 7
        pvids := s.pvids.mapValues fun _ pv => if pv = 7 then 1 else pv }
    else .ok s := rfl
  rw [hdestroy] at hs'
  split_ifs at hs'
  · cases hs'
    refine ⟨fun p v hp => ?_, PyDict.mem_pop.mpr ⟨by decide, hone⟩⟩
    have hget : (s.pvids.mapValues fun _ pv => if pv = 7 then 1 else pv).get? p = some v := hp
    rw [PyDict.get?_mapValues, Option.map_eq_some_iff] at hget
    obtain ⟨pv, hpv, rfl⟩ := hget
    rw [hall p pv hpv]
    rfl
  · cases hs'
    exact ⟨hall, hone⟩

/-- Port 3 put into VLAN 1. -/
theorem staysInVlan1_pvid : StaysInVlan1 ⟨Tag.portPvid, [3, 0, 1]⟩ := by
  rintro s ⟨hall, hone⟩
  refine ⟨fun _ => hone, fun s' hs' => ?_⟩
  cases hs'
  refine ⟨fun p v hp => ?_, hone⟩
  have hget : (s.pvids.set 3 1).get? p = some v := hp
  rw [PyDict.get?_set] at hget
  split_ifs at hget
  · exact (Option.some.inj hget).symm
  · exact hall p v hget

theorem VirtualSwitchState.AllInVlan1.applyConfigTlvs {authTag : ℕ} : ∀ {ts : List TLVEntry}
    {s : VirtualSwitchState}, s.AllInVlan1 → (∀ t ∈ ts, StaysInVlan1 t) →
      TlvsKeepPvids authTag ts s ∧ (VirtualSwitchState.applyConfigTlvs authTag ts s).1.AllInVlan1
  | [], s, h, _ => ⟨trivial, h⟩
  | t :: ts, s, h, hts => by
    have hrest : ∀ t' ∈ ts, StaysInVlan1 t' := fun t' ht' => hts t' (List.mem_cons_of_mem t ht')
    rw [TlvsKeepPvids, VirtualSwitchState.applyConfigTlvs]
    by_cases htag : t.tag = authTag
    · rw [if_pos htag, if_pos htag]
      exact h.applyConfigTlvs hrest
    · rw [if_neg htag, if_neg htag]
      obtain ⟨hkeeps, hnext⟩ := hts t List.mem_cons_self s h
      refine ⟨⟨hkeeps, fun s' hs' => ((hnext s' hs').applyConfigTlvs hrest).1⟩, ?_⟩
      cases hwrite : s.applyNsdpWrite t.tag t.value with
      | error fault => exact h
      | ok s' => exact ((hnext s' hwrite).applyConfigTlvs hrest).2

/-- A request that writes such TLVs only. -/
def WritesInVlan1 : NsdpCall → Prop
  | .read _ => True
  | .write tlvs _ => ∀ t ∈ tlvs, StaysInVlan1 t

theorem keeps_writesInVlan1 {urandom : ℕ → Bytes} {network : ℕ → DatagramNet.Delivery}
    {w : World VirtualNsdpFace} {q : NsdpCall} (h : w.net.server.state.AllInVlan1)
    (hq : WritesInVlan1 q) : WriteKeepsPvids (virtualEnvironment urandom network) w q ∧
      (clientCall urandom network w q).1.net.server.state.AllInVlan1 := by
  -- the TLVs the switch takes are the first of those sent, behind the proof of the password
  have htaken : ∀ {tlvs : List TLVEntry} {password : Text} {w' : World VirtualNsdpFace}
      {req p : NSDPPacket} {bytes : Bytes}, q = .write tlvs password →
      w.buildWrite (virtualEnvironment urandom network) tlvs password = (w', .ok req) →
      req.encode = some bytes → NSDPPacket.decode (bytes.take 4096) = .ok p →
      ∀ t ∈ p.tlvs, StaysInVlan1 t := by
    intro tlvs password w' req p bytes hcall hbuilt hbytes hp t ht
    subst hcall
    obtain ⟨-, auth, htlvs, hauth⟩ :=
      (@World.buildWrite_state urandom network tlvs password w).2 w' req hbuilt
    have hsent := (NSDPPacket.decode_take hbytes hp).2.1.subset ht
    rw [htlvs] at hsent
    rcases List.mem_cons.mp hsent with rfl | hsent
    · exact staysInVlan1_auth hauth
    · exact hq t hsent
  have hstate : (clientCall urandom network w q).1.net.server.state.AllInVlan1 := by
    refine state_clientCall (fun hconfig hs => hs.of_config hconfig) ?_ h
    intro tlvs password w' req bytes p hcall hbuilt hbytes hp _ hs
    exact (hs.applyConfigTlvs (htaken hcall hbuilt hbytes hp)).2
  refine ⟨?_, hstate⟩
  cases q with
  | read tags => trivial
  | write tlvs password =>
    intro w' req bytes p hbuilt hbytes hp _
    obtain ⟨⟨salt, hsalted⟩, -⟩ := @World.buildWrite_state urandom network tlvs password w
    rw [hbuilt] at hsalted
    have hmet : w'.net.server.state.AllInVlan1 := by
      rw [show w'.net.server.state = _ from hsalted]
      exact h
    exact (hmet.applyConfigTlvs (htaken rfl hbuilt hbytes hp)).1

theorem asks_getVlans_inVlan1 : NsdpWriter.getVlans.Asks WritesInVlan1 :=
  asks_bind (asks_bind (asks_call trivial) fun _ => asks_done _) fun _ => asks_done _

theorem asks_send_inVlan1 (w : NsdpWriter) {tlvs : Except LibError (List TLVEntry)}
    (h : ∀ ts, tlvs = .ok ts → ∀ t ∈ ts, StaysInVlan1 t) : (w.send tlvs).Asks WritesInVlan1 :=
  asks_done_bind fun ts hts => asks_bind (asks_call (h ts hts)) fun _ =>
    asks_bind (asks_done _) fun _ => asks_done _

theorem asks_deleteVlan7 (w : NsdpWriter) (force : Bool) :
    (w.deleteVlan 7 force).Asks WritesInVlan1 := by
  refine asks_bind (asks_done _) fun _ => asks_bind asks_getVlans_inVlan1 fun _ => ?_
  refine asks_bind (asks_send_inVlan1 w fun ts hts t ht => ?_) fun _ =>
    asks_bind asks_getVlans_inVlan1 fun _ => asks_done _
  cases hts
  rw [List.mem_singleton.mp ht]
  exact staysInVlan1_destroy

theorem asks_setPvid1 (w : NsdpWriter) (force : Bool) : (w.setPvid 3 1 force).Asks WritesInVlan1 := by
  have hpvids : NsdpWriter.getPvids.Asks WritesInVlan1 :=
    asks_bind (asks_bind (asks_call trivial) fun _ => asks_done _) fun _ => asks_done _
  refine asks_bind (asks_done _) fun _ => asks_bind ?_ fun _ => asks_bind hpvids fun _ => ?_
  · exact asks_bind (asks_bind asks_getVlans_inVlan1 fun _ => asks_done _) fun _ => asks_done _
  refine asks_bind (asks_send_inVlan1 w fun ts hts t ht => ?_) fun _ =>
    asks_bind hpvids fun _ => asks_done _
  cases hts
  rw [List.mem_singleton.mp ht]
  exact staysInVlan1_pvid

theorem LabSwitch.keeps_inVlan1 {side : ClientSide} {d : LabSwitch} {p : NsdpScript Unit}
    (hd : d.state.AllInVlan1) (hp : p.Asks WritesInVlan1) :
    d.Keeps side (.nsdp p) ∧ (d.perform side (.nsdp p)).state.AllInVlan1 :=
  hp.heeds_of_keeps (I := fun d : LabSwitch => d.state.AllInVlan1)
    (fun _ _ hd hq => keeps_writesInVlan1 hd hq) hd

/-- VLAN 7 deleted, which no port uses, and a port put into VLAN 1. -/
theorem pvidsExist_tenPortsLab : tenPortsLab.state.PvidsExist ∧
    ∀ e ∈ tenPortsLab.trace nsdpSide
      [.nsdp (tenPortsWriter.deleteVlan 7 true), .nsdp (tenPortsWriter.setPvid 3 1 true)],
      e.state.PvidsExist := by
  have hstart : tenPortsLab.state.PvidsExist := VirtualSwitchState.pvidsExist_of_items (by decide)
  have hall : ∀ e ∈ tenPortsLab.state.pvids.items, e.2 = 1 := by decide
  have hone : tenPortsLab.state.AllInVlan1 :=
    ⟨fun p v hp => hall (p, v) (PyDict.mem_items_of_get? hp), by decide⟩
  obtain ⟨hdelete, hnext⟩ := @LabSwitch.keeps_inVlan1 nsdpSide _ _ hone
    (asks_deleteVlan7 tenPortsWriter true)
  exact ⟨hstart, LabSwitch.pvidsExist_of_runKeeps hstart
    ⟨hdelete, (LabSwitch.keeps_inVlan1 hnext (asks_setPvid1 tenPortsWriter true)).1, trivial⟩⟩

/-- VLAN 1 deleted over NSDP: the switch puts the ports back into the VLAN that it has just
deleted. -/
theorem not_pvidsExist_deleteVlan1 : tenPortsLab.state.PvidsExist ∧
    ∃ e ∈ tenPortsLab.trace nsdpSide [.nsdp (tenPortsWriter.deleteVlan 1 true)],
      ¬ e.state.PvidsExist := by
  refine ⟨VirtualSwitchState.pvidsExist_of_items (by decide),
    tenPortsLab.perform nsdpSide (.nsdp (tenPortsWriter.deleteVlan 1 true)),
    List.mem_cons_of_mem _ List.mem_cons_self, fun h => ?_⟩
  have hpvid : (tenPortsLab.perform nsdpSide
      (.nsdp (tenPortsWriter.deleteVlan 1 true))).state.pvids.get? 1 = some 1 := by
    decide +kernel
  have hvlan : (tenPortsLab.perform nsdpSide
      (.nsdp (tenPortsWriter.deleteVlan 1 true))).state.vlans.get? 1 = none := by
    decide +kernel
  exact PyDict.not_mem_iff.mpr hvlan (h 1 1 hpvid)

end NetgearSwitch.Virtual
