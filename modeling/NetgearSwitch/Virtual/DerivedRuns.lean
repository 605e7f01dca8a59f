import NetgearSwitch.Virtual.SnmpFace
import NetgearSwitch.Virtual.CliFace

/-!
# Switchport-derived membership over SNMP and CLI runs

On a switchport model the stored VLAN membership of a port should stay the one its switchport
row gives, whatever SNMP SETs and CLI commands arrive in whatever order.  It does not: a VLAN
created while a trunk port already allows it comes into being without that port, and the CLI
face edits the VLAN sets without looking at the row.

`Keeps` names the operations that cannot do this.  It is a condition on the state an operation
meets, and exact for a single varbind (`membershipDerived_applyWrite_iff`) and for a CLI command
(`membershipDerived_vlanDbCommand_iff`, `membershipDerived_interfaceCommand_iff`).  A run whose
operations all keep stays derived throughout.
-/

namespace NetgearSwitch.Virtual

open Snmp PyText

namespace VirtualSwitchState

/-- Every physical port stands in every VLAN as its switchport row says. -/
def MembershipDerived (s : VirtualSwitchState) : Prop :=
  ∀ p, s.IsPhysical p → s.SwitchportDerived p

/-! ## §1 What leaves a port where its row puts it -/

theorem mem_tagged_congr {r : SwitchportRow} {v : ℤ} {ids ids' : Finset ℤ}
    (h : v ∈ ids ↔ v ∈ ids') : v ∈ r.tagged ids ↔ v ∈ r.tagged ids' := by
  unfold SwitchportRow.tagged
  split_ifs
  · rfl
  · simp only [Finset.mem_sdiff, Finset.mem_inter, h]
  · rfl

theorem mem_vlanIds_of_get? {s : VirtualSwitchState} {v : ℤ} {sim : VlanSim}
    (h : s.vlans.get? v = some sim) : v ∈ s.vlanIds :=
  mem_vlanIds.mpr (PyDict.mem_iff.mpr ⟨sim, h⟩)

/-- A change that keeps the row of `p`, and brings in no VLAN and moves `p` in none, keeps `p`
derived. -/
theorem SwitchportDerived.of_vlans {s s' : VirtualSwitchState} {p : ℤ}
    (h : s.SwitchportDerived p) (hrow : s'.row p = s.row p)
    (hvlans : ∀ v sim', s'.vlans.get? v = some sim' → ∃ sim, s.vlans.get? v = some sim ∧
      (p ∈ sim'.member ↔ p ∈ sim.member) ∧ (p ∈ sim'.untagged ↔ p ∈ sim.untagged)) :
    s'.SwitchportDerived p := by
  intro v sim' hsim'
  obtain ⟨sim, hsim, hmember, huntagged⟩ := hvlans v sim' hsim'
  obtain ⟨hm, hu⟩ := h v sim hsim
  have htagged : v ∈ (s.row p).tagged s'.vlanIds ↔ v ∈ (s.row p).tagged s.vlanIds := by
    apply mem_tagged_congr
    exact iff_of_true (mem_vlanIds_of_get? hsim') (mem_vlanIds_of_get? hsim)
  rw [hrow, hmember, huntagged, htagged]
  exact ⟨hm, hu⟩

theorem SwitchportDerived.congr {s s' : VirtualSwitchState} {p : ℤ} (h : s.SwitchportDerived p)
    (hrow : s'.row p = s.row p) (hvlans : s'.vlans = s.vlans) : s'.SwitchportDerived p := by
  apply h.of_vlans hrow
  intro v sim hsim
  rw [hvlans] at hsim
  exact ⟨sim, hsim, Iff.rfl, Iff.rfl⟩

/-- A new VLAN keeps `p` derived exactly when the row of `p` does not put `p` into it. -/
theorem switchportDerived_create_iff {s s' : VirtualSwitchState} {p vid : ℤ} {name : Text}
    (h : s.SwitchportDerived p) (hvid : vid ∉ s.vlans) (hrow : s'.row p = s.row p)
    (hvlans : s'.vlans = s.vlans.set vid { name := name }) :
    s'.SwitchportDerived p ↔
      vid ∉ (s.row p).untagged ∧ vid ∉ (s.row p).tagged (insert vid s.vlanIds) := by
  have hids : s'.vlanIds = insert vid s.vlanIds := by
    ext v
    simp [hvlans]
  constructor
  · intro h'
    obtain ⟨hmember, huntagged⟩ := h' vid { name := name } (by rw [hvlans, PyDict.get?_set_self])
    rw [hrow, hids] at hmember
    rw [hrow] at huntagged
    have hempty : p ∉ ({ name := name } : VlanSim).member := by simp
    refine ⟨fun hu => hempty (hmember.mpr (Or.inl hu)), fun ht => hempty (hmember.mpr (Or.inr ht))⟩
  · rintro ⟨hu, ht⟩ v sim hsim
    rw [hrow, hids]
    rw [hvlans, PyDict.get?_set] at hsim
    by_cases hv : v = vid
    · rw [if_pos hv] at hsim
      cases hsim
      subst hv
      refine ⟨iff_of_false (by simp) ?_, iff_of_false (by simp) hu⟩
      rintro (hu' | ht')
      · exact hu hu'
      · exact ht ht'
    · rw [if_neg hv] at hsim
      obtain ⟨hm, hu'⟩ := h v sim hsim
      have htagged : v ∈ (s.row p).tagged (insert vid s.vlanIds) ↔
          v ∈ (s.row p).tagged s.vlanIds := by
        apply mem_tagged_congr
        simp [hv]
      rw [htagged]
      exact ⟨hm, hu'⟩

theorem SwitchportDerived.portStep {s s' : VirtualSwitchState} {p q : ℤ}
    (h : s.SwitchportDerived p) (hstep : PortStep q s s') : s'.SwitchportDerived p := by
  obtain ⟨t, hedit, rfl⟩ := hstep
  by_cases hpq : p = q
  · rw [hpq]
    exact switchportDerived_applySwitchport t q
  · exact (h.congr (hedit.others p hpq) hedit.vlans).applySwitchport

/-! ## §2 One varbind -/

/-- Creating VLAN `vid` is harmless: it exists already, or no physical port's row puts the port
into it. -/
def CreationKeeps (s : VirtualSwitchState) (vid : ℤ) : Prop :=
  vid ∈ s.vlans ∨ ∀ p, s.IsPhysical p →
    vid ∉ (s.row p).untagged ∧ vid ∉ (s.row p).tagged (insert vid s.vlanIds)

/-- The varbind creates no VLAN that a physical port's row already puts the port into. -/
def VarbindKeeps (s : VirtualSwitchState) (oid : Oid) (value : SetValue) : Prop :=
  match column s.model oid with
  | some (.staticRowStatus vid) => value.toInt = some rowStatusCreateAndGo → s.CreationKeeps vid
  | some (.staticName vid) => s.CreationKeeps vid
  | _ => True

theorem SameInventory.isPhysical_iff {s s' : VirtualSwitchState} (h : SameInventory s s') {p : ℤ} :
    s'.IsPhysical p ↔ s.IsPhysical p := by
  unfold IsPhysical
  rw [PyDict.mem_def, PyDict.mem_def, h.portKeys, model, model, h.modelKey]

/-- An accepted write other than a creation keeps every port derived. -/
theorem ColumnEffect.switchportDerived {s s' : VirtualSwitchState} {value : SetValue} {c : Column}
    {p : ℤ} (heffect : ColumnEffect s value c s') (hmodel : s.switchportModel = true)
    (h : s.SwitchportDerived p)
    (hcreate : ∀ vid, c = .staticRowStatus vid ∨ c = .staticName vid → vid ∉ s.vlans →
      vid ∉ s'.vlans) : s'.SwitchportDerived p := by
  cases heffect with
  | unrelated => exact h.congr rfl rfl
  | pvid => exact h.congr rfl rfl
  | row port t _ _ hedit _ _ _ => exact h.portStep ⟨t, hedit, rfl⟩
  | reconcile vid octets _ _ _ hstep =>
    have hstart : (s.ports.keys.foldl switchportDefaults s).SwitchportDerived p :=
      h.congr (row_foldl_switchportDefaults _ s p) (vlans_foldl_switchportDefaults _ s)
    exact reconcile_induction (P := fun t => t.SwitchportDerived p)
      (fun _ _ _ _ hport ht => ht.portStep hport) hstart hstep
  | membership _ _ _ _ _ _ hmodel' =>
    rw [hmodel] at hmodel'
    cases hmodel'
  | destroy vid =>
    refine h.of_vlans rfl ?_
    intro v sim hsim
    rw [PyDict.get?_pop] at hsim
    split_ifs at hsim
    exact ⟨sim, hsim, Iff.rfl, Iff.rfl⟩
  | create vid name hc hvid =>
    have habsent := hcreate vid hc hvid
    exact absurd (PyDict.mem_set.mpr (Or.inl rfl)) habsent
  | rename vid vsim name hvid =>
    refine h.of_vlans rfl ?_
    intro v sim hsim
    rw [PyDict.get?_set] at hsim
    split_ifs at hsim with hv
    · cases hsim
      exact ⟨vsim, hv ▸ hvid, Iff.rfl, Iff.rfl⟩
    · exact ⟨sim, hsim, Iff.rfl, Iff.rfl⟩

/-- The two columns that create a VLAN, when they do. -/
theorem creates_of_not_mem {s s' : VirtualSwitchState} {c : Column} {value : SetValue} {vid : ℤ}
    (h : s.applyColumn c value = .ok s') (hc : c = .staticRowStatus vid ∨ c = .staticName vid)
    (hvid : vid ∉ s.vlans) (hvid' : vid ∈ s'.vlans) :
    (c = .staticRowStatus vid → value.toInt = some rowStatusCreateAndGo) ∧
      ∃ name, s' = { s with vlans := s.vlans.set vid { name := name } } := by
  rcases hc with rfl | rfl
  · obtain ⟨n, hn, h⟩ := bind_eq_ok.mp h
    by_cases hdestroy : n = rowStatusDestroy
    · rw [if_pos hdestroy] at h
      cases h
      exact absurd hvid' (by simp)
    · rw [if_neg hdestroy, if_neg hvid] at h
      obtain ⟨_, _, hok⟩ := bind_eq_ok.mp h
      split_ifs at hok with hcreate
      · cases hok
        rw [hcreate] at hn
        exact ⟨fun _ => toInt_of_readInt hn, [], rfl⟩
      · cases hok
        exact absurd hvid' hvid
  · simp only [applyColumn] at h
    rw [PyDict.not_mem_iff.mp hvid] at h
    obtain ⟨_, _, hok⟩ := bind_eq_ok.mp h
    cases hok
    exact ⟨fun hc => Column.noConfusion hc, value.text, rfl⟩

/-- A new VLAN keeps the ports derived exactly when the creation keeps. -/
theorem membershipDerived_create_iff {s : VirtualSwitchState} {vid : ℤ} (name : Text)
    (h : s.MembershipDerived) (hvid : vid ∉ s.vlans) :
    ({ s with vlans := s.vlans.set vid { name := name } } : VirtualSwitchState).MembershipDerived ↔
      s.CreationKeeps vid := by
  have hport : ∀ p, s.IsPhysical p →
      (({ s with vlans := s.vlans.set vid { name := name } } :
          VirtualSwitchState).SwitchportDerived p ↔
        vid ∉ (s.row p).untagged ∧ vid ∉ (s.row p).tagged (insert vid s.vlanIds)) := by
    intro p hp
    exact @switchportDerived_create_iff s { s with vlans := s.vlans.set vid { name := name } } p vid
      name (h p hp) hvid rfl rfl
  constructor
  · intro h'
    exact Or.inr fun p hp => (hport p hp).mp (h' p hp)
  · rintro (hmem | hkeeps) p hp
    · exact absurd hmem hvid
    · exact (hport p hp).mpr (hkeeps p hp)

/-- One accepted varbind keeps every physical port derived exactly when it creates no VLAN that
a port's row already puts the port into. -/
theorem membershipDerived_applyWrite_iff {s s' : VirtualSwitchState} {oid : Oid}
    {value : SetValue} (hmodel : s.switchportModel = true) (h : s.MembershipDerived)
    (hwritable : s.isWritableOid oid = true) (hwrite : s.applyWrite oid value = .ok s') :
    s'.MembershipDerived ↔ s.VarbindKeeps oid value := by
  have hinventory := (written_of_applyWrite hwritable hwrite).inventory
  unfold VarbindKeeps
  cases hcolumn : column s.model oid with
  | none =>
    unfold isWritableOid at hwritable
    rw [hcolumn] at hwritable
    cases hwritable
  | some c =>
    rw [applyWrite, hcolumn] at hwrite
    have heffect := effect_of_applyColumn hwrite
    -- does the write bring in the VLAN it names?
    by_cases hnew : ∃ vid, (c = .staticRowStatus vid ∨ c = .staticName vid) ∧ vid ∉ s.vlans ∧
        vid ∈ s'.vlans
    · obtain ⟨vid, hc, hvid, hvid'⟩ := hnew
      obtain ⟨hvalue, name, hs'⟩ := creates_of_not_mem hwrite hc hvid hvid'
      rw [hs', membershipDerived_create_iff name h hvid]
      rcases hc with rfl | rfl
      · exact ⟨fun hkeeps _ => hkeeps, fun hkeeps => hkeeps (hvalue rfl)⟩
      · exact Iff.rfl
    · have hcreate : ∀ vid, c = .staticRowStatus vid ∨ c = .staticName vid → vid ∉ s.vlans →
          vid ∉ s'.vlans := fun vid hc hvid hvid' => hnew ⟨vid, hc, hvid, hvid'⟩
      have hderived : s'.MembershipDerived := fun p hp =>
        heffect.switchportDerived hmodel (h p (hinventory.isPhysical_iff.mp hp)) hcreate
      refine iff_of_true hderived ?_
      cases c with
      | staticRowStatus vid =>
        intro hvalue
        by_contra hkeeps
        have hvid : vid ∉ s.vlans := fun hmem => hkeeps (Or.inl hmem)
        obtain ⟨n, hn, hrest⟩ := bind_eq_ok.mp hwrite
        rw [toInt_of_readInt hn, Option.some.injEq] at hvalue
        rw [hvalue, if_neg (by decide), if_neg hvid] at hrest
        obtain ⟨_, _, hok⟩ := bind_eq_ok.mp hrest
        rw [if_pos rfl] at hok
        cases hok
        exact hcreate vid (Or.inl rfl) hvid (by simp)
      | staticName vid =>
        by_contra hkeeps
        have hvid : vid ∉ s.vlans := fun hmem => hkeeps (Or.inl hmem)
        simp only [applyColumn] at hwrite
        rw [PyDict.not_mem_iff.mp hvid] at hwrite
        obtain ⟨_, _, hok⟩ := bind_eq_ok.mp hwrite
        cases hok
        exact hcreate vid (Or.inr rfl) hvid (by simp)
      | _ => trivial

/-! ## §3 A SET PDU -/

/-- The state after a SET: every varbind applied and the view projected, or the snapshot. -/
def applySet (s : VirtualSwitchState) (varBinds : List VarBind) : VirtualSwitchState :=
  match s.snapshot.applyVarbinds 0 varBinds with
  | .error _ => s.snapshot
  | .ok s' => (loadView s').1

/-- `write_variables` leaves that state. -/
theorem state_writeVariables (view : StateMibView) (varBinds : List VarBind) :
    (view.writeVariables varBinds).1.state = view.state.applySet varBinds := by
  unfold StateMibView.writeVariables applySet
  dsimp only
  split
  · next happly => rw [happly]
  · next s' happly =>
    rw [happly]
    dsimp only
    split
    · next hload => rw [hload]
    · next hload => rw [hload]

/-- Every varbind keeps, in the state the ones before it leave. -/
def EachKeeps (s : VirtualSwitchState) : List VarBind → Prop
  | [] => True
  | (oid, value) :: rest =>
    s.VarbindKeeps oid value ∧
      match s.applyWrite oid value with
      | .ok s' => s'.EachKeeps rest
      | .error _ => True

/-- A SET keeps when it is refused or all its varbinds keep. -/
def SetKeeps (s : VirtualSwitchState) (varBinds : List VarBind) : Prop :=
  s.snapshot.Refuses varBinds ∨ s.snapshot.EachKeeps varBinds

theorem membershipDerived_snapshot {s : VirtualSwitchState} (h : s.MembershipDerived) :
    s.snapshot.MembershipDerived := fun p hp => (h p hp).congr rfl rfl

theorem MembershipDerived.switchportDefaults {s : VirtualSwitchState} (h : s.MembershipDerived)
    (q : ℤ) : (s.switchportDefaults q).MembershipDerived := fun p hp =>
  (h p hp).congr (row_switchportDefaults s p q) rfl

/-- What filling in a row preserves, projecting the state preserves. -/
theorem loadView_induction {P : VirtualSwitchState → Prop}
    (hstep : ∀ s p, P s → P (s.switchportDefaults p)) {s : VirtualSwitchState} (hs : P s) :
    P (loadView s).1 := by
  have htable : ∀ (ports : List ℤ) (s : VirtualSwitchState), P s → P (switchportRows ports s).1 := by
    intro ports
    induction ports with
    | nil => exact fun _ hs => hs
    | cons p ports ih =>
      intro s hs
      have hrest := ih (s.switchportDefaults p) (hstep s p hs)
      rw [switchportRows]
      split
      · exact hstep s p hs
      · split
        · next hrows =>
          rw [hrows] at hrest
          exact hrest
        · next hrows =>
          rw [hrows] at hrest
          exact hrest
  have hmap : P (s.oidMap).1 := by
    have htable' : P (if s.switchportModel then switchportRows s.ports.keys s else (s, some [])).1 := by
      split_ifs
      · exact htable _ s hs
      · exact hs
    unfold oidMap
    split
    · next heq =>
      rw [heq] at htable'
      exact htable'
    · next heq =>
      rw [heq] at htable'
      exact htable'
  unfold loadView
  split
  · next heq =>
    rw [heq] at hmap
    exact hmap
  · next heq =>
    rw [heq] at hmap
    exact hmap

theorem MembershipDerived.applyVarbinds : ∀ {varBinds : List VarBind} {idx : ℕ}
    {s s' : VirtualSwitchState}, s.switchportModel = true → s.MembershipDerived →
      s.EachKeeps varBinds → s.applyVarbinds idx varBinds = .ok s' → s'.MembershipDerived
  | [], idx, s, s', _, h, _, happly => by
    cases happly
    exact h
  | (oid, value) :: rest, idx, s, s', hmodel, h, hkeeps, happly => by
    rw [VirtualSwitchState.applyVarbinds] at happly
    split_ifs at happly with hwritable
    split at happly
    · cases happly
    · next s₁ hs₁ =>
      obtain ⟨hfirst, hrest⟩ := hkeeps
      rw [hs₁] at hrest
      have hinventory := (written_of_applyWrite hwritable hs₁).inventory
      have h₁ := (membershipDerived_applyWrite_iff hmodel h hwritable hs₁).mpr hfirst
      exact h₁.applyVarbinds (hinventory.switchportModel.trans hmodel) hrest happly

theorem switchportModel_applySet (s : VirtualSwitchState) (varBinds : List VarBind) :
    (s.applySet varBinds).switchportModel = s.switchportModel := by
  unfold applySet
  split
  · rfl
  · next s' happly =>
    have hkey := (written_of_applyVarbinds happly).inventory.modelKey
    apply switchportModel_of_modelKey
    exact loadView_induction (P := fun t => t.modelKey = s.modelKey) (fun _ _ ht => ht) hkey

theorem MembershipDerived.applySet {s : VirtualSwitchState} {varBinds : List VarBind}
    (hmodel : s.switchportModel = true) (h : s.MembershipDerived)
    (hkeeps : s.SetKeeps varBinds) : (s.applySet varBinds).MembershipDerived := by
  unfold VirtualSwitchState.applySet
  split
  · exact membershipDerived_snapshot h
  · next s' happly =>
    rcases hkeeps with hrefuses | hkeeps
    · obtain ⟨e, he⟩ := (@refuses_iff varBinds 0 s.snapshot).mp hrefuses
      rw [happly] at he
      cases he
    · have hmodel' : s.snapshot.switchportModel = true := hmodel
      have hs' : s'.MembershipDerived :=
        MembershipDerived.applyVarbinds hmodel' (membershipDerived_snapshot h) hkeeps happly
      exact loadView_induction (P := MembershipDerived) (fun _ p ht => ht.switchportDefaults p) hs'

/-! ## §4 A CLI command -/

/-- Editing one existing VLAN keeps `p` derived exactly when it does not move `p`. -/
theorem switchportDerived_move_iff {s s' : VirtualSwitchState} {p vid : ℤ} {vsim vsim' : VlanSim}
    (h : s.SwitchportDerived p) (hvid : s.vlans.get? vid = some vsim)
    (hrow : s'.row p = s.row p) (hvlans : s'.vlans = s.vlans.set vid vsim') :
    s'.SwitchportDerived p ↔ (p ∈ vsim'.member ↔ p ∈ vsim.member) ∧
      (p ∈ vsim'.untagged ↔ p ∈ vsim.untagged) := by
  have hids : s'.vlanIds = s.vlanIds := by
    ext v
    have hmem := PyDict.mem_iff.mpr ⟨vsim, hvid⟩
    simp only [mem_vlanIds, hvlans, PyDict.mem_set]
    constructor
    · rintro (rfl | hv)
      · exact hmem
      · exact hv
    · exact Or.inr
  constructor
  · intro h'
    obtain ⟨hm, hu⟩ := h vid vsim hvid
    obtain ⟨hm', hu'⟩ := h' vid vsim' (by rw [hvlans, PyDict.get?_set_self])
    rw [hrow, hids] at hm'
    rw [hrow] at hu'
    exact ⟨hm'.trans hm.symm, hu'.trans hu.symm⟩
  · rintro ⟨hm, hu⟩
    refine h.of_vlans hrow ?_
    intro v sim hsim
    rw [hvlans, PyDict.get?_set] at hsim
    split_ifs at hsim with hv
    · cases hsim
      exact ⟨vsim, hv ▸ hvid, hm, hu⟩
    · exact ⟨sim, hsim, Iff.rfl, Iff.rfl⟩

/-- Editing one VLAN at one port. -/
theorem membershipDerived_edit_iff {s : VirtualSwitchState} {vid : ℤ} {vsim vsim' : VlanSim}
    (h : s.MembershipDerived) (hvid : s.vlans.get? vid = some vsim) (port : ℤ)
    (hothers : ∀ q, q ≠ port →
      (q ∈ vsim'.member ↔ q ∈ vsim.member) ∧ (q ∈ vsim'.untagged ↔ q ∈ vsim.untagged)) :
    ({ s with vlans := s.vlans.set vid vsim' } : VirtualSwitchState).MembershipDerived ↔
      (s.IsPhysical port → (port ∈ vsim'.member ↔ port ∈ vsim.member) ∧
        (port ∈ vsim'.untagged ↔ port ∈ vsim.untagged)) := by
  have hport : ∀ p, s.IsPhysical p →
      (({ s with vlans := s.vlans.set vid vsim' } : VirtualSwitchState).SwitchportDerived p ↔
        (p ∈ vsim'.member ↔ p ∈ vsim.member) ∧ (p ∈ vsim'.untagged ↔ p ∈ vsim.untagged)) :=
    fun p hp => @switchportDerived_move_iff s { s with vlans := s.vlans.set vid vsim' } p vid vsim
      vsim' (h p hp) hvid rfl rfl
  constructor
  · intro h' hp
    exact (hport port hp).mp (h' port hp)
  · intro hmoves p hp
    refine (hport p hp).mpr ?_
    by_cases hpq : p = port
    · subst hpq
      exact hmoves hp
    · exact hothers p hpq

/-- The VLAN database command creates no VLAN that a physical port's row already names. -/
def VlanDbKeeps (s : VirtualSwitchState) : VlanDbCommand → Prop
  | .create vid => s.CreationKeeps vid
  | _ => True

theorem membershipDerived_vlanDbCommand_iff {s : VirtualSwitchState} (h : s.MembershipDerived)
    (command : VlanDbCommand) :
    (s.vlanDbCommand command).1.MembershipDerived ↔ s.VlanDbKeeps command := by
  cases command with
  | create vid =>
    by_cases hvid : vid ∈ s.vlans
    · simp only [vlanDbCommand, if_pos hvid]
      exact iff_of_true h (Or.inl hvid)
    · simp only [vlanDbCommand, if_neg hvid]
      exact membershipDerived_create_iff [] h hvid
  | rename vid name =>
    refine iff_of_true ?_ trivial
    simp only [vlanDbCommand]
    split
    · exact h
    · next vsim hvsim =>
      refine (membershipDerived_edit_iff h hvsim 0 ?_).mpr ?_
      · exact fun _ _ => ⟨Iff.rfl, Iff.rfl⟩
      · exact fun _ => ⟨Iff.rfl, Iff.rfl⟩
  | delete vid =>
    refine iff_of_true ?_ trivial
    simp only [vlanDbCommand]
    split_ifs
    · exact h
    · intro p hp
      refine (h p hp).of_vlans rfl ?_
      intro v sim hsim
      rw [PyDict.get?_pop] at hsim
      split_ifs at hsim
      exact ⟨sim, hsim, Iff.rfl, Iff.rfl⟩
    · exact h

/-- The command is without effect on the membership of `port` in `vid`: the port is no physical
port, or is in CLI access mode, or there is no such VLAN. -/
def Inert (s : VirtualSwitchState) (port vid : ℤ) : Prop :=
  ¬ s.IsPhysical port ∨ s.general port = false ∨ vid ∉ s.vlans

/-- The interface command moves no physical port: it is none of the membership commands, or it
is inert, or the port stands as it asks already. -/
def InterfaceKeeps (s : VirtualSwitchState) (port : ℤ) : InterfaceCommand → Prop
  | .participation true vid => s.Inert port vid ∨ s.isMember port vid ∧ s.isUntagged port vid
  | .participation false vid =>
    s.Inert port vid ∨ ¬ s.isMember port vid ∧ ¬ s.isUntagged port vid
  | .tagging true vid => s.Inert port vid ∨ ¬ s.isUntagged port vid
  | .tagging false vid => s.Inert port vid ∨ s.isUntagged port vid
  | _ => True

theorem isMember_iff_of_get? {s : VirtualSwitchState} {p vid : ℤ} {vsim : VlanSim}
    (h : s.vlans.get? vid = some vsim) : s.isMember p vid ↔ p ∈ vsim.member := by
  simp [isMember, h]

theorem isUntagged_iff_of_get? {s : VirtualSwitchState} {p vid : ℤ} {vsim : VlanSim}
    (h : s.vlans.get? vid = some vsim) : s.isUntagged p vid ↔ p ∈ vsim.untagged := by
  simp [isUntagged, h]

/-- A command that edits the port table only. -/
theorem MembershipDerived.of_ports {s : VirtualSwitchState} (h : s.MembershipDerived)
    {ports : PyDict ℤ PortSim} (poe : PyDict ℤ PoeSim) (hports : ports.keys = s.ports.keys) :
    ({ s with ports := ports, poe := poe } : VirtualSwitchState).MembershipDerived := by
  intro p hp
  have hp' : s.IsPhysical p := by
    unfold IsPhysical at hp ⊢
    rw [PyDict.mem_def] at hp ⊢
    rwa [hports] at hp
  exact (h p hp').congr rfl rfl

theorem membershipDerived_interfaceCommand_iff {s : VirtualSwitchState} (h : s.MembershipDerived)
    (port : ℤ) (command : InterfaceCommand) :
    (s.interfaceCommand port command).1.MembershipDerived ↔ s.InterfaceKeeps port command := by
  -- a membership command in effect edits one VLAN at one port
  have hedit : ∀ vid vsim vsim' {Q : Prop}, s.vlans.get? vid = some vsim →
      s.general port = true →
      (∀ q, q ≠ port →
        (q ∈ vsim'.member ↔ q ∈ vsim.member) ∧ (q ∈ vsim'.untagged ↔ q ∈ vsim.untagged)) →
      (((port ∈ vsim'.member ↔ port ∈ vsim.member) ∧
        (port ∈ vsim'.untagged ↔ port ∈ vsim.untagged)) ↔ Q) →
      (({ s with vlans := s.vlans.set vid vsim' } : VirtualSwitchState).MembershipDerived ↔
        s.Inert port vid ∨ Q) := by
    intro vid vsim vsim' Q hvid hgeneral hothers hQ
    have hmem : vid ∈ s.vlans := PyDict.mem_iff.mpr ⟨vsim, hvid⟩
    rw [membershipDerived_edit_iff h hvid port hothers, hQ]
    unfold Inert
    by_cases hphysical : s.IsPhysical port
    · simp [hphysical, hgeneral, hmem]
    · simp [hphysical]
  cases command with
  | participation included vid =>
    cases hvid : s.vlans.get? vid with
    | none =>
      have hinert : s.Inert port vid := Or.inr (Or.inr (PyDict.not_mem_iff.mpr hvid))
      simp only [interfaceCommand, hvid]
      cases included <;> exact iff_of_true h (Or.inl hinert)
    | some vsim =>
      cases hgeneral : s.general port with
      | false =>
        have hinert : s.Inert port vid := Or.inr (Or.inl hgeneral)
        simp only [interfaceCommand, hvid, hgeneral, Bool.not_false, if_true]
        cases included <;> exact iff_of_true h (Or.inl hinert)
      | true =>
        cases included with
        | true =>
          simp only [interfaceCommand, hvid, hgeneral, Bool.not_true, Bool.false_eq_true, if_false,
            if_true, InterfaceKeeps]
          refine hedit vid vsim _ hvid hgeneral (fun q hq => ?_) ?_
          · simp [hq]
          · simp [isMember_iff_of_get? hvid, isUntagged_iff_of_get? hvid]
        | false =>
          simp only [interfaceCommand, hvid, hgeneral, Bool.not_true, Bool.false_eq_true, if_false,
            InterfaceKeeps]
          refine hedit vid vsim _ hvid hgeneral (fun q hq => ?_) ?_
          · simp [hq]
          · simp [isMember_iff_of_get? hvid, isUntagged_iff_of_get? hvid]
  | tagging tagged vid =>
    cases hvid : s.vlans.get? vid with
    | none =>
      have hinert : s.Inert port vid := Or.inr (Or.inr (PyDict.not_mem_iff.mpr hvid))
      simp only [interfaceCommand, hvid]
      cases tagged <;> exact iff_of_true h (Or.inl hinert)
    | some vsim =>
      cases hgeneral : s.general port with
      | false =>
        have hinert : s.Inert port vid := Or.inr (Or.inl hgeneral)
        simp only [interfaceCommand, hvid, hgeneral, Bool.not_false, if_true]
        cases tagged <;> exact iff_of_true h (Or.inl hinert)
      | true =>
        cases tagged with
        | true =>
          simp only [interfaceCommand, hvid, hgeneral, Bool.not_true, Bool.false_eq_true, if_false,
            if_true, InterfaceKeeps]
          refine hedit vid vsim _ hvid hgeneral (fun q hq => ?_) ?_
          · simp [hq]
          · simp [isUntagged_iff_of_get? hvid]
        | false =>
          simp only [interfaceCommand, hvid, hgeneral, Bool.not_true, Bool.false_eq_true, if_false,
            InterfaceKeeps]
          refine hedit vid vsim _ hvid hgeneral (fun q hq => ?_) ?_
          · simp [hq]
          · simp [isUntagged_iff_of_get? hvid]
  | switchportMode mode =>
    refine iff_of_true ?_ trivial
    simp only [interfaceCommand]
    split_ifs
    · exact h.of_ports s.poe (PyDict.keys_mapValues _ _)
    · exact h
  | poeReset =>
    refine iff_of_true ?_ trivial
    simp only [interfaceCommand]
    split_ifs
    · exact h.of_ports _ rfl
    · exact h
  | poe on =>
    refine iff_of_true ?_ trivial
    simp only [interfaceCommand]
    split_ifs
    · obtain ⟨ports, poe, hports, heq⟩ := keys_ports_applyPoeAdmin s port on
      rw [heq]
      exact h.of_ports poe hports
    · exact h
  | shutdown enabled =>
    refine iff_of_true ?_ trivial
    simp only [interfaceCommand]
    split_ifs
    · exact h.of_ports s.poe (PyDict.keys_mapValues _ _)
    · exact h
  | pvid vid =>
    refine iff_of_true ?_ trivial
    simp only [interfaceCommand]
    split_ifs
    · exact fun p hp => (h p hp).congr rfl rfl
    · exact h
    · exact h
  | flowControl on => exact iff_of_true (h.of_ports s.poe (PyDict.keys_mapValues _ _)) trivial
  | speedAuto => exact iff_of_true h trivial
  | speedForced rate =>
    refine iff_of_true ?_ trivial
    simp only [interfaceCommand]
    split_ifs <;> exact h
  | description text => exact iff_of_true (h.of_ports s.poe (PyDict.keys_mapValues _ _)) trivial
  | noDescription => exact iff_of_true (h.of_ports s.poe (PyDict.keys_mapValues _ _)) trivial

end VirtualSwitchState

/-! ## §5 Runs -/

/-- An operation on the switch. -/
inductive SwitchOp
  | set (varBinds : List VarBind)
  | cli (command : Text)

namespace VirtualCliFace

/-- One operation, on the state that the SNMP agent and the CLI session share. -/
def perform (f : VirtualCliFace) : SwitchOp → VirtualCliFace
  | .set varBinds => { f with state := f.state.applySet varBinds }
  | .cli command => (f.run command).1

/-- The sessions a run goes through, the start included. -/
def trace (f : VirtualCliFace) : List SwitchOp → List VirtualCliFace
  | [] => [f]
  | op :: ops => f :: (f.perform op).trace ops

/-- The operation keeps derived membership derived. -/
def Keeps (f : VirtualCliFace) : SwitchOp → Prop
  | .set varBinds => f.state.SetKeeps varBinds
  | .cli command =>
    (f.modes.head? = some .vlanDb → ∀ c, VlanDbCommand.ofText (strip command) = some c →
      f.state.VlanDbKeeps c) ∧
    (f.modes.head? = some .interface → ∀ port, f.ifacePort = some port →
      ∀ c, InterfaceCommand.ofText (strip command) = some c → f.state.InterfaceKeeps port c)

/-- Every operation of the run keeps, in the state it meets. -/
def RunKeeps (f : VirtualCliFace) : List SwitchOp → Prop
  | [] => True
  | op :: ops => f.Keeps op ∧ (f.perform op).RunKeeps ops

theorem membershipDerived_perform {f : VirtualCliFace} {op : SwitchOp}
    (hmodel : f.state.switchportModel = true) (h : f.state.MembershipDerived)
    (hkeeps : f.Keeps op) : (f.perform op).state.MembershipDerived := by
  cases op with
  | set varBinds => exact h.applySet hmodel hkeeps
  | cli command =>
    obtain ⟨hvlanDb, hinterface⟩ := hkeeps
    have heffect := effect_of_run f command
    show (f.run command).1.state.MembershipDerived
    generalize (f.run command).1.state = s at heffect
    cases heffect with
    | unrelated => exact fun p hp => (h p hp).congr rfl rfl
    | vlanDb c hmode hcommand =>
      exact (VirtualSwitchState.membershipDerived_vlanDbCommand_iff h c).mpr
        (hvlanDb hmode c hcommand)
    | interface port c hmode hport hcommand =>
      exact (VirtualSwitchState.membershipDerived_interfaceCommand_iff h port c).mpr
        (hinterface hmode port hport c hcommand)

theorem switchportModel_perform (f : VirtualCliFace) (op : SwitchOp) :
    (f.perform op).state.switchportModel = f.state.switchportModel := by
  cases op with
  | set varBinds => exact VirtualSwitchState.switchportModel_applySet f.state varBinds
  | cli command =>
    exact VirtualSwitchState.switchportModel_of_modelKey (modelKey_run f command)

/-- On a switchport model, a run of SETs and CLI commands that all keep goes through states with
derived membership only. -/
theorem membershipDerived_of_runKeeps {f : VirtualCliFace} {ops : List SwitchOp}
    (hmodel : f.state.switchportModel = true) (h : f.state.MembershipDerived)
    (hkeeps : f.RunKeeps ops) : ∀ g ∈ f.trace ops, g.state.MembershipDerived := by
  induction ops generalizing f with
  | nil =>
    intro g hg
    rw [List.mem_singleton.mp hg]
    exact h
  | cons op ops ih =>
    obtain ⟨hop, hrest⟩ := hkeeps
    intro g hg
    rcases List.mem_cons.mp hg with rfl | hg
    · exact h
    · apply ih (f := f.perform op) _ _ hrest g hg
      · rw [switchportModel_perform, hmodel]
      · exact membershipDerived_perform hmodel h hop

/-- A one-port M4300 whose port is a trunk allowing VLANs 1 to 8. -/
def trunkState : VirtualSwitchState :=
  let s : VirtualSwitchState := {
    modelKey := .m4300_24x
    ports := .ofList [(1, { name := "1/0/1".toList, admin := true, link := true, speed := 1000 })]
    vlans := .ofList [(1, { name := "default".toList })] }
  ((s.setMode 1 switchportModeTrunk).setAllowedVlans 1 [0xFF]).applySwitchport 1

def trunkSession : VirtualCliFace := { state := trunkState }

theorem eq_one_of_isPhysical {p : ℤ} (h : trunkState.IsPhysical p) : p = 1 := by
  have hp : p ∈ trunkState.ports.keys := PyDict.mem_def.mp h.1
  have hkeys : trunkState.ports.keys = [1] := by decide
  rw [hkeys] at hp
  exact List.mem_singleton.mp hp

theorem membershipDerived_trunkState : trunkState.MembershipDerived := by
  intro p hp
  rw [eq_one_of_isPhysical hp]
  exact VirtualSwitchState.switchportDerived_applySwitchport _ 1

/-- VLAN 9, which the trunk does not allow, created over the CLI. -/
theorem membershipDerived_createVlan9 : trunkSession.state.MembershipDerived ∧
    ∀ g ∈ trunkSession.trace [.cli "vlan database".toList, .cli "vlan 9".toList],
      g.state.MembershipDerived := by
  have hmodel : trunkSession.state.switchportModel = true := by decide
  have hstate : (trunkSession.perform (.cli "vlan database".toList)).state = trunkState := by
    decide
  have hmodes : (trunkSession.perform (.cli "vlan database".toList)).modes = [.vlanDb] := by
    decide
  have hcommand : VlanDbCommand.ofText (strip "vlan 9".toList) = some (.create 9) := by
    decide
  have hcreation : trunkState.CreationKeeps 9 := by
    refine Or.inr fun p hp => ?_
    rw [eq_one_of_isPhysical hp]
    decide
  refine ⟨membershipDerived_trunkState, ?_⟩
  apply membershipDerived_of_runKeeps hmodel membershipDerived_trunkState
  refine ⟨⟨fun h => ?_, fun h => ?_⟩, ⟨fun _ c hc => ?_, fun h => ?_⟩, trivial⟩
  · cases h
  · cases h
  · rw [hcommand] at hc
    cases hc
    rw [hstate]
    exact hcreation
  · rw [hmodes] at h
    cases h

/-- VLAN 5, which the trunk allows, created over SNMP: the port should be a tagged member of it
and is not. -/
theorem membershipDerived_lost : trunkSession.state.switchportModel = true ∧
    trunkSession.state.MembershipDerived ∧
    ∃ g ∈ trunkSession.trace [.set [(dot1qVlanStaticRowStatus ++ [5], .int 4)]],
      ¬ g.state.MembershipDerived := by
  refine ⟨by decide, membershipDerived_trunkState, ?_⟩
  refine ⟨trunkSession.perform (.set [(dot1qVlanStaticRowStatus ++ [5], .int 4)]), ?_, ?_⟩
  · exact List.mem_cons_of_mem _ List.mem_cons_self
  · intro h
    have hphysical : (trunkSession.perform
        (.set [(dot1qVlanStaticRowStatus ++ [5], .int 4)])).state.IsPhysical 1 := by
      decide +kernel
    obtain ⟨hmember, _⟩ := h 1 hphysical 5 { name := [] } (by decide +kernel)
    have htagged := hmember.mpr (by decide +kernel)
    cases htagged

end VirtualCliFace

end NetgearSwitch.Virtual
