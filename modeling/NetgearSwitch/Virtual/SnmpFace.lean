import NetgearSwitch.Virtual.ApplyWrite
import NetgearSwitch.Virtual.OidMap

/-!
# The SNMP face: SET PDUs

`StateMibView` of `virtual/faces/mibview.py` and `_StateInstrum.write_variables` of
`virtual/faces/snmp.py`.  A PDU is applied varbind by varbind to the state; a refused varbind
restores the snapshot taken before the first one, and only then, outside the bracket, is the
view rebuilt from the new state.  So a PDU whose varbinds are all accepted but whose state no
longer projects escapes with the state changed and the view stale.

The theorem says which PDUs these are: the ones that leave a management address that is no
dotted number, and on a switchport model the ones that leave a VLAN id above 4096 in a
general-mode list.
-/

namespace NetgearSwitch.Virtual

open Snmp

/-! ## §1 The view and a SET -/

/-- The state and the sorted entries served from it. -/
structure StateMibView where
  state : VirtualSwitchState
  entries : List MibEntry
  deriving DecidableEq

/-- A varbind of a SET, its value converted by `_from_smi_value`. -/
abbrev VarBind := Oid × SetValue

/-- The SMI errors a refused SET is answered with. -/
inductive SmiError
  | notWritable
  | commitFailed
  | inconsistentValue
  | wrongValue
  deriving DecidableEq, Repr

/-- The `except` clauses around `apply_write`: any other exception is a `WrongValueError`. -/
def ApplyError.toSmi : ApplyError → SmiError
  | .commitFailed => .commitFailed
  | .notWritable => .notWritable
  | .inconsistentValue => .inconsistentValue
  | .valueError | .indexError | .unicodeError => .wrongValue

namespace VirtualSwitchState

/-- `snapshot`: marks a PDU boundary, clearing the transient marker, and copies. -/
def snapshot (s : VirtualSwitchState) : VirtualSwitchState := { s with pduEgressWrites := ∅ }

/-- The loop over the varbinds, from position `idx` on. -/
def applyVarbinds (idx : ℕ) : List VarBind → VirtualSwitchState →
    Except (SmiError × ℕ) VirtualSwitchState
  | [], s => .ok s
  | (oid, value) :: rest, s =>
    if s.isWritableOid oid then
      match s.applyWrite oid value with
      | .error e => .error (e.toSmi, idx)
      | .ok s' => applyVarbinds (idx + 1) rest s'
    else .error (.notWritable, idx)

end VirtualSwitchState

/-- How a SET ends: the varbinds echoed, an SMI error with the position of the varbind it is
about, or the exception of the rebuild. -/
inductive SetOutcome
  | echoed (varBinds : List VarBind)
  | smiError (error : SmiError) (idx : ℕ)
  | rebuildRaised
  deriving DecidableEq

namespace StateMibView

/-- `write_variables`. -/
def writeVariables (view : StateMibView) (varBinds : List VarBind) : StateMibView × SetOutcome :=
  let snapshot := view.state.snapshot
  match snapshot.applyVarbinds 0 varBinds with
  | .error (e, idx) => ({ view with state := snapshot }, .smiError e idx)
  | .ok s =>
    match loadView s with
    | (s', none) => ({ view with state := s' }, .rebuildRaised)
    | (s', some entries) => (⟨s', entries⟩, .echoed varBinds)

/-- The entries are the sorted projection of the state, and projecting leaves the state. -/
def Current (view : StateMibView) : Prop := loadView view.state = (view.state, some view.entries)

instance (view : StateMibView) : Decidable view.Current := inferInstanceAs (Decidable (_ = _))

end StateMibView

/-- Two states of the same device: equal but for the transient PDU marker, which is not device
state. -/
def VirtualSwitchState.SameDevice (s s' : VirtualSwitchState) : Prop := s.snapshot = s'.snapshot

instance (s s' : VirtualSwitchState) : Decidable (s.SameDevice s') :=
  inferInstanceAs (Decidable (_ = _))

namespace StateMibView

/-- A SET either raises and changes neither state nor view, or returns with the state that
applying the varbinds in order gives and with a current view of it. -/
def AllOrNothing (view : StateMibView) (varBinds : List VarBind) : Prop :=
  match view.writeVariables varBinds with
  | (view', .echoed _) =>
    varBinds.foldlM (fun s vb => s.applyWrite vb.1 vb.2) view.state.snapshot =
      .ok view'.state ∧ view'.Current
  | (view', _) => view'.state.SameDevice view.state ∧ view'.entries = view.entries

instance (view : StateMibView) (varBinds : List VarBind) :
    Decidable (view.AllOrNothing varBinds) :=
  match h : view.writeVariables varBinds with
  | (view', .echoed _) =>
    decidable_of_iff (varBinds.foldlM (fun s vb => s.applyWrite vb.1 vb.2) view.state.snapshot =
      .ok view'.state ∧ view'.Current) (by rw [AllOrNothing, h])
  | (view', .smiError _ _) =>
    decidable_of_iff (view'.state.SameDevice view.state ∧ view'.entries = view.entries)
      (by rw [AllOrNothing, h])
  | (view', .rebuildRaised) =>
    decidable_of_iff (view'.state.SameDevice view.state ∧ view'.entries = view.entries)
      (by rw [AllOrNothing, h])

end StateMibView

namespace VirtualSwitchState

/-! ## §2 Inputs that decide how a SET ends

Three readings of a PDU that need neither the loop nor the projection. -/

/-- Some varbind names no writable column, or raises in the state the ones before it leave. -/
def Refuses (s : VirtualSwitchState) : List VarBind → Prop
  | [] => False
  | (oid, value) :: rest =>
    s.isWritableOid oid = false ∨
      match s.applyWrite oid value with
      | .error _ => True
      | .ok s' => s'.Refuses rest

/-- The management address after a PDU: the last value written to its column. -/
def addressAfter (s : VirtualSwitchState) (varBinds : List VarBind) : Text :=
  varBinds.foldl (fun address vb =>
    if column s.model vb.1 = some .mgmtAddress then vb.2.pyStr else address) s.mgmt.address

end VirtualSwitchState

/-- What decides the general-mode untagged lists: the VLANs that exist, each port's switchport
mode, and the lists themselves. -/
@[ext] structure GeneralLists where
  vlanIds : Finset ℤ
  mode : ℤ → ℤ
  untagged : ℤ → Finset ℤ

/-- The ports an incoming PortList names. -/
def SetValue.ports (value : SetValue) : Finset ℤ :=
  match value.asBytes with
  | .ok octets => Bitmap.numbers octets
  | .error _ => ∅

/-- The columns whose writes the lists depend on. -/
def Column.editsLists : Column → Bool
  | .staticRowStatus _ | .staticName _ | .switchportMode _ | .staticEgress _ => true
  | _ => false

/-- A reconcile over `ports` puts VLAN `vid` on the list of each general-mode port that
`incoming` names, and takes it off the others'. -/
def GeneralLists.reconcile (g : GeneralLists) (ports : List ℤ) (vid : ℤ) (incoming : Finset ℤ) :
    GeneralLists where
  vlanIds := g.vlanIds
  mode := g.mode
  untagged p :=
    if p ∈ ports ∧ g.mode p = switchportModeGeneral then
      if p ∈ incoming then insert vid (g.untagged p) else (g.untagged p).erase vid
    else g.untagged p

/-- What an accepted write to one column does to the lists of `ports`. -/
def GeneralLists.write (ports : List ℤ) (g : GeneralLists) (c : Column) (value : SetValue) :
    GeneralLists :=
  match c with
  | .staticRowStatus vid =>
    if value.toInt = some rowStatusDestroy then { g with vlanIds := g.vlanIds.erase vid }
    else if value.toInt = some rowStatusCreateAndGo then
      { g with vlanIds := insert vid g.vlanIds }
    else g
  | .staticName vid => { g with vlanIds := insert vid g.vlanIds }
  | .switchportMode port =>
    { g with mode := fun p => if p = port then value.toInt.getD 0 else g.mode p }
  | .staticEgress vid =>
    if vid ∈ g.vlanIds then g.reconcile ports vid value.ports else g
  | _ => g

namespace VirtualSwitchState

def generalLists (s : VirtualSwitchState) : GeneralLists where
  vlanIds := s.vlanIds
  mode p := (s.row p).mode
  untagged p := (s.row p).generalUntagged

/-- The general-mode lists after a PDU. -/
def generalListsAfter (s : VirtualSwitchState) (varBinds : List VarBind) : GeneralLists :=
  varBinds.foldl (fun g vb =>
    match column s.model vb.1 with
    | some c => g.write s.ports.keys c vb.2
    | none => g) s.generalLists

/-- No port has a VLAN id above 4096 in its general-mode list: the bitmap has 512 bytes. -/
def GeneralListsFit (s : VirtualSwitchState) (g : GeneralLists) : Prop :=
  s.switchportModel = true → ∀ p ∈ s.ports.keys, ∀ v ∈ g.untagged p, v ≤ 4096

/-! ## §3 What accepted varbinds preserve

No SNMP write touches the model, the port numbers, the inventory or the bitmap width, and no
switchport row is lost. -/

structure SameInventory (s s' : VirtualSwitchState) : Prop where
  modelKey : s'.modelKey = s.modelKey
  portKeys : s'.ports.keys = s.ports.keys
  sensors : s'.sensors = s.sensors
  macs : s'.macs = s.macs
  width : s'.vlanPortlistWidth = s.vlanPortlistWidth
  hasRow : ∀ p, s.HasRow p → s'.HasRow p

theorem SameInventory.refl (s : VirtualSwitchState) : SameInventory s s :=
  ⟨rfl, rfl, rfl, rfl, rfl, fun _ h => h⟩

theorem SameInventory.trans {s s' s'' : VirtualSwitchState} (h : SameInventory s s')
    (h' : SameInventory s' s'') : SameInventory s s'' where
  modelKey := h'.modelKey.trans h.modelKey
  portKeys := h'.portKeys.trans h.portKeys
  sensors := h'.sensors.trans h.sensors
  macs := h'.macs.trans h.macs
  width := h'.width.trans h.width
  hasRow p hp := h'.hasRow p (h.hasRow p hp)

section SameInventory

variable {s s' : VirtualSwitchState}

theorem SameInventory.vlanWidth (h : SameInventory s s') : s'.vlanWidth = s.vlanWidth := by
  rw [VirtualSwitchState.vlanWidth, VirtualSwitchState.vlanWidth, h.width, model, model, h.modelKey]

theorem SameInventory.switchportModel (h : SameInventory s s') :
    s'.switchportModel = s.switchportModel :=
  switchportModel_of_modelKey h.modelKey

theorem SameInventory.rowsFilled (h : SameInventory s s') (hs : s.RowsFilled) : s'.RowsFilled := by
  intro hmodel p hp
  rw [h.switchportModel] at hmodel
  rw [h.portKeys] at hp
  exact h.hasRow p (hs hmodel p hp)

theorem SameInventory.inventoryLoads (h : SameInventory s s') (hs : s.InventoryLoads) :
    s'.InventoryLoads where
  sensors := by
    rw [model, h.modelKey, h.sensors]
    exact hs.sensors
  macs := by
    rw [h.macs]
    exact hs.macs

theorem RowEdit.sameInventory {p : ℤ} (h : RowEdit p s s') : SameInventory s s' where
  modelKey := congrArg (·.modelKey) h.rest
  portKeys := congrArg (·.ports.keys) h.rest
  sensors := congrArg (·.sensors) h.rest
  macs := congrArg (·.macs) h.rest
  width := congrArg (·.vlanPortlistWidth) h.rest
  hasRow := h.hasRow

theorem sameInventory_applySwitchport (s : VirtualSwitchState) (p : ℤ) :
    SameInventory s (s.applySwitchport p) where
  modelKey := rfl
  portKeys := rfl
  sensors := rfl
  macs := rfl
  width := rfl
  hasRow q hq := by
    have h := hq.switchportDefaults p
    exact ⟨h.1, h.2, h.3, h.4, h.5, h.6⟩

theorem PortStep.sameInventory {p : ℤ} (h : PortStep p s s') : SameInventory s s' := by
  obtain ⟨t, hedit, rfl⟩ := h
  exact hedit.sameInventory.trans (sameInventory_applySwitchport t p)

end SameInventory

theorem sameInventory_foldl_switchportDefaults (ports : List ℤ) (s : VirtualSwitchState) :
    SameInventory s (ports.foldl switchportDefaults s) := by
  induction ports generalizing s with
  | nil => exact .refl s
  | cons p ports ih => exact (RowEdit.switchportDefaults s p).sameInventory.trans (ih _)

theorem vlans_foldl_switchportDefaults (ports : List ℤ) (s : VirtualSwitchState) :
    (ports.foldl switchportDefaults s).vlans = s.vlans := by
  induction ports generalizing s with
  | nil => rfl
  | cons p ports ih => exact ih (s.switchportDefaults p)

/-- The Q-BRIDGE reconcile loop keeps the inventory. -/
theorem sameInventory_reconcile {s s' : VirtualSwitchState} {vid : ℤ} {incoming : Finset ℤ}
    (h : s.reconcileQbridgeMembership vid incoming = some s') : SameInventory s s' :=
  reconcile_induction (P := SameInventory s) (fun _ _ _ _ hstep hs => hs.trans hstep.sameInventory)
    (.refl s) h

theorem ColumnEffect.sameInventory {s s' : VirtualSwitchState} {value : SetValue} {c : Column}
    (h : ColumnEffect s value c s') : SameInventory s s' := by
  cases h with
  | unrelated ports poe mgmt syslog hports _ =>
    exact ⟨rfl, hports, rfl, rfl, rfl, fun _ h => ⟨h.1, h.2, h.3, h.4, h.5, h.6⟩⟩
  | pvid port n => exact ⟨rfl, rfl, rfl, rfl, rfl, fun _ h => ⟨h.1, h.2, h.3, h.4, h.5, h.6⟩⟩
  | row port t _ _ hedit _ _ _ => exact PortStep.sameInventory ⟨t, hedit, rfl⟩
  | reconcile vid octets _ _ _ hstep =>
    exact (sameInventory_foldl_switchportDefaults _ s).trans (sameInventory_reconcile hstep)
  | membership => exact ⟨rfl, rfl, rfl, rfl, rfl, fun _ h => ⟨h.1, h.2, h.3, h.4, h.5, h.6⟩⟩
  | destroy => exact ⟨rfl, rfl, rfl, rfl, rfl, fun _ h => ⟨h.1, h.2, h.3, h.4, h.5, h.6⟩⟩
  | create => exact ⟨rfl, rfl, rfl, rfl, rfl, fun _ h => ⟨h.1, h.2, h.3, h.4, h.5, h.6⟩⟩
  | rename => exact ⟨rfl, rfl, rfl, rfl, rfl, fun _ h => ⟨h.1, h.2, h.3, h.4, h.5, h.6⟩⟩

/-! The management record is written by its own columns only. -/

theorem PortStep.mgmt {s s' : VirtualSwitchState} {p : ℤ} (h : PortStep p s s') :
    s'.mgmt = s.mgmt := by
  obtain ⟨t, hedit, rfl⟩ := h
  exact congrArg (·.mgmt) hedit.rest

theorem mgmt_foldl_switchportDefaults (ports : List ℤ) (s : VirtualSwitchState) :
    (ports.foldl switchportDefaults s).mgmt = s.mgmt := by
  induction ports generalizing s with
  | nil => rfl
  | cons p ports ih => exact ih (s.switchportDefaults p)

theorem ColumnEffect.address {s s' : VirtualSwitchState} {value : SetValue} {c : Column}
    (h : ColumnEffect s value c s') :
    s'.mgmt.address = if c = .mgmtAddress then value.pyStr else s.mgmt.address := by
  cases h with
  | unrelated _ _ _ _ _ hmgmt => exact hmgmt
  | pvid => exact (if_neg (by simp)).symm
  | row port t hc _ hedit _ _ _ =>
    have hne : c ≠ .mgmtAddress := by
      rintro rfl
      cases hc
    rw [if_neg hne, PortStep.mgmt ⟨t, hedit, rfl⟩]
  | reconcile vid octets _ _ _ hstep =>
    have hmgmt : s'.mgmt = (s.ports.keys.foldl switchportDefaults s).mgmt :=
      reconcile_induction (P := fun t => t.mgmt = (s.ports.keys.foldl switchportDefaults s).mgmt)
        (fun _ _ _ _ hp hs => hp.mgmt.trans hs) rfl hstep
    rw [if_neg (by simp), hmgmt, mgmt_foldl_switchportDefaults]
  | membership _ _ _ _ _ hc => rcases hc with rfl | rfl <;> exact (if_neg (by simp)).symm
  | destroy => exact (if_neg (by simp)).symm
  | create _ _ hc => rcases hc with rfl | rfl <;> exact (if_neg (by simp)).symm
  | rename => exact (if_neg (by simp)).symm

end VirtualSwitchState

/-! ## §4 Port sets keep fitting

A write puts into a VLAN only ports that a PortList, an OID or the port table names, and those
all have a place in a bitmap. -/

/-- Every port number the VLAN's rows encode is above `low`. -/
structure VlanSim.PortsAbove (low : ℤ) (sim : VlanSim) : Prop where
  member : ∀ p ∈ sim.member, low < p
  untagged : ∀ p ∈ sim.untagged, low < p
  configured : sim.staticRow = true → ∀ p ∈ sim.configured, low < p

theorem VlanSim.PortsAbove.place {low p : ℤ} {sim : VlanSim} (h : sim.PortsAbove low)
    (hp : low < p) (u t : Prop) [Decidable u] [Decidable t] :
    (sim.place p u t).PortsAbove low := by
  have hmember : ∀ q ∈ (sim.place p u t).member, low < q := by
    intro q hq
    by_cases hqp : q = p
    · rwa [hqp]
    · exact h.member q ((VlanSim.mem_member_place_of_ne sim u t hqp).mp hq)
  refine ⟨hmember, ?_, ?_⟩
  · intro q hq
    by_cases hqp : q = p
    · rwa [hqp]
    · exact h.untagged q ((VlanSim.mem_untagged_place_of_ne sim u t hqp).mp hq)
  · intro hstatic q hq
    have hstatic' : sim.staticRow = true := by
      unfold VlanSim.place at hstatic
      split_ifs at hstatic <;> exact hstatic
    rcases Finset.mem_union.mp hq with hq | hq
    · exact hmember q hq
    · rw [VlanSim.configuredOnly_place] at hq
      exact h.configured hstatic' q (Finset.mem_union_right _ hq)

namespace VirtualSwitchState

/-- Every port number in the VLAN table is above `low`. -/
def PortsAbove (low : ℤ) (s : VirtualSwitchState) : Prop :=
  ∀ vid sim, s.vlans.get? vid = some sim → sim.PortsAbove low

section PortsAbove

variable {low : ℤ} {s s' : VirtualSwitchState}

theorem PortsAbove.portStep {p : ℤ} (h : s.PortsAbove low) (hp : low < p)
    (hstep : PortStep p s s') : s'.PortsAbove low := by
  obtain ⟨t, hedit, rfl⟩ := hstep
  intro vid sim hsim
  rw [vlans_get?_applySwitchport, hedit.vlans, Option.map_eq_some_iff] at hsim
  obtain ⟨sim₀, hsim₀, rfl⟩ := hsim
  exact (h vid sim₀ hsim₀).place hp _ _

theorem PortsAbove.set {vid : ℤ} {sim : VlanSim} (h : s.PortsAbove low)
    (hsim : sim.PortsAbove low) (hvlans : s'.vlans = s.vlans.set vid sim) :
    s'.PortsAbove low := by
  intro w sim' hsim'
  rw [hvlans, PyDict.get?_set] at hsim'
  split_ifs at hsim'
  · cases hsim'
    exact hsim
  · exact h w sim' hsim'

theorem PortsAbove.columnEffect {value : SetValue} {c : Column} (h : s.PortsAbove low)
    (hlow : low < 0) (hports : ∀ p ∈ s.ports.keys, 1 ≤ p)
    (hc : ∀ n, c.instance? = some n → 0 ≤ n) (heffect : ColumnEffect s value c s') :
    s'.PortsAbove low := by
  cases heffect with
  | unrelated => exact h
  | pvid => exact h
  | row port t hport _ hedit _ _ _ =>
    have hnonneg := hc port (Column.instance?_of_switchportPort hport)
    exact h.portStep (by omega) ⟨t, hedit, rfl⟩
  | reconcile vid octets _ _ _ hstep =>
    have hkeys := (sameInventory_foldl_switchportDefaults s.ports.keys s).portKeys
    refine reconcile_induction (P := PortsAbove low) ?_ ?_ hstep
    · intro p hp t t' htt' ht
      rw [hkeys] at hp
      have := hports p hp
      exact ht.portStep (by omega) htt'
    · intro vid sim hsim
      rw [vlans_foldl_switchportDefaults] at hsim
      exact h vid sim hsim
  | membership vid vsim member untagged writes _ _ hvid hmember huntagged =>
    have hvsim := h vid vsim hvid
    have hmember' : ∀ p ∈ member, low < p := by
      intro p hp
      rcases hmember p hp with hp | hp
      · omega
      · exact hvsim.member p hp
    refine h.set ⟨hmember', ?_, ?_⟩ rfl
    · intro p hp
      rcases huntagged p hp with hp | hp
      · omega
      · exact hvsim.untagged p hp
    · intro hstatic p hp
      rcases Finset.mem_union.mp hp with hp | hp
      · exact hmember' p hp
      · exact hvsim.configured hstatic p (Finset.mem_union_right _ hp)
  | destroy vid =>
    intro w sim hsim
    rw [PyDict.get?_pop] at hsim
    split_ifs at hsim
    exact h w sim hsim
  | create vid name _ _ =>
    exact h.set ⟨by simp, by simp, by simp [VlanSim.configured]⟩ rfl
  | rename vid vsim name hvid =>
    have hvsim := h vid vsim hvid
    refine h.set ?_ rfl
    exact ⟨hvsim.member, hvsim.untagged, hvsim.configured⟩

end PortsAbove

/-! ## §5 The general-mode lists

`generalLists` follows a PDU exactly, so that the lists after it can be read off the PDU; the
tagged lists only ever shrink. -/

section GeneralLists

variable {s s' : VirtualSwitchState}

theorem PortStep.row_of_ne {p q : ℤ} (h : PortStep p s s') (hq : q ≠ p) : s'.row q = s.row q := by
  obtain ⟨t, hedit, rfl⟩ := h
  rw [row_applySwitchport, hedit.others q hq]

theorem PortStep.vlanIds {p : ℤ} (h : PortStep p s s') : s'.vlanIds = s.vlanIds := by
  obtain ⟨t, hedit, rfl⟩ := h
  rw [vlanIds_applySwitchport, hedit.vlanIds]

/-- What one turn of the reconcile loop leaves in the row of its port. -/
theorem row_reconcilePort_self {vid p : ℤ} {incoming : Finset ℤ}
    (h : reconcilePort vid incoming s p = some s') :
    (s'.row p).mode = (s.row p).mode ∧
      (s'.row p).generalUntagged = (s.generalLists.reconcile [p] vid incoming).untagged p ∧
      (s'.row p).generalTagged ⊆ (s.row p).generalTagged := by
  unfold reconcilePort at h
  dsimp only at h
  rw [row_switchportDefaults] at h
  unfold GeneralLists.reconcile generalLists
  dsimp only
  split_ifs at h with htrunk hin hgeneral hin
  · obtain ⟨bits, _, rfl⟩ := Option.map_eq_some_iff.mp h
    simp [htrunk, switchportModeTrunk, switchportModeGeneral]
  · obtain ⟨bits, _, rfl⟩ := Option.map_eq_some_iff.mp h
    simp [htrunk, switchportModeTrunk, switchportModeGeneral]
  · cases h
    simp [hgeneral, hin]
  · cases h
    simp [hgeneral, hin, Finset.erase_subset]
  · cases h
    simp [hgeneral]

/-- One turn of the reconcile loop edits the list of its port. -/
theorem generalLists_reconcilePort {vid p : ℤ} {incoming : Finset ℤ}
    (h : reconcilePort vid incoming s p = some s') :
    s'.generalLists = s.generalLists.reconcile [p] vid incoming := by
  obtain ⟨hmode, huntagged, _⟩ := row_reconcilePort_self h
  have hstep := portStep_reconcilePort h
  ext q
  · simp [generalLists, GeneralLists.reconcile, hstep.vlanIds]
  · by_cases hq : q = p
    · rw [hq]
      exact hmode
    · exact congrArg SwitchportRow.mode (hstep.row_of_ne hq)
  · by_cases hq : q = p
    · rw [hq]
      exact Finset.ext_iff.mp huntagged _
    · simp [generalLists, GeneralLists.reconcile, hq, hstep.row_of_ne hq]

theorem GeneralLists.reconcile_cons (g : GeneralLists) (p : ℤ) (ports : List ℤ) (vid : ℤ)
    (incoming : Finset ℤ) : (g.reconcile [p] vid incoming).reconcile ports vid incoming =
      g.reconcile (p :: ports) vid incoming := by
  ext q v
  · rfl
  · rfl
  · by_cases hq : q = p
    · by_cases hin : q ∈ incoming <;> simp [GeneralLists.reconcile, hq] <;> aesop
    · simp [GeneralLists.reconcile, hq]

theorem generalLists_reconcile {vid : ℤ} {incoming : Finset ℤ} : ∀ {ports : List ℤ}
    {s s' : VirtualSwitchState}, ports.foldlM (reconcilePort vid incoming) s = some s' →
      s'.generalLists = s.generalLists.reconcile ports vid incoming
  | [], s, s', h => by
    cases h
    ext <;> simp [GeneralLists.reconcile]
  | p :: ports, s, s', h => by
    rw [List.foldlM_cons, Option.bind_eq_bind, Option.bind_eq_some_iff] at h
    obtain ⟨s₁, h₁, hrest⟩ := h
    rw [generalLists_reconcile hrest, generalLists_reconcilePort h₁, GeneralLists.reconcile_cons]

theorem generalTagged_reconcile {vid : ℤ} {incoming : Finset ℤ} (q : ℤ) : ∀ {ports : List ℤ}
    {s s' : VirtualSwitchState}, ports.foldlM (reconcilePort vid incoming) s = some s' →
      (s'.row q).generalTagged ⊆ (s.row q).generalTagged
  | [], s, s', h => by
    cases h
    exact subset_rfl
  | p :: ports, s, s', h => by
    rw [List.foldlM_cons, Option.bind_eq_bind, Option.bind_eq_some_iff] at h
    obtain ⟨s₁, h₁, hrest⟩ := h
    refine (generalTagged_reconcile q hrest).trans ?_
    by_cases hq : q = p
    · rw [hq]
      exact (row_reconcilePort_self h₁).2.2
    · rw [(portStep_reconcilePort h₁).row_of_ne hq]

theorem generalLists_foldl_switchportDefaults (ports : List ℤ) (s : VirtualSwitchState) :
    (ports.foldl switchportDefaults s).generalLists = s.generalLists := by
  induction ports generalizing s with
  | nil => rfl
  | cons p ports ih =>
    rw [List.foldl_cons, ih]
    simp [generalLists, VirtualSwitchState.vlanIds]

theorem row_foldl_switchportDefaults (ports : List ℤ) (s : VirtualSwitchState) (q : ℤ) :
    (ports.foldl switchportDefaults s).row q = s.row q := by
  induction ports generalizing s with
  | nil => rfl
  | cons p ports ih => rw [List.foldl_cons, ih, row_switchportDefaults]

theorem generalLists_applySwitchport (s : VirtualSwitchState) (p : ℤ) :
    (s.applySwitchport p).generalLists = s.generalLists := by
  simp [generalLists]

theorem write_of_editsLists {c : Column} (hc : c.editsLists = false) (g : GeneralLists)
    (ports : List ℤ) (value : SetValue) : g.write ports c value = g := by
  cases c <;> first | rfl | cases hc

/-- Every other write on a switchport model leaves them. -/
theorem ColumnEffect.generalLists {value : SetValue} {c : Column} (h : ColumnEffect s value c s')
    (hmodel : s.switchportModel = true) (hc : c.editsLists = false) :
    s'.generalLists = s.generalLists := by
  cases h with
  | unrelated => rfl
  | pvid => rfl
  | row port t hport _ hedit huntagged _ hmode =>
    have hne : c ≠ .switchportMode port := by
      rintro rfl
      cases hc
    rw [if_neg hne] at hmode
    rw [generalLists_applySwitchport]
    ext q
    · simp [VirtualSwitchState.generalLists, hedit.vlanIds]
    · by_cases hq : q = port
      · rw [hq]
        exact hmode
      · exact congrArg SwitchportRow.mode (hedit.others q hq)
    · by_cases hq : q = port
      · rw [hq]
        exact Finset.ext_iff.mp huntagged _
      · exact Finset.ext_iff.mp (congrArg SwitchportRow.generalUntagged (hedit.others q hq)) _
  | reconcile => cases hc
  | membership _ _ _ _ _ _ hmodel' =>
    rw [hmodel] at hmodel'
    cases hmodel'
  | destroy => cases hc
  | create _ _ hcreate => rcases hcreate with rfl | rfl <;> cases hc
  | rename => cases hc

/-- An existing VLAN set again is the same set of VLANs. -/
theorem generalLists_set {vid : ℤ} {sim : VlanSim} (s : VirtualSwitchState) :
    ({ s with vlans := s.vlans.set vid sim } : VirtualSwitchState).generalLists =
      { s.generalLists with vlanIds := insert vid s.vlanIds } := by
  ext q
  · simp [VirtualSwitchState.generalLists]
  · rfl
  · rfl

theorem insert_vlanIds {vid : ℤ} (s : VirtualSwitchState) (h : vid ∈ s.vlans) :
    insert vid s.vlanIds = s.vlanIds :=
  Finset.insert_eq_of_mem (mem_vlanIds.mpr h)

theorem generalLists_of_staticRowStatus {vid : ℤ} {value : SetValue}
    (h : s.applyColumn (.staticRowStatus vid) value = .ok s') :
    s'.generalLists = s.generalLists.write s.ports.keys (.staticRowStatus vid) value := by
  obtain ⟨n, hn, h⟩ := bind_eq_ok.mp h
  unfold GeneralLists.write
  rw [toInt_of_readInt hn]
  simp only [Option.some.injEq]
  by_cases hdestroy : n = rowStatusDestroy
  · rw [if_pos hdestroy] at h ⊢
    cases h
    ext q
    · simp [VirtualSwitchState.generalLists]
    · rfl
    · rfl
  · rw [if_neg hdestroy] at h ⊢
    by_cases hvid : vid ∈ s.vlans
    · rw [if_pos hvid] at h
      cases h
      have hsame := insert_vlanIds s hvid
      split_ifs
      · exact GeneralLists.ext hsame.symm rfl rfl
      · rfl
    · rw [if_neg hvid] at h
      obtain ⟨_, _, hok⟩ := bind_eq_ok.mp h
      split_ifs at hok ⊢
      · cases hok
        exact generalLists_set s
      · cases hok
        rfl

theorem generalLists_of_staticName {vid : ℤ} {value : SetValue}
    (h : s.applyColumn (.staticName vid) value = .ok s') :
    s'.generalLists = s.generalLists.write s.ports.keys (.staticName vid) value := by
  simp only [applyColumn] at h
  split at h
  · cases h
    exact generalLists_set s
  · obtain ⟨_, _, hok⟩ := bind_eq_ok.mp h
    cases hok
    exact generalLists_set s

theorem generalLists_of_switchportMode {port : ℤ} {value : SetValue}
    (hmodel : s.switchportModel = true)
    (h : s.applyColumn (.switchportMode port) value = .ok s') :
    s'.generalLists = s.generalLists.write s.ports.keys (.switchportMode port) value := by
  simp only [applyColumn] at h
  rw [if_pos hmodel] at h
  obtain ⟨n, hn, hok⟩ := bind_eq_ok.mp h
  cases hok
  rw [generalLists_applySwitchport]
  unfold GeneralLists.write
  rw [toInt_of_readInt hn]
  ext q
  · rfl
  · by_cases hq : q = port
    · simp [VirtualSwitchState.generalLists, hq]
    · simp [VirtualSwitchState.generalLists, hq, row_setMode_of_ne s n hq]
  · by_cases hq : q = port
    · simp [VirtualSwitchState.generalLists, hq]
    · simp [VirtualSwitchState.generalLists, row_setMode_of_ne s n hq]

theorem generalLists_of_staticEgress {vid : ℤ} {value : SetValue}
    (hmodel : s.switchportModel = true) (h : s.applyStaticEgress vid value = .ok s') :
    s'.generalLists = s.generalLists.write s.ports.keys (.staticEgress vid) value := by
  have hmem : vid ∈ s.generalLists.vlanIds ↔ vid ∈ s.vlans := mem_vlanIds
  unfold GeneralLists.write
  dsimp only
  by_cases hvid : vid ∈ s.vlans
  · obtain ⟨octets, hvalue, hrec⟩ := reconcile_of_applyStaticEgress hmodel hvid h
    have hports : value.ports = Bitmap.numbers octets := by
      rw [SetValue.ports, hvalue]
    have hkeys := (sameInventory_foldl_switchportDefaults s.ports.keys s).portKeys
    rw [if_pos (hmem.mpr hvid), hports, generalLists_reconcile hrec, hkeys,
      generalLists_foldl_switchportDefaults]
  · rw [if_neg (mt hmem.mp hvid)]
    unfold applyStaticEgress at h
    rw [PyDict.not_mem_iff.mp hvid] at h
    cases h
    rfl

/-- One accepted write on a switchport model, read on the lists. -/
theorem generalLists_of_applyColumn {c : Column} {value : SetValue}
    (hmodel : s.switchportModel = true) (h : s.applyColumn c value = .ok s') :
    s'.generalLists = s.generalLists.write s.ports.keys c value := by
  cases hc : c.editsLists with
  | false =>
    rw [write_of_editsLists hc, (effect_of_applyColumn h).generalLists hmodel hc]
  | true =>
    cases c with
    | staticRowStatus vid => exact generalLists_of_staticRowStatus h
    | staticName vid => exact generalLists_of_staticName h
    | switchportMode port => exact generalLists_of_switchportMode hmodel h
    | staticEgress vid => exact generalLists_of_staticEgress hmodel h
    | _ => cases hc

/-- The tagged lists never grow. -/
theorem ColumnEffect.generalTagged {value : SetValue} {c : Column} (h : ColumnEffect s value c s')
    (q : ℤ) : (s'.row q).generalTagged ⊆ (s.row q).generalTagged := by
  cases h with
  | unrelated => exact subset_rfl
  | pvid => exact subset_rfl
  | row port t _ _ hedit _ htagged _ =>
    rw [row_applySwitchport]
    by_cases hq : q = port
    · rw [hq, htagged]
    · rw [hedit.others q hq]
  | reconcile _ _ _ _ _ hstep =>
    have hsubset := generalTagged_reconcile q hstep
    rwa [row_foldl_switchportDefaults] at hsubset
  | membership => exact subset_rfl
  | destroy => exact subset_rfl
  | create => exact subset_rfl
  | rename => exact subset_rfl

/-- A write adds no negative VLAN id to a list. -/
theorem nonneg_of_mem_write {g : GeneralLists} {ports : List ℤ} {c : Column} {value : SetValue}
    (hc : ∀ n, c.instance? = some n → 0 ≤ n) {p v : ℤ}
    (h : v ∈ (g.write ports c value).untagged p) : 0 ≤ v ∨ v ∈ g.untagged p := by
  cases hedits : c.editsLists with
  | false =>
    rw [write_of_editsLists hedits] at h
    exact Or.inr h
  | true =>
    cases c with
    | staticRowStatus vid =>
      unfold GeneralLists.write at h
      dsimp only at h
      split_ifs at h <;> exact Or.inr h
    | staticName vid => exact Or.inr h
    | switchportMode port => exact Or.inr h
    | staticEgress vid =>
      unfold GeneralLists.write at h
      dsimp only at h
      by_cases hvid : vid ∈ g.vlanIds
      · rw [if_pos hvid] at h
        unfold GeneralLists.reconcile at h
        dsimp only at h
        split_ifs at h
        · rcases Finset.mem_insert.mp h with rfl | h
          · exact Or.inl (hc _ rfl)
          · exact Or.inr h
        · exact Or.inr (Finset.mem_of_mem_erase h)
        · exact Or.inr h
      · rw [if_neg hvid] at h
        exact Or.inr h
    | _ => cases hedits

end GeneralLists

/-! ## §6 A whole PDU

`Written` collects what accepted varbinds do; one varbind does it (`written_of_applyWrite`), and
it composes (`Written.cons`). -/

/-- `s'` is `s` after the accepted varbinds. -/
structure Written (s : VirtualSwitchState) (varBinds : List VarBind) (s' : VirtualSwitchState) :
    Prop where
  applied : varBinds.foldlM (fun s vb => s.applyWrite vb.1 vb.2) s = .ok s'
  inventory : SameInventory s s'
  address : s'.mgmt.address = s.addressAfter varBinds
  lists : s.switchportModel = true → s'.generalLists = s.generalListsAfter varBinds
  untagged : s.switchportModel = true → ∀ p, ∀ v ∈ (s'.row p).generalUntagged,
    0 ≤ v ∨ v ∈ (s.row p).generalUntagged
  tagged : ∀ p, (s'.row p).generalTagged ⊆ (s.row p).generalTagged
  portsAbove : ∀ low < 0, (∀ p ∈ s.ports.keys, 1 ≤ p) → s.PortsAbove low → s'.PortsAbove low

theorem Written.nil (s : VirtualSwitchState) : Written s [] s where
  applied := rfl
  inventory := .refl s
  address := rfl
  lists _ := rfl
  untagged _ _ _ hv := Or.inr hv
  tagged _ := subset_rfl
  portsAbove _ _ _ h := h

theorem written_of_applyWrite {s s' : VirtualSwitchState} {oid : Oid} {value : SetValue}
    (hwritable : s.isWritableOid oid = true) (h : s.applyWrite oid value = .ok s') :
    Written s [(oid, value)] s' := by
  unfold isWritableOid at hwritable
  cases hcolumn : column s.model oid with
  | none =>
    rw [hcolumn] at hwritable
    cases hwritable
  | some c =>
    have hnonneg : ∀ n, c.instance? = some n → 0 ≤ n := fun n => nonneg_of_column hcolumn
    have hwrite := h
    rw [applyWrite, hcolumn] at hwrite
    have heffect := effect_of_applyColumn hwrite
    refine ⟨?_, heffect.sameInventory, ?_, ?_, ?_, heffect.generalTagged, ?_⟩
    · rw [List.foldlM_cons, h]
      rfl
    · rw [heffect.address, addressAfter, List.foldl_cons, List.foldl_nil, hcolumn]
      simp only [Option.some.injEq]
    · intro hmodel
      rw [generalLists_of_applyColumn hmodel hwrite, generalListsAfter, List.foldl_cons,
        List.foldl_nil, hcolumn]
    · intro hmodel p v hv
      have hlists := generalLists_of_applyColumn hmodel hwrite
      have hv' : v ∈ s'.generalLists.untagged p := hv
      rw [hlists] at hv'
      exact nonneg_of_mem_write hnonneg hv'
    · intro low hlow hports habove
      exact habove.columnEffect hlow hports hnonneg heffect

theorem Written.cons {s s₁ s' : VirtualSwitchState} {vb : VarBind} {rest : List VarBind}
    (h : Written s [vb] s₁) (h' : Written s₁ rest s') : Written s (vb :: rest) s' where
  applied := by
    have happlied := h.applied
    rw [List.foldlM_cons] at happlied ⊢
    obtain ⟨s₂, hs₂, hnil⟩ := bind_eq_ok.mp happlied
    cases hnil
    exact bind_eq_ok.mpr ⟨s₁, hs₂, h'.applied⟩
  inventory := h.inventory.trans h'.inventory
  address := by
    have hmodel : s₁.model = s.model := by rw [model, h.inventory.modelKey]
    rw [h'.address, addressAfter, addressAfter, h.address, hmodel]
    rfl
  lists hmodel := by
    have hmodel₁ : s₁.model = s.model := by rw [model, h.inventory.modelKey]
    rw [h'.lists (h.inventory.switchportModel.trans hmodel), generalListsAfter, h.lists hmodel,
      hmodel₁, h.inventory.portKeys]
    rfl
  untagged hmodel p v hv := by
    rcases h'.untagged (h.inventory.switchportModel.trans hmodel) p v hv with hv | hv
    · exact Or.inl hv
    · exact h.untagged hmodel p v hv
  tagged p := (h'.tagged p).trans (h.tagged p)
  portsAbove low hlow hports habove := by
    refine h'.portsAbove low hlow ?_ (h.portsAbove low hlow hports habove)
    rw [h.inventory.portKeys]
    exact hports

/-- An accepted PDU has written all its varbinds, in order. -/
theorem written_of_applyVarbinds : ∀ {varBinds : List VarBind} {idx : ℕ}
    {s s' : VirtualSwitchState}, applyVarbinds idx varBinds s = .ok s' → Written s varBinds s'
  | [], idx, s, s', h => by
    cases h
    exact .nil s
  | (oid, value) :: rest, idx, s, s', h => by
    rw [applyVarbinds] at h
    split_ifs at h with hwritable
    split at h
    · cases h
    · next s₁ hs₁ => exact (written_of_applyWrite hwritable hs₁).cons (written_of_applyVarbinds h)

theorem refuses_iff : ∀ {varBinds : List VarBind} {idx : ℕ} {s : VirtualSwitchState},
    s.Refuses varBinds ↔ ∃ e, applyVarbinds idx varBinds s = .error e
  | [], idx, s => by simp [Refuses, applyVarbinds]
  | (oid, value) :: rest, idx, s => by
    rw [Refuses, applyVarbinds]
    cases hwritable : s.isWritableOid oid with
    | false => simp
    | true =>
      cases hwrite : s.applyWrite oid value with
      | error e => simp
      | ok s₁ => simpa using @refuses_iff rest (idx + 1) s₁

theorem vlanWidth_pos (s : VirtualSwitchState) : 0 < s.vlanWidth := by
  unfold vlanWidth
  split
  · unfold vlanBitmapWidth
    omega
  · unfold vlanBitmapWidth
    omega
  · next w h _ => exact Nat.pos_of_ne_zero h

/-- After an accepted PDU the view of a state that loaded loads again exactly when the address
is numeric and the general-mode lists fit. -/
theorem Written.isSome_loadView_iff {s s' : VirtualSwitchState} {varBinds : List VarBind}
    {entries : List MibEntry} (h : Written s varBinds s') (hload : loadView s = (s, some entries))
    (hports : ∀ p ∈ s.ports.keys, 1 ≤ p) :
    (loadView s').1 = s' ∧ ((loadView s').2.isSome ↔
      NumericParts (s.addressAfter varBinds) ∧
        s.GeneralListsFit (s.generalListsAfter varBinds)) := by
  have hfilled := rowsFilled_of_loadView hload
  obtain ⟨hfits, _, hinventory⟩ := (loadView_of_rowsFilled hfilled).2.mp (by rw [hload]; rfl)
  obtain ⟨hstate, hsome⟩ := loadView_of_rowsFilled (h.inventory.rowsFilled hfilled)
  refine ⟨hstate, ?_⟩
  rw [hsome, h.address]
  obtain ⟨hgeneral, hvlans⟩ := fitsBitmaps_iff.mp hfits
  constructor
  · rintro ⟨hfits', haddress, _⟩
    refine ⟨haddress, ?_⟩
    intro hmodel p hp v hv
    rw [← h.lists hmodel] at hv
    have hlists := (fitsBitmaps_iff.mp hfits').1 (h.inventory.switchportModel.trans hmodel) p
    rw [h.inventory.portKeys] at hlists
    exact ((hlists hp).2 v hv).2
  · rintro ⟨haddress, hlists⟩
    refine ⟨fitsBitmaps_iff.mpr ⟨?_, ?_⟩, haddress, h.inventory.inventoryLoads hinventory⟩
    · intro hmodel p hp
      rw [h.inventory.switchportModel] at hmodel
      rw [h.inventory.portKeys] at hp
      obtain ⟨htagged, huntagged⟩ := hgeneral hmodel p hp
      refine ⟨fun v hv => htagged v (h.tagged p hv), fun v hv => ⟨?_, ?_⟩⟩
      · rcases h.untagged hmodel p v hv with hv | hv
        · omega
        · exact (huntagged v hv).1
      · refine hlists hmodel p hp v ?_
        rwa [← h.lists hmodel]
    · have hlow : (-(8 * s.vlanWidth : ℤ)) < 0 := by
        have := s.vlanWidth_pos
        omega
      have habove := h.portsAbove _ hlow hports fun vid sim hsim =>
        ⟨(hvlans vid sim hsim).1, (hvlans vid sim hsim).2.1, (hvlans vid sim hsim).2.2⟩
      rw [h.inventory.vlanWidth]
      intro vid sim hsim
      exact ⟨(habove vid sim hsim).1, (habove vid sim hsim).2, (habove vid sim hsim).3⟩

/-- The marker of a PDU in progress is not projected. -/
theorem loadView_snapshot {s : VirtualSwitchState} (h : s.RowsFilled) :
    (loadView s.snapshot).1 = s.snapshot ∧
      ((loadView s.snapshot).2.isSome ↔ (loadView s).2.isSome) := by
  have hfilled : s.snapshot.RowsFilled := fun hmodel p hp =>
    have hp := h hmodel p hp
    ⟨hp.1, hp.2, hp.3, hp.4, hp.5, hp.6⟩
  have hfits : s.snapshot.FitsBitmaps ↔ s.FitsBitmaps :=
    ⟨fun h => ⟨h.1, h.2⟩, fun h => ⟨h.1, h.2⟩⟩
  have hinventory : s.snapshot.InventoryLoads ↔ s.InventoryLoads :=
    ⟨fun h => ⟨h.1, h.2⟩, fun h => ⟨h.1, h.2⟩⟩
  obtain ⟨hstate, hsome⟩ := loadView_of_rowsFilled hfilled
  refine ⟨hstate, ?_⟩
  rw [hsome, (loadView_of_rowsFilled h).2, hfits, hinventory]
  rfl

theorem SameDevice.isSome_loadView_iff {s s' : VirtualSwitchState} (h : s.SameDevice s')
    (hs : s.RowsFilled) (hs' : s'.RowsFilled) :
    (loadView s).2.isSome ↔ (loadView s').2.isSome := by
  rw [← (loadView_snapshot hs).2, ← (loadView_snapshot hs').2, h]

end VirtualSwitchState

namespace StateMibView

open VirtualSwitchState

/-! ## §7 All or nothing -/

/-- On a current view a SET is all-or-nothing exactly when it is refused, or leaves a numeric
management address and general-mode lists that fit. -/
theorem allOrNothing_iff {view : StateMibView} (hcurrent : view.Current)
    (hports : ∀ p ∈ view.state.ports.keys, 1 ≤ p) (varBinds : List VarBind) :
    view.AllOrNothing varBinds ↔ view.state.snapshot.Refuses varBinds ∨
      NumericParts (view.state.addressAfter varBinds) ∧
        view.state.GeneralListsFit (view.state.generalListsAfter varBinds) := by
  have hfilled := rowsFilled_of_loadView hcurrent
  have hsome : (loadView view.state).2.isSome := by
    rw [hcurrent]
    rfl
  obtain ⟨hsnapshot, hsnapshotSome⟩ := loadView_snapshot hfilled
  obtain ⟨entries, hentries⟩ := Option.isSome_iff_exists.mp (hsnapshotSome.mpr hsome)
  have hload : loadView view.state.snapshot = (view.state.snapshot, some entries) :=
    Prod.ext hsnapshot hentries
  cases happly : view.state.snapshot.applyVarbinds 0 varBinds with
  | error e =>
    have hrefuses := refuses_iff.mpr ⟨e, happly⟩
    have hout : view.writeVariables varBinds =
        ({ view with state := view.state.snapshot }, .smiError e.1 e.2) := by
      rw [writeVariables, happly]
    unfold AllOrNothing
    rw [hout]
    exact iff_of_true ⟨rfl, rfl⟩ (Or.inl hrefuses)
  | ok s' =>
    have hrefuses : ¬ view.state.snapshot.Refuses varBinds := by
      rintro h
      obtain ⟨e, he⟩ := refuses_iff.mp h
      rw [happly] at he
      cases he
    have hwritten := written_of_applyVarbinds happly
    obtain ⟨hstate, hiff⟩ := hwritten.isSome_loadView_iff hload hports
    rw [or_iff_right hrefuses]
    change _ ↔ NumericParts (view.state.snapshot.addressAfter varBinds) ∧
      view.state.snapshot.GeneralListsFit (view.state.snapshot.generalListsAfter varBinds)
    rw [← hiff]
    cases hview : (loadView s').2 with
    | some entries' =>
      have hload' : loadView s' = (s', some entries') := Prod.ext hstate hview
      have hout : view.writeVariables varBinds = (⟨s', entries'⟩, .echoed varBinds) := by
        rw [writeVariables, happly]
        dsimp only
        rw [hload']
      unfold AllOrNothing
      rw [hout]
      exact iff_of_true ⟨hwritten.applied, hload'⟩ rfl
    | none =>
      have hload' : loadView s' = (s', none) := Prod.ext hstate hview
      have hout : view.writeVariables varBinds = ({ view with state := s' }, .rebuildRaised) := by
        rw [writeVariables, happly]
        dsimp only
        rw [hload']
      unfold AllOrNothing
      rw [hout]
      refine iff_of_false ?_ (by simp)
      rintro ⟨hsame, _⟩
      have hloads := (hsame.isSome_loadView_iff
        (hwritten.inventory.rowsFilled (rowsFilled_of_loadView hload)) hfilled).mpr hsome
      rw [hview] at hloads
      cases hloads

/-- A GSM7252PS with one port. -/
def onePortState : VirtualSwitchState where
  modelKey := .gsm7252ps
  ports := .ofList [(1, { name := "0/1".toList, admin := true, link := true, speed := 1000 })]
  vlans := .ofList [(1, { name := "Default".toList, member := {1}, untagged := {1} })]
  pvids := .ofList [(1, 1)]

/-- The view of `onePortState`. -/
def onePortView : StateMibView := ⟨onePortState, (loadView onePortState).2.getD []⟩

/-- The port renamed and the management address set, in one PDU. -/
def onePortWrite : List VarBind :=
  [(ifAlias ++ [1], .bytes "up".toUTF8.toList), (fmBase ++ [98, 1], .str "10.0.0.9".toList)]

theorem allOrNothing_onePortWrite : onePortView.Current ∧ onePortView.AllOrNothing onePortWrite := by
  have hcurrent : onePortView.Current := by decide +kernel
  have haddress : NumericParts (onePortView.state.addressAfter onePortWrite) := by
    unfold NumericParts
    decide
  have hlists : onePortView.state.switchportModel ≠ true := by decide
  refine ⟨hcurrent, (allOrNothing_iff hcurrent (by decide) onePortWrite).mpr (Or.inr ?_)⟩
  exact ⟨haddress, fun hmodel => absurd hmodel hlists⟩

/-- An OCTET STRING management address is stored as the text of the bytes object, which is no
OID: the rebuild raises with the address already changed. -/
theorem addressOctets_escapes : onePortView.Current ∧
    ¬ onePortView.AllOrNothing [(fmBase ++ [98, 1], .bytes "10.0.0.9".toUTF8.toList)] := by
  decide +kernel

end StateMibView

end NetgearSwitch.Virtual
