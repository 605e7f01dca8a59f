import NetgearSwitch.Virtual.DerivedRuns
import NetgearSwitch.Virtual.WebForms
import NetgearSwitch.Virtual.WebGs728tpp

/-!
# Who sees which write

`VirtualSwitch` of `virtual/server.py` starts its faces over one state.  The SNMP face answers
from a view that was loaded from the state, and only a SET loads it again: a write that comes in
over the CLI or the web changes the state under the view.

`snmpPart` is the part of the state the view is made from.  While the other faces leave it
alone, every answer of the SNMP face is the answer of a view loaded afresh.
-/

namespace NetgearSwitch.Virtual

open Snmp PyText Http

/-! ## §1 Reading the view -/

/-- The answer to one varbind of a GET or a GETNEXT. -/
inductive ReadAnswer
  | noSuchObject
  | noSuchInstance
  | endOfMibView
  | value (entry : MibEntry)
  deriving DecidableEq

/-- `unimplemented_roots`. -/
def unimplementedRoots (m : SwitchModel) : List Oid :=
  if 0 < m.poePortCount then []
  else pethPsePortTable :: (vendorOids m).toList.map VendorOids.poePowerMw

/-- `is_oid_implemented`. -/
def isOidImplemented (m : SwitchModel) (oid : List ℤ) : Bool :=
  (unimplementedRoots m).all fun root => !(root.map fun n : ℕ => (n : ℤ)).isPrefixOf oid

namespace StateMibView

/-- `get`: the first entry that is not below the OID, where it has that OID. -/
def get (view : StateMibView) (oid : List ℤ) : Option MibEntry :=
  (view.entries.find? fun e => oidLe oid e.oid).filter fun e => e.oid = oid

/-- `get_next`: the first entry above the OID. -/
def getNext (view : StateMibView) (oid : List ℤ) : Option MibEntry :=
  view.entries.find? fun e => !oidLe e.oid oid

/-- One varbind of `read_variables`. -/
def read (view : StateMibView) (oid : List ℤ) : ReadAnswer :=
  if !isOidImplemented view.state.model oid then .noSuchObject
  else ((view.get oid).map ReadAnswer.value).getD .noSuchInstance

/-- One varbind of `read_next_variables`. -/
def readNext (view : StateMibView) (oid : List ℤ) : ReadAnswer :=
  if !isOidImplemented view.state.model oid then .noSuchObject
  else ((view.getNext oid).map ReadAnswer.value).getD .endOfMibView

/-- `StateMibView(state)`: none where the state does not project. -/
def ofState (s : VirtualSwitchState) : Option StateMibView :=
  match loadView s with
  | (s', some entries) => some ⟨s', entries⟩
  | (_, none) => none

/-- The view answers every GET and GETNEXT as one loaded from its state now would. -/
def Fresh (view : StateMibView) : Prop :=
  ∃ fresh, ofState view.state = some fresh ∧
    ∀ oid, view.read oid = fresh.read oid ∧ view.readNext oid = fresh.readNext oid

end StateMibView

/-! ## §2 The part of the state the view is made from -/

def PortSim.snmpPart (sim : PortSim) : PortSim :=
  { sim with
    switchportMode := .general
    flowControl := sim.servesEtherlike && sim.flowControl
    autonegAdmin := []
    speedAdmin := []
    duplexAdminMode := [] }

/-- A VLAN without a static row shows its current ports only. -/
def VlanSim.snmpPart (vsim : VlanSim) : VlanSim :=
  if vsim.staticRow then { vsim with configuredOnly := vsim.configuredOnly \ vsim.member }
  else { vsim with name := [], configuredOnly := ∅ }

def PoeSim.snmpPart (psim : PoeSim) : PoeSim := { psim with cliStatusLagReads := 0 }

namespace VirtualSwitchState

def snmpPart (s : VirtualSwitchState) : VirtualSwitchState :=
  { s with
    ports := s.ports.mapValues fun _ => PortSim.snmpPart
    vlans := s.vlans.mapValues fun _ => VlanSim.snmpPart
    poe := s.poe.mapValues fun _ => PoeSim.snmpPart
    modelName := []
    serial := []
    firmware := []
    nsdpPassword := []
    nsdpAuthVersion := 0
    nsdpLastSalt := none
    nsdpAuthFailures := 0
    nsdpQosEngine := none
    nsdpPortMirroringDest := none
    nsdpPortMirroringSources := ∅
    nsdpIgmpSnoopingEnabled := none
    nsdpIgmpSnoopingVlan := none
    nsdpBroadcastFiltering := none
    nsdpLoopDetection := none
    pduEgressWrites := ∅
    vlanMembershipPage := none
    vlanMembershipLockedPorts := ∅ }

theorem portRows_snmpPart (s : VirtualSwitchState) : s.snmpPart.portRows = s.portRows := by
  rw [portRows, portRows]
  show ((s.ports.items.map fun e => (e.1, e.2.snmpPart)).flatMap _) = _
  rw [List.flatMap_map]
  refine List.flatMap_congr fun e _ => ?_
  obtain ⟨port, sim⟩ := e
  cases hserves : sim.servesEtherlike
  · simp [PortSim.snmpPart, hserves]
  · simp [PortSim.snmpPart, hserves]

theorem vlanRow_snmpPart (s : VirtualSwitchState) (vid : ℤ) (vsim : VlanSim) :
    s.snmpPart.vlanRow vid vsim.snmpPart = s.vlanRow vid vsim := by
  have hwidth : s.snmpPart.vlanWidth = s.vlanWidth := rfl
  unfold vlanRow
  rw [hwidth]
  cases hstatic : vsim.staticRow
  · simp [VlanSim.snmpPart, hstatic]
  · simp [VlanSim.snmpPart, hstatic, VlanSim.configured]

theorem vlanRows_snmpPart (s : VirtualSwitchState) : s.snmpPart.vlanRows = s.vlanRows := by
  have hitems : s.snmpPart.vlans.items = s.vlans.items.map fun e => (e.1, e.2.snmpPart) := rfl
  rw [vlanRows, vlanRows, hitems, List.mapM_map]
  have hrow : (fun e : ℤ × VlanSim => s.snmpPart.vlanRow e.1 e.2) ∘
      (fun e => (e.1, e.2.snmpPart)) = fun e : ℤ × VlanSim => s.vlanRow e.1 e.2 := by
    funext e
    exact s.vlanRow_snmpPart e.1 e.2
  rw [hrow]

theorem poeRows_snmpPart (s : VirtualSwitchState) : s.snmpPart.poeRows = s.poeRows := by
  rw [poeRows, poeRows]
  show ((s.poe.items.map fun e => (e.1, e.2.snmpPart)).flatMap _) = _
  rw [List.flatMap_map]
  rfl

theorem allRows_snmpPart (s : VirtualSwitchState) (switchport vlans : List MibRow) :
    s.snmpPart.allRows switchport vlans = s.allRows switchport vlans := by
  rw [allRows, allRows, portRows_snmpPart, poeRows_snmpPart]
  rfl

theorem switchportRows_snmpPart : ∀ (ports : List ℤ) (s : VirtualSwitchState),
    switchportRows ports s.snmpPart =
      ((switchportRows ports s).1.snmpPart, (switchportRows ports s).2)
  | [], s => rfl
  | port :: ports, s => by
    have hdefaults : s.snmpPart.switchportDefaults port = (s.switchportDefaults port).snmpPart := rfl
    have hrow : (s.switchportDefaults port).snmpPart.switchportRow port =
        (s.switchportDefaults port).switchportRow port := rfl
    rw [switchportRows, switchportRows, hdefaults, hrow,
      switchportRows_snmpPart ports (s.switchportDefaults port)]
    cases (s.switchportDefaults port).switchportRow port with
    | none => rfl
    | some row =>
      cases hrest : switchportRows ports (s.switchportDefaults port) with
      | mk s' rows => cases rows <;> rfl

theorem oidMap_snmpPart (s : VirtualSwitchState) :
    s.snmpPart.oidMap = (s.oidMap.1.snmpPart, s.oidMap.2) := by
  have hkeys : s.snmpPart.ports.keys = s.ports.keys := PyDict.keys_mapValues _ _
  have hmodel : s.snmpPart.switchportModel = s.switchportModel := rfl
  have htable : (if s.snmpPart.switchportModel then switchportRows s.snmpPart.ports.keys s.snmpPart
      else (s.snmpPart, some [])) =
        ((if s.switchportModel then switchportRows s.ports.keys s else (s, some [])).1.snmpPart,
          (if s.switchportModel then switchportRows s.ports.keys s else (s, some [])).2) := by
    rw [hmodel, hkeys, switchportRows_snmpPart]
    split_ifs <;> rfl
  unfold oidMap
  rw [htable]
  cases (if s.switchportModel then switchportRows s.ports.keys s else (s, some [])) with
  | mk s' table =>
    cases table with
    | none => rfl
    | some switchport =>
      dsimp only
      rw [vlanRows_snmpPart]
      simp only [allRows_snmpPart]

/-- The view is made from that part of the state only. -/
theorem loadView_snmpPart (s : VirtualSwitchState) : (loadView s.snmpPart).2 = (loadView s).2 := by
  unfold loadView
  rw [oidMap_snmpPart]
  cases s.oidMap with
  | mk s' m => cases m <;> rfl

theorem loadView_congr {s s' : VirtualSwitchState} (h : s'.snmpPart = s.snmpPart) :
    (loadView s').2 = (loadView s).2 := by
  rw [← loadView_snmpPart s', h, loadView_snmpPart]

/-- The lag of the CLI's PoE status page is not in the view. -/
theorem snmpPart_readPoeStatus (s : VirtualSwitchState) :
    s.readPoeStatus.snmpPart = s.snmpPart := by
  have hpoe : s.readPoeStatus.poe.mapValues (fun _ => PoeSim.snmpPart) =
      s.poe.mapValues fun _ => PoeSim.snmpPart := by
    rw [readPoeStatus, PyDict.mapValues_mapValues]
    rfl
  unfold snmpPart
  rw [hpoe]
  rfl

theorem snmpPart_showCommand (f : VirtualCliFace) (c : Text) :
    (f.showCommand c).1.state.snmpPart = f.state.snmpPart := by
  unfold VirtualCliFace.showCommand
  split
  · rfl
  · split_ifs
    · rfl
    · rfl
    · exact f.state.snmpPart_readPoeStatus
    · rfl
    · split
      · split_ifs
        · split <;> rfl
        · rfl
      · split_ifs <;> rfl
      · rfl

/-! ## §3 Loading twice -/

theorem switchportRows_snd_congr : ∀ (ports : List ℤ) {s t : VirtualSwitchState},
    (∀ p, t.row p = s.row p) → (switchportRows ports t).2 = (switchportRows ports s).2
  | [], _, _, _ => rfl
  | port :: ports, s, t, h => by
    have hdefaults : ∀ p, (t.switchportDefaults port).row p = (s.switchportDefaults port).row p := by
      intro p
      rw [row_switchportDefaults, row_switchportDefaults, h p]
    have hrow : (t.switchportDefaults port).switchportRow port =
        (s.switchportDefaults port).switchportRow port := by
      rw [switchportRow, switchportRow, hdefaults]
    have hrest := switchportRows_snd_congr ports hdefaults
    rw [switchportRows, switchportRows, hrow]
    cases (s.switchportDefaults port).switchportRow port with
    | none => rfl
    | some row =>
      cases hs : switchportRows ports (s.switchportDefaults port) with
      | mk s' rows =>
        cases ht : switchportRows ports (t.switchportDefaults port) with
        | mk t' rows' =>
          rw [hs, ht] at hrest
          obtain rfl : rows' = rows := hrest
          cases rows' <;> rfl

theorem row_switchportRows : ∀ (ports : List ℤ) (s : VirtualSwitchState) (p : ℤ),
    (switchportRows ports s).1.row p = s.row p
  | [], _, _ => rfl
  | port :: ports, s, p => by
    have hrest := row_switchportRows ports (s.switchportDefaults port) p
    rw [row_switchportDefaults] at hrest
    rw [switchportRows]
    cases (s.switchportDefaults port).switchportRow port with
    | none => exact row_switchportDefaults s p port
    | some row =>
      cases hs : switchportRows ports (s.switchportDefaults port) with
      | mk s' rows =>
        rw [hs] at hrest
        cases rows <;> exact hrest

/-- A view that loaded loads again, from the state it left, to the same entries. -/
theorem loadView_loadView {s s' : VirtualSwitchState} {entries : List MibEntry}
    (h : loadView s = (s', some entries)) : loadView s' = (s', some entries) := by
  obtain ⟨table, htable, hagain⟩ : ∃ table,
      (if s.switchportModel then switchportRows s.ports.keys s else (s, some [])) = (s', table) ∧
      (if s'.switchportModel then switchportRows s'.ports.keys s' else (s', some [])) =
        (s', table) := by
    obtain ⟨switchport, htable⟩ : ∃ switchport,
        (if s.switchportModel then switchportRows s.ports.keys s else (s, some [])) =
          (s', some switchport) := by
      unfold loadView oidMap at h
      split at h
      · cases h
      · next heq =>
        obtain ⟨rfl, _⟩ := Prod.mk.inj h
        split at heq
        · cases heq
        · next switchport htable =>
          obtain ⟨rfl, _⟩ := Prod.mk.inj heq
          exact ⟨switchport, htable⟩
    refine ⟨some switchport, htable, ?_⟩
    by_cases hmodel : s.switchportModel = true
    · rw [if_pos hmodel] at htable
      obtain ⟨hports, _, _, hkey⟩ := switchportRows_frame htable
      have hmodel' : s'.switchportModel = true := (switchportModel_of_modelKey hkey).trans hmodel
      have hstate := (switchportRows_of_hasRow s.ports.keys s'
        (hasRow_switchportRows _ _ _ htable).2).1
      have hrows := switchportRows_snd_congr s.ports.keys fun p => by
        show s'.row p = s.row p
        rw [← row_switchportRows s.ports.keys s p, htable]
      rw [if_pos hmodel', hports]
      refine Prod.ext hstate (hrows.trans ?_)
      rw [htable]
    · rw [if_neg hmodel] at htable
      cases htable
      rw [if_neg hmodel]
  have hmap : s'.oidMap = s.oidMap := by
    unfold oidMap
    rw [htable, hagain]
  rw [← h, loadView, loadView, hmap]

theorem modelKey_loadView (s : VirtualSwitchState) : (loadView s).1.modelKey = s.modelKey :=
  loadView_induction (P := fun t => t.modelKey = s.modelKey) (fun _ _ ht => ht) rfl

end VirtualSwitchState

/-! ## §4 One write -/

namespace StateMibView

/-- The entries are those a view loaded now would have. -/
theorem fresh_of_entries {view : StateMibView}
    (h : (loadView view.state).2 = some view.entries) : view.Fresh := by
  cases hload : loadView view.state with
  | mk s entries =>
    rw [hload] at h
    obtain rfl : entries = some view.entries := h
    have hkey := VirtualSwitchState.modelKey_loadView view.state
    rw [hload] at hkey
    refine ⟨⟨s, view.entries⟩, ?_, fun oid => ?_⟩
    · rw [ofState, hload]
    · have hmodel : s.model = view.state.model := by
        rw [VirtualSwitchState.model, VirtualSwitchState.model, hkey]
      simp only [read, readNext, get, getNext, hmodel]
      exact ⟨trivial, trivial⟩

theorem not_fresh_of_read {view fresh : StateMibView} {oid : List ℤ}
    (h : ofState view.state = some fresh) (hread : view.read oid ≠ fresh.read oid) :
    ¬ view.Fresh := by
  rintro ⟨fresh', hfresh, hall⟩
  obtain rfl := Option.some.inj (hfresh.symm.trans h)
  exact hread (hall oid).1

end StateMibView

/-- A request of the web face that may write: a form, or a body of a UI that is written to in
XML. -/
inductive WebPost
  | form (path : Text) (form : Form)
  | xml (body : Text)

/-- `do_POST` on the models that have an SNMP face. -/
def VirtualSwitchState.post (s : VirtualSwitchState) (post : WebPost) : VirtualSwitchState :=
  match httpSpec s.modelKey, post with
  | none, _ => s
  | some spec, .form path form =>
    if spec.isFastpathDialect then (s.postForm spec path form).1 else s
  | some spec, .xml body => if spec.isXmlApiDialect then (s.applyXml body).1 else s

/-- The switch after `start`: a view of the state and any number of CLI sessions, each of which
keeps its own modes over the one state. -/
structure VirtualSwitch where
  view : StateMibView
  sessions : ℕ → VirtualCliFace

/-- A write through one of the faces. -/
inductive FaceWrite
  | set (varBinds : List VarBind)
  | cli (session : ℕ) (command : Text)
  | post (post : WebPost)

namespace VirtualSwitch

open StateMibView (onePortState onePortView onePortWrite)

/-- `start`: the view is loaded once.  None where the state does not project. -/
def start (s : VirtualSwitchState) : Option VirtualSwitch :=
  (StateMibView.ofState s).map fun view => ⟨view, fun _ => { state := view.state }⟩

/-- A session over the state as it is now. -/
def session (v : VirtualSwitch) (n : ℕ) : VirtualCliFace :=
  { v.sessions n with state := v.view.state }

/-- The state a write leaves, and the session that was written to. -/
def withState (v : VirtualSwitch) (s : VirtualSwitchState) : VirtualSwitch :=
  { v with view := { v.view with state := s } }

/-- One write. -/
def perform (v : VirtualSwitch) : FaceWrite → VirtualSwitch
  | .set varBinds => { v with view := (v.view.writeVariables varBinds).1 }
  | .cli n command =>
    let face := ((v.session n).run command).1
    { v.withState face.state with sessions := Function.update v.sessions n face }
  | .post post => v.withState (v.view.state.post post)

/-- A SET whose varbinds are all accepted is loaded, and a write through another face leaves the
part of the state the view is made from as it was. -/
def Unseen (v : VirtualSwitch) : FaceWrite → Prop
  | .set varBinds => (v.view.writeVariables varBinds).2 ≠ .rebuildRaised
  | w => (v.perform w).view.state.snmpPart = v.view.state.snmpPart

/-- The view is that of the state. -/
def Loaded (v : VirtualSwitch) : Prop := (loadView v.view.state).2 = some v.view.entries

theorem loaded_start {s : VirtualSwitchState} {v : VirtualSwitch} (h : start s = some v) :
    v.Loaded := by
  obtain ⟨view, hview, rfl⟩ := Option.map_eq_some_iff.mp h
  unfold StateMibView.ofState at hview
  split at hview
  · next s' entries hload =>
    cases hview
    show (loadView s').2 = some entries
    rw [VirtualSwitchState.loadView_loadView hload]
  · cases hview

/-- A write through another face than SNMP leaves the entries. -/
theorem entries_perform (v : VirtualSwitch) {w : FaceWrite} (hw : ∀ varBinds, w ≠ .set varBinds) :
    (v.perform w).view.entries = v.view.entries := by
  cases w with
  | set varBinds => exact absurd rfl (hw varBinds)
  | cli n command => rfl
  | post post => rfl

theorem loaded_perform {v : VirtualSwitch} {w : FaceWrite} (h : v.Loaded) (hw : v.Unseen w) :
    (v.perform w).Loaded := by
  have hother : ∀ w, (∀ varBinds, w ≠ .set varBinds) →
      (v.perform w).view.state.snmpPart = v.view.state.snmpPart → (v.perform w).Loaded := by
    intro w hw hpart
    rw [Loaded, VirtualSwitchState.loadView_congr hpart, entries_perform v hw]
    exact h
  cases w with
  | cli n command => exact hother _ (fun _ => by rintro ⟨⟩) hw
  | post post => exact hother _ (fun _ => by rintro ⟨⟩) hw
  | set varBinds =>
    have hsnapshot : (loadView v.view.state.snapshot).2 = (loadView v.view.state).2 :=
      VirtualSwitchState.loadView_congr rfl
    have hraised : (v.view.writeVariables varBinds).2 ≠ .rebuildRaised := hw
    show (loadView (v.view.writeVariables varBinds).1.state).2 =
      some (v.view.writeVariables varBinds).1.entries
    unfold StateMibView.writeVariables at hraised ⊢
    dsimp only at hraised ⊢
    cases happly : v.view.state.snapshot.applyVarbinds 0 varBinds with
    | error e =>
      rw [happly] at hraised
      exact hsnapshot.trans h
    | ok s =>
      rw [happly] at hraised
      dsimp only at hraised ⊢
      cases hload : loadView s with
      | mk s' loaded =>
        rw [hload] at hraised
        cases loaded with
        | none => exact absurd rfl hraised
        | some entries =>
          show (loadView s').2 = some entries
          rw [VirtualSwitchState.loadView_loadView hload]

/-- Whatever the session is in, a command that no mode takes is unseen: a `show` page at most. -/
theorem unseen_of_showCommand {v : VirtualSwitch} {n : ℕ} {command : Text}
    (h : (v.session n).configCommand (strip command) = none) : v.Unseen (.cli n command) := by
  show ((v.session n).run command).1.state.snmpPart = (v.session n).state.snmpPart
  unfold VirtualCliFace.run
  dsimp only
  rw [h]
  split_ifs
  · rfl
  · rfl
  · cases (v.session n).overlongReply? (strip command) with
    | some reply => rfl
    | none => exact VirtualSwitchState.snmpPart_showCommand (v.session n) _

/-- The states the switch goes through, the start included. -/
def trace (v : VirtualSwitch) : List FaceWrite → List VirtualSwitch
  | [] => [v]
  | w :: ws => v :: (v.perform w).trace ws

/-- Every write of the run is unseen, in the state it meets. -/
def RunUnseen (v : VirtualSwitch) : List FaceWrite → Prop
  | [] => True
  | w :: ws => v.Unseen w ∧ (v.perform w).RunUnseen ws

theorem loaded_trace {v : VirtualSwitch} {ws : List FaceWrite} (h : v.Loaded)
    (hws : v.RunUnseen ws) : ∀ u ∈ v.trace ws, u.Loaded := by
  induction ws generalizing v with
  | nil =>
    intro u hu
    rw [List.mem_singleton.mp hu]
    exact h
  | cons w ws ih =>
    obtain ⟨hw, hrest⟩ := hws
    intro u hu
    rcases List.mem_cons.mp hu with rfl | hu
    · exact h
    · exact ih (loaded_perform h hw) hrest u hu

/-- `onePortState`, its faces started. -/
def onePortSwitch : VirtualSwitch := ⟨onePortView, fun _ => { state := onePortState }⟩

theorem start_onePortState : start onePortState = some onePortSwitch := by
  have hview : StateMibView.ofState onePortState = some onePortView := by decide +kernel
  rw [start, hview]
  rfl

/-- A port shut and renamed over SNMP between two looks at the CLI. -/
def onePortRun : List FaceWrite :=
  [.cli 0 "show vlan brief".toList, .set [(ifAdminStatus ++ [1], .int 2)],
    .set onePortWrite, .cli 0 "configure".toList]

/-- The switch after VLAN 7 was created over the CLI. -/
def createdSwitch : VirtualSwitch :=
  (onePortSwitch.perform (.cli 0 "vlan database".toList)).perform (.cli 0 "vlan 7".toList)

/-- The name of VLAN 7, `dot1qVlanStaticName.7`. -/
def createdOid : List ℤ := (dot1qVlanStaticName ++ [7]).map fun n : ℕ => (n : ℤ)

end VirtualSwitch

end NetgearSwitch.Virtual
