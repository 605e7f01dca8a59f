import NetgearSwitch.Snmp.PortListWrites
import NetgearSwitch.Virtual.SnmpAgent
import NetgearSwitch.Virtual.WriteDispatch

/-!
# A membership write, from the manager to the virtual switch and back

`SnmpWriter.set_vlan_membership` in its Q-BRIDGE dialect, run against the SNMP face of
`virtual/faces/snmp.py` through either client.  The lists it starts from, the one or two SETs it
sends, the state the switch is left in and what the read-back makes of it are all given here in
terms of the VLAN as it stood before.

§1 the state a list write leaves · §2 the SETs · §3 the whole run
-/

namespace NetgearSwitch.Virtual

open Snmp Script

/-! ## §1 The state a VLAN write leaves -/

theorem isSome_toSmi?_intValue {n : ℤ}
    (h : (intRange .integer32).1 ≤ n ∧ n ≤ (intRange .integer32).2) :
    (intValue .integer n).toSmi?.isSome := by
  show (smiInt? .integer32 (PyText.intText n)).isSome = true
  rw [smiInt?_intText h]
  rfl

theorem isSome_toSmi?_bytesValue (raw : Bytes) : (bytesValue raw).toSmi?.isSome := by
  rw [toSmi?_bytesValue]
  rfl

theorem isSome_toSmi?_textValue {text : Text} (h : (PyCodec.latin1Encode text).isSome) :
    (textValue text).toSmi?.isSome := by
  show ((PyCodec.latin1Encode text).map SmiValue.octetString).isSome = true
  rw [Option.isSome_map]
  exact h

namespace VirtualSwitchState

variable (s : VirtualSwitchState)

/-- The state with other VLANs. -/
def withVlans (vlans : PyDict ℤ VlanSim) (writes : Finset ℤ) : VirtualSwitchState :=
  { s with vlans := vlans, pduEgressWrites := writes }

/-- The state with the two lists of a VLAN replaced. -/
def withLists (v : ℤ) (vsim : VlanSim) (member untagged writes : Finset ℤ) : VirtualSwitchState :=
  s.withVlans (s.vlans.set v { vsim with member := member, untagged := untagged }) writes

variable {s} {v : ℤ} {sim : VlanSim} {rows vlans : List MibRow}

theorem sendable_vlanRow (hv : 0 ≤ v)
    (hname : sim.staticRow = true → (PyCodec.latin1Encode sim.name).isSome)
    (h : s.vlanRow v sim = some rows) : ∀ row ∈ rows, Sendable row := by
  have hcurrent : ∀ n ∈ [0, v], (0 : ℤ) ≤ n := by simpa using hv
  have hstaticIndex : ∀ n ∈ [v], (0 : ℤ) ≤ n := by simpa using hv
  have hoctets : ∀ (base : Oid) {ns : List ℤ}, (∀ n ∈ ns, 0 ≤ n) → ∀ raw : Bytes,
      Sendable (bytesRow base ns raw) :=
    fun base ns hns raw => sendable_instance hns (isSome_toSmi?_bytesValue raw)
  have hstatus : ∀ n : ℤ, n = 1 ∨ n = 2 → Sendable (intRow dot1qVlanStatus [0, v] .integer n) := by
    intro n hn
    refine sendable_instance hcurrent (isSome_toSmi?_intValue ?_)
    rcases hn with rfl | rfl <;> decide
  simp only [vlanRow, Option.bind_eq_bind, Option.bind_eq_some_iff] at h
  obtain ⟨member, -, untagged, -, h⟩ := h
  cases hstatic : sim.staticRow with
  | true =>
    rw [if_pos hstatic] at h
    obtain ⟨configured, -, h⟩ := Option.bind_eq_some_iff.mp h
    cases h
    have htext : Sendable (textRow dot1qVlanStaticName [v] sim.name) :=
      sendable_instance hstaticIndex (isSome_toSmi?_textValue (hname hstatic))
    simp only [List.forall_mem_append, List.forall_mem_cons, List.not_mem_nil, false_imp_iff,
      implies_true, and_true]
    exact ⟨⟨hoctets _ hcurrent _, hoctets _ hcurrent _, hstatus _ (by simp)⟩, htext,
      hoctets _ hstaticIndex _, hoctets _ hstaticIndex _⟩
  | false =>
    rw [if_neg (by simp [hstatic])] at h
    cases h
    simp only [List.forall_mem_cons, List.not_mem_nil, false_imp_iff, implies_true, and_true]
    exact ⟨hoctets _ hcurrent _, hoctets _ hcurrent _, hstatus _ (by simp)⟩

/-- The rows of a VLAN are in the table. -/
theorem exists_vlanRow (h : s.vlanRows = some vlans) (hsim : s.vlans.get? v = some sim) :
    ∃ rows, s.vlanRow v sim = some rows ∧ ∀ row ∈ rows, row ∈ vlans := by
  obtain ⟨tables, htables, rfl⟩ := Option.map_eq_some_iff.mp h
  have hmem := PyDict.mem_items_of_get? hsim
  obtain ⟨rows, hrows⟩ := Option.isSome_iff_exists.mp
    (isSome_mapM_iff.mp (Option.isSome_of_eq_some htables) _ hmem)
  have htable : rows ∈ tables := (mem_iff_of_mapM_eq_some htables).mpr ⟨_, hmem, hrows⟩
  exact ⟨rows, hrows, fun row hrow => List.mem_flatten.mpr ⟨rows, htable, hrow⟩⟩

end VirtualSwitchState

namespace StateMibView

variable {view : StateMibView} {v : ℤ} {vsim : VlanSim}

theorem Ready.vlanRow (h : view.Ready) (hvsim : view.state.vlans.get? v = some vsim) :
    ∃ rows, view.state.vlanRow v vsim = some rows ∧ ∀ row ∈ rows, Sendable row := by
  obtain ⟨switchport, vlans, es, hmade⟩ := exists_made h.current
  obtain ⟨rows, hrows, hmem⟩ := VirtualSwitchState.exists_vlanRow hmade.emitted hvsim
  refine ⟨rows, hrows, fun row hrow => h.rows vlans hmade.emitted row ?_⟩
  simp only [VirtualSwitchState.allRows, List.mem_append]
  tauto

/-- A VLAN that is served has a number an OID can hold, and a name that can be sent. -/
theorem Ready.vlan (h : view.Ready) (hvsim : view.state.vlans.get? v = some vsim) :
    0 ≤ v ∧ (vsim.staticRow = true → (PyCodec.latin1Encode vsim.name).isSome) := by
  obtain ⟨rows, hrows, hsendable⟩ := h.vlanRow hvsim
  simp only [VirtualSwitchState.vlanRow, Option.bind_eq_bind, Option.bind_eq_some_iff] at hrows
  obtain ⟨member, -, untagged, -, hrows⟩ := hrows
  have hnonneg : ∀ {rest : List MibRow}, (∀ row ∈ bytesRow dot1qVlanCurrentEgress [0, v] member :: rest,
      Sendable row) → 0 ≤ v := fun hall =>
    nonneg_of_sendable (hall _ List.mem_cons_self) v (List.mem_cons_of_mem _ List.mem_cons_self)
  cases hstatic : vsim.staticRow with
  | true =>
    rw [if_pos hstatic] at hrows
    obtain ⟨configured, -, hrows⟩ := Option.bind_eq_some_iff.mp hrows
    cases hrows
    refine ⟨hnonneg hsendable, fun _ => ?_⟩
    obtain ⟨-, hvalue⟩ := hsendable (textRow dot1qVlanStaticName [v] vsim.name) (by simp)
    have hvalue : ((PyCodec.latin1Encode vsim.name).map SmiValue.octetString).isSome = true := hvalue
    rwa [Option.isSome_map] at hvalue
  | false =>
    rw [if_neg (by simp [hstatic])] at hrows
    cases hrows
    exact ⟨hnonneg hsendable, fun h => by cases h⟩

/-- **Other VLANs leave a view that is ready**, where each of them is an old one or has a row. -/
theorem Ready.withVlans (h : view.Ready) {vlans : PyDict ℤ VlanSim} (writes : Finset ℤ)
    (hvlans : ∀ v sim, vlans.get? v = some sim → view.state.vlans.get? v = some sim ∨
      0 ≤ v ∧ (sim.staticRow = true → (PyCodec.latin1Encode sim.name).isSome) ∧
        (view.state.vlanRow v sim).isSome) :
    ∃ es, loadView (view.state.withVlans vlans writes) =
        (view.state.withVlans vlans writes, some es) ∧
      (⟨view.state.withVlans vlans writes, es⟩ : StateMibView).Ready := by
  have hrow : ∀ v sim, vlans.get? v = some sim → ∃ rows, view.state.vlanRow v sim = some rows ∧
      ∀ row ∈ rows, Sendable row := by
    intro v sim hsim
    rcases hvlans v sim hsim with hold | ⟨hv, hname, hsome⟩
    · exact h.vlanRow hold
    · obtain ⟨rows, hrows⟩ := Option.isSome_iff_exists.mp hsome
      exact ⟨rows, hrows, VirtualSwitchState.sendable_vlanRow hv hname hrows⟩
  have hsame : ∀ v sim, (view.state.withVlans vlans writes).vlanRow v sim =
      view.state.vlanRow v sim := fun _ _ => rfl
  have hsome : (view.state.withVlans vlans writes).vlanRows.isSome := by
    rw [VirtualSwitchState.isSome_vlanRows_iff]
    intro v sim hsim
    obtain ⟨rows, hrows, -⟩ := hrow v sim hsim
    rw [hsame, hrows]
    rfl
  obtain ⟨table, htable⟩ := Option.isSome_iff_exists.mp hsome
  refine exists_ready h.plain htable h.current.short ?_
  obtain ⟨switchport, old, es, hmade⟩ := exists_made h.current
  have hall := h.rows old hmade.emitted
  have htableRows : ∀ row ∈ table, Sendable row := by
    obtain ⟨tables, htables, rfl⟩ := Option.map_eq_some_iff.mp htable
    intro row hmem
    obtain ⟨rows, hrowsMem, hmem⟩ := List.mem_flatten.mp hmem
    obtain ⟨⟨v, sim⟩, hitem, hrows⟩ := (mem_iff_of_mapM_eq_some htables).mp hrowsMem
    obtain ⟨rows', hrows', hsendable⟩ := hrow v sim (PyDict.get?_of_mem_items hitem)
    rw [hsame, hrows'] at hrows
    rw [← Option.some.inj hrows] at hmem
    exact hsendable row hmem
  have hrest : (view.state.withVlans vlans writes).allRows [] table = view.state.allRows [] table :=
    rfl
  rw [hrest]
  simp only [VirtualSwitchState.allRows, List.forall_mem_append] at hall ⊢
  tauto

/-- Lists of ports numbered from 1 always have an encoding; ports that stood in the list had one. -/
theorem Ready.withLists (h : view.Ready) {member untagged : Finset ℤ} (writes : Finset ℤ)
    (hvsim : view.state.vlans.get? v = some vsim) (hmember : ∀ p ∈ member, 1 ≤ p)
    (huntagged : ∀ p ∈ untagged, p ∈ vsim.untagged ∨ 1 ≤ p) :
    ∃ es, loadView (view.state.withLists v vsim member untagged writes) =
        (view.state.withLists v vsim member untagged writes, some es) ∧
      (⟨view.state.withLists v vsim member untagged writes, es⟩ : StateMibView).Ready := by
  refine h.withVlans writes fun u sim hsim => ?_
  rw [PyDict.get?_set] at hsim
  split_ifs at hsim with hu
  · subst hu
    cases hsim
    obtain ⟨hv, hname⟩ := h.vlan hvsim
    refine .inr ⟨hv, hname, ?_⟩
    obtain ⟨rows, hrows, -⟩ := h.vlanRow hvsim
    obtain ⟨-, huntaggedFits, hconfiguredFits⟩ :=
      VirtualSwitchState.isSome_vlanRow_iff.mp (Option.isSome_of_eq_some hrows)
    rw [VirtualSwitchState.isSome_encodePortBitmap_iff] at huntaggedFits
    have hpos : ∀ {p : ℤ}, 1 ≤ p → -(8 * view.state.vlanWidth : ℤ) < p := by
      intro p hp
      have := view.state.vlanWidth_pos
      omega
    rw [VirtualSwitchState.isSome_vlanRow_iff, VirtualSwitchState.isSome_encodePortBitmap_iff,
      VirtualSwitchState.isSome_encodePortBitmap_iff]
    refine ⟨fun p hp => hpos (hmember p hp), fun p hp => ?_, fun hstatic => ?_⟩
    · rcases huntagged p hp with hp | hp
      · exact huntaggedFits p hp
      · exact hpos hp
    · have hfits := hconfiguredFits hstatic
      rw [VirtualSwitchState.isSome_encodePortBitmap_iff] at hfits ⊢
      intro p hp
      rcases Finset.mem_union.mp hp with hp | hp
      · exact hpos (hmember p hp)
      · exact hfits p (Finset.mem_union_right _ hp)
  · exact .inl hsim

end StateMibView

/-! ## §2 The SETs -/

/-- The column of the dispatch a list is written through. -/
def listColumn (v : ℤ) : PortListColumn → Column
  | .egress => .staticEgress v
  | .untagged => .staticUntagged v

/-- The dispatch finds the column of an instance. -/
theorem column_instanceOid (m : SwitchModel) {base : Oid} {c : ℤ → Column} (hc : (base, c) ∈ tailColumns)
    {n : ℤ} (hn : 0 ≤ n) : column m (instanceOid base n) = some (c n) := by
  obtain ⟨k, rfl⟩ := Int.eq_ofNat_of_zero_le hn
  exact @column_of_tail m _ (base, c) hc _ (tail_append base k)

theorem column_portList (m : SwitchModel) {v : ℤ} (hv : 0 ≤ v) (c : PortListColumn) :
    column m (instanceOid c.oid v) = some (listColumn v c) := by
  cases c with
  | egress => exact @column_instanceOid m dot1qVlanStaticEgress _ (by simp [tailColumns]) _ hv
  | untagged => exact @column_instanceOid m dot1qVlanStaticUntagged _ (by simp [tailColumns]) _ hv

namespace VirtualSwitchState

variable {s : VirtualSwitchState} {v : ℤ} {vsim : VlanSim}

theorem withLists_withLists (member untagged writes member' untagged' writes' : Finset ℤ) :
    (s.withLists v vsim member untagged writes).withLists v
        { vsim with member := member, untagged := untagged } member' untagged' writes' =
      s.withLists v vsim member' untagged' writes' := by
  unfold withLists withVlans
  dsimp only
  rw [PyDict.set_set]

theorem isWritableOid_portList (hv : 0 ≤ v) (c : PortListColumn) :
    s.isWritableOid (instanceOid c.oid v) = true := by
  rw [isWritableOid, column_portList s.model hv c]
  cases c <;> rfl

/-- A SET of the egress list; an S3300 makes every port it adds untagged. -/
theorem applyWrite_egress (hmodel : s.switchportModel = false) (hv : 0 ≤ v)
    (hvsim : s.vlans.get? v = some vsim) (octets : Bytes) :
    ∃ untagged writes, s.applyWrite (instanceOid dot1qVlanStaticEgress v) (.bytes octets) =
        .ok (s.withLists v vsim (Bitmap.numbers octets) untagged writes) ∧
      (s.model.snmpVlanSplitMembershipWrites = false →
        untagged = vsim.untagged ∧ writes = s.pduEgressWrites) ∧
      ∀ p ∈ untagged, p ∈ vsim.untagged ∨ 1 ≤ p := by
  have hwrite : s.applyWrite (instanceOid dot1qVlanStaticEgress v) (.bytes octets) =
      s.applyStaticEgress v (.bytes octets) := by
    have hcolumn := column_portList s.model hv .egress
    rw [applyWrite, show instanceOid dot1qVlanStaticEgress v =
      instanceOid PortListColumn.egress.oid v from rfl, hcolumn]
    rfl
  have hreject : s.rejectIfReadonlyQbridge = .ok s := by
    rw [rejectIfReadonlyQbridge, if_neg (by simp [hmodel])]
  rw [hwrite, applyStaticEgress, hvsim]
  dsimp only
  rw [hreject]
  cases hsplit : s.model.snmpVlanSplitMembershipWrites with
  | true =>
    refine ⟨vsim.untagged ∪ (Bitmap.numbers octets \ vsim.member), insert v s.pduEgressWrites, ?_,
      ⟨fun h => absurd h (by decide), fun p hp => ?_⟩⟩
    · show (if s.switchportModel = true then _ else if _ then _ else _ : Except ApplyError _) = _
      rw [if_neg (by simp [hmodel]), if_pos hsplit]
      rfl
    · rcases Finset.mem_union.mp hp with hp | hp
      · exact .inl hp
      · exact .inr (Bitmap.le_of_mem_numbers (Finset.mem_sdiff.mp hp).1).1
  | false =>
    refine ⟨vsim.untagged, s.pduEgressWrites, ?_, ⟨fun _ => ⟨rfl, rfl⟩, fun p hp => .inl hp⟩⟩
    show (if s.switchportModel = true then _ else if _ then _ else _ : Except ApplyError _) = _
    rw [if_neg (by simp [hmodel]), if_neg (by simp [hsplit])]
    rfl

/-- A SET of the untagged list, in a PDU that did not write the egress list of the VLAN. -/
theorem applyWrite_untagged (hmodel : s.switchportModel = false) (hv : 0 ≤ v)
    (hvsim : s.vlans.get? v = some vsim) (hpdu : v ∉ s.pduEgressWrites) (octets : Bytes) :
    s.applyWrite (instanceOid dot1qVlanStaticUntagged v) (.bytes octets) =
      .ok (s.withLists v vsim vsim.member (Bitmap.numbers octets) s.pduEgressWrites) := by
  have hcolumn := column_portList s.model hv .untagged
  rw [applyWrite, show instanceOid dot1qVlanStaticUntagged v =
    instanceOid PortListColumn.untagged.oid v from rfl, hcolumn]
  show s.applyStaticUntagged v (.bytes octets) = _
  rw [applyStaticUntagged, hvsim]
  dsimp only
  rw [if_neg (by simp [hmodel, hpdu])]
  rfl

end VirtualSwitchState

theorem VirtualSwitchState.applyVarbinds_cons {s s' : VirtualSwitchState} {oid : Oid} {value : SetValue}
    (hwritable : s.isWritableOid oid = true) (h : s.applyWrite oid value = .ok s') (idx : ℕ)
    (rest : List VarBind) :
    applyVarbinds idx ((oid, value) :: rest) s = applyVarbinds (idx + 1) rest s' := by
  rw [applyVarbinds, if_pos hwritable, h]

namespace StateMibView

variable {view : StateMibView} {v : ℤ} {vsim : VlanSim}

/-- A SET whose varbinds all apply, and whose state projects, is done. -/
theorem ends_setMany (t : Transport) {varbinds : List SetVarbind} {s : VirtualSwitchState}
    {es : List MibEntry}
    {varBinds : List VarBind}
    (hwire : (varbinds.mapM fun vb => (wire t vb.value).map fun value => (vb.oid, value)) =
      .ok varBinds)
    (happly : view.state.snapshot.applyVarbinds 0 varBinds = .ok s)
    (hload : loadView s = (s, some es)) :
    Ends ((agent t).machine t) (setMany varbinds) view (.ok ()) ⟨s, es⟩ := by
  have hanswer : view.answerSet t varbinds = (⟨s, es⟩, .ok ()) := by
    unfold answerSet writeVariables
    rw [hwire]
    dsimp only
    rw [happly]
    dsimp only
    rw [hload]
  have hcall : (agent t).machine t view (.set varbinds) = (⟨s, es⟩, .ok []) := by
    show ((view.answerSet t varbinds).1, (view.answerSet t varbinds).2.map fun _ => []) = _
    rw [hanswer]
    rfl
  exact (ends_request hcall).bind (ends_done _)

/-- **The two lists of a VLAN are taken over**, whether they come in one PDU or in two. -/
theorem ends_sendPortLists (w : SnmpWriter) (t : Transport) (hkey : w.modelKey = view.state.modelKey)
    (h : view.Ready) (hvsim : view.state.vlans.get? v = some vsim) (lists : Bytes × Bytes) :
    ∃ view', view'.state = view.state.withLists v vsim (Bitmap.numbers lists.1)
        (Bitmap.numbers lists.2) ∅ ∧ view'.Ready ∧
      Ends ((agent t).machine t) (w.sendPortLists v lists) view (.ok ()) view' := by
  have hpos : ∀ (raw : Bytes), ∀ p ∈ Bitmap.numbers raw, 1 ≤ p :=
    fun raw p hp => (Bitmap.le_of_mem_numbers hp).1
  have hv := (h.vlan hvsim).1
  obtain ⟨untagged, writes, hegress, hplain, huntagged⟩ :=
    @VirtualSwitchState.applyWrite_egress view.state.snapshot v vsim h.plain hv hvsim lists.1
  have hwritable : ∀ (s : VirtualSwitchState) (c : PortListColumn),
      s.isWritableOid (instanceOid c.oid v) = true :=
    fun s c => VirtualSwitchState.isWritableOid_portList hv c
  have hsplitModel : w.model.snmpVlanSplitMembershipWrites =
      view.state.snapshot.model.snmpVlanSplitMembershipWrites := by
    show (getModel w.modelKey).snmpVlanSplitMembershipWrites = _
    rw [hkey]
    rfl
  obtain ⟨es, hload, hready⟩ := @Ready.withLists view v vsim h (Bitmap.numbers lists.1)
    (Bitmap.numbers lists.2) ∅ hvsim (hpos _) fun p hp => .inr (hpos _ p hp)
  refine ⟨⟨_, es⟩, rfl, hready, ?_⟩
  unfold SnmpWriter.sendPortLists
  rw [hsplitModel]
  cases hsplit : view.state.snapshot.model.snmpVlanSplitMembershipWrites with
  | true =>
    -- the egress list in a PDU of its own leaves a view between the two
    obtain ⟨es₁, hload₁, -⟩ := @Ready.withLists view v vsim h (Bitmap.numbers lists.1) untagged writes
      hvsim (hpos _) huntagged
    have hfirst : Ends ((agent t).machine t) (setMany [SnmpWriter.egressVarbind v lists.1]) view (.ok ())
        ⟨view.state.withLists v vsim (Bitmap.numbers lists.1) untagged writes, es₁⟩ := by
      refine ends_setMany t rfl ?_ hload₁
      exact VirtualSwitchState.applyVarbinds_cons (hwritable _ .egress) hegress 0 []
    have hsecond : Ends ((agent t).machine t) (setMany [SnmpWriter.untaggedVarbind v lists.2])
        ⟨view.state.withLists v vsim (Bitmap.numbers lists.1) untagged writes, es₁⟩ (.ok ())
        ⟨view.state.withLists v vsim (Bitmap.numbers lists.1) (Bitmap.numbers lists.2) ∅, es⟩ := by
      refine ends_setMany t rfl ?_ hload
      have hwrite := @VirtualSwitchState.applyWrite_untagged
        (view.state.withLists v vsim (Bitmap.numbers lists.1) untagged ∅) v
        { vsim with member := Bitmap.numbers lists.1, untagged := untagged } h.plain hv
        (PyDict.get?_set_self _ _ _) (Finset.notMem_empty v) lists.2
      rw [VirtualSwitchState.withLists_withLists] at hwrite
      exact VirtualSwitchState.applyVarbinds_cons (hwritable _ .untagged) hwrite 0 []
    rw [if_pos rfl]
    exact hfirst.bind hsecond
  | false =>
    rw [if_neg (by decide)]
    refine ends_setMany t rfl ?_ hload
    obtain ⟨rfl, rfl⟩ := hplain hsplit
    have hwrite := @VirtualSwitchState.applyWrite_untagged
      (view.state.withLists v vsim (Bitmap.numbers lists.1) vsim.untagged ∅) v
      { vsim with member := Bitmap.numbers lists.1, untagged := vsim.untagged } h.plain hv
      (PyDict.get?_set_self _ _ _) (Finset.notMem_empty v) lists.2
    rw [VirtualSwitchState.withLists_withLists] at hwrite
    have hfirst := VirtualSwitchState.applyVarbinds_cons (hwritable _ .egress) hegress 0
      [(instanceOid dot1qVlanStaticUntagged v, .bytes lists.2)]
    exact hfirst.trans (VirtualSwitchState.applyVarbinds_cons (hwritable _ .untagged) hwrite 1 [])

end StateMibView

/-! ## §3 The whole run -/

/-- The ports of a VLAN that a list column holds. -/
def VlanSim.held (vsim : VlanSim) : PortListColumn → Finset ℤ
  | .egress => if vsim.staticRow then vsim.configured else vsim.member
  | .untagged => vsim.untagged

namespace VirtualSwitchState

/-- The ports a client hears in a list column. -/
def heardIn (t : Transport) (s : VirtualSwitchState) (vsim : VlanSim) (c : PortListColumn) :
    Finset ℤ :=
  heardPorts t s.vlanWidth (vsim.held c)

/-- The switch's own octets of a list reach the writer as octets. -/
def KeptOctets (s : VirtualSwitchState) (vsim : VlanSim) (c : PortListColumn) : Prop :=
  vsim.staticRow = true ∧ Binary ((encodePortBitmap (vsim.held c) s.vlanWidth).getD [])

instance (s : VirtualSwitchState) (vsim : VlanSim) (c : PortListColumn) :
    Decidable (s.KeptOctets vsim c) := inferInstanceAs (Decidable (_ ∧ _))

/-- The ports the writer starts from; of a list that came as text only the Ethernet ports. -/
def startsFrom (t : Transport) (s : VirtualSwitchState) (vsim : VlanSim) (c : PortListColumn) :
    Finset ℤ :=
  if s.KeptOctets vsim c then s.heardIn t vsim c else s.heardIn t vsim c ∩ s.ethernetPorts

/-- The ports the writer sends. -/
def editedPorts (t : Transport) (s : VirtualSwitchState) (vsim : VlanSim) (port : ℤ)
    (mode : VlanMode) (c : PortListColumn) : Finset ℤ :=
  if c.present mode then insert port (s.startsFrom t vsim c)
  else (s.startsFrom t vsim c).erase port

/-- The VLAN after a write, its lists as they were edited. -/
def editedSim (t : Transport) (s : VirtualSwitchState) (vsim : VlanSim) (port : ℤ)
    (mode : VlanMode) : VlanSim :=
  { vsim with
    member := s.editedPorts t vsim port mode .egress
    untagged := s.editedPorts t vsim port mode .untagged }

/-- A VLAN whose lists are heard as they were sent, on the Ethernet ports. -/
def HeardAs (t : Transport) (s : VirtualSwitchState) (vsim : VlanSim)
    (sent : PortListColumn → Finset ℤ) : Prop :=
  s.heardIn t vsim .egress ∩ s.ethernetPorts = sent .egress ∩ s.ethernetPorts ∧
    s.heardIn t vsim .untagged ∩ s.ethernetPorts = sent .untagged ∩ s.ethernetPorts

instance (t : Transport) (s : VirtualSwitchState) (vsim : VlanSim)
    (sent : PortListColumn → Finset ℤ) : Decidable (s.HeardAs t vsim sent) :=
  inferInstanceAs (Decidable (_ ∧ _))

theorem find?_heardVlans (t : Transport) (s : VirtualSwitchState) (v : ℤ) :
    (s.heardVlans t).find? (·.vlanId = v) =
      (s.vlans.get? v).map (VlanSim.heard t s.vlanWidth s.ethernetPorts v) := by
  have hfind := PyDict.find?_filterMap_get? (fun info : VLANInfo => info.vlanId)
    (VlanSim.heard t s.vlanWidth s.ethernetPorts) (fun _ _ => rfl) s.vlans
    (PySet.sorted s.vlanIds) v
  refine hfind.trans ?_
  by_cases hv : v ∈ s.vlans
  · rw [if_pos (PySet.mem_sorted.mpr (mem_vlanIds.mpr hv))]
  · rw [if_neg fun h => hv (mem_vlanIds.mp (PySet.mem_sorted.mp h)), PyDict.not_mem_iff.mp hv]
    rfl

end VirtualSwitchState

namespace StateMibView

variable {view : StateMibView} {v : ℤ} {vsim : VlanSim}

/-- The table column a list is read from. -/
def tableColumn : PortListColumn → VirtualSwitchState.VlanColumn
  | .egress => .egress
  | .untagged => .untagged

theorem value_tableColumn (width : ℕ) (vsim : VlanSim) (c : PortListColumn) :
    (tableColumn c).value width vsim =
      if vsim.staticRow then (encodePortBitmap (vsim.held c) width).map bytesValue else none := by
  cases c with
  | egress =>
    rw [tableColumn, VirtualSwitchState.VlanColumn.value, VlanSim.held]
    cases vsim.staticRow <;> rfl
  | untagged => rfl

/-- The octets the agent holds of a list. -/
theorem octets_mib (h : view.Ready)
    (hvsim : view.state.vlans.get? v = some vsim) (c : PortListColumn) :
    view.mib.octets c.oid v = if vsim.staticRow then
      encodePortBitmap (vsim.held c) view.state.vlanWidth else none := by
  have hv := (h.vlan hvsim).1
  have hemits := emits_vlan h.current h.served (tableColumn c)
  have hoid : (tableColumn c).oid = c.oid := by cases c <;> rfl
  have hindex : ∀ k, (tableColumn c).index k = [k] := by cases c <;> exact fun _ => rfl
  have hcell : (view.state.vlans.filterMap fun _ vsim =>
      (tableColumn c).value view.state.vlanWidth vsim).get? v =
        if vsim.staticRow then
          (encodePortBitmap (vsim.held c) view.state.vlanWidth).map bytesValue else none := by
    rw [PyDict.get?_filterMap, hvsim, Option.bind_some, value_tableColumn]
  -- a varbind of the instance is the one of the cell
  have hbelow : ∀ vb ∈ view.mib.varbinds, vb.oid = instanceOid c.oid v →
      ∃ value, (view.state.vlans.filterMap fun _ vsim =>
        (tableColumn c).value view.state.vlanWidth vsim).get? v = some value ∧
          value.toSmi? = some vb.value := by
    intro vb hvb hvboid
    have hmem : vb ∈ view.mib.below (tableColumn c).oid := by
      rw [hoid]
      exact Mib.mem_below.mpr ⟨hvb, [v.toNat], List.cons_ne_nil _ _, hvboid⟩
    obtain ⟨k, value, hget, hsent⟩ := (hemits.mem_below vb).mp hmem
    obtain ⟨rest, hrestOid, hrest, hvalue⟩ := exists_rest_of_varbind? hsent
    rw [hoid, hvboid, instanceOid] at hrestOid
    obtain rfl := List.append_cancel_left hrestOid
    rw [hindex] at hrest
    obtain rfl : k = v := by
      have hk : k = (v.toNat : ℤ) := (List.cons.inj hrest).1
      rw [hk, Int.toNat_of_nonneg hv]
    exact ⟨value, hget, hvalue⟩
  rw [Mib.octets, if_neg (not_lt.mpr hv)]
  cases hoctets : (if vsim.staticRow = true then
      encodePortBitmap (vsim.held c) view.state.vlanWidth else none) with
  | none =>
    rw [List.findSome?_eq_none_iff]
    intro vb hvb
    refine if_neg fun hvboid => ?_
    obtain ⟨value, hget, -⟩ := hbelow vb hvb hvboid
    rw [hcell] at hget
    split_ifs at hget hoctets with hstatic
    rw [hoctets] at hget
    cases hget
  | some raw =>
    have hget : (view.state.vlans.filterMap fun _ vsim =>
        (tableColumn c).value view.state.vlanWidth vsim).get? v = some (bytesValue raw) := by
      rw [hcell]
      split_ifs at hoctets ⊢ with hstatic
      rw [hoctets]
      rfl
    obtain ⟨vb, hvb⟩ := Option.isSome_iff_exists.mp (hemits.sent v _ hget)
    have hmem := (hemits.mem_below vb).mpr ⟨v, _, hget, hvb⟩
    obtain ⟨rest, hvboid, hrest, hvalue⟩ := exists_rest_of_varbind? hvb
    rw [hindex] at hrest
    have hinstance : vb.oid = instanceOid c.oid v := by
      have hrest' : rest = [v.toNat] := by
        refine intArcs_injective ?_
        rw [← hrest, intArcs, List.map_singleton, Int.toNat_of_nonneg hv]
      rw [hvboid, hoid, hrest']
      rfl
    have hvarbinds := (Mib.mem_below.mp hmem).1
    rw [Mib.findSome?_of_unique hvarbinds, if_pos hinstance]
    · rw [toSmi?_bytesValue] at hvalue
      rw [← Option.some.inj hvalue]
      rfl
    · intro vb' hvb' hne
      refine if_neg fun hvboid' => hne ?_
      exact List.inj_on_of_nodup_map view.mib.nodup hvb' hvarbinds (hvboid'.trans hinstance.symm)

theorem exists_heldOctets (hcurrent : view.Current) (hvsim : view.state.vlans.get? v = some vsim)
    (hstatic : vsim.staticRow = true) (c : PortListColumn) :
    ∃ raw, encodePortBitmap (vsim.held c) view.state.vlanWidth = some raw := by
  obtain ⟨member, untagged, -, huntagged, hconfigured⟩ := exists_portLists hcurrent hvsim
  cases c with
  | egress =>
    rw [VlanSim.held, if_pos hstatic]
    exact hconfigured hstatic
  | untagged => exact ⟨untagged, huntagged⟩

section Run

variable {w : SnmpWriter} {t : Transport} {port : ℤ} {mode : VlanMode} {force : Bool}

/-- The VLAN as the writer meets it. -/
theorem proceeds_mib (h : view.Ready) (hports : view.state.ports.items ≠ [])
    (hguard : ¬ (port ∈ w.protectedPorts ∧ ¬ force))
    (hvsim : view.state.vlans.get? v = some vsim) :
    w.Proceeds t ((agent t).mib view) v port force
      (vsim.heard t view.state.vlanWidth view.state.ethernetPorts v) := by
  refine ⟨hguard, _, vlans_mib h.current h.served t hports, ?_⟩
  rw [VirtualSwitchState.find?_heardVlans, hvsim]
  rfl

/-- The lists the writer sends. -/
theorem exists_lists (h : view.Ready) (hports : view.state.ports.items ≠ [])
    (hguard : ¬ (port ∈ w.protectedPorts ∧ ¬ force))
    (hport : 1 ≤ port) (hvsim : view.state.vlans.get? v = some vsim) :
    ∃ lists, w.listsFor ((agent t).mib view) v port mode
        (vsim.heard t view.state.vlanWidth view.state.ethernetPorts v) = some lists ∧
      ∀ c : PortListColumn,
        Bitmap.numbers (c.pick lists) = view.state.editedPorts t vsim port mode c := by
  have hproceeds := @proceeds_mib view v vsim w t port force h hports hguard hvsim
  obtain ⟨lists, hlists⟩ := SnmpWriter.exists_listsFor mode hport hproceeds
  refine ⟨lists, hlists, fun c => ?_⟩
  have hstarts : SnmpWriter.startPorts ((agent t).mib view) v
      (vsim.heard t view.state.vlanWidth view.state.ethernetPorts v) c =
        view.state.startsFrom t vsim c := by
    have hdecoded : c.decoded (vsim.heard t view.state.vlanWidth view.state.ethernetPorts v) =
        view.state.heardIn t vsim c ∩ view.state.ethernetPorts := by cases c <;> rfl
    have hoctets : ((agent t).mib view).octets c.oid v = if vsim.staticRow then
        encodePortBitmap (vsim.held c) view.state.vlanWidth else none :=
      octets_mib h hvsim c
    rw [SnmpWriter.startPorts, hoctets, hdecoded, VirtualSwitchState.startsFrom]
    cases hstatic : vsim.staticRow with
    | false =>
      have hnot : ¬ view.state.KeptOctets vsim c := fun h => by
        rw [VirtualSwitchState.KeptOctets, hstatic] at h
        exact absurd h.1 (by decide)
      rw [if_neg hnot]
      rfl
    | true =>
      obtain ⟨raw, hraw⟩ := exists_heldOctets h.current hvsim hstatic c
      rw [if_pos rfl, hraw]
      by_cases hbinary : Binary raw
      · have hkept : view.state.KeptOctets vsim c := by
          refine ⟨hstatic, ?_⟩
          rw [hraw]
          exact hbinary
        rw [if_pos hkept, Option.filter_some, if_pos (decide_eq_true hbinary),
          VirtualSwitchState.heardIn, heardPorts, hraw]
        show Bitmap.numbers raw = Bitmap.numbers (delivered t raw)
        rw [delivered_of_binary t hbinary]
      · have hnot : ¬ view.state.KeptOctets vsim c := fun h => by
          rw [VirtualSwitchState.KeptOctets, hraw] at h
          exact hbinary h.2
        rw [if_neg hnot, Option.filter_some, if_neg (by simpa using hbinary)]
        rfl
  obtain ⟨octets, hstart, hnew⟩ := SnmpWriter.listsFor_eq_some.mp hlists c
  obtain ⟨octets', hstart', hnumbers⟩ := SnmpWriter.exists_start c hproceeds
  obtain rfl : octets = octets' := Option.some.inj (hstart.symm.trans hstart')
  rw [VirtualSwitchState.editedPorts, ← hstarts, ← hnumbers]
  cases hpresent : c.present mode with
  | true =>
    rw [hpresent] at hnew
    rcases setPortBit_present octets port (vlanBitmapWidth w.model) with ⟨-, hnone⟩ | ⟨new, hsome, -, hports⟩
    · rw [hnone] at hnew
      cases hnew
    · rw [hsome] at hnew
      rw [← Option.some.inj hnew, hports, landing, if_pos hport]
      rfl
  | false =>
    rw [hpresent] at hnew
    obtain ⟨new, hsome, hports⟩ := setPortBit_absent octets port (vlanBitmapWidth w.model)
    rw [hsome] at hnew
    rw [← Option.some.inj hnew, hports]
    rfl

/-- `_vlan` on a view that is ready. -/
theorem ends_vlan (h : view.Ready) (hports : view.state.ports.items ≠ []) (v : ℤ) :
    Ends ((agent t).machine t) (SnmpWriter.vlan v) view
      (.ok ((view.state.vlans.get? v).map
        (VlanSim.heard t view.state.vlanWidth view.state.ethernetPorts v))) view := by
  have hread := ends_getVlans (agent t) t view
  have hvlans : ((agent t).mib view).vlans t = .ok (view.state.heardVlans t) :=
    vlans_mib h.current h.served t hports
  rw [hvlans] at hread
  rw [← VirtualSwitchState.find?_heardVlans]
  exact hread.bind (ends_done _)

/-- What the read-back makes of the lists. -/
theorem ends_verifyPortLists (h : view.Ready) (hports : view.state.ports.items ≠ [])
    (hvsim : view.state.vlans.get? v = some vsim)
    {lists : Bytes × Bytes} {sent : PortListColumn → Finset ℤ}
    (hsent : ∀ c : PortListColumn, Bitmap.numbers (c.pick lists) = sent c) :
    Ends ((agent t).machine t) (SnmpWriter.verifyPortLists v lists) view
      (if view.state.HeardAs t vsim sent then .ok () else .error .writeVerification) view := by
  have hvlan : Ends ((agent t).machine t) (SnmpWriter.vlan v) view
      (.ok (some (vsim.heard t view.state.vlanWidth view.state.ethernetPorts v))) view := by
    have hread := @ends_vlan view t h hports v
    rwa [hvsim] at hread
  have hphysical : Ends ((agent t).machine t) SnmpWriter.physical view
      (.ok (some view.state.ethernetPorts)) view := by
    rw [← physicalPorts_rows h.current h.served t hports]
    exact (ends_walk (agent t) t view Snmp.ifType).bind (ends_done _)
  refine hvlan.bind (hphysical.bind ((ends_done _).bind ?_))
  have hwanted : ∀ c : PortListColumn, SnmpWriter.wantedPorts (some view.state.ethernetPorts)
      (c.pick lists) = sent c ∩ view.state.ethernetPorts := by
    intro c
    rw [← hsent c]
    rfl
  have hegress := hwanted .egress
  have huntagged := hwanted .untagged
  by_cases hheard : view.state.HeardAs t vsim sent
  · rw [if_pos hheard]
    exact (ends_ensure (hheard.1.trans hegress.symm) _).bind
      (ends_ensure (hheard.2.trans huntagged.symm) _)
  · rw [if_neg hheard]
    by_cases hfirst : view.state.heardIn t vsim .egress ∩ view.state.ethernetPorts =
        sent .egress ∩ view.state.ethernetPorts
    · have hsecond : ¬ view.state.heardIn t vsim .untagged ∩ view.state.ethernetPorts =
          SnmpWriter.wantedPorts (some view.state.ethernetPorts) lists.2 := fun h =>
        hheard ⟨hfirst, h.trans huntagged⟩
      exact (ends_ensure (hfirst.trans hegress.symm) _).bind (ends_ensure_of_not hsecond _)
    · have hnot : ¬ view.state.heardIn t vsim .egress ∩ view.state.ethernetPorts =
          SnmpWriter.wantedPorts (some view.state.ethernetPorts) lists.1 := fun h =>
        hfirst (h.trans hegress)
      exact (ends_ensure_of_not hnot _).bind_error

/-- A membership write over SNMP, end to end. -/
theorem ends_setVlanMembership (h : view.Ready) (hkey : w.modelKey = view.state.modelKey)
    (hports : view.state.ports.items ≠ []) (hguard : ¬ (port ∈ w.protectedPorts ∧ ¬ force))
    (hport : 1 ≤ port) (hvsim : view.state.vlans.get? v = some vsim) :
    ∃ view', view'.state = view.state.withVlans
        (view.state.vlans.set v (view.state.editedSim t vsim port mode)) ∅ ∧ view'.Ready ∧
      Ends ((agent t).machine t) (w.setVlanMembership v port mode force) view
        (if view'.state.HeardAs t (view.state.editedSim t vsim port mode)
          (view.state.editedPorts t vsim port mode) then .ok () else .error .writeVerification)
        view' := by
  obtain ⟨lists, hlists, hnumbers⟩ :=
    @exists_lists view v vsim w t port mode force h hports hguard hport hvsim
  have hmodel : w.model.snmpVlanWrite ≠ .fastpathSwitchport := by
    rw [SnmpWriter.model, hkey]
    exact of_decide_eq_false h.plain
  have hproceeds := @proceeds_mib view v vsim w t port force h hports hguard hvsim
  obtain ⟨view', hstate, hready', hsend⟩ := ends_sendPortLists w t hkey h hvsim lists
  have hegress : Bitmap.numbers lists.1 = view.state.editedPorts t vsim port mode .egress :=
    hnumbers .egress
  have huntagged : Bitmap.numbers lists.2 = view.state.editedPorts t vsim port mode .untagged :=
    hnumbers .untagged
  rw [hegress, huntagged] at hstate
  refine ⟨view', hstate, hready', ?_⟩
  have hvsim' : view'.state.vlans.get? v = some (view.state.editedSim t vsim port mode) := by
    rw [hstate]
    exact PyDict.get?_set_self _ _ _
  have hports' : view'.state.ports.items ≠ [] := by
    rw [hstate]
    exact hports
  have hverify := @ends_verifyPortLists view' v _ t hready' hports' hvsim' lists _ hnumbers
  obtain ⟨vlans, -, hrun⟩ := setVlanMembership_proceeds mode hproceeds
  refine hrun ?_
  rw [if_neg hmodel]
  refine (setVlanQbridge_reads mode hproceeds).2 ?_
  rw [hlists]
  exact (ends_done _).bind (hsend.bind hverify)

end Run

end StateMibView

/-- **A membership write over SNMP, end to end.**  On a switch of the writer's model that keeps its
memberships in Q-BRIDGE lists, a write that is not guarded, of a VLAN that is there, leaves the switch
with exactly the edited lists and everything else as it was, its view fresh; and it succeeds exactly
where the lists are heard again as they were sent. -/
theorem setVlanMembership_lands (w : SnmpWriter) (t : Transport) {view : StateMibView} {v port : ℤ}
    {vsim : VlanSim} {mode : VlanMode} {force : Bool} (h : view.Ready)
    (hkey : w.modelKey = view.state.modelKey) (hports : view.state.ports.items ≠ [])
    (hguard : ¬ (port ∈ w.protectedPorts ∧ ¬ force)) (hport : 1 ≤ port)
    (hvsim : view.state.vlans.get? v = some vsim) :
    let o := (w.setVlanMembership v port mode force).run ((StateMibView.agent t).machine t) view
    o.device.state = { view.state with
        vlans := view.state.vlans.set v (view.state.editedSim t vsim port mode)
        pduEgressWrites := ∅ } ∧
      o.device.Ready ∧
      (o.result = .ok () ↔ o.device.state.HeardAs t (view.state.editedSim t vsim port mode)
        (view.state.editedPorts t vsim port mode)) ∧
      (o.result = .ok () ∨ o.result = .error .writeVerification) := by
  obtain ⟨view', hstate, hready', hresult, hdevice⟩ :=
    @StateMibView.ends_setVlanMembership view v vsim w t port mode force h hkey hports hguard hport
      hvsim
  intro o
  have hdevice : o.device = view' := hdevice
  rw [hdevice]
  refine ⟨hstate, hready', ?_⟩
  by_cases hheard : view'.state.HeardAs t (view.state.editedSim t vsim port mode)
      (view.state.editedPorts t vsim port mode)
  · have hok : o.result = .ok () := hresult.trans (if_pos hheard)
    exact ⟨iff_of_true hok hheard, .inl hok⟩
  · have herror : o.result = .error .writeVerification := hresult.trans (if_neg hheard)
    refine ⟨iff_of_false (fun hok => ?_) hheard, .inr herror⟩
    rw [herror] at hok
    cases hok

theorem setVlanMembership_lands_twoPorts :
    ((twoPortsWriter.setVlanMembership 7 1 .tagged false).run
        ((StateMibView.agent .pysnmp).machine .pysnmp) twoPortsView).result = .ok () ∧
      ((twoPortsWriter.setVlanMembership 7 1 .tagged false).run
        ((StateMibView.agent .pysnmp).machine .pysnmp) twoPortsView).device.state = { twoPorts with
          vlans := twoPorts.vlans.set 7 { name := "lab".toList, member := {1, 2} } } := by
  obtain ⟨hstate, -, ⟨-, hresult⟩, -⟩ := @setVlanMembership_lands twoPortsWriter .pysnmp twoPortsView 7 1
    { name := "lab".toList, member := {2} } .tagged false ready_twoPortsView rfl (by decide) (by decide)
    (by decide) (by decide)
  refine ⟨hresult ?_, hstate.trans (by decide +kernel)⟩
  rw [hstate]
  decide +kernel

-- what net-snmp makes of a list all of whose octets are printable, one of them a quote
example : heardPorts .netsnmp 8 {3, 7, 11, 19, 27, 35, 43, 51, 59} ≠
    {3, 7, 11, 19, 27, 35, 43, 51, 59} := by decide +kernel

end NetgearSwitch.Virtual
