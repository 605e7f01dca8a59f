import NetgearSwitch.Snmp.ConfigWrites
import NetgearSwitch.Virtual.SnmpAgent

/-!
# Reading the virtual switch over SNMP

What `get_ports`, `get_pvids` and `get_vlans` answer when they are run against the SNMP face,
through either client.  Numbers arrive as they are; a text arrives as `heardText` has it.

§1 the columns · §2 what a client hears and what is there
-/

namespace NetgearSwitch.Virtual

open Snmp PyText Script

/-- The entry a client makes of a port. -/
def PortSim.heard (t : Transport) (port : ℤ) (sim : PortSim) : PortStatus :=
  { sim.status port with
    name := textOrNone (some (heardName t sim.name))
    description := textOrNone (sim.description.map (heardName t)) }

/-- What `get_ports` answers. -/
def VirtualSwitchState.heardStatuses (t : Transport) (s : VirtualSwitchState) : List PortStatus :=
  (PySet.sorted s.ethernetPorts).filterMap fun p => (s.ports.get? p).map (PortSim.heard t p)

/-! ## §1 The columns -/

theorem sortedItems_congr {d e : PyDict ℤ ℤ} (h : ∀ k, d.get? k = e.get? k) :
    d.sortedItems = e.sortedItems := by
  have hkeys : d.keys.toFinset = e.keys.toFinset := by
    ext k
    rw [List.mem_toFinset, List.mem_toFinset, ← PyDict.mem_def, ← PyDict.mem_def,
      PyDict.mem_iff_isSome, PyDict.mem_iff_isSome, h k]
  unfold PyDict.sortedItems
  rw [hkeys]
  exact List.filterMap_congr fun k _ => by rw [h k]

namespace StateMibView

section Readers

variable {view : StateMibView} (hcurrent : view.Current) (hserved : view.Served) (t : Transport)

include hcurrent hserved

theorem emits_pvid : view.Emits dot1qPvid (fun p => [p]) view.state.pvids
    fun _ v => (some v).map (intValue .gauge32) := by
  obtain ⟨switchport, vlans, es, hmade⟩ := exists_made hcurrent
  exact hmade.emits hserved (by decide) (by decide) (by decide) (by decide)
    (view.state.columnOf_allRows_pvid hmade.under hmade.emitted) (fun _ => List.cons_ne_nil _ _)
    List.singleton_injective

theorem parsePvids_rows (hports : view.state.ports.items ≠ []) :
    Snmp.parsePvids (view.mib.rows t dot1qPvid) (view.mib.rows t ifType) =
      .ok view.state.ethernetPvids := by
  obtain ⟨pvids, hpvids, hget⟩ :=
    (emits_pvid hcurrent hserved).readInts t (.inr rfl) (by decide)
  have hsame : pvids.sortedItems = view.state.pvids.sortedItems := by
    refine sortedItems_congr fun p => ?_
    rw [hget p]
    cases view.state.pvids.get? p <;> rfl
  rw [Snmp.parsePvids, hpvids, physicalPorts_rows hcurrent hserved t hports]
  show Except.ok (pvids.sortedItems.filter _) = _
  rw [hsame]
  rfl

theorem parsePortStatus_rows (hports : view.state.ports.items ≠ []) :
    Snmp.parsePortStatus (view.mib.rows t ifAdminStatus) (view.mib.rows t ifOperStatus)
      (view.mib.rows t ifHighSpeed) (view.mib.rows t ifName) (view.mib.rows t ifAlias)
      (view.mib.rows t ifType) (view.mib.rows t dot3StatsDuplexStatus)
      (view.mib.rows t dot3PauseOperMode) = .ok (view.state.heardStatuses t) := by
  have hduplexValue : (fun (_ : ℤ) (sim : PortSim) =>
      VirtualSwitchState.PortColumn.duplex.value sim) = fun _ sim =>
        (if sim.servesEtherlike then some (if sim.link then 3 else 1) else none).map
          (intValue .integer) := by
    funext _ sim
    rw [VirtualSwitchState.PortColumn.value]
    cases sim.servesEtherlike <;> rfl
  have hpauseValue : (fun (_ : ℤ) (sim : PortSim) =>
      VirtualSwitchState.PortColumn.pause.value sim) = fun _ sim =>
        (if sim.servesEtherlike then some (if sim.flowControl then 4 else 1) else none).map
          (intValue .integer) := by
    funext _ sim
    rw [VirtualSwitchState.PortColumn.value]
    cases sim.servesEtherlike <;> rfl
  have hadmin : view.Emits ifAdminStatus (fun p => [p]) view.state.ports fun _ sim =>
      (some (truthValue sim.admin)).map (intValue .integer) := emits_port hcurrent hserved .admin
  have hoper : view.Emits ifOperStatus (fun p => [p]) view.state.ports fun _ sim =>
      (some (truthValue sim.link)).map (intValue .integer) := emits_port hcurrent hserved .oper
  have hspeed : view.Emits ifHighSpeed (fun p => [p]) view.state.ports fun _ sim =>
      (some sim.speed).map (intValue .gauge32) := emits_port hcurrent hserved .speed
  have hname : view.Emits ifName (fun p => [p]) view.state.ports fun _ sim =>
      (some sim.name).map textValue := emits_port hcurrent hserved .name
  have haliases : view.Emits ifAlias (fun p => [p]) view.state.ports fun _ sim =>
      sim.description.map textValue := emits_port hcurrent hserved .aliases
  have hduplex := emits_port hcurrent hserved .duplex
  rw [hduplexValue] at hduplex
  have hpause := emits_port hcurrent hserved .pause
  rw [hpauseValue] at hpause
  obtain ⟨admin, hadmin, hadmins⟩ := hadmin.readInts t (.inl rfl) (by decide)
  obtain ⟨oper, hoper, hopers⟩ := hoper.readInts t (.inl rfl) (by decide)
  obtain ⟨speed, hspeed, hspeeds⟩ := hspeed.readInts t (.inr rfl) (by decide)
  obtain ⟨name, hname, hnames⟩ := Emits.readTexts t hname (by decide)
  obtain ⟨aliases, haliases, haliasess⟩ := Emits.readTexts t haliases (by decide)
  obtain ⟨duplex, hduplex, hduplexs⟩ := hduplex.readInts t (.inl rfl) (by decide)
  obtain ⟨pause, hpause, hpauses⟩ := hpause.readInts t (.inl rfl) (by decide)
  have hduplex : indexIntColumn (view.mib.rows t dot3StatsDuplexStatus) dot3StatsDuplexStatus =
    .ok duplex := hduplex
  have hpause : indexIntColumn (view.mib.rows t dot3PauseOperMode) dot3PauseOperMode = .ok pause :=
    hpause
  rw [Snmp.parsePortStatus, hadmin, hoper, hspeed, hname, haliases, hduplex, hpause,
    physicalPorts_rows hcurrent hserved t hports]
  let columns : PortColumns := ⟨admin, oper, speed, name, aliases, duplex, pause⟩
  change Except.ok ((PySet.sorted ((admin.keys.toFinset ∪ oper.keys.toFinset) ∩
    view.state.ethernetPorts)).map columns.status) = _
  have hphysical : (admin.keys.toFinset ∪ oper.keys.toFinset) ∩ view.state.ethernetPorts =
      view.state.ethernetPorts := by
    refine Finset.inter_eq_right.mpr fun p hp => Finset.mem_union_left _ ?_
    obtain ⟨sim, hsim⟩ := VirtualSwitchState.get?_of_mem_ethernetPorts hp
    rw [List.mem_toFinset, ← PyDict.mem_def, PyDict.mem_iff, hadmins p, hsim]
    exact ⟨_, rfl⟩
  rw [hphysical, VirtualSwitchState.heardStatuses, ← List.filterMap_eq_map]
  refine congrArg Except.ok (List.filterMap_congr fun p hp => ?_)
  obtain ⟨sim, hsim⟩ := VirtualSwitchState.get?_of_mem_ethernetPorts (PySet.mem_sorted.mp hp)
  have hstatus : columns.status p = sim.heard t p := by
    unfold PortColumns.status PortSim.heard PortSim.status
    simp only [columns, hadmins p, hopers p, hspeeds p, hnames p, haliasess p, hduplexs p, hpauses p,
      hsim, Option.bind_some, Option.map_some]
    cases sim.link <;> cases sim.admin <;> cases sim.servesEtherlike <;> cases sim.flowControl <;>
      by_cases hzero : sim.speed = 0 <;> simp [truthValue, duplexStatus, Option.filter_some, hzero]
  rw [hsim]
  exact congrArg some hstatus

theorem ends_getPvids (hports : view.state.ports.items ≠ []) :
    Ends ((agent t).machine t) SnmpReader.getPvids view (.ok view.state.ethernetPvids) view := by
  rw [← parsePvids_rows hcurrent hserved t hports]
  exact (ends_walk (agent t) t view _).bind ((ends_walk (agent t) t view _).bind (ends_done _))

theorem ends_getPorts (hports : view.state.ports.items ≠ []) :
    Ends ((agent t).machine t) SnmpReader.getPorts view (.ok (view.state.heardStatuses t)) view := by
  rw [← parsePortStatus_rows hcurrent hserved t hports]
  unfold SnmpReader.getPorts
  apply (ends_walk (agent t) t view _).bind
  apply (ends_walk (agent t) t view _).bind
  apply (ends_walk (agent t) t view _).bind
  apply (ends_walk (agent t) t view _).bind
  apply (ends_walk (agent t) t view _).bind
  apply (ends_walk (agent t) t view _).bind
  apply (ends_walk (agent t) t view _).bind
  apply (ends_walk (agent t) t view _).bind
  exact ends_done _

theorem ends_readVlans (hports : view.state.ports.items ≠ []) :
    Ends ((agent t).machine t) SnmpReader.getVlans view (.ok (view.state.heardVlans t)) view := by
  rw [← vlans_mib hcurrent hserved t hports]
  exact ends_getVlans (agent t) t view

end Readers

end StateMibView

/-! ## §2 What a client hears and what is there -/

theorem latin1Decode_of_printable {octets : Bytes} (h : octets.all isPrintable = true) :
    PyCodec.latin1Decode octets = PyCodec.utf8DecodeReplace octets := by
  have hascii : ∀ c ∈ PyCodec.latin1Decode octets, c.toNat < 128 := by
    intro c hc
    obtain ⟨b, hb, rfl⟩ := List.mem_map.mp hc
    have hprint := List.all_eq_true.mp h b hb
    rw [isPrintable, Bool.and_eq_true, decide_eq_true_iff, decide_eq_true_iff] at hprint
    have hvalid : b.toNat.isValidChar := .inl (hprint.2.trans (by decide))
    rw [Char.ofNat, dif_pos hvalid]
    show b.toNat < 128
    omega
  have hencode := PyCodec.latin1Encode_of_ascii hascii
  rw [PyCodec.latin1Encode_latin1Decode] at hencode
  have hread := PyCodec.utf8DecodeReplace_of_ascii hascii
  rw [← Option.some.inj hencode] at hread
  exact hread.symm

theorem all_isPrintable_escapeOctets {raw : Bytes} (h : raw.all isPrintable = true) :
    (escapeOctets raw).all isPrintable = true := by
  rw [List.all_eq_true] at h ⊢
  intro b hb
  obtain ⟨x, hx, hb⟩ := List.mem_flatMap.mp hb
  split_ifs at hb
  · rcases List.mem_cons.mp hb with rfl | hb
    · rfl
    · rw [List.mem_singleton.mp hb]
      exact h x hx
  · rw [List.mem_singleton.mp hb]
    exact h x hx

/-- A name is read as UTF-8 whichever way its octets come. -/
theorem heardText_eq (t : Transport) (raw : Bytes) :
    heardText t raw = PyCodec.utf8DecodeReplace (delivered t raw) := by
  by_cases hprint : raw.all isPrintable = true
  · cases t with
    | pysnmp =>
      simp only [heardText, handed, Transport.row, normalizeVarbind, octetValue, if_pos hprint]
      exact latin1Decode_of_printable hprint
    | netsnmp =>
      simp only [heardText, handed, Transport.row, netsnmpRow, if_pos hprint, delivered,
        escapeQuoted_latin1Decode]
      exact latin1Decode_of_printable (all_isPrintable_escapeOctets hprint)
  · cases t <;>
      simp only [heardText, handed, Transport.row, netsnmpRow, normalizeVarbind, octetValue,
        if_neg hprint, delivered] <;> rfl

/-- Octets that a client gets as they were sent. -/
def Clear (t : Transport) (raw : Bytes) : Prop := delivered t raw = raw

theorem clear_pysnmp (raw : Bytes) : Clear .pysnmp raw := rfl

theorem length_le_escapeOctets (raw : Bytes) : raw.length ≤ (escapeOctets raw).length := by
  induction raw with
  | nil => exact le_rfl
  | cons b raw ih =>
    unfold escapeOctets at ih ⊢
    rw [List.flatMap_cons, List.length_append, List.length_cons]
    split_ifs <;> simp only [List.length_cons, List.length_nil] <;> omega

theorem escapeOctets_eq_self_iff {raw : Bytes} :
    escapeOctets raw = raw ↔ ∀ b ∈ raw, b ≠ 0x22 ∧ b ≠ 0x5C := by
  induction raw with
  | nil => exact iff_of_true rfl (List.forall_mem_nil _)
  | cons b raw ih =>
    have hcons : escapeOctets (b :: raw) =
        (if b = 0x22 ∨ b = 0x5C then [0x5C, b] else [b]) ++ escapeOctets raw := List.flatMap_cons
    rw [hcons, List.forall_mem_cons, ← ih, ← not_or]
    by_cases hb : b = 0x22 ∨ b = 0x5C
    · rw [if_pos hb]
      refine iff_of_false (fun h => ?_) fun h => h.1 hb
      have hlength := congrArg List.length h
      have hle := length_le_escapeOctets raw
      simp only [List.length_append, List.length_cons, List.length_nil] at hlength
      omega
    · rw [if_neg hb, List.singleton_append, List.cons_inj_right]
      exact (and_iff_right hb).symm

/-- Octets without a quote or a backslash, or not printed as text at all. -/
def Unquoted (raw : Bytes) : Prop := Binary raw ∨ ∀ b ∈ raw, b ≠ 0x22 ∧ b ≠ 0x5C

instance (raw : Bytes) : Decidable (Unquoted raw) := inferInstanceAs (Decidable (_ ∨ _))

theorem clear_netsnmp_iff {raw : Bytes} : Clear .netsnmp raw ↔ Unquoted raw := by
  by_cases hprint : raw.all isPrintable = true
  · have hnot : ¬ Binary raw := by
      rintro ⟨b, hb, hfalse⟩
      rw [List.all_eq_true.mp hprint b hb] at hfalse
      cases hfalse
    have hdelivered : delivered .netsnmp raw = escapeOctets raw := if_pos hprint
    rw [Clear, hdelivered, escapeOctets_eq_self_iff]
    exact (or_iff_right hnot).symm
  · have hbinary : Binary raw := by simpa [Binary] using hprint
    exact iff_of_true (delivered_of_binary .netsnmp hbinary) (.inl hbinary)

namespace VirtualSwitchState

/-- What holds of the octets of every text and list that the readers read. -/
structure EveryOctets (P : Bytes → Prop) (s : VirtualSwitchState) : Prop where
  portName : ∀ p sim, s.ports.get? p = some sim → P ((PyCodec.latin1Encode sim.name).getD [])
  description : ∀ p sim text, s.ports.get? p = some sim → sim.description = some text →
    P ((PyCodec.latin1Encode text).getD [])
  vlanName : ∀ v vsim, s.vlans.get? v = some vsim → P ((PyCodec.latin1Encode vsim.name).getD [])
  list : ∀ v vsim, s.vlans.get? v = some vsim →
    ∀ ports ∈ [vsim.member, vsim.configured, vsim.untagged],
      P ((encodePortBitmap ports s.vlanWidth).getD [])

theorem EveryOctets.imp {P P' : Bytes → Prop} {s : VirtualSwitchState} (h : s.EveryOctets P)
    (himp : ∀ raw, P raw → P' raw) : s.EveryOctets P' where
  portName p sim hsim := himp _ (h.portName p sim hsim)
  description p sim text hsim htext := himp _ (h.description p sim text hsim htext)
  vlanName v vsim hvsim := himp _ (h.vlanName v vsim hvsim)
  list v vsim hvsim ports hports := himp _ (h.list v vsim hvsim ports hports)

theorem heardName_of_clear {t : Transport} {name : Text}
    (h : Clear t ((PyCodec.latin1Encode name).getD [])) : heardName t name = readBack name := by
  rw [heardName, heardText_eq, h, readBack]

theorem heardStatuses_of_clear {t : Transport} {s : VirtualSwitchState} (h : s.EveryOctets (Clear t)) :
    s.heardStatuses t = s.portStatuses := by
  refine List.filterMap_congr fun p hp => ?_
  cases hsim : s.ports.get? p with
  | none => rfl
  | some sim =>
    refine congrArg some ?_
    have hname := heardName_of_clear (h.portName p sim hsim)
    have hdescription : sim.description.map (heardName t) = sim.description.map readBack := by
      cases htext : sim.description with
      | none => rfl
      | some text => exact congrArg some (heardName_of_clear (h.description p sim text hsim htext))
    rw [PortSim.heard, hname, hdescription]
    rfl

theorem heardPorts_of_clear {t : Transport} {width : ℕ} {ports : Finset ℤ} (hpos : ∀ p ∈ ports, 1 ≤ p)
    (h : Clear t ((encodePortBitmap ports width).getD [])) : heardPorts t width ports = ports := by
  obtain ⟨raw, hraw, -, hnumbers⟩ := @Bitmap.encodeNumbers_spec width (PySet.sorted ports)
    fun p hp => hpos p (PySet.mem_sorted.mp hp)
  rw [PySet.toFinset_sorted] at hnumbers
  rw [heardPorts, h, encodePortBitmap, hraw]
  exact hnumbers

theorem heardVlans_of_clear {t : Transport} {s : VirtualSwitchState} (h : s.EveryOctets (Clear t))
    (hpos : s.PositiveMembers) : s.heardVlans t = s.vlanInfos := by
  refine List.filterMap_congr fun v hv => ?_
  cases hvsim : s.vlans.get? v with
  | none => rfl
  | some vsim =>
    refine congrArg some ?_
    have hlists := h.list v vsim hvsim
    obtain ⟨hconfigured, huntagged⟩ := hpos v vsim hvsim
    have hmember : ∀ p ∈ vsim.member, 1 ≤ p := fun p hp =>
      hconfigured p (Finset.mem_union_left _ hp)
    have hname := heardName_of_clear (h.vlanName v vsim hvsim)
    have hheld : heardPorts t s.vlanWidth (if vsim.staticRow then vsim.configured else vsim.member) =
        if vsim.staticRow then vsim.configured else vsim.member := by
      split_ifs
      · exact heardPorts_of_clear hconfigured (hlists _ (by simp))
      · exact heardPorts_of_clear hmember (hlists _ (by simp))
    rw [VlanSim.heard, hheld, heardPorts_of_clear huntagged (hlists _ (by simp)), hname]
    rfl

end VirtualSwitchState

/-- **The readers over the SNMP face.**  Through either client the ports, the PVIDs and the VLANs of
the virtual switch are read off its state.  They are those of the state itself, its texts read as
UTF-8 from the octets they are sent in, but that net-snmp garbles a text or a PortList whose octets
are all printable and have a quote or a backslash. -/
theorem readers_agent (t : Transport) {view : StateMibView} (hcurrent : view.Current)
    (hserved : view.Served) (hports : view.state.ports.items ≠ []) :
    Ends ((StateMibView.agent t).machine t) SnmpReader.getVlans view
        (.ok (view.state.heardVlans t)) view ∧
      Ends ((StateMibView.agent t).machine t) SnmpReader.getPvids view
        (.ok view.state.ethernetPvids) view ∧
      Ends ((StateMibView.agent t).machine t) SnmpReader.getPorts view
        (.ok (view.state.heardStatuses t)) view ∧
      (t = .pysnmp ∨ view.state.EveryOctets Unquoted →
        view.state.heardStatuses t = view.state.portStatuses ∧
          (view.state.PositiveMembers → view.state.heardVlans t = view.state.vlanInfos)) := by
  refine ⟨StateMibView.ends_readVlans hcurrent hserved t hports,
    StateMibView.ends_getPvids hcurrent hserved t hports,
    StateMibView.ends_getPorts hcurrent hserved t hports, fun h => ?_⟩
  have hclear : view.state.EveryOctets (Clear t) := by
    cases t with
    | pysnmp => exact ⟨fun _ _ _ => rfl, fun _ _ _ _ _ => rfl, fun _ _ _ => rfl, fun _ _ _ _ _ => rfl⟩
    | netsnmp =>
      have hunquoted := h.resolve_left (by decide)
      exact hunquoted.imp fun raw hraw => clear_netsnmp_iff.mpr hraw
  exact ⟨VirtualSwitchState.heardStatuses_of_clear hclear,
    VirtualSwitchState.heardVlans_of_clear hclear⟩

theorem readers_agent_twoPorts :
    Ends ((StateMibView.agent .pysnmp).machine .pysnmp) SnmpReader.getPorts twoPortsView
        (.ok twoPorts.portStatuses) twoPortsView ∧
      Ends ((StateMibView.agent .pysnmp).machine .pysnmp) SnmpReader.getVlans twoPortsView
        (.ok twoPorts.vlanInfos) twoPortsView := by
  obtain ⟨hvlans, -, hports, hsame⟩ :=
    readers_agent .pysnmp current_twoPortsView ready_twoPortsView.served (by decide)
  obtain ⟨hportsSame, hvlansSame⟩ := hsame (.inl rfl)
  have hpositive : twoPorts.PositiveMembers := by
    intro v vsim hvsim
    have hmem := PyDict.mem_items_of_get? hvsim
    rcases List.mem_cons.mp hmem with h | h
    · cases h
      exact ⟨by decide, by decide⟩
    · cases List.mem_singleton.mp h
      exact ⟨by decide, by decide⟩
  rw [hportsSame] at hports
  rw [hvlansSame hpositive] at hvlans
  exact ⟨hports, hvlans⟩

end NetgearSwitch.Virtual
