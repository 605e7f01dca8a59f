import NetgearSwitch.Lib.Refinement
import NetgearSwitch.Virtual.SnmpMembership
import NetgearSwitch.Virtual.SnmpReads

/-!
# The configuration store behind the SNMP writers

`SnmpWriter` over a transport and the SNMP face of the virtual switch make together a store of
VLANs, PVIDs and ports.  A write takes its effect on the store or is refused with nothing changed;
the read-back never fails, and what no write names stays as it was.

§1 what can be heard · §2 states that still project · §3 what a client knows · §4 a refused write ·
§5 an accepted write · §6 runs
-/

namespace NetgearSwitch.Virtual

open Snmp Script

/-! ## §1 What can be heard -/

/-- A text that is heard as it was sent. -/
def Sayable (t : Transport) (text : Text) : Prop :=
  ∃ octets, StateMibView.wire t (.str text) = .ok (.bytes octets) ∧ heardText t octets = text

/-- Ports whose list is heard as it is. -/
def Audible (t : Transport) (width : ℕ) (ports : Finset ℤ) : Prop :=
  t = .netsnmp → heardPorts .netsnmp width ports = ports

/-- What a write asks of a switch of `physical` ports: a VLAN number that an OID can hold, an
Ethernet port, texts and lists that are heard. -/
def Fits (t : Transport) (width : ℕ) (physical : Finset ℤ) (c : ConfigStore) (o : ConfigWrite × Bool) :
    Prop :=
  match o.1 with
  | .createVlan v name => 0 ≤ v ∧ v ≤ 4294967295 ∧ Sayable t name
  | .deleteVlan _ => True
  | .setVlanMembership v port mode => port ∈ physical ∧ ∀ e, c.vlans v = some e →
    ∀ column, Audible t width (editLists port mode e.lists column)
  | .setPvid port _ => port ∈ physical
  | .setPortEnabled port _ => port ∈ physical
  | .setPortDescription port description => port ∈ physical ∧ Sayable t description

theorem heardPorts_of_audible {t : Transport} {width : ℕ} {ports : Finset ℤ}
    (h : Audible t width ports) (hpos : ∀ p ∈ ports, 1 ≤ p) : heardPorts t width ports = ports := by
  cases t with
  | pysnmp => exact VirtualSwitchState.heardPorts_of_clear hpos (clear_pysnmp _)
  | netsnmp => exact h rfl

theorem audible_empty (t : Transport) {width : ℕ} (hwidth : 0 < width) : Audible t width ∅ := by
  intro _
  obtain ⟨raw, hraw, hlength, hnumbers⟩ := @Bitmap.encodeNumbers_spec width (PySet.sorted ∅)
    fun p hp => absurd (PySet.mem_sorted.mp hp) (Finset.notMem_empty p)
  rw [PySet.toFinset_sorted] at hnumbers
  have hzeros : Binary ((encodePortBitmap ∅ width).getD []) := by
    rw [encodePortBitmap, show PySet.sorted (∅ : Finset ℤ) = [] from rfl]
    refine ⟨0, ?_, by decide⟩
    show (0 : UInt8) ∈ List.replicate width 0
    exact List.mem_replicate.mpr ⟨by omega, rfl⟩
  rw [heardPorts, delivered_of_binary _ hzeros, encodePortBitmap, hraw]
  exact hnumbers

/-- Printable ASCII without a quote or a backslash is heard as it was sent. -/
theorem sayable_of_plain (t : Transport) {text : Text}
    (h : ∀ c ∈ text, c.toNat < 128 ∧ c ≠ '"' ∧ c ≠ '\\') : Sayable t text := by
  have hascii : ∀ c ∈ text, c.toNat < 128 := fun c hc => (h c hc).1
  let octets : Bytes := text.map fun c => UInt8.ofNat c.toNat
  have hwire : StateMibView.wire t (.str text) = .ok (.bytes octets) := by
    cases t with
    | pysnmp =>
      rw [StateMibView.wire, PyCodec.latin1Encode_of_ascii hascii]
      rfl
    | netsnmp => rw [StateMibView.wire, PyCodec.utf8Encode_of_ascii hascii]
  have hunquoted : ∀ b ∈ octets, b ≠ 0x22 ∧ b ≠ 0x5C := by
    intro b hb
    obtain ⟨c, hc, rfl⟩ := List.mem_map.mp hb
    obtain ⟨hlt, hquote, hslash⟩ := h c hc
    have hother : ∀ d : Char, d.toNat < 128 → c ≠ d → UInt8.ofNat c.toNat ≠ UInt8.ofNat d.toNat := by
      intro d hd hne heq
      have hnat := congrArg UInt8.toNat heq
      rw [UInt8.toNat_ofNat', UInt8.toNat_ofNat', Nat.mod_eq_of_lt (by omega),
        Nat.mod_eq_of_lt (by omega)] at hnat
      exact hne (Char.ext (UInt32.toNat_inj.mp hnat))
    exact ⟨hother '"' (by decide) hquote, hother '\\' (by decide) hslash⟩
  have hclear : Clear t octets := by
    cases t with
    | pysnmp => exact clear_pysnmp octets
    | netsnmp => exact clear_netsnmp_iff.mpr (.inr hunquoted)
  refine ⟨octets, hwire, ?_⟩
  rw [heardText_eq, hclear]
  exact PyCodec.utf8DecodeReplace_of_ascii hascii

/-! ## §2 States that still project -/

namespace VirtualSwitchState

/-- The state with another PVID. -/
def withPvid (s : VirtualSwitchState) (port v : ℤ) : VirtualSwitchState :=
  { s with pvids := s.pvids.set port v, pduEgressWrites := ∅ }

/-- The state with another port. -/
def withPort (s : VirtualSwitchState) (port : ℤ) (sim : PortSim) : VirtualSwitchState :=
  { s with ports := s.ports.set port sim, pduEgressWrites := ∅ }

theorem get?_withPvid (s : VirtualSwitchState) (port v p : ℤ) :
    (s.withPvid port v).pvids.get? p = if p = port then some v else s.pvids.get? p :=
  PyDict.get?_set _ _ _ _

theorem get?_withPort (s : VirtualSwitchState) (port : ℤ) (sim : PortSim) (p : ℤ) :
    (s.withPort port sim).ports.get? p = if p = port then some sim else s.ports.get? p :=
  PyDict.get?_set _ _ _ _

end VirtualSwitchState

/-- The rows of one port: those of a switch that has no other. -/
def portRow (port : ℤ) (sim : PortSim) : List MibRow :=
  VirtualSwitchState.portRows { modelKey := .gsm7228ps, ports := .ofList [(port, sim)] }

theorem VirtualSwitchState.portRows_eq (s : VirtualSwitchState) :
    s.portRows = s.ports.items.flatMap fun e => portRow e.1 e.2 := by
  refine List.flatMap_congr fun e _ => ?_
  exact (List.append_nil _).symm

/-- A port whose flags or description change has rows that can be sent as before. -/
theorem sendable_portRow {port : ℤ} {sim : PortSim} (h : ∀ row ∈ portRow port sim, Sendable row)
    (admin link : Bool) {description : Option Text}
    (hdescription : ∀ text, description = some text →
      sim.description = some text ∨ (PyCodec.latin1Encode text).isSome) :
    ∀ row ∈ portRow port { sim with admin := admin, link := link, description := description },
      Sendable row := by
  have hitems : ∀ x : PortSim, (PyDict.ofList [(port, x)]).items = [(port, x)] := fun _ => rfl
  simp only [portRow, VirtualSwitchState.portRows, hitems, List.flatMap_cons, List.flatMap_nil,
    List.append_nil, List.forall_mem_append, List.forall_mem_cons, List.not_mem_nil, false_imp_iff,
    implies_true, and_true] at h ⊢
  obtain ⟨⟨⟨⟨⟨⟨⟨⟨⟨hadmin, -, hspeed, htype, hname⟩, hetherlike⟩, halias⟩, hin⟩, hout⟩, hinUcast⟩, houtUcast⟩,
    hinErrors⟩, houtErrors⟩ := h
  have hnonneg := nonneg_of_sendable hadmin
  have hint : ∀ (base : Oid) (n : ℤ), n = 1 ∨ n = 2 ∨ n = 3 →
      Sendable (intRow base [port] .integer n) := by
    intro base n hn
    refine sendable_instance hnonneg (isSome_toSmi?_intValue ?_)
    rcases hn with rfl | rfl | rfl <;> decide
  have hflag : ∀ (base : Oid) (b : Bool), Sendable (intRow base [port] .integer (truthValue b)) := by
    intro base b
    cases b
    · exact hint base 2 (.inr (.inl rfl))
    · exact hint base 1 (.inl rfl)
  refine ⟨⟨⟨⟨⟨⟨⟨⟨⟨hflag _ _, hflag _ _, hspeed, htype, hname⟩, ?_⟩, ?_⟩, hin⟩, hout⟩, hinUcast⟩,
    houtUcast⟩, hinErrors⟩, houtErrors⟩
  · intro row hrow
    by_cases hserves : sim.servesEtherlike = true
    · rw [if_pos hserves] at hrow hetherlike
      rcases List.mem_cons.mp hrow with rfl | hrow
      · refine hint _ _ ?_
        cases link
        · exact .inl rfl
        · exact .inr (.inr rfl)
      · exact hetherlike row (List.mem_cons_of_mem _ hrow)
    · rw [if_neg hserves] at hrow
      cases hrow
  · intro row hrow
    obtain ⟨text, htext, rfl⟩ := List.mem_map.mp hrow
    rcases hdescription text (Option.mem_toList.mp htext) with hold | hsome
    · exact halias _ (List.mem_map.mpr ⟨text, Option.mem_toList.mpr hold, rfl⟩)
    · exact sendable_instance hnonneg (isSome_toSmi?_textValue hsome)

namespace StateMibView

variable {view : StateMibView}

/-- Every row of a view that is ready can be sent. -/
theorem Ready.exists_rows (h : view.Ready) : ∃ vlans, view.state.vlanRows = some vlans ∧
    ∀ row ∈ view.state.allRows [] vlans, Sendable row := by
  obtain ⟨switchport, vlans, es, hmade⟩ := exists_made h.current
  exact ⟨vlans, hmade.emitted, h.rows vlans hmade.emitted⟩

/-- Another PVID leaves a view that is ready. -/
theorem Ready.withPvid (h : view.Ready) {port v : ℤ} (hport : 0 ≤ port) (hv : 0 ≤ v ∧ v ≤ 4294967295) :
    ∃ es, loadView (view.state.withPvid port v) = (view.state.withPvid port v, some es) ∧
      (⟨view.state.withPvid port v, es⟩ : StateMibView).Ready := by
  obtain ⟨vlans, hvlans, hall⟩ := h.exists_rows
  refine exists_ready h.plain hvlans h.current.short ?_
  have hpvids : ∀ row ∈ (view.state.withPvid port v).pvidRows, Sendable row := by
    intro row hrow
    obtain ⟨⟨p, n⟩, hitem, rfl⟩ := List.mem_map.mp hrow
    have hget := PyDict.get?_of_mem_items hitem
    rw [VirtualSwitchState.get?_withPvid] at hget
    split_ifs at hget with hp
    · cases hget
      subst hp
      refine sendable_instance (by simpa using hport) ?_
      have hrange : (intRange .gauge32).1 ≤ v ∧ v ≤ (intRange .gauge32).2 := hv
      show (smiInt? .gauge32 (PyText.intText v)).isSome = true
      rw [smiInt?_intText hrange]
      rfl
    · refine hall _ ?_
      have hold : intRow dot1qPvid [p] .gauge32 n ∈ view.state.pvidRows :=
        List.mem_map.mpr ⟨(p, n), PyDict.mem_items_of_get? hget, rfl⟩
      simp only [VirtualSwitchState.allRows, List.mem_append]
      tauto
  simp only [VirtualSwitchState.allRows, List.forall_mem_append] at hall ⊢
  obtain ⟨⟨⟨⟨⟨⟨⟨hbefore, -⟩, hpoe⟩, hsensors⟩, hentity⟩, hfdb⟩, hlldp⟩, hmgmt⟩ := hall
  exact ⟨⟨⟨⟨⟨⟨⟨hbefore, hpvids⟩, hpoe⟩, hsensors⟩, hentity⟩, hfdb⟩, hlldp⟩, hmgmt⟩

/-- A port whose flags or description change leaves a view that is ready. -/
theorem Ready.withPort (h : view.Ready) {port : ℤ} {sim : PortSim} (admin link : Bool)
    {description : Option Text} (hsim : view.state.ports.get? port = some sim)
    (hdescription : ∀ text, description = some text →
      sim.description = some text ∨ (PyCodec.latin1Encode text).isSome) :
    let s := view.state.withPort port
      { sim with admin := admin, link := link, description := description }
    ∃ es, loadView s = (s, some es) ∧ (⟨s, es⟩ : StateMibView).Ready := by
  obtain ⟨vlans, hvlans, hall⟩ := h.exists_rows
  refine exists_ready h.plain hvlans h.current.short ?_
  have hold : ∀ p x, view.state.ports.get? p = some x → ∀ row ∈ portRow p x, Sendable row := by
    intro p x hx row hrow
    refine hall row ?_
    have hmem : row ∈ view.state.portRows := by
      rw [VirtualSwitchState.portRows_eq]
      exact List.mem_flatMap.mpr ⟨(p, x), PyDict.mem_items_of_get? hx, hrow⟩
    simp only [VirtualSwitchState.allRows, List.mem_append]
    tauto
  have hports : ∀ row ∈ (view.state.withPort port
      { sim with admin := admin, link := link, description := description }).portRows,
      Sendable row := by
    intro row hrow
    rw [VirtualSwitchState.portRows_eq] at hrow
    obtain ⟨⟨p, x⟩, hitem, hmem⟩ := List.mem_flatMap.mp hrow
    have hget := PyDict.get?_of_mem_items hitem
    rw [VirtualSwitchState.get?_withPort] at hget
    split_ifs at hget with hp
    · cases hget
      subst hp
      exact sendable_portRow (hold _ _ hsim) admin link hdescription row hmem
    · exact hold p x hget row hmem
  simp only [VirtualSwitchState.allRows, List.forall_mem_append] at hall ⊢
  obtain ⟨⟨⟨⟨⟨⟨⟨⟨⟨⟨⟨hsystem, hsyslog⟩, -⟩, hnone⟩, htable⟩, hpvids⟩, hpoe⟩, hsensors⟩, hentity⟩, hfdb⟩, hlldp⟩,
    hmgmt⟩ := hall
  exact ⟨⟨⟨⟨⟨⟨⟨⟨⟨⟨⟨hsystem, hsyslog⟩, hports⟩, hnone⟩, htable⟩, hpvids⟩, hpoe⟩, hsensors⟩, hentity⟩, hfdb⟩, hlldp⟩,
    hmgmt⟩

end StateMibView

/-! ## §3 What a client knows -/

def VlanSim.entry (t : Transport) (vsim : VlanSim) : VlanEntry := ⟨heardName t vsim.name, vsim.held⟩

def PortSim.entry (t : Transport) (sim : PortSim) : PortEntry :=
  ⟨sim.admin, sim.link, textOrNone (sim.description.map (heardName t))⟩

/-- The store a client makes of the switch. -/
def StateMibView.store (t : Transport) (view : StateMibView) : ConfigStore where
  vlans v := (view.state.vlans.get? v).map (VlanSim.entry t)
  pvids p := view.state.pvids.get? p
  ports p := (view.state.ports.get? p).map (PortSim.entry t)

/-- A VLAN of the static table, its lists of Ethernet ports and heard as they are. -/
structure PlainVlan (t : Transport) (width : ℕ) (physical : Finset ℤ) (vsim : VlanSim) : Prop where
  static : vsim.staticRow = true
  only : vsim.configuredOnly = ∅
  within : ∀ c, vsim.held c ⊆ physical
  audible : ∀ c, Audible t width (vsim.held c)

/-- A switch that is ready and whose VLANs are plain. -/
structure StateMibView.Plain (t : Transport) (view : StateMibView) : Prop where
  ready : view.Ready
  ports : view.state.ports.items ≠ []
  pos : ∀ p ∈ view.state.ethernetPorts, 1 ≤ p
  bound : ∀ v ∈ view.state.vlans, v ≤ 4294967295
  vlans : ∀ v vsim, view.state.vlans.get? v = some vsim →
    PlainVlan t view.state.vlanWidth view.state.ethernetPorts vsim

/-- What of a port no write changes. -/
def PortSim.rest (sim : PortSim) : PortSim :=
  { sim with admin := false, link := false, description := none }

/-- What no write changes. -/
structure VirtualSwitchState.SameRest (s s' : VirtualSwitchState) : Prop where
  ports : ∀ p, (s'.ports.get? p).map PortSim.rest = (s.ports.get? p).map PortSim.rest
  others : { s' with
    vlans := s.vlans
    pvids := s.pvids
    ports := s.ports
    pduEgressWrites := s.pduEgressWrites } = s

namespace VirtualSwitchState

variable {s s' s'' : VirtualSwitchState}

theorem SameRest.refl (s : VirtualSwitchState) : s.SameRest s := ⟨fun _ => rfl, rfl⟩

theorem SameRest.trans (h : s.SameRest s') (h' : s'.SameRest s'') : s.SameRest s'' where
  ports p := (h'.ports p).trans (h.ports p)
  others := by
    have hsecond := congrArg (fun x : VirtualSwitchState => { x with
      vlans := s.vlans
      pvids := s.pvids
      ports := s.ports
      pduEgressWrites := s.pduEgressWrites }) h'.others
    exact hsecond.trans h.others

theorem SameRest.modelKey (h : s.SameRest s') : s'.modelKey = s.modelKey := by
  have hkey := congrArg VirtualSwitchState.modelKey h.others
  exact hkey

theorem SameRest.vlanWidth (h : s.SameRest s') : s'.vlanWidth = s.vlanWidth := by
  have hwidth := congrArg VirtualSwitchState.vlanWidth h.others
  exact hwidth

theorem SameRest.ethernetPorts (h : s.SameRest s') : s'.ethernetPorts = s.ethernetPorts := by
  have hmem : ∀ x : VirtualSwitchState, ∀ p, p ∈ x.ethernetPorts ↔
      ((x.ports.get? p).map PortSim.rest).any fun sim => sim.ifType = ethernetCsmacd := by
    intro x p
    rw [VirtualSwitchState.ethernetPorts, Finset.mem_filter, List.mem_toFinset, ← PyDict.mem_def,
      PyDict.mem_iff]
    cases x.ports.get? p <;> simp [PortSim.rest]
  ext p
  rw [hmem, hmem, h.ports p]

end VirtualSwitchState

theorem PlainVlan.heard {t : Transport} {width : ℕ} {physical : Finset ℤ} {vsim : VlanSim}
    (h : PlainVlan t width physical vsim) (hpos : ∀ p ∈ physical, 1 ≤ p) (v : ℤ) :
    vsim.heard t width physical v = (vsim.entry t).info v := by
  have hlist : ∀ c, heardPorts t width (vsim.held c) ∩ physical = vsim.held c := by
    intro c
    rw [heardPorts_of_audible (h.audible c) fun p hp => hpos p (h.within c hp)]
    exact Finset.inter_eq_left.mpr (h.within c)
  have hegress : heardPorts t width (if vsim.staticRow then vsim.configured else vsim.member) ∩ physical =
      vsim.held .egress := hlist .egress
  have huntagged : heardPorts t width vsim.untagged ∩ physical = vsim.held .untagged := hlist .untagged
  rw [VlanSim.heard, hegress, huntagged, h.static]
  rfl

namespace StateMibView

variable {t : Transport} {view : StateMibView}

/-- `_vlan` answers the entry of the VLAN. -/
theorem Plain.ends_vlan (h : view.Plain t) (v : ℤ) :
    Ends ((agent t).machine t) (SnmpWriter.vlan v) view
      (.ok (((view.store t).vlans v).map (VlanEntry.info v))) view := by
  have hread := @StateMibView.ends_vlan view t h.ready h.ports v
  have hentry : (view.state.vlans.get? v).map
      (VlanSim.heard t view.state.vlanWidth view.state.ethernetPorts v) =
        ((view.store t).vlans v).map (VlanEntry.info v) := by
    show _ = ((view.state.vlans.get? v).map (VlanSim.entry t)).map (VlanEntry.info v)
    cases hvsim : view.state.vlans.get? v with
    | none => rfl
    | some vsim => exact congrArg some ((h.vlans v vsim hvsim).heard h.pos v)
  rwa [hentry] at hread

/-- What the writers ask for before they write. -/
theorem Plain.ends_known (h : view.Plain t) (v : ℤ) :
    Ends ((agent t).machine t) SnmpReader.getVlans view (.ok (view.state.heardVlans t)) view ∧
      (view.state.heardVlans t).find? (·.vlanId = v) =
        ((view.store t).vlans v).map (VlanEntry.info v) := by
  refine ⟨ends_readVlans h.ready.current h.ready.served t h.ports, ?_⟩
  rw [VirtualSwitchState.find?_heardVlans]
  show _ = ((view.state.vlans.get? v).map (VlanSim.entry t)).map (VlanEntry.info v)
  cases hvsim : view.state.vlans.get? v with
  | none => rfl
  | some vsim => exact congrArg some ((h.vlans v vsim hvsim).heard h.pos v)

/-! ## §4 A refused write -/

theorem refusal_absent {c : ConfigStore} {v : ℤ} {e : LibError}
    (h : (if (c.vlans v).isSome then none else some LibError.snmp) = some e) :
    c.vlans v = none ∧ LibError.snmp = e := by
  cases hentry : c.vlans v with
  | none =>
    rw [hentry] at h
    exact ⟨rfl, Option.some.inj h⟩
  | some entry =>
    rw [hentry] at h
    cases h

theorem any_vlanId_iff {vlans : List VLANInfo} {v : ℤ} :
    vlans.any (·.vlanId = v) = (vlans.find? (·.vlanId = v)).isSome := by
  rw [Bool.eq_iff_iff, List.find?_isSome, List.any_eq_true]

/-- A write that is refused changes nothing. -/
theorem Plain.refused (h : view.Plain t) (w : SnmpWriter) {o : ConfigWrite × Bool} {e : LibError}
    (hrefused : (view.store t).refusal w.rules o.2 o.1 = some e) :
    Ends ((agent t).machine t) (w.write o) view (.error e) view := by
  obtain ⟨o, force⟩ := o
  cases o with
  | createVlan v name =>
    have hcan : ¬ w.model.snmpCanCreateVlan = true := fun hcan => by
      rw [ConfigStore.refusal, SnmpWriter.rules, if_pos hcan] at hrefused
      cases hrefused
    rw [ConfigStore.refusal, SnmpWriter.rules, if_neg hcan] at hrefused
    obtain rfl := Option.some.inj hrefused
    exact (ends_ensure_of_not hcan _).bind_error
  | deleteVlan v =>
    have hread := h.ends_vlan v
    show Ends _ (w.deleteVlan v force) view _ view
    rw [ConfigStore.refusal] at hrefused
    cases hentry : (view.store t).vlans v with
    | none =>
      rw [hentry] at hread hrefused
      obtain rfl := Option.some.inj hrefused
      exact hread.bind (ends_done _).bind_error
    | some entry =>
      rw [hentry] at hread hrefused
      by_cases hclash : force = true ∨ entry.lists .egress ∩ w.protectedPorts = ∅
      · have hnone : (none : Option LibError) = some e := (if_pos hclash).symm.trans hrefused
        cases hnone
      · have hsome : some LibError.protectedPort = some e := (if_neg hclash).symm.trans hrefused
        obtain rfl := Option.some.inj hsome
        exact hread.bind ((ends_done _).bind (ends_ensure_of_not hclash _).bind_error)
  | setVlanMembership v port mode =>
    show Ends _ (w.setVlanMembership v port mode force) view _ view
    rw [ConfigStore.refusal] at hrefused
    by_cases hprotected : port ∈ w.protectedPorts ∧ ¬ force = true
    · obtain rfl := Option.some.inj ((if_pos hprotected).symm.trans hrefused)
      exact (ends_guard_refused hprotected).bind_error
    · have hrefused := (if_neg hprotected).symm.trans hrefused
      obtain ⟨habsent, rfl⟩ := refusal_absent hrefused
      obtain ⟨hread, hfind⟩ := h.ends_known v
      rw [habsent] at hfind
      refine (ends_guard hprotected).bind (hread.bind ?_)
      rw [hfind]
      exact (ends_done _).bind_error
  | setPvid port v =>
    show Ends _ (w.setPvid port v force) view _ view
    rw [ConfigStore.refusal] at hrefused
    by_cases hprotected : port ∈ w.protectedPorts ∧ ¬ force = true
    · obtain rfl := Option.some.inj ((if_pos hprotected).symm.trans hrefused)
      exact (ends_guard_refused hprotected).bind_error
    · have hrefused := (if_neg hprotected).symm.trans hrefused
      obtain ⟨habsent, rfl⟩ := refusal_absent hrefused
      obtain ⟨hread, hfind⟩ := h.ends_known v
      rw [habsent] at hfind
      refine (ends_guard hprotected).bind (hread.bind (ends_ensure_of_not ?_ _).bind_error)
      rw [any_vlanId_iff, hfind]
      exact Bool.false_ne_true
  | setPortEnabled port enabled =>
    show Ends _ (w.setPortEnabled port enabled force) view _ view
    rw [ConfigStore.refusal] at hrefused
    by_cases hprotected : enabled = false ∧ port ∈ w.protectedPorts ∧ ¬ force = true
    · obtain rfl := Option.some.inj ((if_pos hprotected).symm.trans hrefused)
      obtain ⟨rfl, hprotected⟩ := hprotected
      exact (ends_guard_refused hprotected).bind_error
    · have hnone : (none : Option LibError) = some e := (if_neg hprotected).symm.trans hrefused
      cases hnone
  | setPortDescription port description =>
    show Ends _ (w.setPortDescription port description force) view _ view
    rw [ConfigStore.refusal] at hrefused
    by_cases hprotected : port ∈ w.protectedPorts ∧ ¬ force = true
    · obtain rfl := Option.some.inj ((if_pos hprotected).symm.trans hrefused)
      exact (ends_guard_refused hprotected).bind_error
    · have hnone : (none : Option LibError) = some e := (if_neg hprotected).symm.trans hrefused
      cases hnone

end StateMibView

/-! ## §5 An accepted write -/

namespace VirtualSwitchState

variable {s : VirtualSwitchState}

/-- The columns of the plain writes. -/
def PlainColumn (c : ℤ → Column) : Prop :=
  c = .ifAdminStatus ∨ c = .ifAlias ∨ c = .dot1qPvid ∨ c = .staticRowStatus ∨ c = .staticName

/-- A varbind of a plain column goes to that column. -/
theorem applyVarbinds_instance {base : Oid} {c : ℤ → Column} (hc : (base, c) ∈ tailColumns)
    (hplain : PlainColumn c) {n : ℤ} (hn : 0 ≤ n) {value : SetValue} {s' : VirtualSwitchState}
    (h : s.applyColumn (c n) value = .ok s') (idx : ℕ) (rest : List VarBind) :
    applyVarbinds idx ((instanceOid base n, value) :: rest) s = applyVarbinds (idx + 1) rest s' := by
  have hcolumn := column_instanceOid s.model hc hn
  refine applyVarbinds_cons ?_ ?_ idx rest
  · rw [isWritableOid, hcolumn]
    rcases hplain with rfl | rfl | rfl | rfl | rfl <;> rfl
  · rw [applyWrite, hcolumn]
    exact h

/-- The VLAN a create leaves. -/
def createdSim (s : VirtualSwitchState) (v : ℤ) (name : Text) : VlanSim :=
  { (s.vlans.get? v).getD { name := [] } with name := name }

/-- A create makes a VLAN, or gives one that is there another name. -/
theorem applyVarbinds_createVlan (hcan : s.model.snmpCanCreateVlan = true) {v : ℤ} (hv : 0 ≤ v)
    (octets : Bytes) :
    s.applyVarbinds 0 [(instanceOid dot1qVlanStaticRowStatus v, .int rowStatusCreateAndGo),
        (instanceOid dot1qVlanStaticName v, .bytes octets)] =
      .ok (s.withVlans (s.vlans.set v (s.createdSim v (PyCodec.latin1Decode octets)))
        s.pduEgressWrites) := by
  have hmem : (dot1qVlanStaticRowStatus, Column.staticRowStatus) ∈ tailColumns := by simp [tailColumns]
  have hnameMem : (dot1qVlanStaticName, Column.staticName) ∈ tailColumns := by simp [tailColumns]
  have hstatusPlain : PlainColumn .staticRowStatus := .inr (.inr (.inr (.inl rfl)))
  have hnamePlain : PlainColumn .staticName := .inr (.inr (.inr (.inr rfl)))
  have hread : readInt (.int rowStatusCreateAndGo) = .ok rowStatusCreateAndGo := rfl
  have hrename : ∀ (x : VirtualSwitchState) (vsim : VlanSim), x.vlans.get? v = some vsim →
      x.applyColumn (.staticName v) (.bytes octets) = .ok { x with
        vlans := x.vlans.set v { vsim with name := PyCodec.latin1Decode octets } } := by
    intro x vsim hvsim
    rw [applyColumn, hvsim]
    rfl
  cases hvsim : s.vlans.get? v with
  | some vsim =>
    have hstatus : s.applyColumn (.staticRowStatus v) (.int rowStatusCreateAndGo) = .ok s := by
      rw [applyColumn, hread]
      show (if _ then _ else _ : Except ApplyError VirtualSwitchState) = _
      rw [if_pos (PyDict.mem_iff.mpr ⟨vsim, hvsim⟩)]
    rw [applyVarbinds_instance hmem hstatusPlain hv hstatus,
      applyVarbinds_instance hnameMem hnamePlain hv (hrename s vsim hvsim), createdSim, hvsim]
    rfl
  | none =>
    have hstatus : s.applyColumn (.staticRowStatus v) (.int rowStatusCreateAndGo) =
        .ok { s with vlans := s.vlans.set v { name := [] } } := by
      have hrefuse : s.refuseVlanCreationIfUnsupported = .ok () := if_pos hcan
      rw [applyColumn, hread]
      show (if _ then _ else _ : Except ApplyError VirtualSwitchState) = _
      rw [if_neg (PyDict.not_mem_iff.mpr hvsim), hrefuse]
      rfl
    have hset : (s.vlans.set v { name := [] }).get? v = some { name := [] } := PyDict.get?_set_self _ _ _
    rw [applyVarbinds_instance hmem hstatusPlain hv hstatus,
      applyVarbinds_instance hnameMem hnamePlain hv (hrename _ _ hset), createdSim, hvsim]
    dsimp only
    rw [PyDict.set_set]
    rfl

theorem applyVarbinds_deleteVlan {v : ℤ} (hv : 0 ≤ v) :
    s.applyVarbinds 0 [(instanceOid dot1qVlanStaticRowStatus v, .int rowStatusDestroy)] =
      .ok (s.withVlans (s.vlans.pop v) s.pduEgressWrites) := by
  have hmem : (dot1qVlanStaticRowStatus, Column.staticRowStatus) ∈ tailColumns := by simp [tailColumns]
  exact applyVarbinds_instance hmem (.inr (.inr (.inr (.inl rfl)))) hv rfl 0 []

theorem applyVarbinds_setPvid {port v : ℤ} (hport : 0 ≤ port) :
    s.snapshot.applyVarbinds 0 [(instanceOid dot1qPvid port, .int v)] = .ok (s.withPvid port v) := by
  have hmem : (dot1qPvid, Column.dot1qPvid) ∈ tailColumns := by simp [tailColumns]
  exact applyVarbinds_instance hmem (.inr (.inr (.inl rfl))) hport rfl 0 []

theorem modify_of_get? {d : PyDict ℤ PortSim} {port : ℤ} {sim : PortSim} (f : PortSim → PortSim)
    (h : d.get? port = some sim) : d.modify port f = d.set port (f sim) := by
  rw [PyDict.set_eq_modify (PyDict.mem_iff.mpr ⟨sim, h⟩), PyDict.modify_eq_modify_iff]
  intro x hx
  rw [Option.some.inj (hx.symm.trans h)]

theorem applyVarbinds_setPortEnabled {port : ℤ} {sim : PortSim} (hport : 0 ≤ port)
    (hsim : s.ports.get? port = some sim) (enabled : Bool) :
    s.snapshot.applyVarbinds 0
        [(instanceOid Snmp.ifAdminStatus port, .int (if enabled then 1 else 2))] =
      .ok (s.withPort port { sim with admin := enabled, link := enabled && sim.link }) := by
  have hmem : (Snmp.ifAdminStatus, Column.ifAdminStatus) ∈ tailColumns := by simp [tailColumns]
  have hin : port ∈ s.ports := PyDict.mem_iff.mpr ⟨sim, hsim⟩
  have happly : s.snapshot.applyColumn (.ifAdminStatus port) (.int (if enabled then 1 else 2)) =
      .ok { s.snapshot with ports := s.ports.modify port fun x =>
        { x with admin := enabled, link := enabled && x.link } } := by
    rw [applyColumn, if_pos (show port ∈ s.snapshot.ports from hin)]
    cases enabled <;> rfl
  rw [modify_of_get? _ hsim] at happly
  exact applyVarbinds_instance hmem (.inl rfl) hport happly 0 []

theorem applyVarbinds_setPortDescription {port : ℤ} {sim : PortSim} (hport : 0 ≤ port)
    (hsim : s.ports.get? port = some sim) (octets : Bytes) :
    s.snapshot.applyVarbinds 0 [(instanceOid Snmp.ifAlias port, .bytes octets)] =
      .ok (s.withPort port { sim with
        description := if octets = [] then none else some (PyCodec.latin1Decode octets) }) := by
  have hmem : (Snmp.ifAlias, Column.ifAlias) ∈ tailColumns := by simp [tailColumns]
  have hin : port ∈ s.ports := PyDict.mem_iff.mpr ⟨sim, hsim⟩
  have happly : s.snapshot.applyColumn (.ifAlias port) (.bytes octets) =
      .ok { s.snapshot with ports := s.ports.modify port fun x => { x with
        description := if octets = [] then none else some (PyCodec.latin1Decode octets) } } := by
    rw [applyColumn, if_pos (show port ∈ s.snapshot.ports from hin)]
    cases octets <;> rfl
  rw [modify_of_get? _ hsim] at happly
  exact applyVarbinds_instance hmem (.inr (.inl rfl)) hport happly 0 []

end VirtualSwitchState

theorem getD_textOrNone (text : Text) : (textOrNone (some text)).getD [] = text := by
  cases text <;> rfl

theorem heardName_latin1Decode (t : Transport) (octets : Bytes) :
    heardName t (PyCodec.latin1Decode octets) = heardText t octets := by
  rw [heardName, PyCodec.latin1Encode_latin1Decode, Option.getD_some]

theorem PlainVlan.isSome_vlanRow {t : Transport} {s : VirtualSwitchState} {vsim : VlanSim} {v : ℤ}
    (h : PlainVlan t s.vlanWidth s.ethernetPorts vsim) (hpos : ∀ p ∈ s.ethernetPorts, 1 ≤ p) :
    (s.vlanRow v vsim).isSome := by
  have hfits : ∀ {p : ℤ}, p ∈ s.ethernetPorts → -(8 * s.vlanWidth : ℤ) < p := by
    intro p hp
    have hone := hpos p hp
    have := s.vlanWidth_pos
    omega
  have hconfigured : vsim.configured ⊆ s.ethernetPorts := by
    have hheld := h.within .egress
    rwa [VlanSim.held, if_pos h.static] at hheld
  have huntagged : vsim.untagged ⊆ s.ethernetPorts := h.within .untagged
  rw [VirtualSwitchState.isSome_vlanRow_iff, VirtualSwitchState.isSome_encodePortBitmap_iff,
    VirtualSwitchState.isSome_encodePortBitmap_iff]
  refine ⟨fun p hp => hfits (hconfigured (Finset.mem_union_left _ hp)),
    fun p hp => hfits (huntagged hp), fun _ => ?_⟩
  rw [VirtualSwitchState.isSome_encodePortBitmap_iff]
  exact fun p hp => hfits (hconfigured hp)

namespace StateMibView

variable {t : Transport} {view : StateMibView} {w : SnmpWriter}

/-- The script ends well, and leaves a plain switch of the store `c`, all else as it was. -/
def Lands (t : Transport) (view : StateMibView) (p : SnmpScript Unit) (c : ConfigStore) : Prop :=
  ∃ view', view'.Plain t ∧ view.state.SameRest view'.state ∧ view'.store t = c ∧
    Ends ((agent t).machine t) p view (.ok ()) view'

/-- Other plain VLANs leave a plain switch. -/
theorem Plain.withVlans (h : view.Plain t) {vlans : PyDict ℤ VlanSim} {es : List MibEntry}
    (hready : (⟨view.state.withVlans vlans ∅, es⟩ : StateMibView).Ready)
    (hvlans : ∀ v vsim, vlans.get? v = some vsim → v ≤ 4294967295 ∧
      PlainVlan t view.state.vlanWidth view.state.ethernetPorts vsim) :
    (⟨view.state.withVlans vlans ∅, es⟩ : StateMibView).Plain t ∧
      view.state.SameRest (view.state.withVlans vlans ∅) := by
  refine ⟨⟨hready, h.ports, h.pos, fun v hv => ?_, fun v vsim hvsim => (hvlans v vsim hvsim).2⟩,
    fun _ => rfl, rfl⟩
  obtain ⟨vsim, hvsim⟩ := PyDict.mem_iff.mp hv
  exact (hvlans v vsim hvsim).1

theorem Plain.createVlan (h : view.Plain t) (hkey : w.modelKey = view.state.modelKey)
    (hcan : w.model.snmpCanCreateVlan = true) {v : ℤ} {name : Text} (hv : 0 ≤ v)
    (hbound : v ≤ 4294967295) (hname : Sayable t name) :
    Lands t view (w.createVlan v name) ((view.store t).effect (.createVlan v name)) := by
  obtain ⟨octets, hwire, hheard⟩ := hname
  let vsim := view.state.createdSim v (PyCodec.latin1Decode octets)
  have hheld : vsim.held = ((view.store t).vlans v).elim (fun _ => ∅) VlanEntry.lists ∧
      PlainVlan t view.state.vlanWidth view.state.ethernetPorts vsim := by
    show (view.state.createdSim v _).held = ((view.state.vlans.get? v).map (VlanSim.entry t)).elim _ _ ∧
      PlainVlan _ _ _ (view.state.createdSim v _)
    rw [VirtualSwitchState.createdSim]
    cases hold : view.state.vlans.get? v with
    | some old =>
      obtain ⟨hstatic, honly, hwithin, haudible⟩ := h.vlans v old hold
      exact ⟨rfl, hstatic, honly, hwithin, haudible⟩
    | none =>
      have hempty : VlanSim.held { name := PyCodec.latin1Decode octets } = fun _ => ∅ := by
        funext c
        cases c <;> rfl
      refine ⟨hempty, rfl, rfl, fun c => ?_, fun c => ?_⟩
      · show VlanSim.held { name := PyCodec.latin1Decode octets } c ⊆ _
        rw [hempty]
        exact Finset.empty_subset _
      · show Audible _ _ (VlanSim.held { name := PyCodec.latin1Decode octets } c)
        rw [hempty]
        exact audible_empty t view.state.vlanWidth_pos
  obtain ⟨hlists, hplain⟩ := hheld
  have hentry : vsim.entry t = ⟨name, ((view.store t).vlans v).elim (fun _ => ∅) VlanEntry.lists⟩ := by
    have hsaid : heardName t vsim.name = name := by
      show heardName t (PyCodec.latin1Decode octets) = name
      rw [heardName_latin1Decode, hheard]
    rw [VlanSim.entry, hsaid, hlists]
  have hrow : ∀ u sim, (view.state.vlans.set v vsim).get? u = some sim →
      view.state.vlans.get? u = some sim ∨ u = v ∧ sim = vsim := by
    intro u sim hsim
    rw [PyDict.get?_set] at hsim
    split_ifs at hsim with hu
    · exact .inr ⟨hu, (Option.some.inj hsim).symm⟩
    · exact .inl hsim
  obtain ⟨es, hload, hready⟩ := @Ready.withVlans view h.ready (view.state.vlans.set v vsim) ∅ (by
    intro u sim hsim
    rcases hrow u sim hsim with hold | ⟨rfl, rfl⟩
    · exact .inl hold
    · refine .inr ⟨hv, fun _ => ?_, hplain.isSome_vlanRow h.pos⟩
      show (PyCodec.latin1Encode (PyCodec.latin1Decode octets)).isSome = true
      rw [PyCodec.latin1Encode_latin1Decode]
      rfl)
  obtain ⟨hplain', hrest⟩ := h.withVlans hready (by
    intro u sim hsim
    rcases hrow u sim hsim with hold | ⟨rfl, rfl⟩
    · exact ⟨h.bound u (PyDict.mem_iff.mpr ⟨sim, hold⟩), h.vlans u sim hold⟩
    · exact ⟨hbound, hplain⟩)
  have hstore : StateMibView.store t ⟨view.state.withVlans (view.state.vlans.set v vsim) ∅, es⟩ =
      (view.store t).effect (.createVlan v name) := by
    rw [ConfigStore.effect, ← hentry]
    exact congrArg (fun x => (⟨x, (view.store t).pvids, (view.store t).ports⟩ : ConfigStore))
      (PyDict.map_get?_set view.state.vlans v vsim (VlanSim.entry t))
  refine ⟨_, hplain', hrest, hstore, (ends_ensure hcan _).bind ?_⟩
  have hset := @ends_setMany view t [⟨instanceOid dot1qVlanStaticRowStatus v, .int rowStatusCreateAndGo⟩,
    ⟨instanceOid dot1qVlanStaticName v, .str name⟩] _ es
    [(instanceOid dot1qVlanStaticRowStatus v, .int rowStatusCreateAndGo),
      (instanceOid dot1qVlanStaticName v, .bytes octets)] (by
      simp only [List.mapM_cons, List.mapM_nil, hwire]
      rfl) (by
      have hmodel : view.state.snapshot.model.snmpCanCreateVlan = true := by
        rw [← hcan, SnmpWriter.model, hkey]
        rfl
      exact VirtualSwitchState.applyVarbinds_createVlan hmodel hv octets) hload
  have hread := hplain'.ends_vlan v
  rw [hstore] at hread
  have hnew : ((view.store t).effect (.createVlan v name)).vlans v =
      some ⟨name, ((view.store t).vlans v).elim (fun _ => ∅) VlanEntry.lists⟩ :=
    Function.update_self v _ _
  rw [hnew] at hread
  exact ends_settle (h.ends_vlan v) hset hread (decide_eq_true (getD_textOrNone name))

theorem Plain.deleteVlan (h : view.Plain t) {v : ℤ} {force : Bool} {entry : VlanEntry}
    (hentry : (view.store t).vlans v = some entry)
    (hclash : force = true ∨ entry.lists .egress ∩ w.protectedPorts = ∅) :
    Lands t view (w.deleteVlan v force) ((view.store t).effect (.deleteVlan v)) := by
  obtain ⟨vsim, hvsim, -⟩ := Option.map_eq_some_iff.mp hentry
  have hv := (h.ready.vlan hvsim).1
  have hold : ∀ u sim, (view.state.vlans.pop v).get? u = some sim →
      view.state.vlans.get? u = some sim := by
    intro u sim hsim
    rw [PyDict.get?_pop] at hsim
    split_ifs at hsim
    exact hsim
  obtain ⟨es, hload, hready⟩ := @Ready.withVlans view h.ready (view.state.vlans.pop v) ∅
    fun u sim hsim => .inl (hold u sim hsim)
  obtain ⟨hplain', hrest⟩ := h.withVlans hready fun u sim hsim =>
    ⟨h.bound u (PyDict.mem_iff.mpr ⟨sim, hold u sim hsim⟩), h.vlans u sim (hold u sim hsim)⟩
  have hstore : StateMibView.store t ⟨view.state.withVlans (view.state.vlans.pop v) ∅, es⟩ =
      (view.store t).effect (.deleteVlan v) :=
    congrArg (fun x => (⟨x, (view.store t).pvids, (view.store t).ports⟩ : ConfigStore))
      (PyDict.map_get?_pop view.state.vlans v (VlanSim.entry t))
  have hset := @ends_setMany view t [⟨instanceOid dot1qVlanStaticRowStatus v, .int rowStatusDestroy⟩] _ es
    [(instanceOid dot1qVlanStaticRowStatus v, .int rowStatusDestroy)] rfl
    (VirtualSwitchState.applyVarbinds_deleteVlan hv) hload
  have hbefore := h.ends_vlan v
  have hafter := hplain'.ends_vlan v
  have hgone : ((view.store t).effect (.deleteVlan v)).vlans v = none := Function.update_self v _ _
  rw [hentry] at hbefore
  rw [hstore, hgone] at hafter
  exact ⟨_, hplain', hrest, hstore, hbefore.bind ((ends_done _).bind
    ((ends_ensure hclash _).bind (hset.bind (hafter.bind (ends_ensure rfl _)))))⟩

theorem Plain.setVlanMembership (h : view.Plain t) (hkey : w.modelKey = view.state.modelKey)
    {v port : ℤ} {mode : VlanMode} {force : Bool} {entry : VlanEntry}
    (hguard : ¬ (port ∈ w.protectedPorts ∧ ¬ force)) (hport : port ∈ view.state.ethernetPorts)
    (hentry : (view.store t).vlans v = some entry)
    (haudible : ∀ c, Audible t view.state.vlanWidth (editLists port mode entry.lists c)) :
    Lands t view (w.setVlanMembership v port mode force)
      ((view.store t).effect (.setVlanMembership v port mode)) := by
  obtain ⟨vsim, hvsim, rfl⟩ := Option.map_eq_some_iff.mp hentry
  have hplain := h.vlans v vsim hvsim
  have hheld : ∀ c, view.state.heardIn t vsim c = vsim.held c := fun c =>
    heardPorts_of_audible (hplain.audible c) fun p hp => h.pos p (hplain.within c hp)
  have hedited : ∀ c, view.state.editedPorts t vsim port mode c = editLists port mode vsim.held c := by
    intro c
    have hstart : view.state.startsFrom t vsim c = vsim.held c := by
      rw [VirtualSwitchState.startsFrom, hheld, Finset.inter_eq_left.mpr (hplain.within c), ite_self]
    rw [VirtualSwitchState.editedPorts, hstart, editLists]
  have hsubset : ∀ c, editLists port mode vsim.held c ⊆ view.state.ethernetPorts := by
    intro c
    rw [editLists]
    split_ifs
    · exact Finset.insert_subset hport (hplain.within c)
    · exact (Finset.erase_subset _ _).trans (hplain.within c)
  have hlists : (view.state.editedSim t vsim port mode).held = editLists port mode vsim.held := by
    funext c
    cases c with
    | egress =>
      have hconfigured : view.state.editedPorts t vsim port mode .egress ∪ vsim.configuredOnly =
          editLists port mode vsim.held .egress := by
        rw [hplain.only, Finset.union_empty, hedited]
      rw [VlanSim.held, if_pos (show (view.state.editedSim t vsim port mode).staticRow = true from
        hplain.static)]
      exact hconfigured
    | untagged => exact hedited .untagged
  have hplainEdited : PlainVlan t view.state.vlanWidth view.state.ethernetPorts
      (view.state.editedSim t vsim port mode) := by
    refine ⟨hplain.static, hplain.only, fun c => ?_, fun c => ?_⟩
    · rw [hlists]
      exact hsubset c
    · rw [hlists]
      exact haudible c
  obtain ⟨⟨s, es⟩, hstate, hready, hends⟩ := @ends_setVlanMembership view v vsim w t port mode force
    h.ready hkey h.ports hguard (h.pos port hport) hvsim
  obtain rfl : s = _ := hstate
  obtain ⟨hplain', hrest⟩ := h.withVlans hready (by
    intro u sim hsim
    rw [PyDict.get?_set] at hsim
    split_ifs at hsim with hu
    · subst hu
      obtain rfl := Option.some.inj hsim
      exact ⟨h.bound u (PyDict.mem_iff.mpr ⟨vsim, hvsim⟩), hplainEdited⟩
    · exact ⟨h.bound u (PyDict.mem_iff.mpr ⟨sim, hsim⟩), h.vlans u sim hsim⟩)
  have hsimEntry : (view.state.editedSim t vsim port mode).entry t =
      { vsim.entry t with lists := editLists port mode (vsim.entry t).lists } := by
    rw [VlanSim.entry, hlists]
    rfl
  refine ⟨_, hplain', hrest, ?_, ?_⟩
  · rw [ConfigStore.effect, hentry, Option.map_some, ← hsimEntry]
    exact congrArg (fun x => (⟨x, (view.store t).pvids, (view.store t).ports⟩ : ConfigStore))
      (PyDict.map_get?_set view.state.vlans v _ (VlanSim.entry t))
  · rw [if_pos] at hends
    · exact hends
    · have hheard : ∀ c, VirtualSwitchState.heardIn t (view.state.withVlans
          (view.state.vlans.set v (view.state.editedSim t vsim port mode)) ∅)
          (view.state.editedSim t vsim port mode) c = view.state.editedPorts t vsim port mode c := by
        intro c
        rw [hedited, ← hlists]
        exact heardPorts_of_audible (hplainEdited.audible c) fun p hp =>
          h.pos p (hplainEdited.within c hp)
      exact ⟨by rw [hheard], by rw [hheard]⟩

theorem Plain.setPvid (h : view.Plain t) {port v : ℤ} {force : Bool} {entry : VlanEntry}
    (hguard : ¬ (port ∈ w.protectedPorts ∧ ¬ force)) (hport : port ∈ view.state.ethernetPorts)
    (hentry : (view.store t).vlans v = some entry) :
    Lands t view (w.setPvid port v force) ((view.store t).effect (.setPvid port v)) := by
  obtain ⟨vsim, hvsim, -⟩ := Option.map_eq_some_iff.mp hentry
  have hv := (h.ready.vlan hvsim).1
  have hbound := h.bound v (PyDict.mem_iff.mpr ⟨vsim, hvsim⟩)
  have hpos : 0 ≤ port := le_trans (by decide) (h.pos port hport)
  obtain ⟨es, hload, hready⟩ := h.ready.withPvid hpos ⟨hv, hbound⟩
  have hplain' : (⟨view.state.withPvid port v, es⟩ : StateMibView).Plain t :=
    ⟨hready, h.ports, h.pos, h.bound, h.vlans⟩
  have hstore : StateMibView.store t ⟨view.state.withPvid port v, es⟩ =
      (view.store t).effect (.setPvid port v) := by
    have hpvids : (fun p => (view.state.withPvid port v).pvids.get? p) =
        Function.update (fun p => view.state.pvids.get? p) port (some v) := by
      funext p
      rw [VirtualSwitchState.get?_withPvid]
      by_cases hp : p = port
      · rw [if_pos hp, hp, Function.update_self]
      · rw [if_neg hp, Function.update_of_ne hp]
    exact congrArg (fun x => (⟨(view.store t).vlans, x, (view.store t).ports⟩ : ConfigStore)) hpvids
  obtain ⟨hread, hfind⟩ := h.ends_known v
  have hknown : (view.state.heardVlans t).any (·.vlanId = v) = true := by
    rw [any_vlanId_iff, hfind, hentry]
    rfl
  have hset := @ends_setMany view t [⟨instanceOid dot1qPvid port, .int v⟩] _ es
    [(instanceOid dot1qPvid port, .int v)] rfl (VirtualSwitchState.applyVarbinds_setPvid hpos) hload
  have hlanded : (port, v) ∈ (view.state.withPvid port v).ethernetPvids := by
    refine List.mem_filter.mpr ⟨?_, decide_eq_true hport⟩
    rw [PyDict.mem_sortedItems, VirtualSwitchState.get?_withPvid, if_pos rfl]
  exact ⟨_, hplain', ⟨fun _ => rfl, rfl⟩, hstore, (ends_guard hguard).bind (hread.bind
    ((ends_ensure hknown _).bind (ends_settle (ends_getPvids h.ready.current h.ready.served t h.ports)
      hset (ends_getPvids hready.current hready.served t h.ports) (decide_eq_true hlanded))))⟩

/-- `_port_status` answers what there is of an Ethernet port. -/
theorem Plain.ends_portStatus (h : view.Plain t) {port : ℤ} {sim : PortSim}
    (hport : port ∈ view.state.ethernetPorts) (hsim : view.state.ports.get? port = some sim) :
    Ends ((agent t).machine t) (SnmpWriter.portStatus port) view (.ok (some (sim.heard t port))) view := by
  have hfind : (view.state.heardStatuses t).find? (·.port = port) = some (sim.heard t port) := by
    have hentry := PyDict.find?_filterMap_get? (fun status : PortStatus => status.port)
      (PortSim.heard t) (fun _ _ => rfl) view.state.ports (PySet.sorted view.state.ethernetPorts) port
    rw [if_pos (PySet.mem_sorted.mpr hport), hsim] at hentry
    exact hentry
  rw [← hfind]
  exact (ends_getPorts h.ready.current h.ready.served t h.ports).bind (ends_done _)

/-- A port whose flags or description change leaves a plain switch. -/
theorem Plain.withPort (h : view.Plain t) {port : ℤ} {sim : PortSim} {admin link : Bool}
    {description : Option Text} {es : List MibEntry} (hsim : view.state.ports.get? port = some sim)
    (hready : (⟨view.state.withPort port { sim with
      admin := admin, link := link, description := description }, es⟩ : StateMibView).Ready) :
    (⟨view.state.withPort port { sim with
        admin := admin, link := link, description := description }, es⟩ : StateMibView).Plain t ∧
      view.state.SameRest (view.state.withPort port { sim with
        admin := admin, link := link, description := description }) := by
  have hrest : view.state.SameRest (view.state.withPort port { sim with
      admin := admin, link := link, description := description }) := by
    refine ⟨fun p => ?_, rfl⟩
    rw [VirtualSwitchState.get?_withPort]
    by_cases hp : p = port
    · rw [if_pos hp, hp, hsim]
      rfl
    · rw [if_neg hp]
  refine ⟨⟨hready, fun hnil => ?_, ?_, h.bound, ?_⟩, hrest⟩
  · have hget := view.state.get?_withPort port { sim with
      admin := admin, link := link, description := description } port
    rw [if_pos rfl] at hget
    have hmem := PyDict.mem_items_of_get? hget
    rw [hnil] at hmem
    cases hmem
  · rw [hrest.ethernetPorts]
    exact h.pos
  · rw [hrest.ethernetPorts, hrest.vlanWidth]
    exact h.vlans

/-- The store after a change of one port. -/
theorem store_withPort (t : Transport) (view : StateMibView) (port : ℤ) (sim : PortSim)
    (es : List MibEntry) : StateMibView.store t ⟨view.state.withPort port sim, es⟩ =
      { view.store t with
        ports := Function.update (view.store t).ports port (some (sim.entry t)) } :=
  congrArg (fun x => (⟨(view.store t).vlans, (view.store t).pvids, x⟩ : ConfigStore))
    (PyDict.map_get?_set view.state.ports port sim (PortSim.entry t))

theorem Plain.setPortEnabled (h : view.Plain t) {port : ℤ} {enabled force : Bool}
    (hguard : ¬ (enabled = false ∧ port ∈ w.protectedPorts ∧ ¬ force))
    (hport : port ∈ view.state.ethernetPorts) :
    Lands t view (w.setPortEnabled port enabled force)
      ((view.store t).effect (.setPortEnabled port enabled)) := by
  obtain ⟨sim, hsim⟩ := VirtualSwitchState.get?_of_mem_ethernetPorts hport
  have hpos : 0 ≤ port := le_trans (by decide) (h.pos port hport)
  obtain ⟨es, hload, hready⟩ := @Ready.withPort view h.ready port sim enabled (enabled && sim.link)
    sim.description hsim fun _ htext => .inl htext
  obtain ⟨hplain', hrest⟩ := h.withPort hsim hready
  have hstore := store_withPort t view port { sim with admin := enabled, link := enabled && sim.link } es
  have hentry : (view.store t).ports port = some (sim.entry t) := by
    show (view.state.ports.get? port).map (PortSim.entry t) = _
    rw [hsim]
    rfl
  have hset := @ends_setMany view t
    [⟨instanceOid Snmp.ifAdminStatus port, .int (if enabled then 1 else 2)⟩] _ es
    [(instanceOid Snmp.ifAdminStatus port, .int (if enabled then 1 else 2))] rfl
    (VirtualSwitchState.applyVarbinds_setPortEnabled hpos hsim enabled) hload
  have hport' : port ∈ (view.state.withPort port { sim with
      admin := enabled, link := enabled && sim.link }).ethernetPorts := by
    rw [hrest.ethernetPorts]
    exact hport
  have hafter := hplain'.ends_portStatus hport' ((view.state.get?_withPort port _ port).trans (if_pos rfl))
  have hsettle := @ends_settle _ _ _ _ _ _ _ (fun after : Option PortStatus =>
    after.any fun status => status.adminEnabled = enabled) _ _ (h.ends_portStatus hport hsim) hset
    hafter (decide_eq_true rfl)
  refine ⟨_, hplain', hrest, ?_, ?_⟩
  · rw [hstore, ConfigStore.effect, hentry]
    rfl
  · unfold SnmpWriter.setPortEnabled
    cases enabled with
    | true => exact (ends_done _).bind hsettle
    | false => exact (ends_guard fun hprotected => hguard ⟨rfl, hprotected⟩).bind hsettle

theorem Plain.setPortDescription (h : view.Plain t) {port : ℤ} {description : Text} {force : Bool}
    (hguard : ¬ (port ∈ w.protectedPorts ∧ ¬ force)) (hport : port ∈ view.state.ethernetPorts)
    (hsayable : Sayable t description) :
    Lands t view (w.setPortDescription port description force)
      ((view.store t).effect (.setPortDescription port description)) := by
  obtain ⟨sim, hsim⟩ := VirtualSwitchState.get?_of_mem_ethernetPorts hport
  obtain ⟨octets, hwire, hheard⟩ := hsayable
  have hpos : 0 ≤ port := le_trans (by decide) (h.pos port hport)
  let stored : Option Text := if octets = [] then none else some (PyCodec.latin1Decode octets)
  have hstored : textOrNone (stored.map (heardName t)) = textOrNone (some description) := by
    by_cases hnil : octets = []
    · have hempty : description = [] := by
        rw [← hheard, hnil]
        cases t <;> rfl
      rw [show stored = none from if_pos hnil, hempty]
      rfl
    · rw [show stored = some _ from if_neg hnil, Option.map_some, heardName_latin1Decode, hheard]
  obtain ⟨es, hload, hready⟩ := @Ready.withPort view h.ready port sim sim.admin sim.link stored hsim (by
    intro text htext
    refine .inr ?_
    by_cases hnil : octets = []
    · rw [show stored = none from if_pos hnil] at htext
      cases htext
    · rw [show stored = some _ from if_neg hnil] at htext
      rw [← Option.some.inj htext, PyCodec.latin1Encode_latin1Decode]
      rfl)
  obtain ⟨hplain', hrest⟩ := h.withPort hsim hready
  have hstore := store_withPort t view port { sim with description := stored } es
  have hentry : (view.store t).ports port = some (sim.entry t) := by
    show (view.state.ports.get? port).map (PortSim.entry t) = _
    rw [hsim]
    rfl
  have hset := @ends_setMany view t [⟨instanceOid Snmp.ifAlias port, .str description⟩] _ es
    [(instanceOid Snmp.ifAlias port, .bytes octets)] (by
      simp only [List.mapM_cons, List.mapM_nil, hwire]
      rfl) (VirtualSwitchState.applyVarbinds_setPortDescription hpos hsim octets) hload
  have hport' : port ∈ (view.state.withPort port { sim with description := stored }).ethernetPorts := by
    rw [hrest.ethernetPorts]
    exact hport
  have hafter := hplain'.ends_portStatus hport' ((view.state.get?_withPort port _ port).trans (if_pos rfl))
  refine ⟨_, hplain', hrest, ?_, (ends_guard hguard).bind
    (ends_settle (h.ends_portStatus hport hsim) hset hafter (decide_eq_true hstored))⟩
  rw [hstore, ConfigStore.effect, hentry, PortSim.entry, hstored]
  rfl

/-! ## §6 Runs -/

/-- One write. -/
theorem Plain.write (h : view.Plain t) (hkey : w.modelKey = view.state.modelKey)
    {o : ConfigWrite × Bool}
    (hfits : Fits t view.state.vlanWidth view.state.ethernetPorts (view.store t) o) :
    ∃ view', view'.Plain t ∧ view.state.SameRest view'.state ∧
      view'.store t = ((view.store t).write w.rules o).1 ∧
      Ends ((agent t).machine t) (w.write o) view ((view.store t).write w.rules o).2 view' := by
  unfold ConfigStore.write
  cases hrefusal : (view.store t).refusal w.rules o.2 o.1 with
  | some e => exact ⟨view, h, .refl _, rfl, h.refused w hrefusal⟩
  | none =>
    obtain ⟨o, force⟩ := o
    have hguarded : ∀ {c : Prop} [Decidable c] {x : Option LibError},
        (if c then some LibError.protectedPort else x) = none → ¬ c ∧ x = none := by
      intro c _ x hx
      by_cases hc : c
      · rw [if_pos hc] at hx
        cases hx
      · rw [if_neg hc] at hx
        exact ⟨hc, hx⟩
    have hthere : ∀ {v : ℤ}, (if ((view.store t).vlans v).isSome then none else some LibError.snmp) =
        none → ∃ entry, (view.store t).vlans v = some entry := by
      intro v hx
      by_cases hsome : ((view.store t).vlans v).isSome
      · exact Option.isSome_iff_exists.mp hsome
      · rw [if_neg hsome] at hx
        cases hx
    have hlands : Lands t view (w.write (o, force)) ((view.store t).effect o) := by
      cases o with
      | createVlan v name =>
        obtain ⟨hv, hbound, hname⟩ := hfits
        have hcan : w.model.snmpCanCreateVlan = true := by
          by_contra hcan
          have hsome : some LibError.unsupportedCapability = none := (if_neg hcan).symm.trans hrefusal
          cases hsome
        exact h.createVlan hkey hcan hv hbound hname
      | deleteVlan v =>
        rw [ConfigStore.refusal] at hrefusal
        cases hentry : (view.store t).vlans v with
        | none =>
          rw [hentry] at hrefusal
          cases hrefusal
        | some entry =>
          rw [hentry] at hrefusal
          by_cases hclash : force = true ∨ entry.lists .egress ∩ w.protectedPorts = ∅
          · exact h.deleteVlan hentry hclash
          · have hsome : some LibError.protectedPort = none := (if_neg hclash).symm.trans hrefusal
            cases hsome
      | setVlanMembership v port mode =>
        obtain ⟨hguard, habsent⟩ := hguarded hrefusal
        obtain ⟨entry, hentry⟩ := hthere habsent
        exact h.setVlanMembership hkey hguard hfits.1 hentry (hfits.2 entry hentry)
      | setPvid port v =>
        obtain ⟨hguard, habsent⟩ := hguarded hrefusal
        obtain ⟨entry, hentry⟩ := hthere habsent
        exact h.setPvid hguard hfits hentry
      | setPortEnabled port enabled => exact h.setPortEnabled (hguarded hrefusal).1 hfits
      | setPortDescription port description =>
        exact h.setPortDescription (hguarded hrefusal).1 hfits.1 hfits.2
    exact hlands

/-- The writers refine the store. -/
theorem refines_write (w : SnmpWriter) (t : Transport) (view : StateMibView)
    (hkey : w.modelKey = view.state.modelKey) :
    Refines ((agent t).machine t) w.write
      (fun view' => view'.Plain t ∧ view.state.SameRest view'.state) (store t)
      (ConfigStore.write w.rules) (Fits t view.state.vlanWidth view.state.ethernetPorts) := by
  refine ⟨fun view₁ o ⟨hplain, hrest⟩ hfits => ?_⟩
  rw [← hrest.vlanWidth, ← hrest.ethernetPorts] at hfits
  obtain ⟨view₂, hplain₂, hrest₂, hstore, hends⟩ :=
    hplain.write (hkey.trans hrest.modelKey.symm) hfits
  exact ⟨view₂, ⟨hplain₂, hrest.trans hrest₂⟩, hstore, hends⟩

end StateMibView

theorem plain_twoPortsView : twoPortsView.Plain .netsnmp where
  ready := ready_twoPortsView
  ports := by decide
  pos := by decide
  bound := by decide
  vlans v vsim hvsim := by
    have hmem := PyDict.mem_items_of_get? hvsim
    rcases List.mem_cons.mp hmem with h | h
    · cases h
      exact ⟨rfl, rfl, fun c => by cases c <;> decide, fun c _ => by cases c <;> decide +kernel⟩
    · cases List.mem_singleton.mp h
      exact ⟨rfl, rfl, fun c => by cases c <;> decide, fun c _ => by cases c <;> decide +kernel⟩

end NetgearSwitch.Virtual
