import NetgearSwitch.Virtual.NsdpConfig
import NetgearSwitch.Virtual.WebPlus

/-!
# Two backends on one store

A GS305EP and a GS105PE take writes over NSDP, and have a web page for the members of a VLAN.  A form
posted to the page of a GS305EP lands in the store as the NSDP record does; a GS105PE applies no form.
Writes of both kinds, in any order, are a run on the one store, and both backends show the client what
the store holds.

§1 the membership page on the store · §2 writes of both kinds · §3 runs
-/

namespace NetgearSwitch.Virtual

open Nsdp Http Script
open Snmp (VlanEntry PortListColumn editLists)

/-! ## §1 The membership page on the store -/

/-- Where a port stands in an entry of the store. -/
def entryMode (e : VlanEntry) (p : ℤ) : VlanMode :=
  if p ∉ e.lists .egress then .excluded else if p ∈ e.lists .untagged then .untagged else .tagged

theorem mem_member_iff_portMode (vsim : VlanSim) (p : ℤ) :
    p ∈ vsim.member ↔ vsim.portMode p ≠ .excluded := by
  unfold VlanSim.portMode
  by_cases hmember : p ∈ vsim.member
  · by_cases huntagged : p ∈ vsim.untagged <;> simp [hmember, huntagged]
  · simp [hmember]

theorem mem_untagged_iff_portMode {vsim : VlanSim} (h : vsim.untagged ⊆ vsim.member) (p : ℤ) :
    p ∈ vsim.untagged ↔ vsim.portMode p = .untagged := by
  unfold VlanSim.portMode
  by_cases hmember : p ∈ vsim.member
  · by_cases huntagged : p ∈ vsim.untagged <;> simp [hmember, huntagged]
  · have huntagged : p ∉ vsim.untagged := fun hp => hmember (h hp)
    simp [hmember, huntagged]

/-- A VLAN in which one port has changed its mode. -/
theorem nsdpEntry_of_portMode {vsim vsim' : VlanSim} (hname : vsim'.name = vsim.name)
    (hsub : vsim.untagged ⊆ vsim.member) (hsub' : vsim'.untagged ⊆ vsim'.member) {p : ℤ}
    {mode : VlanMode} (hmodes : ∀ q, vsim'.portMode q = if q = p then mode else vsim.portMode q) :
    vsim'.nsdpEntry = { vsim.nsdpEntry with lists := editLists p mode vsim.nsdpEntry.lists } := by
  have hlists : ∀ c, vsim'.nsdpEntry.lists c = editLists p mode vsim.nsdpEntry.lists c := by
    intro c
    ext q
    cases c with
    | egress =>
      refine (mem_member_iff_portMode vsim' q).trans ?_
      rw [hmodes q]
      by_cases hq : q = p
      · cases mode <;> simp [hq, editLists, PortListColumn.present, Snmp.inEgress]
      · rw [if_neg hq, ← mem_member_iff_portMode]
        cases mode <;> simp [hq, VlanSim.nsdpEntry, editLists, PortListColumn.present, Snmp.inEgress]
    | untagged =>
      refine (mem_untagged_iff_portMode hsub' q).trans ?_
      rw [hmodes q]
      by_cases hq : q = p
      · cases mode <;> simp [hq, editLists, PortListColumn.present, Snmp.inUntagged]
      · rw [if_neg hq, ← mem_untagged_iff_portMode hsub]
        cases mode <;> simp [hq, VlanSim.nsdpEntry, editLists, PortListColumn.present, Snmp.inUntagged]
  show (⟨_, _⟩ : VlanEntry) = ⟨_, _⟩
  exact congrArg₂ VlanEntry.mk hname (funext hlists)

theorem untagged_sub_setMembers (vsim : VlanSim) (n : ℕ) (f : ℤ → VlanMode) :
    (vsim.setMembers ((portNumbers n).map fun q => wire (f q))).untagged ⊆
      (vsim.setMembers ((portNumbers n).map fun q => wire (f q))).member := by
  intro p hp
  obtain ⟨hrange, hkind⟩ := mem_codedPorts.mp hp
  refine mem_codedPorts.mpr ⟨hrange, ?_⟩
  rw [Bool.or_eq_true]
  exact .inl hkind

section Rewritten

variable {room : ℕ} {ids : Finset ℤ} {s : VirtualSwitchState} {v p : ℤ} {mode : VlanMode}

theorem NsdpPlain.plusTidy (h : NsdpPlain room ids s) : s.PlusTidy := by
  intro u usim hu
  obtain ⟨-, hmember, huntagged⟩ := h.vlan u usim hu
  exact ⟨fun q hq => ⟨(hmember q hq).1, (hmember q hq).2⟩, huntagged⟩

theorem NsdpPlain.rewritten (h : NsdpPlain room ids s) (v : ℤ) (f : ℤ → VlanMode) :
    NsdpPlain room ids (Virtual.rewritten s v f) := by
  refine h.withTables (fun u usim hu => ?_) h.ports rfl h.pvids h.addresses _ _
  rw [PyDict.get?_modify] at hu
  by_cases heq : u = v
  · rw [if_pos heq] at hu
    obtain ⟨vsim, hvsim, rfl⟩ := Option.map_eq_some_iff.mp hu
    refine ⟨heq ▸ (h.vlan v vsim hvsim).1, fun q hq => ?_, untagged_sub_setMembers _ _ _⟩
    obtain ⟨hrange, -⟩ := mem_codedPorts.mp hq
    exact ⟨hrange.1, hrange.2⟩
  · rw [if_neg heq] at hu
    exact h.vlan u usim hu

/-- The form lands in the store as the NSDP record does. -/
theorem NsdpPlain.nsdpStore_rewritten (h : NsdpPlain room ids s) (hv : v ∈ s.vlans)
    (hp : 1 ≤ p ∧ p ≤ s.model.portCount) :
    (Virtual.rewritten s v fun q => if q = p then mode else s.portMode v q).nsdpStore =
      s.nsdpStore.effect (.setVlanMembership v p mode) := by
  obtain ⟨vsim, hvsim⟩ := PyDict.mem_iff.mp hv
  let written : VlanSim → VlanSim := fun vsim => vsim.setMembers
    ((portNumbers s.model.portCount).map fun q => wire (if q = p then mode else s.portMode v q))
  have hget : ∀ u, (s.vlans.modify v written).get? u =
      if u = v then (s.vlans.get? v).map written else s.vlans.get? u :=
    fun u => PyDict.get?_modify _ _ _ _
  have hmodes : ∀ q, (written vsim).portMode q = if q = p then mode else vsim.portMode q := by
    intro q
    have hafter := @portMode_rewritten s v p mode h.plusTidy hv hp q
    have hwritten : (Virtual.rewritten s v fun q =>
        if q = p then mode else s.portMode v q).vlans.get? v = some (written vsim) := by
      refine (hget v).trans ?_
      rw [if_pos rfl, hvsim]
      rfl
    rw [portMode_of_get? hwritten, portMode_of_get? hvsim] at hafter
    exact hafter
  have hentry : (written vsim).nsdpEntry =
      { vsim.nsdpEntry with lists := editLists p mode vsim.nsdpEntry.lists } :=
    @nsdpEntry_of_portMode vsim (written vsim) rfl (h.vlans.untagged_sub v vsim hvsim)
      (untagged_sub_setMembers _ _ _) p mode hmodes
  have hvlans : (fun u => ((s.vlans.modify v written).get? u).map VlanSim.nsdpEntry) =
      Function.update s.nsdpStore.vlans v
        (some { vsim.nsdpEntry with lists := editLists p mode vsim.nsdpEntry.lists }) := by
    funext u
    rw [hget]
    by_cases heq : u = v
    · rw [if_pos heq, heq, Function.update_self, hvsim]
      exact congrArg some hentry
    · rw [if_neg heq, Function.update_of_ne heq]
      rfl
  have hheld : (s.nsdpStore.vlans v).getD ⟨[], fun _ => ∅⟩ = vsim.nsdpEntry := by
    show ((s.vlans.get? v).map VlanSim.nsdpEntry).getD _ = _
    rw [hvsim]
    rfl
  have heffect : s.nsdpStore.effect (.setVlanMembership v p mode) = { s.nsdpStore with
      vlans := Function.update s.nsdpStore.vlans v
        (some { vsim.nsdpEntry with lists := editLists p mode vsim.nsdpEntry.lists }) } := by
    rw [← hheld]
    rfl
  rw [heffect]
  exact congrArg (fun x => ({ s.nsdpStore with vlans := x } : NsdpStore)) hvlans

end Rewritten

/-! ## §2 Writes of both kinds -/

/-- The two writers of one switch, and what answers the other pages. -/
structure PlusSides where
  nsdp : NsdpWriter
  web : PlusWriter
  page : VlanmemPage
  elsewhere : Machine VirtualSwitchState Http.Call (Except LibError Text)

/-- A write over NSDP, or of the membership page. -/
inductive PlusWrite
  | nsdp (o : NsdpWrite) (force : Bool)
  | web (v port : ℤ) (mode : VlanMode) (force : Bool)

/-- The world with another state of the switch in it. -/
def withServed (w : World VirtualNsdpFace) (s : VirtualSwitchState) : World VirtualNsdpFace :=
  { w with net := { w.net with server := { w.net.server with state := s } } }

namespace PlusSides

variable (sides : PlusSides)

/-- The pages of the switch that the NSDP client talks to. -/
def webFace : Machine (World VirtualNsdpFace) Http.Call (Except LibError Text) :=
  onPart (plusFace sides.page sides.web.spec sides.elsewhere) (fun w => w.net.server.state) withServed

/-- One write and what it ends with. -/
def perform (urandom : ℕ → Bytes) (network : ℕ → DatagramNet.Delivery) (w : World VirtualNsdpFace) :
    PlusWrite → World VirtualNsdpFace × Except LibError Unit
  | .nsdp o force =>
    let out := (sides.nsdp.perform (o, force)).run (clientCall urandom network) w
    (out.device, out.result)
  | .web v port mode force =>
    let out := (sides.web.setVlanMembership v port mode force).run sides.webFace w
    (out.device, out.result)

/-- Whichever backend writes, the store takes it in the same way, but for the GS105PE: its page applies
nothing, and the page that the writer reads back tells whether the port stood there before. -/
def write (c : NsdpStore) : PlusWrite → NsdpStore × Except LibError Unit
  | .nsdp o force => c.write sides.nsdp.protectedPorts (o, force)
  | .web v port mode force =>
    if sides.web.modelKey = .gs105pe ∧ ¬ (port ∈ sides.web.protectedPorts ∧ ¬ force) then
      (c, NsdpStore.verdict ((c.vlans v).map (entryMode · port) = some mode))
    else c.write sides.web.protectedPorts (.setVlanMembership v port mode, force)

end PlusSides

/-- The page is asked for a VLAN that it lists and a port that it shows. -/
def PlusWrite.Fits (room : ℕ) (ids : Finset ℤ) (portCount : ℕ) (c : NsdpStore) : PlusWrite → Prop
  | .nsdp o force => NsdpFits room ids portCount c (o, force)
  | .web v port _ _ => (c.vlans v).isSome ∧ 1 ≤ port ∧ port ≤ portCount

section Sides

variable {urandom : ℕ → Bytes} {network : ℕ → DatagramNet.Delivery} {room : ℕ} {ids : Finset ℤ}
  {w : World VirtualNsdpFace} {s : VirtualSwitchState} {sides : PlusSides}

/-- The client hears the switch as before when its VLANs have been rewritten. -/
theorem Heard.rewritten (h : Heard urandom network room ids w s) (v : ℤ) (f : ℤ → VlanMode) :
    Heard urandom network room ids (withServed w (Virtual.rewritten s v f)) (Virtual.rewritten s v f) :=
  ⟨⟨h.connected.lossless, h.connected.serving, rfl⟩,
    ⟨h.accepts.salts, h.accepts.version, h.accepts.scheme, h.accepts.password, h.accepts.name,
      h.accepts.mac, h.accepts.unlocked⟩, h.plain.rewritten v f⟩

theorem PlusSides.ends_webFace {script : HttpScript Unit} {r : Except LibError Unit}
    {s' : VirtualSwitchState} (h : Ends (plusFace sides.page sides.web.spec sides.elsewhere) script
      w.net.server.state r s') : Ends sides.webFace script w r (withServed w s') := by
  unfold PlusSides.webFace
  apply Ends.onPart
  · exact fun _ _ => rfl
  · exact fun _ _ _ => rfl
  · exact fun _ => rfl
  · exact h

/-- A VLAN of a plain switch fits two bytes, and `int` reads its number. -/
theorem NsdpPlain.printable (h : NsdpPlain room ids s) {v : ℤ} (hv : v ∈ s.vlans) :
    PyText.Printable v := by
  obtain ⟨hpos, hle⟩ := h.fitting v (h.listed v hv)
  exact PyText.printable_of_lt (k := 20) (by decide) (by decide) (by omega)

/-- A write of the page. -/
theorem Heard.web (h : Heard urandom network room ids w s) (hweb : s.modelKey = sides.web.modelKey)
    (hplus : sides.web.modelKey = .gs305ep ∨ sides.web.modelKey = .gs105pe) {v port : ℤ}
    {mode : VlanMode} {force : Bool} (hv : (s.nsdpStore.vlans v).isSome)
    (hport : 1 ≤ port ∧ port ≤ s.model.portCount) :
    ∃ w' s', Heard urandom network room ids w' s' ∧ s.SameNsdpRest s' ∧
      s'.nsdpStore = (sides.write s.nsdpStore (.web v port mode force)).1 ∧
      Ends sides.webFace (sides.web.setVlanMembership v port mode force) w
        (sides.write s.nsdpStore (.web v port mode force)).2 w' := by
  obtain ⟨e, he⟩ := Option.isSome_iff_exists.mp hv
  obtain ⟨vsim, hvsim, rfl⟩ := Option.map_eq_some_iff.mp he
  have hmem : v ∈ s.vlans := PyDict.mem_iff.mpr ⟨vsim, hvsim⟩
  obtain ⟨hpos, hle⟩ := h.plain.fitting v (h.plain.listed v hmem)
  by_cases hguard : port ∈ sides.web.protectedPorts ∧ ¬ force = true
  · have hwrite : sides.write s.nsdpStore (.web v port mode force) =
        (s.nsdpStore, .error .protectedPort) :=
      (if_neg fun hpasses => hpasses.2 hguard).trans (NsdpStore.write_refused (if_pos hguard))
    rw [hwrite]
    refine ⟨w, s, h, .refl s, rfl, ?_⟩
    exact (ends_ensure_of_not (not_not.mpr hguard) _).bind_error
  obtain rfl := h.connected.state
  rcases hplus with hpage | hpage
  · have hfits : FitsField 2 v := ⟨Int.le_of_lt hpos, by omega⟩
    have hother : ¬ (sides.web.modelKey = .gs105pe ∧
        ¬ (port ∈ sides.web.protectedPorts ∧ ¬ force = true)) := by
      rintro ⟨hkey, -⟩
      rw [hpage] at hkey
      cases hkey
    have hrefusal : w.net.server.state.nsdpStore.refusal sides.web.protectedPorts force
        (.setVlanMembership v port mode) = none := (if_neg hguard).trans (if_pos hfits)
    have hwrite : sides.write w.net.server.state.nsdpStore (.web v port mode force) =
        (w.net.server.state.nsdpStore.effect (.setVlanMembership v port mode), .ok ()) := by
      refine (if_neg hother).trans ?_
      rw [NsdpStore.write_accepted hrefusal, NsdpStore.verdict_of (show
        (w.net.server.state.nsdpStore.effect (.setVlanMembership v port mode)).Landed
          (.setVlanMembership v port mode) from trivial)]
    have hend := @ends_gs305ep sides.web sides.page sides.elsewhere _ v port mode force hpage
      (h.plain.printable hmem) hweb
      h.plain.plusTidy hmem hport hguard
    rw [hwrite]
    exact ⟨_, _, h.rewritten v _, ⟨fun _ => rfl, rfl, rfl⟩, h.plain.nsdpStore_rewritten hmem hport,
      PlusSides.ends_webFace hend⟩
  · have hwrite : sides.write w.net.server.state.nsdpStore (.web v port mode force) =
        (w.net.server.state.nsdpStore, NsdpStore.verdict
          ((w.net.server.state.nsdpStore.vlans v).map (entryMode · port) = some mode)) :=
      if_pos ⟨hpage, hguard⟩
    have hend := @ends_gs105pe sides.web sides.page sides.elsewhere _ v port mode force hpage
      (h.plain.printable hmem) hweb
      h.plain.plusTidy hmem hport hguard
    have hshown : w.net.server.state.portMode (w.net.server.state.gs105peVlan v) port = mode ↔
        (w.net.server.state.nsdpStore.vlans v).map (entryMode · port) = some mode := by
      -- VLAN 0 stands for the lowest one on this page, and no switch that is plain has it.
      rw [VirtualSwitchState.gs105peVlan, if_neg (ne_of_gt hpos), portMode_of_get? hvsim, he]
      exact (Option.some_inj).symm
    rw [hwrite, ← NsdpStore.verdict_congr hshown]
    exact ⟨w, _, h, .refl _, rfl, PlusSides.ends_webFace hend⟩

/-- The page shows each port as the store has it. -/
theorem NsdpPlain.exists_membershipPage (h : NsdpPlain room ids s)
    (hplus : sides.web.modelKey = .gs305ep ∨ sides.web.modelKey = .gs105pe) {v : ℤ} {e : VlanEntry}
    (he : s.nsdpStore.vlans v = some e) :
    ∃ path html, sides.web.spec.vlanMembershipPath = some path ∧
      plusFace sides.page sides.web.spec sides.elsewhere s (.postForm path (vlanIdForm v)) =
        (s, .ok html) ∧
      parseMembership html s.model.portCount =
        .ok (.ofList (s.webPorts.map fun p => (p, entryMode e p))) := by
  obtain ⟨vsim, hvsim, rfl⟩ := Option.map_eq_some_iff.mp he
  have hprint := h.printable (PyDict.mem_iff.mpr ⟨vsim, hvsim⟩)
  obtain ⟨-, path, hpath⟩ := spec_of_modelKey sides.web
  rcases hplus with hpage | hpage
  · have hcsrf : dialectHasCsrfHash sides.web.spec.htmlDialect = true := by
      rw [(spec_gs305ep hpage).2]
      rfl
    exact ⟨path, _, hpath, plusFace_gs305ep hpage hpath hprint (get?_vlanIdForm v).1
      VirtualSwitchState.applyMembershipForm_vlanIdForm,
      (VirtualSwitchState.parseMembership_renderMembership hcsrf hvsim).1⟩
  · have hpos := (h.fitting v (h.vlan v vsim hvsim).1).1
    have hasked := @plusFace_gs105pe sides.web sides.page sides.elsewhere s v hpage path hpath hprint
      (vlanIdForm v) (get?_vlanIdForm v).1
    rw [VirtualSwitchState.gs105peVlan, if_neg (ne_of_gt hpos)] at hasked
    exact ⟨path, _, hpath, hasked, (VirtualSwitchState.parseMembership_renderGs105peMembership hvsim
      (h.vlan v vsim hvsim).2.2).1⟩

/-! ## §3 Runs -/

/-- One write of either kind. -/
theorem PlusSides.perform_follows (hpassword : sides.nsdp.password = s.nsdpPassword)
    (hnsdp : sides.nsdp.modelKey = s.modelKey) (hweb : s.modelKey = sides.web.modelKey)
    (hplus : sides.web.modelKey = .gs305ep ∨ sides.web.modelKey = .gs105pe) {o : PlusWrite}
    (hinv : Heard urandom network room ids w w.net.server.state ∧ s.SameNsdpRest w.net.server.state)
    (hfits : PlusWrite.Fits room ids s.model.portCount w.net.server.state.nsdpStore o) :
    (Heard urandom network room ids (sides.perform urandom network w o).1
        (sides.perform urandom network w o).1.net.server.state ∧
      s.SameNsdpRest (sides.perform urandom network w o).1.net.server.state) ∧
    (sides.perform urandom network w o).1.net.server.state.nsdpStore =
      (sides.write w.net.server.state.nsdpStore o).1 ∧
    (sides.perform urandom network w o).2 = (sides.write w.net.server.state.nsdpStore o).2 := by
  obtain ⟨hheard, hrest⟩ := hinv
  have hcount : s.model.portCount = w.net.server.state.model.portCount := by
    rw [VirtualSwitchState.model, VirtualSwitchState.model, hrest.modelKey]
  rw [hcount] at hfits
  cases o with
  | nsdp o force =>
    obtain ⟨w', s', hheard', hrest', hstore, hresult, rfl⟩ := hheard.perform
      (hpassword.trans hrest.nsdpPassword.symm) (hnsdp.trans hrest.modelKey.symm) hfits
    obtain rfl := hheard'.connected.state
    exact ⟨⟨hheard', hrest.trans hrest'⟩, hstore, hresult⟩
  | web v port mode force =>
    obtain ⟨w', s', hheard', hrest', hstore, hresult, rfl⟩ :=
      @Heard.web urandom network room ids w _ sides hheard (hrest.modelKey.trans hweb) hplus v port mode
        force hfits.1 hfits.2
    obtain rfl := hheard'.connected.state
    exact ⟨⟨hheard', hrest.trans hrest'⟩, hstore, hresult⟩

end Sides

theorem hasNsdp_gs305ep : .nsdp ∈ (getModel .gs305ep).backends := by decide

/-- Two writers of a GS305EP; the one of the pages keeps off the last port. -/
def plusBackends : PlusSides where
  nsdp :=
    { modelKey := .gs305ep
      password := "password".toList
      hasNsdp := hasNsdp_gs305ep }
  web := { gs305epWriter with protectedPorts := {5} }
  page := blankVlanmemPage
  elsewhere := offPage

theorem heard_plusState : Heard (fun _ => [1, 2, 3, 4]) promptReplies 64 {1, 7, 9}
    (freshWorld (plusState .gs305ep)) (plusState .gs305ep) where
  connected := connected_freshWorld _
  accepts := ⟨fun _ => rfl, .inl rfl, .inl rfl, by decide, fun _ => by unfold AsciiName; decide,
    fun _ => rfl, fun _ => by decide⟩
  plain := nsdpPlain_of_items rfl (by decide) (by unfold AsciiName; decide) (by decide) (by decide)
    (by decide) (by decide) (by decide) (by decide) (by decide) (by decide) (by decide) (by decide)

end NetgearSwitch.Virtual
