import NetgearSwitch.Http.GoAhead
import NetgearSwitch.Virtual.State

/-!
# The `wcd` pages of the virtual GS728TPP

The port page with its VLAN lists, `render_pvids_membership` of `virtual/web_gs728tpp.py`, and
what the GoAhead reader makes of it.  The page lists the VLANs of each port; the reader turns it
into the ports of each VLAN.
-/

namespace NetgearSwitch.Virtual

open Http PyText

/-! ## §1 Rendering -/

/-- `_wcd`: the envelope around a data block. -/
def wcd (dataBlock : Text) : Text :=
  wcdProlog ++ "<DeviceConfiguration>\n<version>1.0</version>\n".toList ++ dataBlock ++
    "\n</DeviceConfiguration>\n</ResponseData>\n".toList

/-- `type="section"`. -/
def sectionAttrs : List (Text × Text) := [("type".toList, "section".toList)]

namespace VirtualSwitchState

/-- `_physical_ports`. -/
def wcdPhysicalPorts (s : VirtualSwitchState) : List ℤ :=
  (PySet.sorted s.ports.keys.toFinset).filter fun p => p ≤ s.model.portCount

/-- One `VLANEntry` of a port's `JoinVLANList`. -/
def joinEntryXml (vid : ℤ) (untagged : Bool) : Xml :=
  .node "VLANEntry"
    [.leaf "VLANID" (intText vid), .leaf "taggingMode" (if untagged then "1" else "2").toList,
      .leaf "customerMulticastTVVLANEnabled" "2".toList]

/-- The VLANs a port is in. -/
def joinEntriesXml (s : VirtualSwitchState) (p : ℤ) : List Xml :=
  s.vlans.sortedItems.filterMap fun (vid, vlan) =>
    if p ∈ vlan.member then some (joinEntryXml vid (p ∈ vlan.untagged)) else none

/-- One `Interface`. -/
def interfaceXml (s : VirtualSwitchState) (p : ℤ) : Xml :=
  .node "Interface"
    [.leaf "interfaceName" ('g' :: intText p), .leaf "interfaceType" "1".toList,
      .leaf "interfaceID" (intText p), .leaf "PVID" (intText ((s.pvids.get? p).getD 1)),
      .leaf "frameType" "1".toList, .leaf "ingressFilteringEnabled" "2".toList,
      .node "JoinVLANList" (s.joinEntriesXml p)]

/-- The section of the page. -/
def vlanInterfaceList (s : VirtualSwitchState) : Xml :=
  .elem "VLANInterfaceList".toList sectionAttrs (s.wcdPhysicalPorts.map s.interfaceXml)

/-- `render_pvids_membership`. -/
def renderPvidsMembership (s : VirtualSwitchState) : Text := wcd (Xml.render false s.vlanInterfaceList)

/-! ## §2 The page is a document -/

end VirtualSwitchState

/-- What the data block of a page of one section holds. -/
private def pageContents (sec : Xml) : List Xml :=
  [.text ['\n'], .leaf "version" "1.0".toList, .text ['\n'], sec, .text ['\n']]

/-- **The section of a page is found**, as far as its texts are read. -/
theorem goaheadSection_wcd (name : String) {children : List Xml} (hname : Xml.WfName name.toList)
    (hversion : name ≠ "version") (hchildren : Xml.FormedAll children)
    (htags : ∀ tag ∈ name.toList :: Xml.tagsAll children, '>' ∉ tag ∧ tag ≠ deviceConfiguration) :
    goaheadSection (wcd (Xml.render false (.elem name.toList sectionAttrs children))) name =
      orRaise .httpUnexpectedPage
        ((Xml.readBackAll children).map (.elem name.toList sectionAttrs)) := by
  have hattrs : Xml.WfAttrs sectionAttrs := by
    refine ⟨by decide, ?_⟩
    rw [sectionAttrs, List.forall_mem_singleton]
    exact ⟨Xml.wfName_iff.mpr (by decide), by decide⟩
  have hleaf : Xml.Wf (.leaf "version" "1.0".toList) :=
    Xml.wf_leaf (Xml.wfName_iff.mpr (by decide)) ⟨by decide, by decide⟩
  have hbreak : Xml.Formed (.text ['\n']) := List.cons_ne_nil _ _
  have hformed : Xml.FormedAll (pageContents (.elem name.toList sectionAttrs children)) :=
    ⟨hbreak, ⟨hleaf.formed, ⟨hbreak, ⟨⟨hname, hattrs, hchildren⟩, ⟨hbreak, trivial, fun _ h => h⟩,
      fun h => absurd h id⟩, fun _ h => h⟩, fun h => absurd h id⟩, fun _ h => h⟩
  have hpage : wcd (Xml.render false (.elem name.toList sectionAttrs children)) = wcdProlog ++
      (Xml.render false (.elem deviceConfiguration []
        (pageContents (.elem name.toList sectionAttrs children))) ++
          "\n</ResponseData>\n".toList) := by
    rw [wcd, Xml.render.eq_2 false deviceConfiguration, pageContents, Xml.renderAll, Xml.renderAll,
      Xml.renderAll, Xml.renderAll, Xml.renderAll, Xml.renderAll]
    simp only [List.append_assoc]
    rfl
  have hblock := goaheadDataBlock_render hformed ?_ "\n</ResponseData>\n".toList
  · have hback : Xml.readBack (.elem deviceConfiguration []
        (pageContents (.elem name.toList sectionAttrs children))) =
        (Xml.readBackAll children).map fun children => .elem deviceConfiguration []
          (pageContents (.elem name.toList sectionAttrs children)) := by
      rw [pageContents, Xml.readBack, Xml.readBackAll, Xml.readBackAll, Xml.readBackAll,
        Xml.readBackAll, Xml.readBackAll, Xml.readBackAll, Xml.readBack_of_wf hleaf, Xml.readBack,
        Xml.readBack.eq_2 name.toList]
      cases Xml.readBackAll children <;> rfl
    rw [goaheadSection, hpage, hblock, hback]
    cases Xml.readBackAll children with
    | none => rfl
    | some read =>
      have hfind : Xml.find name (.elem deviceConfiguration []
          (pageContents (.elem name.toList sectionAttrs read))) =
          some (.elem name.toList sectionAttrs read) := by
        have htext : ¬ Xml.hasTag name (.text ['\n']) = true := Bool.false_ne_true
        have hno : ¬ Xml.hasTag name (.leaf "version" "1.0".toList) = true := by
          rw [Xml.leaf, Xml.hasTag, decide_eq_true_eq]
          exact fun h => hversion (String.toList_inj.mp h).symm
        have hyes : Xml.hasTag name (.elem name.toList sectionAttrs read) = true :=
          decide_eq_true rfl
        rw [Xml.find, Xml.contents, pageContents, List.find?_cons_of_neg htext,
          List.find?_cons_of_neg hno, List.find?_cons_of_neg htext, List.find?_cons_of_pos hyes]
      show orRaise _ (Xml.find name _) = _
      rw [hfind]
      rfl
  · intro tag htag
    have hpageTags : Xml.tagsAll (pageContents (.elem name.toList sectionAttrs children)) =
        "version".toList :: (name.toList :: Xml.tagsAll children) ++ [] := rfl
    rw [hpageTags, List.append_nil] at htag
    rcases List.mem_cons.mp htag with rfl | htag
    · decide
    · exact htags tag htag

namespace VirtualSwitchState

theorem wfText_intText (n : ℤ) : Xml.WfText (intText n) := by
  refine Xml.wfText_of_not_isSpace (intText_ne_nil n) fun c hc => ⟨?_, isSpace_intText n c hc⟩
  rcases mem_intText hc with rfl | hc
  · rfl
  · simp only [isDigit, Bool.and_eq_true, decide_eq_true_eq, Char.le_def, UInt32.le_iff_toNat_le] at hc
    have hlow : 48 ≤ c.toNat := hc.1
    have hhigh : c.toNat ≤ 57 := hc.2
    simp only [Xml.isXmlChar, Bool.or_eq_true, Bool.and_eq_true, decide_eq_true_eq]
    omega

theorem wf_joinEntryXml (vid : ℤ) (untagged : Bool) :
    Xml.Wf (joinEntryXml vid untagged) ∧ ¬ Xml.startsWithText [joinEntryXml vid untagged] := by
  refine ⟨Xml.wf_node (Xml.wfName_iff.mpr (by decide)) ?_, id⟩
  simp only [List.forall_mem_cons]
  refine ⟨⟨Xml.wf_leaf (Xml.wfName_iff.mpr (by decide)) (wfText_intText vid), id⟩, ⟨?_, id⟩,
    ⟨?_, id⟩, List.forall_mem_nil _⟩
  · refine Xml.wf_leaf (Xml.wfName_iff.mpr (by decide)) ⟨?_, ?_⟩ <;> cases untagged <;> decide
  · exact Xml.wf_leaf (Xml.wfName_iff.mpr (by decide)) ⟨by decide, by decide⟩

theorem wf_interfaceXml (s : VirtualSwitchState) (p : ℤ) :
    Xml.Wf (s.interfaceXml p) ∧ ¬ Xml.startsWithText [s.interfaceXml p] := by
  have hint : ∀ (tag : String) (n : ℤ), Xml.WfName tag.toList →
      Xml.Wf (.leaf tag (intText n)) ∧ ¬ Xml.startsWithText [.leaf tag (intText n)] :=
    fun tag n htag => ⟨Xml.wf_leaf htag (wfText_intText n), id⟩
  have hword : ∀ (tag : String) (t : Text), Xml.WfName tag.toList → Xml.WfText t →
      Xml.Wf (.leaf tag t) ∧ ¬ Xml.startsWithText [.leaf tag t] :=
    fun tag t htag ht => ⟨Xml.wf_leaf htag ht, id⟩
  have hname : Xml.WfText ('g' :: intText p) := by
    refine ⟨List.cons_ne_nil _ _, ?_⟩
    rw [List.forall_mem_cons]
    exact ⟨by decide, (wfText_intText p).2⟩
  refine ⟨Xml.wf_node (Xml.wfName_iff.mpr (by decide)) ?_, id⟩
  simp only [List.forall_mem_cons]
  refine ⟨hword _ _ (Xml.wfName_iff.mpr (by decide)) hname,
    hword _ _ (Xml.wfName_iff.mpr (by decide)) ⟨by decide, by decide⟩,
    hint _ _ (Xml.wfName_iff.mpr (by decide)), hint _ _ (Xml.wfName_iff.mpr (by decide)),
    hword _ _ (Xml.wfName_iff.mpr (by decide)) ⟨by decide, by decide⟩,
    hword _ _ (Xml.wfName_iff.mpr (by decide)) ⟨by decide, by decide⟩, ⟨?_, id⟩,
    List.forall_mem_nil _⟩
  refine Xml.wf_node (Xml.wfName_iff.mpr (by decide)) fun x hx => ?_
  obtain ⟨e, _, he⟩ := List.mem_filterMap.mp hx
  rw [Option.ite_none_right_eq_some] at he
  cases he.2
  exact wf_joinEntryXml _ _

/-- The tags of the page. -/
private def pageTags : List Text :=
  ["Interface".toList, "interfaceName".toList, "interfaceType".toList, "interfaceID".toList,
    "PVID".toList, "frameType".toList, "ingressFilteringEnabled".toList, "JoinVLANList".toList,
    "VLANEntry".toList, "VLANID".toList, "taggingMode".toList,
    "customerMulticastTVVLANEnabled".toList]

private theorem mem_pageTags (s : VirtualSwitchState) :
    ∀ tag ∈ Xml.tagsAll (s.wcdPhysicalPorts.map s.interfaceXml), tag ∈ pageTags := by
  have hentry : ∀ p, ∀ tag ∈ Xml.tagsAll (s.joinEntriesXml p), tag ∈ pageTags := by
    intro p tag htag
    obtain ⟨x, hx, htag⟩ := Xml.mem_tagsAll.mp htag
    obtain ⟨e, _, he⟩ := List.mem_filterMap.mp hx
    rw [Option.ite_none_right_eq_some] at he
    cases he.2
    have hsub : ∀ tag ∈ ["VLANEntry".toList, "VLANID".toList, "taggingMode".toList,
        "customerMulticastTVVLANEnabled".toList], tag ∈ pageTags := by decide
    exact hsub tag htag
  intro tag htag
  obtain ⟨x, hx, htag⟩ := Xml.mem_tagsAll.mp htag
  obtain ⟨p, _, rfl⟩ := List.mem_map.mp hx
  have hsub : ∀ tag ∈ ["Interface".toList, "interfaceName".toList, "interfaceType".toList,
      "interfaceID".toList, "PVID".toList, "frameType".toList, "ingressFilteringEnabled".toList,
      "JoinVLANList".toList], tag ∈ pageTags := by decide
  have htags : Xml.tags (s.interfaceXml p) = ["Interface".toList, "interfaceName".toList,
      "interfaceType".toList, "interfaceID".toList, "PVID".toList, "frameType".toList,
      "ingressFilteringEnabled".toList, "JoinVLANList".toList] ++
        (Xml.tagsAll (s.joinEntriesXml p) ++ []) := rfl
  rw [htags, List.append_nil] at htag
  rcases List.mem_append.mp htag with htag | htag
  · exact hsub tag htag
  · exact hentry p tag htag

/-- The section is found in the page. -/
theorem goaheadSection_renderPvidsMembership (s : VirtualSwitchState) :
    goaheadSection s.renderPvidsMembership "VLANInterfaceList" = .ok s.vlanInterfaceList := by
  have hwf : Xml.WfAll (s.wcdPhysicalPorts.map s.interfaceXml) := by
    refine Xml.wfAll_of_elems fun x hx => ?_
    obtain ⟨p, _, rfl⟩ := List.mem_map.mp hx
    exact s.wf_interfaceXml p
  have hsection := goaheadSection_wcd "VLANInterfaceList" (Xml.wfName_iff.mpr (by decide))
    (by decide) hwf.formed ?_
  · rw [renderPvidsMembership, vlanInterfaceList, hsection, Xml.readBackAll_of_wf hwf]
    rfl
  · rw [List.forall_mem_cons]
    refine ⟨by decide, fun tag htag => ?_⟩
    have hsub : ∀ tag ∈ pageTags, '>' ∉ tag ∧ tag ≠ deviceConfiguration := by decide
    exact hsub tag (s.mem_pageTags tag htag)

/-! ## §3 What the reader makes of it -/

theorem mem_wcdPhysicalPorts {s : VirtualSwitchState} {p : ℤ} :
    p ∈ s.wcdPhysicalPorts ↔ p ∈ s.ports ∧ p ≤ s.model.portCount := by
  rw [wcdPhysicalPorts, List.mem_filter, PySet.mem_sorted, List.mem_toFinset, PyDict.mem_def,
    decide_eq_true_eq]

/-- An entry is read as it was written. -/
theorem joinEntry_joinEntryXml (vid : ℤ) (untagged : Bool) :
    searchInt (gtext (joinEntryXml vid untagged) "VLANID") = some vid ∧
      decide (gtext (joinEntryXml vid untagged) "taggingMode" = ['1']) = untagged := by
  have hvid : gtext (joinEntryXml vid untagged) "VLANID" = intText vid :=
    gtext_of_find rfl (isSpace_intText vid)
  have hmode : gtext (joinEntryXml vid untagged) "taggingMode" =
      (if untagged then "1" else "2").toList := by
    refine gtext_of_find rfl ?_
    cases untagged <;> decide
  rw [hvid, hmode]
  refine ⟨searchInt_intText vid, ?_⟩
  cases untagged <;> decide

/-- The VLANs of a port, as the reader lists them. -/
theorem joinEntries_interfaceXml (s : VirtualSwitchState) {p : ℤ} (hp : 0 ≤ p) :
    joinEntries (s.interfaceXml p) = s.vlans.sortedItems.filterMap fun e =>
      if p ∈ e.2.member then some ⟨e.1, p, decide (p ∈ e.2.untagged)⟩ else none := by
  have hname : goaheadPortNum (gtext (s.interfaceXml p) "interfaceName") = some p := by
    have htext : gtext (s.interfaceXml p) "interfaceName" = 'g' :: intText p := by
      refine gtext_of_find rfl ?_
      rw [List.forall_mem_cons]
      exact ⟨by decide, isSpace_intText p⟩
    obtain ⟨n, rfl⟩ := Int.eq_ofNat_of_zero_le hp
    rw [htext]
    exact goaheadPortNum_natText n
  have hlist : (s.interfaceXml p).find "JoinVLANList" =
      some (.node "JoinVLANList" (s.joinEntriesXml p)) := rfl
  have hentries : (Xml.node "JoinVLANList" (s.joinEntriesXml p)).findAll "VLANEntry" =
      s.joinEntriesXml p := by
    refine List.filter_eq_self.mpr fun x hx => ?_
    obtain ⟨e, _, he⟩ := List.mem_filterMap.mp hx
    rw [Option.ite_none_right_eq_some] at he
    cases he.2
    rfl
  rw [joinEntries, hname, hlist]
  dsimp only
  rw [hentries, joinEntriesXml, List.filterMap_filterMap]
  refine List.filterMap_congr fun e _ => ?_
  dsimp only
  by_cases hmember : p ∈ e.2.member
  · obtain ⟨hvid, hmode⟩ := joinEntry_joinEntryXml e.1 (decide (p ∈ e.2.untagged))
    rw [if_pos hmember, if_pos hmember, Option.bind_some, hvid, Option.map_some, hmode]
  · rw [if_neg hmember, if_neg hmember, Option.bind_none]

/-- The entries of the page. -/
def pageEntries (s : VirtualSwitchState) : List JoinEntry :=
  s.wcdPhysicalPorts.flatMap fun p => s.vlans.sortedItems.filterMap fun e =>
    if p ∈ e.2.member then some ⟨e.1, p, decide (p ∈ e.2.untagged)⟩ else none

theorem mem_pageEntries {s : VirtualSwitchState} {e : JoinEntry} :
    e ∈ s.pageEntries ↔ ∃ vsim, s.vlans.get? e.vlanId = some vsim ∧ e.port ∈ s.wcdPhysicalPorts ∧
      e.port ∈ vsim.member ∧ e.untagged = decide (e.port ∈ vsim.untagged) := by
  simp only [pageEntries, List.mem_flatMap, List.mem_filterMap, Option.ite_none_right_eq_some,
    Option.some.injEq, Prod.exists, PyDict.mem_sortedItems]
  constructor
  · rintro ⟨p, hp, vid, vsim, hv, hmember, rfl⟩
    exact ⟨vsim, hv, hp, hmember, rfl⟩
  · rintro ⟨vsim, hv, hp, hmember, huntagged⟩
    refine ⟨e.port, hp, e.vlanId, vsim, hv, hmember, ?_⟩
    rw [← huntagged]

theorem portsOfVlan_pageEntries {s : VirtualSwitchState} {v : ℤ} {vsim : VlanSim}
    (hv : s.vlans.get? v = some vsim) (hsub : vsim.untagged ⊆ vsim.member) :
    portsOfVlan s.pageEntries v = ((vsim.member \ vsim.untagged) ∩ s.wcdPhysicalPorts.toFinset,
      vsim.untagged ∩ s.wcdPhysicalPorts.toFinset) := by
  have hports : ∀ (b : Bool) (p : ℤ), p ∈ ((s.pageEntries.filter fun e =>
      e.vlanId = v && e.untagged == b).map JoinEntry.port).toFinset ↔
        p ∈ s.wcdPhysicalPorts ∧ p ∈ vsim.member ∧ decide (p ∈ vsim.untagged) = b := by
    intro b p
    simp only [List.mem_toFinset, List.mem_map, List.mem_filter, Bool.and_eq_true,
      decide_eq_true_eq, beq_iff_eq, mem_pageEntries]
    constructor
    · rintro ⟨e, ⟨⟨vsim', hv', hp, hmember, huntagged⟩, rfl, hb⟩, rfl⟩
      rw [hv] at hv'
      cases hv'
      exact ⟨hp, hmember, huntagged.symm.trans hb⟩
    · rintro ⟨hp, hmember, hb⟩
      exact ⟨⟨v, p, b⟩, ⟨⟨vsim, hv, hp, hmember, hb.symm⟩, rfl, rfl⟩, rfl⟩
  refine Prod.ext ?_ ?_
  · ext p
    simp only [portsOfVlan, hports, Finset.mem_inter, Finset.mem_sdiff, List.mem_toFinset,
      decide_eq_false_iff_not]
    tauto
  · ext p
    simp only [portsOfVlan, hports, Finset.mem_inter, List.mem_toFinset, decide_eq_true_eq]
    constructor
    · rintro ⟨hp, _, hu⟩
      exact ⟨hu, hp⟩
    · rintro ⟨hu, hp⟩
      exact ⟨hp, hsub hu, hu⟩

/-- **The GoAhead view of the VLANs.**  The page is read, and the tagged and the untagged ports
of every VLAN are its own among the physical ports. -/
theorem parseGoaheadPortVlanMembership_renderPvidsMembership {s : VirtualSwitchState}
    (hpos : ∀ p ∈ s.ports, 0 < p) :
    ∃ table, parseGoaheadPortVlanMembership s.renderPvidsMembership = .ok table ∧
      ∀ v vsim, s.vlans.get? v = some vsim → vsim.untagged ⊆ vsim.member →
        (table.get? v).getD (∅, ∅) = ((vsim.member \ vsim.untagged) ∩ s.wcdPhysicalPorts.toFinset,
          vsim.untagged ∩ s.wcdPhysicalPorts.toFinset) := by
  have hifaces : (s.vlanInterfaceList.findAll "Interface").flatMap joinEntries = s.pageEntries := by
    have hall : s.vlanInterfaceList.findAll "Interface" =
        s.wcdPhysicalPorts.map s.interfaceXml := by
      refine List.filter_eq_self.mpr fun x hx => ?_
      obtain ⟨p, _, rfl⟩ := List.mem_map.mp hx
      rfl
    rw [hall, List.flatMap_map, pageEntries]
    refine List.flatMap_congr fun p hp => ?_
    exact s.joinEntries_interfaceXml (hpos p (mem_wcdPhysicalPorts.mp hp).1).le
  refine ⟨.ofList ((PySet.sorted (s.pageEntries.map JoinEntry.vlanId).toFinset).map fun vid =>
    (vid, portsOfVlan s.pageEntries vid)), ?_, ?_⟩
  · rw [parseGoaheadPortVlanMembership, goaheadSection_renderPvidsMembership, ← hifaces]
    rfl
  intro v vsim hv hsub
  rw [PyDict.get?_ofList_map (PySet.nodup_sorted _), ← portsOfVlan_pageEntries hv hsub]
  split_ifs with hmem
  · rfl
  · -- a VLAN none of the physical ports is in is not on the page
    have hnone : ∀ e ∈ s.pageEntries, e.vlanId ≠ v := by
      rintro e he rfl
      exact hmem (PySet.mem_sorted.mpr (List.mem_toFinset.mpr (List.mem_map_of_mem he)))
    have hfilter : ∀ b, (s.pageEntries.filter fun e => e.vlanId = v && e.untagged == b) = [] := by
      intro b
      refine List.filter_eq_nil_iff.mpr fun e he => ?_
      simp [hnone e he]
    rw [portsOfVlan]
    dsimp only
    rw [hfilter, hfilter]
    rfl

end VirtualSwitchState

/-! ## §4 Writing -/

/-- How a write body is answered: with a status code, or not at all where the handler raises. -/
inductive WcdReply
  | status (code : ℕ)
  | raised
  deriving DecidableEq, Repr

/-- `(el.findtext(tag) or "").strip()`; a missing child reads as an empty one. -/
def fieldText (el : Xml) (tag : String) : Text := gtext el tag

/-- `_iface_port`: `some none` for a LAG or junk, `none` where `int` raises. -/
def ifacePort (entry : Xml) : Option (Option ℤ) :=
  match fieldText entry "interfaceName" with
  | 'g' :: ds => if isDigitText ds then (intOfDigits ds).map fun n : ℕ => some (n : ℤ) else some none
  | _ => some none

/-- A loop over elements: what it leaves, and whether it came to its end.  An element that raises ends
it. -/
def forEach {σ : Type} (f : σ → Xml → Option σ) : List Xml → σ → σ × Bool
  | [], s => (s, true)
  | el :: els, s =>
    match f s el with
    | none => (s, false)
    | some s' => forEach f els s'

/-- `section.get("action", "set")`. -/
def sectionAction (sec : Xml) : Text :=
  match sec with
  | .text _ => "set".toList
  | .elem _ attrs _ => ((attrs.find? fun a => a.1 = "action".toList).map Prod.snd).getD "set".toList

namespace VirtualSwitchState

/-- The `VLANList` section: creating, renaming and deleting VLANs. -/
def applyVlanList (action : Text) : List Xml → VirtualSwitchState → VirtualSwitchState × WcdReply
  | [], s => (s, .status 0)
  | el :: els, s =>
    let vidText := fieldText el "VLANID"
    if !isDigitText vidText then (s, .status 2)
    else
      match intOfDigits vidText with
      | none => (s, .raised)
      | some n =>
        let vid : ℤ := n
        if action = "delete".toList then applyVlanList action els { s with vlans := s.vlans.pop vid }
        else
          let name := fieldText el "VLANName"
          let vlans := if vid ∈ s.vlans then s.vlans.modify vid fun vlan => { vlan with name := name }
            else s.vlans.set vid { name := name }
          applyVlanList action els { s with vlans := vlans }

/-- One `VLANMember` of a membership write. -/
def applyVlanMember (action : Text) (vlan : VlanSim) (member : Xml) : Option VlanSim :=
  (ifacePort member).map fun
    | none => vlan
    | some port =>
      if action = "delete".toList then
        { vlan with
          member := vlan.member.erase port
          untagged := vlan.untagged.erase port }
      else
        { vlan with
          member := insert port vlan.member
          untagged := if fieldText member "taggingMode" = ['1'] then insert port vlan.untagged
            else vlan.untagged.erase port }

end VirtualSwitchState

/-- `int((el.findtext("VLANID") or "0").strip() or 0)`: an empty one reads as VLAN 0. -/
def membershipVlan (el : Xml) : Option ℤ :=
  if fieldText el "VLANID" = [] then some 0 else pyInt (fieldText el "VLANID")

/-- `vlan_el.findall("./MembershipList/VLANMember")`. -/
def vlanMembers (el : Xml) : List Xml :=
  (el.findAll "MembershipList").flatMap (Xml.findAll "VLANMember")

namespace VirtualSwitchState

/-- The `VLANMembershipList` section. -/
def applyVlanMembershipList (action : Text) :
    List Xml → VirtualSwitchState → VirtualSwitchState × WcdReply
  | [], s => (s, .status 0)
  | el :: els, s =>
    match membershipVlan el with
    | none => (s, .raised)
    | some vid =>
      match s.vlans.get? vid with
      | none => (s, .status 2)
      | some vlan =>
        match forEach (applyVlanMember action) (vlanMembers el) vlan with
        | (vlan, false) => ({ s with vlans := s.vlans.set vid vlan }, .raised)
        | (vlan, true) => applyVlanMembershipList action els { s with vlans := s.vlans.set vid vlan }

/-- One `Interface` of the `VLANInterfaceList` section. -/
def applyPvid (s : VirtualSwitchState) (iface : Xml) : Option VirtualSwitchState :=
  let pvid := fieldText iface "PVID"
  match ifacePort iface with
  | none => none
  | some none => some s
  | some (some port) =>
    if isDigitText pvid then
      (intOfDigits pvid).map fun vid : ℕ => { s with pvids := s.pvids.set port (vid : ℤ) }
    else some s

/-- One `Interface` of the `PoEPSEInterfaceList` section. -/
def applyPoeInterface (s : VirtualSwitchState) (iface : Xml) : Option VirtualSwitchState :=
  let admin := fieldText iface "adminEnable"
  (ifacePort iface).map fun
    | none => s
    | some port =>
      if admin = ['1'] ∨ admin = ['2'] then
        { s with poe := s.poe.modify port fun sim =>
          { sim with
            admin := admin = ['1']
            detect := if admin = ['1'] then 2 else 1 } }
      else s

/-- The `DeviceBasicInfo` section. -/
def applyDeviceName (s : VirtualSwitchState) (sec : Xml) : VirtualSwitchState :=
  match sec.find "deviceName" with
  | some el => { s with hostname := strip el.ownText }
  | none => s

/-- What an `Entry` of the `Standard802_3List` section makes of its port.  The three speed fields
are applied together or not at all, and returning to negotiation keeps the last rate. -/
def applyStandardEntry (entry : Xml) (sim : PortSim) : PortSim :=
  let admin := fieldText entry "adminState"
  let autoneg := fieldText entry "autoNegotiationAdminEnabled"
  let rate := fieldText entry "speedAdmin"
  let duplex := fieldText entry "duplexAdminMode"
  let sim := if admin = ['1'] then { sim with admin := true }
    else if admin = ['2'] then { sim with admin := false, link := false }
    else sim
  let sim := match entry.find "interfaceDescription" with
    | some el =>
      let desc := strip el.ownText
      { sim with description := if desc = [] then none else some desc }
    | none => sim
  if (autoneg = ['1'] ∨ autoneg = ['2']) ∧ rate ≠ [] ∧ (duplex = ['2'] ∨ duplex = ['3']) then
    { sim with
      autonegAdmin := autoneg
      duplexAdminMode := duplex
      speedAdmin := if autoneg = ['2'] then rate else sim.speedAdmin }
  else sim

def applyStandard (s : VirtualSwitchState) (entry : Xml) : Option VirtualSwitchState :=
  (ifacePort entry).map fun
    | none => s
    | some port => { s with ports := s.ports.modify port (applyStandardEntry entry) }

/-- One section of a write body: `none` where there is no handler for it. -/
def applySection (s : VirtualSwitchState) (sec : Xml) : Option (VirtualSwitchState × WcdReply) :=
  let each (tag : String) (f : VirtualSwitchState → Xml → Option VirtualSwitchState) :=
    match forEach f (sec.findAll tag) s with
    | (s', false) => some (s', WcdReply.raised)
    | (s', true) => some (s', .status 0)
  if sec.hasTag "VLANList" then some (applyVlanList (sectionAction sec) (sec.findAll "VLAN") s)
  else if sec.hasTag "VLANMembershipList" then
    some (applyVlanMembershipList (sectionAction sec) (sec.findAll "VLAN") s)
  else if sec.hasTag "VLANInterfaceList" then each "Interface" applyPvid
  else if sec.hasTag "PoEPSEInterfaceList" then each "Interface" applyPoeInterface
  else if sec.hasTag "DeviceBasicInfo" then some (s.applyDeviceName sec, .status 0)
  else if sec.hasTag "Standard802_3List" then each "Entry" applyStandard
  else none

/-- The loop of `apply_write` over the sections: a body none of whose sections has a handler is
answered with status 2. -/
def applySections (handled : Bool) : List Xml → VirtualSwitchState → VirtualSwitchState × WcdReply
  | [], s => (s, .status (if handled then 0 else 2))
  | .text _ :: rest, s => applySections handled rest s
  | sec :: rest, s =>
    match s.applySection sec with
    | none => applySections handled rest s
    | some (s', .status 0) => applySections true rest s'
    | some failed => failed

/-- `apply_cert_import`, past the parsing; the certificate is no part of the state here. -/
def applyCertImport (entry : Xml) : WcdReply :=
  .status (if fieldText entry "certificate" = [] ∨ fieldText entry "privateKey" = [] then 2 else 0)

/-- `apply_write`. -/
def applyXml (s : VirtualSwitchState) (body : Text) : VirtualSwitchState × WcdReply :=
  if PyRe.occurs "<!DOCTYPE".toList body || PyRe.occurs "<!ENTITY".toList body then (s, .status 3)
  else
    match Xml.parseDocument body with
    | none => (s, .status 1)
    | some root =>
      match ((root.findAll "SSLCryptoCertificateImportList").flatMap (Xml.findAll "Entry")).head? with
      | some entry => (s, applyCertImport entry)
      | none => applySections false root.contents s

end VirtualSwitchState

end NetgearSwitch.Virtual
