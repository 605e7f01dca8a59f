import Mathlib.Data.Int.Interval
import NetgearSwitch.Virtual.CliReadback
import NetgearSwitch.Virtual.NsdpRuns
import NetgearSwitch.Virtual.WebGs728tpp

/-!
# Three views of the VLANs

The VLAN table of one state as read back over its CLI page, its GoAhead page and its NSDP
answer.  The first lists the ports of a VLAN, the second the VLANs of a port, the third two
bitmaps a VLAN; on the ports a face renders all three say what the state says.
-/

namespace NetgearSwitch.Virtual

open Cli Http Nsdp BigEndian PyText

/-! ## §1 The views -/

/-- What a face says of a VLAN. -/
structure VlanView where
  member : Finset ℤ
  tagged : Finset ℤ
  untagged : Finset ℤ
  deriving DecidableEq

/-- A VLAN on some of the ports. -/
def VlanSim.view (vsim : VlanSim) (ports : Finset ℤ) : VlanView where
  member := vsim.member ∩ ports
  tagged := (vsim.member \ vsim.untagged) ∩ ports
  untagged := vsim.untagged ∩ ports

namespace VirtualSwitchState

/-- A VLAN off `show vlan <id>`. -/
def cliView (s : VirtualSwitchState) (v : ℤ) : ℤ × VlanView :=
  let info := parseVlanDetail (s.renderVlanDetail v) none
  (info.vlanId, ⟨info.memberPorts, info.taggedPorts, info.untaggedPorts⟩)

/-- A VLAN off the GoAhead port page, put together as `parse_goahead_vlans` does. -/
def goaheadView (s : VirtualSwitchState) (v : ℤ) : Except LibError VlanView :=
  (parseGoaheadPortVlanMembership s.renderPvidsMembership).map fun table =>
    let (tagged, untagged) := (table.get? v).getD (∅, ∅)
    ⟨tagged ∪ untagged, tagged, untagged⟩

/-- A membership TLV. -/
def nsdpVlanView (s : VirtualSwitchState) (value : Bytes) : Option (ℤ × VlanView) :=
  (parseVlanMembers value s.model.portCount).map fun m =>
    (m.vlanId, ⟨m.memberPorts, m.taggedPorts, m.untaggedPorts⟩)

/-- The membership TLVs of an NSDP read; `none` stands for one that does not parse. -/
def nsdpView (s : VirtualSwitchState) (salt : Bytes) (tags : List ℕ) :
    Except NsdpFault (List (Option (ℤ × VlanView))) :=
  (s.nsdpTlvs salt tags).2.map fun tlvs =>
    (tlvs.filter fun t => t.tag = Tag.vlanMembers).map fun t => s.nsdpVlanView t.value

/-- A VLAN that every face can print. -/
structure VlanPrintable (v : ℤ) (vsim : VlanSim) : Prop where
  id_pos : 1 ≤ v
  id_le : v ≤ 65535
  member_pos : ∀ p ∈ vsim.member, 0 < p
  untagged_sub : vsim.untagged ⊆ vsim.member
  name_line : OneLine vsim.name

/-- A state whose VLANs every face can print. -/
structure VlansPrintable (s : VirtualSwitchState) : Prop where
  ports_pos : ∀ p ∈ s.ports, 0 < p
  ifaces : IfacesReadable s
  vlans : ∀ v vsim, s.vlans.get? v = some vsim → VlanPrintable v vsim

/-! ## §2 The NSDP view -/

variable {s : VirtualSwitchState}

/-- The ports an NSDP bitmap of the model has a bit for. -/
def nsdpPorts (s : VirtualSwitchState) : Finset ℤ :=
  @Finset.Icc ℤ Int.instLinearOrder.toPartialOrder.toPreorder Int.instLocallyFiniteOrder
    1 s.model.portCount

theorem isSome_portsToBitmap_of_pos {ports : Finset ℤ} (h : ∀ p ∈ ports, 0 < p) (width : ℕ) :
    (portsToBitmap ports width).isSome := by
  obtain ⟨data, hdata, _⟩ := @Bitmap.encodeNumbers_spec width (PySet.sorted ports) fun p hp =>
    h p (PySet.mem_sorted.mp hp)
  rw [portsToBitmap, hdata]
  rfl

/-- A port set that fits its bitmap is read as it was written. -/
theorem bitmapToPorts_portsToBitmap {ports : Finset ℤ} {n : ℕ} {bits : Bytes}
    (hports : ∀ p ∈ ports, 0 < p ∧ p ≤ n) (h : portsToBitmap ports (bitmapBytes n) = some bits) :
    bits.length = bitmapBytes n ∧ bitmapToPorts bits = ports := by
  have hfits : ∀ p ∈ PySet.sorted ports, 1 ≤ p ∧ p ≤ 8 * (bitmapBytes n : ℤ) := by
    intro p hp
    obtain ⟨hpos, hle⟩ := hports p (PySet.mem_sorted.mp hp)
    refine ⟨hpos, ?_⟩
    rw [bitmapBytes]
    omega
  obtain ⟨data, hdata, hlength, hnumbers⟩ := Bitmap.encodeNumbers_fits hfits
  rw [portsToBitmap, hdata] at h
  cases h
  rw [PySet.toFinset_sorted] at hnumbers
  exact ⟨hlength, hnumbers⟩

/-- A membership record whose ports fit its bitmaps is read as it was written. -/
theorem parseVlanMembers_eq {v : ℤ} {members tagged : Finset ℤ} {n : ℕ} (hv : 0 ≤ v)
    (hle : v ≤ 65535) (hmembers : ∀ p ∈ members, 0 < p ∧ p ≤ n)
    (htagged : ∀ p ∈ tagged, 0 < p ∧ p ≤ n) {vid memberBits taggedBits : Bytes}
    (hvid : packInt 2 v = some vid)
    (hmemberBits : portsToBitmap members (bitmapBytes n) = some memberBits)
    (htaggedBits : portsToBitmap tagged (bitmapBytes n) = some taggedBits) :
    parseVlanMembers (vid ++ memberBits ++ taggedBits) n = some ⟨v.toNat, members, tagged⟩ := by
  obtain ⟨hmemberLength, hmemberPorts⟩ := bitmapToPorts_portsToBitmap hmembers hmemberBits
  obtain ⟨htaggedLength, htaggedPorts⟩ := bitmapToPorts_portsToBitmap htagged htaggedBits
  have hpack : vid.length = 2 ∧ ofBytes vid = v.toNat := by
    obtain ⟨k, rfl⟩ := Int.eq_ofNat_of_zero_le hv
    have hlt : k < 256 ^ 2 := by omega
    rw [packInt, if_pos (Int.natCast_nonneg k), Int.toNat_natCast, pack_eq hlt] at hvid
    cases hvid
    exact ⟨length_toBytes 2 k, ofBytes_toBytes 2 k hlt⟩
  have hfirst : slice (vid ++ memberBits ++ taggedBits) 0 2 = vid := by
    rw [List.append_assoc]
    exact slice_append_left hpack.1
  have hsecond : slice (vid ++ memberBits ++ taggedBits) 2 (2 + bitmapBytes n) = memberBits := by
    rw [List.append_assoc, slice_append_right hpack.1.le, hpack.1, Nat.sub_self,
      Nat.add_sub_cancel_left]
    exact slice_append_left hmemberLength
  have hthird : slice (vid ++ memberBits ++ taggedBits) (2 + bitmapBytes n)
      (2 + bitmapBytes n * 2) = taggedBits := by
    have hfront : (vid ++ memberBits).length = 2 + bitmapBytes n := by
      rw [List.length_append, hpack.1, hmemberLength]
    have hwidth : 2 + bitmapBytes n * 2 - (2 + bitmapBytes n) = taggedBits.length := by
      rw [htaggedLength]
      omega
    rw [slice_append_right hfront.le, hfront, Nat.sub_self, hwidth, slice, List.take_length,
      List.drop_zero]
  have hlong : ¬ (vid ++ memberBits ++ taggedBits).length < 2 + bitmapBytes n * 2 := by
    rw [List.length_append, List.length_append, hpack.1, hmemberLength, htaggedLength]
    omega
  rw [parseVlanMembers, if_neg hlong, hfirst, hsecond, hthird, hpack.2, hmemberPorts, htaggedPorts]

theorem nsdpVlanView_eq {v : ℤ} {vsim : VlanSim} (h : VlanPrintable v vsim)
    (hle : ∀ p ∈ vsim.member, p ≤ s.model.portCount) {vid member tagged : Bytes}
    (hvid : packInt 2 v = some vid)
    (hmember : portsToBitmap vsim.member (bitmapBytes s.model.portCount) = some member)
    (htagged : portsToBitmap (vsim.member \ vsim.untagged) (bitmapBytes s.model.portCount) =
      some tagged) :
    s.nsdpVlanView (vid ++ member ++ tagged) = some (v, vsim.view s.nsdpPorts) := by
  have hports : ∀ p ∈ vsim.member, 0 < p ∧ p ≤ s.model.portCount := fun p hp =>
    ⟨h.member_pos p hp, hle p hp⟩
  have hparse := parseVlanMembers_eq (Int.le_of_lt h.id_pos) h.id_le hports
    (fun p hp => hports p (Finset.mem_sdiff.mp hp).1) hvid hmember htagged
  have hall : ∀ ports ⊆ vsim.member, ports ∩ s.nsdpPorts = ports := by
    intro ports hsub
    refine Finset.inter_eq_left.mpr fun p hp => ?_
    exact Finset.mem_Icc.mpr (hports p (hsub hp))
  have huntagged : vsim.member \ (vsim.member \ vsim.untagged) = vsim.untagged :=
    Finset.sdiff_sdiff_eq_self h.untagged_sub
  rw [nsdpVlanView, hparse, Option.map_some, NsdpVlanMembership.untaggedPorts, huntagged,
    VlanSim.view, hall _ (Finset.Subset.refl _), hall _ Finset.sdiff_subset,
    hall _ h.untagged_sub, Int.toNat_of_nonneg (Int.le_of_lt h.id_pos)]

/-- Every membership that an NSDP read reports is the VLAN's own, one a VLAN. -/
theorem nsdpView_eq (h : s.VlansPrintable)
    (hle : ∀ v vsim, s.vlans.get? v = some vsim → ∀ p ∈ vsim.member, p ≤ s.model.portCount)
    {salt : Bytes} {tags : List ℕ} (htag : Tag.vlanMembers ∈ tags) {views : List (Option (ℤ × VlanView))}
    (hread : s.nsdpView salt tags = .ok views) :
    views = s.vlans.sortedItems.map fun e => some (e.1, e.2.view s.nsdpPorts) := by
  cases htlvs : (s.nsdpTlvs salt tags).2 with
  | error fault =>
    rw [nsdpView, htlvs] at hread
    cases hread
  | ok tlvs =>
    rw [nsdpView, htlvs] at hread
    cases hread
    refine vlanMembers_of_nsdpTlvs htag htlvs fun e he vid member tagged hvid hmember htagged => ?_
    have hget := PyDict.mem_sortedItems.mp he
    exact nsdpVlanView_eq (h.vlans e.1 e.2 hget) (hle e.1 e.2 hget) hvid hmember htagged

theorem firstFailed_eq_none {checks : List (NsdpFault × Bool)} (h : ∀ c ∈ checks, c.2 = true) :
    firstFailed checks = none := by
  induction checks with
  | nil => rfl
  | cons c checks ih =>
    obtain ⟨fault, ok⟩ := c
    obtain rfl : ok = true := h _ List.mem_cons_self
    exact ih fun c hc => h c (List.mem_cons_of_mem _ hc)

private theorem firstFailed_checkWhen {answered : Prop} [Decidable answered]
    {checks : List (NsdpFault × Bool)} (h : answered → firstFailed checks = none) :
    firstFailed (checkWhen answered checks) = none := by
  unfold checkWhen
  split_ifs with ha
  · exact h ha
  · rfl

/-- A read of the membership answers, where the model name can be sent. -/
theorem nsdpView_ok (h : s.VlansPrintable) (hname : ∀ c ∈ s.modelName, c.toNat < 128)
    (salt : Bytes) {tags : List ℕ}
    (htags : ∀ t ∈ tags, t ∈ [Tag.model, Tag.mac, Tag.portCount, Tag.vlanMembers]) :
    ∃ views, s.nsdpView salt tags = .ok views := by
  have hnot : ∀ {tag : ℕ} {checks : List (NsdpFault × Bool)},
      tag ∉ [Tag.model, Tag.mac, Tag.portCount, Tag.vlanMembers] →
        firstFailed (checkWhen (tag ∈ tags) checks) = none :=
    fun hout => firstFailed_checkWhen fun hin => absurd (htags _ hin) hout
  have hboth : ∀ {tag : ℕ} {checks : List (NsdpFault × Bool)} {p : Prop} [Decidable p],
      tag ∉ [Tag.model, Tag.mac, Tag.portCount, Tag.vlanMembers] →
        firstFailed (checkWhen (tag ∈ tags ∧ p) checks) = none :=
    fun hout => firstFailed_checkWhen fun hin => absurd (htags _ hin.1) hout
  have hmodel : (asciiCheck (if s.modelName = [] then s.model.displayName else s.modelName)).2 =
      true := by
    split_ifs
    · have hdisplay : ∀ key : ModelKey, ∀ c ∈ (getModel key).displayName, c.toNat < 128 := by
        intro key
        cases key <;> decide
      rw [asciiCheck, PyCodec.asciiEncode_of_ascii (hdisplay s.modelKey)]
      rfl
    · rw [asciiCheck, PyCodec.asciiEncode_of_ascii hname]
      rfl
  have hcount : (byteCheck s.model.portCount).2 = true := by
    have hbyte : ∀ key : ModelKey, (byteCheck (getModel key).portCount).2 = true := by
      intro key
      cases key <;> decide
    exact hbyte s.modelKey
  have hmembers : firstFailed (s.vlans.sortedItems.flatMap fun e =>
      [fieldCheck 2 e.1, bitmapCheck e.2.member (bitmapBytes s.model.portCount),
        bitmapCheck (e.2.member \ e.2.untagged) (bitmapBytes s.model.portCount)]) = none := by
    refine firstFailed_eq_none fun c hc => ?_
    obtain ⟨e, he, hc⟩ := List.mem_flatMap.mp hc
    have hprintable := h.vlans e.1 e.2 (PyDict.mem_sortedItems.mp he)
    simp only [List.mem_cons, List.not_mem_nil, or_false] at hc
    rcases hc with rfl | rfl | rfl
    · have hlt : e.1.toNat < 256 ^ 2 := by
        have hle := hprintable.id_le
        omega
      rw [fieldCheck, packInt, if_pos (Int.le_of_lt hprintable.id_pos), pack_eq hlt]
      rfl
    · exact isSome_portsToBitmap_of_pos hprintable.member_pos _
    · exact isSome_portsToBitmap_of_pos
        (fun p hp => hprintable.member_pos p (Finset.mem_sdiff.mp hp).1) _
  have hchecks : firstFailed (s.readChecks tags) = none := by
    simp only [readChecks, identityChecks, configChecks, List.flatten_cons, List.flatten_nil,
      firstFailed_append, Option.or_eq_none_iff]
    refine ⟨⟨⟨⟨⟨⟨?_, ?_⟩, hboth (by decide)⟩, hboth (by decide)⟩, hboth (by decide)⟩,
      hnot (by decide)⟩, hnot (by decide), hnot (by decide), hnot (by decide), ?_, hnot (by decide),
      hnot (by decide), hnot (by decide), hnot (by decide), hnot (by decide), hnot (by decide),
      hnot (by decide), rfl⟩
    · rw [firstFailed, hmodel]
      rfl
    · refine firstFailed_checkWhen fun _ => ?_
      rw [firstFailed, hcount]
      rfl
    · exact firstFailed_checkWhen fun _ => hmembers
  cases hread : (s.nsdpTlvs salt tags).2 with
  | error fault =>
    rw [nsdpTlvs_error_iff, hchecks] at hread
    cases hread
  | ok tlvs =>
    rw [nsdpView, hread]
    exact ⟨_, rfl⟩

/-! ## §3 The three views -/

theorem goaheadView_eq (h : s.VlansPrintable) {v : ℤ} {vsim : VlanSim}
    (hv : s.vlans.get? v = some vsim) :
    s.goaheadView v = .ok (vsim.view s.wcdPhysicalPorts.toFinset) := by
  have hsub := (h.vlans v vsim hv).untagged_sub
  obtain ⟨table, htable, hports⟩ :=
    parseGoaheadPortVlanMembership_renderPvidsMembership h.ports_pos
  rw [goaheadView, htable]
  show Except.ok _ = _
  dsimp only
  rw [hports v vsim hv hsub, VlanSim.view, ← Finset.union_inter_distrib_right,
    Finset.sdiff_union_of_subset hsub]

theorem cliView_eq (h : s.VlansPrintable) {v : ℤ} {vsim : VlanSim}
    (hv : s.vlans.get? v = some vsim) :
    s.cliView v = (v, vsim.view s.physPorts.toFinset) := by
  have hprintable := h.vlans v vsim hv
  obtain ⟨hid, hmember, htagged, huntagged⟩ := parseVlanDetail_renderVlanDetail h.ifaces hv
    (Int.le_of_lt hprintable.id_pos) hprintable.name_line hprintable.untagged_sub none
  rw [cliView, hid, hmember, htagged, huntagged, VlanSim.view]

/-- **The faces agree on the VLANs.**  The CLI page and the GoAhead page give every VLAN as the
state has it, on the ports they render.  So does an NSDP read of the membership when the members
fit the port count and the model name can be sent; it then reports every VLAN once. -/
theorem vlanViews_agree (h : s.VlansPrintable) :
    (∀ v vsim, s.vlans.get? v = some vsim →
      s.cliView v = (v, vsim.view s.physPorts.toFinset) ∧
        s.goaheadView v = .ok (vsim.view s.wcdPhysicalPorts.toFinset)) ∧
    ((∀ v vsim, s.vlans.get? v = some vsim → ∀ p ∈ vsim.member, p ≤ s.model.portCount) →
      (∀ c ∈ s.modelName, c.toNat < 128) →
        ∀ salt, s.nsdpView salt [Tag.vlanMembers] =
            .ok (s.vlans.sortedItems.map fun e => some (e.1, e.2.view s.nsdpPorts)) ∧
          ∀ tags views, Tag.vlanMembers ∈ tags → s.nsdpView salt tags = .ok views →
            views = s.vlans.sortedItems.map fun e => some (e.1, e.2.view s.nsdpPorts)) := by
  refine ⟨fun v vsim hv => ⟨cliView_eq h hv, goaheadView_eq h hv⟩, fun hle hname salt => ⟨?_, ?_⟩⟩
  · obtain ⟨views, hviews⟩ := @nsdpView_ok s h hname salt [Tag.vlanMembers] (by simp)
    rw [hviews, nsdpView_eq h hle List.mem_cons_self hviews]
  · intro tags views htag hread
    exact nsdpView_eq h hle htag hread

/-- A switch with two ports and two VLANs. -/
def twoVlans (modelName : Text) : VirtualSwitchState where
  modelKey := .gs728tpp
  modelName := modelName
  ports := .ofList [(1, { name := [], admin := true, link := true, speed := 1000 }),
    (2, { name := [], admin := true, link := true, speed := 1000 })]
  vlans := .ofList [(1, { name := "default".toList, member := {1, 2}, untagged := {1, 2} }),
    (7, { name := "lab".toList, member := {2} })]
  pvids := .ofList [(1, 1), (2, 1)]

theorem vlansPrintable_twoVlans (modelName : Text) : (twoVlans modelName).VlansPrintable where
  ports_pos := by
    have hkeys : ∀ p ∈ (twoVlans []).ports.keys, 0 < p := by decide
    exact hkeys
  ifaces := by
    have hifaces : ∀ p ∈ (twoVlans []).physPorts, ((twoVlans []).iface p).length ≤ 10 ∧
        OneLine ((twoVlans []).iface p) ∧ physPort ((twoVlans []).iface p) = some p := by
      decide +kernel
    exact hifaces
  vlans := by
    have hall : ∀ e ∈ (twoVlans []).vlans.items, 1 ≤ e.1 ∧ e.1 ≤ 65535 ∧
        (∀ p ∈ e.2.member, 0 < p) ∧ e.2.untagged ⊆ e.2.member ∧ OneLine e.2.name := by decide
    intro v vsim hv
    obtain ⟨hpos, hle, hmember, hsub, hname⟩ := hall (v, vsim) (PyDict.mem_items_of_get? hv)
    exact ⟨hpos, hle, hmember, hsub, hname⟩

theorem members_twoVlans (modelName : Text) : ∀ v vsim, (twoVlans modelName).vlans.get? v = some vsim →
    ∀ p ∈ vsim.member, p ≤ (twoVlans modelName).model.portCount := by
  have hall : ∀ e ∈ (twoVlans []).vlans.items, ∀ p ∈ e.2.member,
      p ≤ (twoVlans []).model.portCount := by decide
  intro v vsim hv
  exact hall (v, vsim) (PyDict.mem_items_of_get? hv)

theorem vlanViews_agree_twoVlans :
    (twoVlans "GS728TPP".toList).cliView 7 = (7, ⟨{2}, {2}, ∅⟩) ∧
      (twoVlans "GS728TPP".toList).goaheadView 7 = .ok ⟨{2}, {2}, ∅⟩ ∧
      (twoVlans "GS728TPP".toList).nsdpView [] [Tag.vlanMembers] =
        .ok [some (1, ⟨{1, 2}, ∅, {1, 2}⟩), some (7, ⟨{2}, {2}, ∅⟩)] := by
  obtain ⟨hpages, hnsdp⟩ := vlanViews_agree (vlansPrintable_twoVlans "GS728TPP".toList)
  have hseven : (twoVlans "GS728TPP".toList).vlans.get? 7 =
      some { name := "lab".toList, member := {2} } := by decide
  obtain ⟨hcli, hweb⟩ := hpages 7 _ hseven
  obtain ⟨hread, _⟩ := hnsdp (members_twoVlans _) (by decide) []
  rw [hcli, hweb, hread]
  decide

/-- Without a name that can be sent no NSDP read answers, whatever it asks for. -/
theorem nsdpView_of_modelName : (twoVlans ['é']).VlansPrintable ∧
    (∀ v vsim, (twoVlans ['é']).vlans.get? v = some vsim →
      ∀ p ∈ vsim.member, p ≤ (twoVlans ['é']).model.portCount) ∧
    ∀ salt tags, (twoVlans ['é']).nsdpView salt tags = .error .valueError := by
  refine ⟨vlansPrintable_twoVlans _, members_twoVlans _, fun salt tags => ?_⟩
  have hread : ((twoVlans ['é']).nsdpTlvs salt tags).2 = .error .valueError := by
    rw [nsdpTlvs_error_iff]
    rfl
  rw [nsdpView, hread]
  rfl

end VirtualSwitchState

end NetgearSwitch.Virtual
