import NetgearSwitch.Virtual.NsdpHandshake

/-!
# Membership writes with any port number

A membership record is two bitmaps one after the other, and nothing says where the second one
starts.  `ports_to_bitmap` makes room for a port past the width and lets one below 1 wrap around,
so the switch may read a record that is not the one the writer meant; the writer then looks at
the named port alone.

§1 the bitmaps of a record · §2 the record as the switch reads it · §3 which ports it spares ·
§4 one write · §5 the operation
-/

namespace NetgearSwitch.Virtual

open Nsdp BigEndian

/-! ## §1 The bitmaps of a record -/

/-- The bytes of a bitmap that has room for the port. -/
def bytesFor (width : ℕ) (port : ℤ) : ℕ := max width ((port - 1) / 8 + 1).toNat

/-- The number a port is filed under: one below 1 counts from the end of the width. -/
def filedAs (width : ℕ) (port : ℤ) : ℤ := if port ≤ 0 then port + 8 * width else port

theorem portsToBitmap_fits {width : ℕ} {ports : Finset ℤ}
    (h : ∀ p ∈ ports, 1 ≤ p ∧ p ≤ 8 * (width : ℤ)) :
    ∃ bits, portsToBitmap ports width = some bits ∧ bits.length = width ∧
      Bitmap.numbers bits = ports := by
  obtain ⟨bits, hbits, hlength, hnumbers⟩ := @Bitmap.encodeNumbers_fits width (PySet.sorted ports)
    fun p hp => h p (PySet.mem_sorted.mp hp)
  rw [PySet.toFinset_sorted] at hnumbers
  exact ⟨bits, hbits, hlength, hnumbers⟩

/-- One more port in a set that fits: inside the width it takes its place, past it the bitmap
grows, and below 1 it takes another's place. -/
theorem portsToBitmap_insert {width : ℕ} {ports : Finset ℤ}
    (h : ∀ p ∈ ports, 1 ≤ p ∧ p ≤ 8 * (width : ℤ)) {port : ℤ} (hport : -(8 * width : ℤ) < port) :
    ∃ bits, portsToBitmap (insert port ports) width = some bits ∧
      bits.length = bytesFor width port ∧
      Bitmap.numbers bits = insert (filedAs width port) ports := by
  rcases lt_or_ge 0 port with hpos | hlow
  · rcases le_or_gt port (8 * width) with hfits | hpast
    · obtain ⟨bits, hbits, hlength, hnumbers⟩ := @portsToBitmap_fits width (insert port ports)
        (by
          intro p hp
          rcases Finset.mem_insert.mp hp with rfl | hp
          · exact ⟨hpos, hfits⟩
          · exact h p hp)
      refine ⟨bits, hbits, ?_, ?_⟩
      · rw [hlength, bytesFor]
        omega
      · rw [hnumbers, filedAs, if_neg (by omega)]
    · obtain ⟨bits, hbits, hlength, hnumbers⟩ :=
        @Bitmap.encodeNumbers_grow width port (PySet.sorted (insert port ports))
          (by
            intro p hp
            rcases Finset.mem_insert.mp (PySet.mem_sorted.mp hp) with rfl | hp
            · exact ⟨hpos, le_rfl⟩
            · have := h p hp
              omega)
          (PySet.mem_sorted.mpr (Finset.mem_insert_self _ _)) hpast
      refine ⟨bits, hbits, ?_, ?_⟩
      · rw [hlength, bytesFor]
        omega
      · rw [hnumbers, PySet.toFinset_sorted, filedAs, if_neg (by omega)]
  · have hsorted : PySet.sorted (insert port ports) = port :: PySet.sorted ports := by
      apply PySet.sorted_insert
      · intro p hp
        have := h p hp
        omega
      · intro hp
        have := h port hp
        omega
    obtain ⟨bits, hbits, hlength, hnumbers⟩ := @Bitmap.encodeNumbers_wrap width port
      (PySet.sorted ports) hport hlow fun p hp => h p (PySet.mem_sorted.mp hp)
    refine ⟨bits, ?_, ?_, ?_⟩
    · rw [portsToBitmap, hsorted]
      exact hbits
    · rw [hlength, bytesFor]
      omega
    · rw [hnumbers, PySet.toFinset_sorted, filedAs, if_pos hlow]

/-- A port further below 1 than the width reaches has no byte at all. -/
theorem portsToBitmap_below {width : ℕ} {ports : Finset ℤ} {port : ℤ} (hmem : port ∈ ports)
    (hport : port ≤ -(8 * width : ℤ)) : portsToBitmap ports width = none := by
  rw [portsToBitmap, ← Option.not_isSome_iff_eq_none,
    Bitmap.isSome_encodeNumbers_iff (PySet.pairwise_sorted _)]
  intro hall
  have := hall port (PySet.mem_sorted.mpr hmem)
  omega

/-! ## §2 The record as the switch reads it -/

/-- The switch splits a record by the width it expects. -/
theorem parseVlanMembers_of_bitmaps {v : ℤ} (hv : 0 ≤ v) (hle : v ≤ 65535) {n : ℕ}
    {vid a b : Bytes} (hvid : packInt 2 v = some vid) (ha : bitmapBytes n ≤ a.length)
    (hb : bitmapBytes n ≤ b.length) :
    ∃ m, parseVlanMembers (vid ++ a ++ b) n = some m ∧ (m.vlanId : ℤ) = v ∧
      (∀ q, q ∈ m.memberPorts ↔ q ∈ Bitmap.numbers a ∧ q ≤ 8 * bitmapBytes n) ∧
      ∀ q, q ∈ m.taggedPorts ↔ 1 ≤ q ∧ q ≤ 8 * bitmapBytes n ∧
        (q + 8 * bitmapBytes n ∈ Bitmap.numbers a ∨
          q + 8 * bitmapBytes n - 8 * a.length ∈ Bitmap.numbers b) := by
  have hvid' : packInt 2 v = some (toBytes 2 v.toNat) := packInt_eq hv (by omega)
  rw [hvid', Option.some.injEq] at hvid
  subst hvid
  let w := bitmapBytes n
  have hlength : (toBytes 2 v.toNat).length = 2 := length_toBytes 2 _
  have hlong : ¬ (toBytes 2 v.toNat ++ a ++ b).length < 2 + w * 2 := by
    rw [List.length_append, List.length_append, hlength]
    omega
  have hfirst : slice (toBytes 2 v.toNat ++ a ++ b) 0 2 = toBytes 2 v.toNat := by
    rw [List.append_assoc]
    exact slice_append_left hlength
  have hmember : slice (toBytes 2 v.toNat ++ a ++ b) 2 (2 + w) = slice (a ++ b) 0 w := by
    rw [List.append_assoc, slice_append_right hlength.le, hlength, Nat.sub_self,
      Nat.add_sub_cancel_left]
  have htagged : slice (toBytes 2 v.toNat ++ a ++ b) (2 + w) (2 + w * 2) =
      slice (a ++ b) w (w * 2) := by
    rw [List.append_assoc, slice_append_right (by omega), hlength, Nat.add_sub_cancel_left,
      Nat.add_sub_cancel_left]
  refine ⟨_, if_neg hlong, ?_, ?_, ?_⟩
  · show ((ofBytes (slice (toBytes 2 v.toNat ++ a ++ b) 0 2) : ℕ) : ℤ) = v
    rw [hfirst, ofBytes_toBytes 2 v.toNat (by omega)]
    omega
  · intro q
    show q ∈ bitmapToPorts (slice (toBytes 2 v.toNat ++ a ++ b) 2 (2 + w)) ↔ _
    rw [hmember]
    exact Bitmap.mem_numbers_front ha
  · intro q
    show q ∈ bitmapToPorts (slice (toBytes 2 v.toNat ++ a ++ b) (2 + w) (2 + w * 2)) ↔ _
    rw [htagged]
    exact Bitmap.mem_numbers_window

/-- The bytes of the record that a write of this port in this mode sends. -/
def recordLength (n : ℕ) (port : ℤ) : VlanMode → ℕ
  | .excluded => 2 + (bitmapBytes n + bitmapBytes n)
  | .tagged => 2 + (bytesFor (bitmapBytes n) port + bytesFor (bitmapBytes n) port)
  | .untagged => 2 + (bytesFor (bitmapBytes n) port + bitmapBytes n)

/-- The numbers of the first bitmap. -/
def sentMembers (n : ℕ) (vsim : VlanSim) (port : ℤ) (mode : VlanMode) : Finset ℤ :=
  if mode = .excluded then vsim.member.erase port
  else insert (filedAs (bitmapBytes n) port) vsim.member

/-- The numbers of the second bitmap. -/
def sentTagged (n : ℕ) (vsim : VlanSim) (port : ℤ) (mode : VlanMode) : Finset ℤ :=
  if mode = .tagged then insert (filedAs (bitmapBytes n) port) (vsim.member \ vsim.untagged)
  else (vsim.member \ vsim.untagged).erase port

/-- By how many bytes the first bitmap outgrows its width. -/
def overhang (n : ℕ) (port : ℤ) (mode : VlanMode) : ℕ :=
  if mode = .excluded then 0 else bytesFor (bitmapBytes n) port - bitmapBytes n

/-- A write of any port that reaches no further below 1 than the width: its record, and the sets
the switch makes of it. -/
theorem exists_sentRecord {n : ℕ} {vsim : VlanSim} (hmember : ∀ p ∈ vsim.member, 0 < p ∧ p ≤ n)
    {v : ℤ} (hv : 0 ≤ v) (hle : v ≤ 65535) {port : ℤ} {mode : VlanMode}
    (hport : mode = .excluded ∨ -(8 * bitmapBytes n : ℤ) < port) :
    let sets := NsdpWriter.membersAfter (some (vsim.nsdpInfo v)) port mode
    ∃ t m, vlanMembersTlv v sets.1 sets.2 n = .ok t ∧ t.tag = Tag.vlanMembers ∧
      t.value.length = recordLength n port mode ∧ parseVlanMembers t.value n = some m ∧
      (m.vlanId : ℤ) = v ∧
      (∀ q, q ∈ m.memberPorts ↔ q ∈ sentMembers n vsim port mode ∧ q ≤ 8 * bitmapBytes n) ∧
      ∀ q, q ∈ m.taggedPorts ↔ 1 ≤ q ∧ q ≤ 8 * bitmapBytes n ∧
        (q + 8 * bitmapBytes n ∈ sentMembers n vsim port mode ∨
          q - 8 * overhang n port mode ∈ sentTagged n vsim port mode) := by
  intro sets
  have hbytes : (n : ℤ) ≤ 8 * bitmapBytes n := by
    rw [bitmapBytes]
    omega
  have hfits : ∀ p ∈ vsim.member, 1 ≤ p ∧ p ≤ 8 * (bitmapBytes n : ℤ) := fun p hp => by
    have := hmember p hp
    omega
  have htagged : ∀ p ∈ vsim.member \ vsim.untagged, 1 ≤ p ∧ p ≤ 8 * (bitmapBytes n : ℤ) :=
    fun p hp => hfits p (Finset.mem_sdiff.mp hp).1
  have herase : ∀ {ports : Finset ℤ}, (∀ p ∈ ports, 1 ≤ p ∧ p ≤ 8 * (bitmapBytes n : ℤ)) →
      ∀ p ∈ ports.erase port, 1 ≤ p ∧ p ≤ 8 * (bitmapBytes n : ℤ) :=
    fun h p hp => h p (Finset.mem_of_mem_erase hp)
  have hvid : packInt 2 v = some (toBytes 2 v.toNat) := packInt_eq hv (by omega)
  -- the two bitmaps, whatever the mode
  obtain ⟨a, b, ha, hb, hlength, hfirst, hsecond, hover⟩ :
      ∃ a b, portsToBitmap sets.1 (bitmapBytes n) = some a ∧
        portsToBitmap sets.2 (bitmapBytes n) = some b ∧
        2 + (a.length + b.length) = recordLength n port mode ∧
        Bitmap.numbers a = sentMembers n vsim port mode ∧
        Bitmap.numbers b = sentTagged n vsim port mode ∧
        a.length = bitmapBytes n + overhang n port mode ∧ bitmapBytes n ≤ b.length := by
    have hgrown : bitmapBytes n ≤ bytesFor (bitmapBytes n) port := le_max_left _ _
    cases mode with
    | excluded =>
      obtain ⟨a, ha, hla, hna⟩ := portsToBitmap_fits (herase hfits)
      obtain ⟨b, hb, hlb, hnb⟩ := portsToBitmap_fits (herase htagged)
      exact ⟨a, b, ha, hb, by rw [hla, hlb]; rfl, hna, hnb, hla, hlb.ge⟩
    | tagged =>
      have hlow := hport.resolve_left (by decide)
      obtain ⟨a, ha, hla, hna⟩ := portsToBitmap_insert hfits hlow
      obtain ⟨b, hb, hlb, hnb⟩ := portsToBitmap_insert htagged hlow
      refine ⟨a, b, ha, hb, by rw [hla, hlb]; rfl, hna, hnb, ?_, hlb ▸ hgrown⟩
      rw [hla, overhang, if_neg (by decide)]
      omega
    | untagged =>
      have hlow := hport.resolve_left (by decide)
      obtain ⟨a, ha, hla, hna⟩ := portsToBitmap_insert hfits hlow
      obtain ⟨b, hb, hlb, hnb⟩ := portsToBitmap_fits (herase htagged)
      refine ⟨a, b, ha, hb, by rw [hla, hlb]; rfl, hna, hnb, ?_, hlb.ge⟩
      rw [hla, overhang, if_neg (by decide)]
      omega
  obtain ⟨m, hparse, hid, hmembers, htags⟩ := parseVlanMembers_of_bitmaps hv hle hvid
    (by omega : bitmapBytes n ≤ a.length) hover.2
  refine ⟨⟨Tag.vlanMembers, toBytes 2 v.toNat ++ a ++ b⟩, m, ?_, rfl, ?_, hparse, hid, ?_, ?_⟩
  · rw [vlanMembersTlv, hvid, ha, hb]
    rfl
  · show (toBytes 2 v.toNat ++ a ++ b).length = _
    rw [List.length_append, List.length_append, length_toBytes, ← hlength, Nat.add_assoc]
  · intro q
    rw [hmembers, hfirst]
  · intro q
    have hmoved : q + 8 * (bitmapBytes n : ℤ) - 8 * (a.length : ℤ) =
        q - 8 * (overhang n port mode : ℤ) := by
      rw [hover.1]
      omega
    rw [htags, hfirst, hsecond, hmoved]

/-! ## §3 Which ports it spares -/

/-- Every real port but the named one stays as the VLAN has it. -/
def VlanSim.Spared (vsim : VlanSim) (n : ℕ) (port : ℤ) (m : NsdpVlanMembership) : Prop :=
  ∀ q, q ≠ port → 1 ≤ q → q ≤ n → (q ∈ m.memberPorts ↔ q ∈ vsim.member) ∧
    (q ∈ m.untaggedPorts ↔ q ∈ vsim.untagged)

/-- Is the port in the VLAN and tagged there? -/
def VlanSim.IsTagged (vsim : VlanSim) (q : ℤ) : Prop := q ∈ vsim.member ∧ q ∉ vsim.untagged

instance (vsim : VlanSim) (q : ℤ) : Decidable (vsim.IsTagged q) :=
  inferInstanceAs (Decidable (_ ∧ _))

/-- Which ports a record spares the others for: any port to be excluded; a port with a place of
its own in the bitmaps; one that wraps around to a place that is no port's, or whose port is in
the mode asked for already; and one past the width where the flags that move up fall on equal
ones. -/
def VlanSim.SparesOthers (vsim : VlanSim) (n : ℕ) (port : ℤ) (mode : VlanMode) : Prop :=
  let w : ℤ := bitmapBytes n
  mode = .excluded ∨ (0 < port ∧ port ≤ 8 * w) ∨
    (port ≤ 0 ∧ (n < port + 8 * w ∨
      port + 8 * w ∈ vsim.member ∧ (mode = .tagged → port + 8 * w ∉ vsim.untagged))) ∨
    (8 * w < port ∧ ∀ q ∈ vsim.member, (q ∉ vsim.untagged ↔
      q + 8 * w = port ∨ vsim.IsTagged (q - 8 * ((port - 1) / 8 + 1 - w))))

section Sent

variable {n : ℕ} {vsim : VlanSim} {port : ℤ} {mode : VlanMode} {m : NsdpVlanMembership}

/-- Inside the width the switch reads the two bitmaps as they were meant. -/
theorem spared_iff_inside (hmember : ∀ p ∈ vsim.member, 0 < p ∧ p ≤ n)
    (hsub : vsim.untagged ⊆ vsim.member) (hmode : mode ≠ .excluded)
    (hlow : -(8 * bitmapBytes n : ℤ) < port) (hhigh : port ≤ 8 * bitmapBytes n)
    (hm : ∀ q, q ∈ m.memberPorts ↔ q ∈ sentMembers n vsim port mode ∧ q ≤ 8 * bitmapBytes n)
    (ht : ∀ q, q ∈ m.taggedPorts ↔ 1 ≤ q ∧ q ≤ 8 * bitmapBytes n ∧
        (q + 8 * bitmapBytes n ∈ sentMembers n vsim port mode ∨
          q - 8 * overhang n port mode ∈ sentTagged n vsim port mode)) :
    vsim.Spared n port m ↔ (0 < port ∨ n < port + 8 * bitmapBytes n ∨
      port + 8 * bitmapBytes n ∈ vsim.member ∧
        (mode = .tagged → port + 8 * bitmapBytes n ∉ vsim.untagged)) := by
  have hbytes : (n : ℤ) ≤ 8 * bitmapBytes n := by
    rw [bitmapBytes]
    omega
  let home := filedAs (bitmapBytes n) port
  have hhome : 1 ≤ home ∧ home ≤ 8 * bitmapBytes n := by
    simp only [home, filedAs]
    split_ifs <;> omega
  have hover : (overhang n port mode : ℤ) = 0 := by
    rw [overhang, if_neg hmode, bytesFor]
    omega
  have hmem : ∀ q : ℤ, q ≤ n → (q ∈ m.memberPorts ↔ q = home ∨ q ∈ vsim.member) := by
    intro q hq
    rw [hm, sentMembers, if_neg hmode, Finset.mem_insert]
    exact ⟨And.left, fun h => ⟨h, hq.trans hbytes⟩⟩
  have htag : ∀ q, q ≠ port → 1 ≤ q → q ≤ n → (q ∈ m.taggedPorts ↔
      (q = home ∧ mode = .tagged) ∨ vsim.IsTagged q) := by
    intro q hne hone hq
    have hfar : q + 8 * bitmapBytes n ∉ sentMembers n vsim port mode := by
      rw [sentMembers, if_neg hmode, Finset.mem_insert]
      rintro (heq | hmem)
      · have : q + 8 * (bitmapBytes n : ℤ) = home := heq
        omega
      · have := hmember _ hmem
        omega
    have hstill : q - 8 * (overhang n port mode : ℤ) = q := by rw [hover]; omega
    rw [ht, hstill]
    constructor
    · rintro ⟨_, _, h | h⟩
      · exact absurd h hfar
      · rw [sentTagged] at h
        split_ifs at h with htagged
        · rcases Finset.mem_insert.mp h with heq | h
          · exact Or.inl ⟨heq, htagged⟩
          · exact Or.inr (Finset.mem_sdiff.mp h)
        · exact Or.inr (Finset.mem_sdiff.mp (Finset.mem_of_mem_erase h))
    · intro h
      refine ⟨hone, hq.trans hbytes, Or.inr ?_⟩
      rw [sentTagged]
      split_ifs with htagged
      · rcases h with ⟨heq, _⟩ | h
        · exact Finset.mem_insert.mpr (Or.inl heq)
        · exact Finset.mem_insert_of_mem (Finset.mem_sdiff.mpr h)
      · rcases h with ⟨_, h⟩ | h
        · exact absurd h htagged
        · exact Finset.mem_erase.mpr ⟨hne, Finset.mem_sdiff.mpr h⟩
  have huntag : ∀ q, q ∈ m.untaggedPorts ↔ q ∈ m.memberPorts ∧ q ∉ m.taggedPorts :=
    fun q => Finset.mem_sdiff
  have hin : ∀ q, q ∈ vsim.untagged → q ∈ vsim.member := fun q h => hsub h
  constructor
  · intro hspared
    by_contra hnot
    push Not at hnot
    obtain ⟨hport, hreal, hasked⟩ := hnot
    have heq : home = port + 8 * bitmapBytes n := if_pos hport
    obtain ⟨h₁, h₂⟩ := hspared home (by omega) hhome.1 (by omega)
    have hmem' : home ∈ vsim.member := h₁.mp ((hmem home (by omega)).mpr (Or.inl rfl))
    obtain ⟨htagged, huntagged⟩ := hasked (heq ▸ hmem')
    rw [← heq] at huntagged
    exact ((huntag home).mp (h₂.mpr huntagged)).2
      ((htag home (by omega) hhome.1 (by omega)).mpr (Or.inl ⟨rfl, htagged⟩))
  · intro hsafe q hne hone hq
    have hhere : q = home → q ∈ vsim.member ∧ (mode = .tagged → q ∉ vsim.untagged) := by
      intro hqhome
      have hport : port ≤ 0 := by
        by_contra hpos
        have : home = port := if_neg hpos
        omega
      have heq : home = port + 8 * bitmapBytes n := if_pos hport
      rw [hqhome, heq]
      rcases hsafe with h | h | h
      · omega
      · omega
      · exact h
    rw [huntag, hmem q hq, htag q hne hone hq]
    constructor
    · exact ⟨fun h => h.elim (fun heq => (hhere heq).1) id, Or.inr⟩
    · constructor
      · rintro ⟨h, hnot⟩
        by_contra hout
        have hin' : q ∈ vsim.member := h.elim (fun heq => (hhere heq).1) id
        exact hnot (Or.inr ⟨hin', hout⟩)
      · intro huntagged
        refine ⟨Or.inr (hin q huntagged), ?_⟩
        rintro (⟨heq, htagged⟩ | ⟨_, hout⟩)
        · exact (hhere heq).2 htagged huntagged
        · exact hout huntagged

/-- Past the width the flags of the second bitmap move up behind the end of the first one. -/
theorem spared_iff_past (hmember : ∀ p ∈ vsim.member, 0 < p ∧ p ≤ n)
    (hsub : vsim.untagged ⊆ vsim.member) (hmode : mode ≠ .excluded)
    (hpast : 8 * (bitmapBytes n : ℤ) < port)
    (hm : ∀ q, q ∈ m.memberPorts ↔ q ∈ sentMembers n vsim port mode ∧ q ≤ 8 * bitmapBytes n)
    (ht : ∀ q, q ∈ m.taggedPorts ↔ 1 ≤ q ∧ q ≤ 8 * bitmapBytes n ∧
        (q + 8 * bitmapBytes n ∈ sentMembers n vsim port mode ∨
          q - 8 * overhang n port mode ∈ sentTagged n vsim port mode)) :
    vsim.Spared n port m ↔ ∀ q ∈ vsim.member, (q ∉ vsim.untagged ↔ q + 8 * bitmapBytes n = port ∨
      vsim.IsTagged (q - 8 * ((port - 1) / 8 + 1 - bitmapBytes n))) := by
  have hbytes : (n : ℤ) ≤ 8 * bitmapBytes n := by
    rw [bitmapBytes]
    omega
  have hhome : filedAs (bitmapBytes n) port = port := if_neg (by omega)
  have hover : (overhang n port mode : ℤ) = (port - 1) / 8 + 1 - bitmapBytes n := by
    rw [overhang, if_neg hmode, bytesFor]
    omega
  have hmem : ∀ q : ℤ, q ≤ n → (q ∈ m.memberPorts ↔ q ∈ vsim.member) := by
    intro q hq
    rw [hm, sentMembers, if_neg hmode, hhome, Finset.mem_insert]
    constructor
    · rintro ⟨heq | h, _⟩
      · omega
      · exact h
    · exact fun h => ⟨Or.inr h, hq.trans hbytes⟩
  have htag : ∀ q : ℤ, 1 ≤ q → q ≤ n → (q ∈ m.taggedPorts ↔ q + 8 * bitmapBytes n = port ∨
      vsim.IsTagged (q - 8 * ((port - 1) / 8 + 1 - bitmapBytes n))) := by
    intro q hone hq
    have hfirst : q + 8 * (bitmapBytes n : ℤ) ∈ sentMembers n vsim port mode ↔
        q + 8 * (bitmapBytes n : ℤ) = port := by
      rw [sentMembers, if_neg hmode, hhome, Finset.mem_insert]
      refine ⟨fun h => h.resolve_right fun h => ?_, Or.inl⟩
      have := hmember _ h
      omega
    have hsecond : ∀ r : ℤ, r < port → (r ∈ sentTagged n vsim port mode ↔ vsim.IsTagged r) := by
      intro r hr
      rw [sentTagged, hhome]
      split_ifs
      · rw [Finset.mem_insert, Finset.mem_sdiff]
        exact ⟨fun h => h.resolve_left (by omega), Or.inr⟩
      · rw [Finset.mem_erase, Finset.mem_sdiff]
        exact ⟨And.right, fun h => ⟨by omega, h⟩⟩
    rw [ht, hfirst, hover, hsecond _ (by omega)]
    exact ⟨fun h => h.2.2, fun h => ⟨hone, hq.trans hbytes, h⟩⟩
  have huntag : ∀ q, q ∈ m.untaggedPorts ↔ q ∈ m.memberPorts ∧ q ∉ m.taggedPorts :=
    fun q => Finset.mem_sdiff
  constructor
  · intro hspared q hq
    obtain ⟨hpos, hle⟩ := hmember q hq
    have hflags := (hspared q (by omega) hpos hle).2
    rw [huntag, hmem q hle] at hflags
    rw [← htag q hpos hle, ← hflags, not_and, not_not]
    exact ⟨fun h => h hq, fun h _ => h⟩
  · intro hsame q _ hone hq
    refine ⟨hmem q hq, ?_⟩
    rw [huntag, hmem q hq]
    constructor
    · rintro ⟨hin, hnot⟩
      by_contra hout
      exact hnot ((htag q hone hq).mpr ((hsame q hin).mp hout))
    · intro huntagged
      have hin := hsub huntagged
      exact ⟨hin, fun h => (hsame q hin).mpr ((htag q hone hq).mp h) huntagged⟩

/-- What the record a write sends spares. -/
theorem spared_iff (hmember : ∀ p ∈ vsim.member, 0 < p ∧ p ≤ n)
    (hsub : vsim.untagged ⊆ vsim.member)
    (hport : mode = .excluded ∨ -(8 * bitmapBytes n : ℤ) < port)
    (hm : ∀ q, q ∈ m.memberPorts ↔ q ∈ sentMembers n vsim port mode ∧ q ≤ 8 * bitmapBytes n)
    (ht : ∀ q, q ∈ m.taggedPorts ↔ 1 ≤ q ∧ q ≤ 8 * bitmapBytes n ∧
        (q + 8 * bitmapBytes n ∈ sentMembers n vsim port mode ∨
          q - 8 * overhang n port mode ∈ sentTagged n vsim port mode)) :
    vsim.Spared n port m ↔ vsim.SparesOthers n port mode := by
  have hbytes : (n : ℤ) ≤ 8 * bitmapBytes n := by
    rw [bitmapBytes]
    omega
  by_cases hmode : mode = .excluded
  · refine iff_of_true ?_ (Or.inl hmode)
    intro q hne hone hq
    have hmem : q ∈ m.memberPorts ↔ q ∈ vsim.member := by
      rw [hm, sentMembers, if_pos hmode, Finset.mem_erase]
      exact ⟨fun h => h.1.2, fun h => ⟨⟨hne, h⟩, hq.trans hbytes⟩⟩
    have htag : q ∈ m.taggedPorts ↔ vsim.IsTagged q := by
      have hfar : q + 8 * (bitmapBytes n : ℤ) ∉ sentMembers n vsim port mode := by
        rw [sentMembers, if_pos hmode]
        intro h
        have := hmember _ (Finset.mem_of_mem_erase h)
        omega
      have hstill : q - 8 * (overhang n port mode : ℤ) = q := by
        rw [overhang, if_pos hmode]
        omega
      rw [ht, hstill, sentTagged, if_neg (by rw [hmode]; decide), Finset.mem_erase, Finset.mem_sdiff]
      constructor
      · rintro ⟨_, _, h | h⟩
        · exact absurd h hfar
        · exact h.2
      · exact fun h => ⟨hone, hq.trans hbytes, Or.inr ⟨hne, h⟩⟩
    refine ⟨hmem, ?_⟩
    show q ∈ m.memberPorts \ m.taggedPorts ↔ _
    rw [Finset.mem_sdiff, hmem, htag, VlanSim.IsTagged, not_and, not_not]
    exact ⟨fun h => h.2 h.1, fun h => ⟨hsub h, fun _ => h⟩⟩
  · have hlow := hport.resolve_left hmode
    rcases le_or_gt port (8 * bitmapBytes n) with hhigh | hpast
    · rw [spared_iff_inside hmember hsub hmode hlow hhigh hm ht]
      constructor
      · rintro (hpos | hsafe)
        · exact Or.inr (Or.inl ⟨hpos, hhigh⟩)
        · rcases lt_or_ge 0 port with hpos | hneg
          · exact Or.inr (Or.inl ⟨hpos, hhigh⟩)
          · exact Or.inr (Or.inr (Or.inl ⟨hneg, hsafe⟩))
      · rintro (h | ⟨hpos, _⟩ | ⟨_, hsafe⟩ | ⟨hpast, _⟩)
        · exact absurd h hmode
        · exact Or.inl hpos
        · exact Or.inr hsafe
        · omega
    · rw [spared_iff_past hmember hsub hmode hpast hm ht]
      constructor
      · exact fun h => Or.inr (Or.inr (Or.inr ⟨hpast, h⟩))
      · rintro (h | ⟨_, hhigh⟩ | ⟨hneg, _⟩ | ⟨_, hsame⟩)
        · exact absurd h hmode
        · omega
        · omega
        · exact hsame

/-- A VLAN of which nothing is known. -/
def VlanSim.unknown : VlanSim := { name := [] }

/-- Which ports the record of an unknown VLAN spares the others for: a port that no other shares the
VLAN with, where it goes to its own place or is left out; and one that wraps around to the only
member, in the mode asked for, or to no port of a VLAN without members. -/
def VlanSim.SparesUnseen (vsim : VlanSim) (n : ℕ) (port : ℤ) (mode : VlanMode) : Prop :=
  let home : ℤ := port + 8 * bitmapBytes n
  if mode = .excluded ∨ 0 < port then vsim.member ⊆ {port}
  else if home ≤ n then vsim.member = {home} ∧ (home ∈ vsim.untagged ↔ mode = .untagged)
  else vsim.member = ∅

/-- What the record of a VLAN spares that the writer was not shown. -/
theorem spared_iff_unseen (hmember : ∀ p ∈ vsim.member, 0 < p ∧ p ≤ n)
    (hsub : vsim.untagged ⊆ vsim.member)
    (hport : mode = .excluded ∨ -(8 * bitmapBytes n : ℤ) < port)
    (hm : ∀ q, q ∈ m.memberPorts ↔
      q ∈ sentMembers n .unknown port mode ∧ q ≤ 8 * bitmapBytes n)
    (ht : ∀ q, q ∈ m.taggedPorts ↔ 1 ≤ q ∧ q ≤ 8 * bitmapBytes n ∧
        (q + 8 * bitmapBytes n ∈ sentMembers n .unknown port mode ∨
          q - 8 * overhang n port mode ∈ sentTagged n .unknown port mode)) :
    vsim.Spared n port m ↔ vsim.SparesUnseen n port mode := by
  have hbytes : (n : ℤ) ≤ 8 * bitmapBytes n := by
    rw [bitmapBytes]
    omega
  have huntag : ∀ q, q ∈ m.untaggedPorts ↔ q ∈ m.memberPorts ∧ q ∉ m.taggedPorts :=
    fun q => Finset.mem_sdiff
  unfold VlanSim.SparesUnseen
  dsimp only
  -- a record without any other port spares the VLAN of the port alone
  have halone : (∀ q, q ≠ port → 1 ≤ q → q ≤ n → q ∉ m.memberPorts) →
      (vsim.Spared n port m ↔ vsim.member ⊆ {port}) := by
    intro hnone
    constructor
    · intro hspared q hq
      obtain ⟨hpos, hle⟩ := hmember q hq
      by_contra hne
      rw [Finset.mem_singleton] at hne
      exact hnone q hne hpos hle (((hspared q hne hpos hle).1).mpr hq)
    · intro halone q hne hone hq
      have hout : q ∉ vsim.member := fun h => hne (Finset.mem_singleton.mp (halone h))
      refine ⟨iff_of_false (hnone q hne hone hq) hout, iff_of_false ?_ fun h => hout (hsub h)⟩
      rw [huntag]
      exact fun h => hnone q hne hone hq h.1
  by_cases hmode : mode = .excluded
  · rw [if_pos (Or.inl hmode)]
    refine halone fun q hne _ _ hq => ?_
    have hsent := ((hm q).mp hq).1
    rw [sentMembers, if_pos hmode] at hsent
    exact Finset.notMem_empty q (Finset.mem_of_mem_erase hsent)
  have hlow := hport.resolve_left hmode
  have hsent : ∀ q, q ∈ sentMembers n .unknown port mode ↔ q = filedAs (bitmapBytes n) port := by
    intro q
    rw [sentMembers, if_neg hmode]
    exact Finset.mem_insert.trans (or_iff_left (Finset.notMem_empty q))
  rcases lt_or_ge 0 port with hpos | hneg
  · rw [if_pos (Or.inr hpos)]
    refine halone fun q hne _ _ hq => hne ?_
    have hhome := (hsent q).mp ((hm q).mp hq).1
    rwa [filedAs, if_neg (by omega)] at hhome
  -- the port wraps around, and is the whole record
  rw [if_neg (by simp [hmode, hneg])]
  have hhome : filedAs (bitmapBytes n) port = port + 8 * bitmapBytes n := if_pos hneg
  have hover : (overhang n port mode : ℤ) = 0 := by
    rw [overhang, if_neg hmode, bytesFor]
    omega
  have hmem : ∀ q : ℤ, q ≤ n → (q ∈ m.memberPorts ↔ q = port + 8 * bitmapBytes n) := by
    intro q hq
    rw [hm, hsent, hhome]
    exact and_iff_left (hq.trans hbytes)
  have htag : ∀ q : ℤ, 1 ≤ q → q ≤ n →
      (q ∈ m.taggedPorts ↔ q = port + 8 * bitmapBytes n ∧ mode = .tagged) := by
    intro q hone hq
    have hfar : q + 8 * (bitmapBytes n : ℤ) ∉ sentMembers n .unknown port mode := by
      rw [hsent, hhome]
      omega
    have hsecond : q - 8 * (overhang n port mode : ℤ) ∈ sentTagged n .unknown port mode ↔
        q = port + 8 * bitmapBytes n ∧ mode = .tagged := by
      rw [hover, mul_zero, sub_zero, sentTagged]
      split_ifs with htagged
      · rw [hhome]
        refine (Finset.mem_insert.trans (or_iff_left fun h => ?_)).trans (and_iff_left htagged).symm
        exact Finset.notMem_empty q (Finset.mem_sdiff.mp h).1
      · refine iff_of_false (fun h => ?_) fun h => htagged h.2
        exact Finset.notMem_empty q (Finset.mem_sdiff.mp (Finset.mem_of_mem_erase h)).1
    rw [ht, hsecond]
    exact ⟨fun h => h.2.2.resolve_left hfar, fun h => ⟨hone, hq.trans hbytes, Or.inr h⟩⟩
  have hother : mode = .untagged ↔ mode ≠ .tagged := by
    cases mode with
    | excluded => exact absurd rfl hmode
    | tagged => simp
    | untagged => simp
  have huntagged : ∀ q : ℤ, 1 ≤ q → q ≤ n →
      (q ∈ m.untaggedPorts ↔ q = port + 8 * bitmapBytes n ∧ mode = .untagged) := by
    intro q hone hq
    rw [huntag, hmem q hq, htag q hone hq, hother]
    exact ⟨fun h => ⟨h.1, fun htagged => h.2 ⟨h.1, htagged⟩⟩, fun h => ⟨h.1, fun h' => h.2 h'.2⟩⟩
  have hspared : vsim.Spared n port m ↔ ∀ q : ℤ, 1 ≤ q → q ≤ n →
      ((q = port + 8 * bitmapBytes n ↔ q ∈ vsim.member) ∧
        (q = port + 8 * bitmapBytes n ∧ mode = .untagged ↔ q ∈ vsim.untagged)) := by
    constructor
    · intro h q hone hq
      obtain ⟨h₁, h₂⟩ := h q (by omega) hone hq
      rw [hmem q hq] at h₁
      rw [huntagged q hone hq] at h₂
      exact ⟨h₁, h₂⟩
    · intro h q _ hone hq
      rw [hmem q hq, huntagged q hone hq]
      exact h q hone hq
  rw [hspared]
  split_ifs with hreal
  · constructor
    · intro h
      obtain ⟨hin, hflag⟩ := h _ (by omega) hreal
      refine ⟨?_, by rw [← hflag]; exact and_iff_right rfl⟩
      ext q
      rw [Finset.mem_singleton]
      exact ⟨fun hq => ((h q (hmember q hq).1 (hmember q hq).2).1).mpr hq,
        fun heq => heq ▸ hin.mp rfl⟩
    · rintro ⟨hall, hflag⟩ q hone hq
      have hiff : q = port + 8 * bitmapBytes n ↔ q ∈ vsim.member := by
        rw [hall, Finset.mem_singleton]
      refine ⟨hiff, ?_⟩
      constructor
      · rintro ⟨rfl, hmode'⟩
        exact hflag.mpr hmode'
      · intro hq'
        have heq := hiff.mpr (hsub hq')
        exact ⟨heq, hflag.mp (heq ▸ hq')⟩
  · constructor
    · intro h
      rw [Finset.eq_empty_iff_forall_notMem]
      intro q hq
      obtain ⟨hpos, hle⟩ := hmember q hq
      have := ((h q hpos hle).1).mpr hq
      omega
    · intro hempty q _ hq
      have hout : q ∉ vsim.member := by rw [hempty]; exact Finset.notMem_empty q
      have hne : q ≠ port + 8 * bitmapBytes n := by omega
      exact ⟨iff_of_false hne hout, iff_of_false (fun h => hne h.1) fun h => hout (hsub h)⟩

end Sent

/-! ## §4 One write -/

/-- The VLAN a switch makes of a record. -/
def VirtualSwitchState.withRecord (s : VirtualSwitchState) (m : NsdpVlanMembership) :
    PyDict ℤ VlanSim :=
  s.vlans.set m.vlanId
    { name := ((s.vlans.get? m.vlanId).map VlanSim.name).getD []
      member := m.memberPorts
      untagged := m.untaggedPorts }

/-- The VLANs a request with this record leaves: either the ones there were, or the record has
come through and is the new one. -/
def RecordTaken (s : VirtualSwitchState) (t : TLVEntry) (vlans : PyDict ℤ VlanSim) : Prop :=
  vlans = s.vlans ∨ (writeSize s [t] ≤ 4096 + 4 ∧
    ∃ m, parseVlanMembers t.value s.model.portCount = some m ∧ vlans = s.withRecord m)

section Answers

variable {s : VirtualSwitchState} {auth t : TLVEntry} {us : List TLVEntry}

/-- A TLV that proves the password configures nothing. -/
theorem applyConfigTlvs_cons_auth {authTag : ℕ}
    (hauth : auth.tag = Tag.password ∨ auth.tag = Tag.authV2Password) (ts : List TLVEntry) :
    s.applyConfigTlvs authTag (auth :: ts) = s.applyConfigTlvs authTag ts := by
  have hnoop : s.applyNsdpWrite auth.tag auth.value = .ok s := by
    rcases hauth with h | h
    · rw [h]
      rfl
    · rw [h]
      rfl
  rw [VirtualSwitchState.applyConfigTlvs]
  split
  · rfl
  · rw [hnoop]

/-- What a switch that accepts the first TLVs of a request makes of them. -/
theorem vlans_applyConfigTlvs {authTag : ℕ}
    (htag : authTag = Tag.password ∨ authTag = Tag.authV2Password)
    (hauth : auth.tag = Tag.password ∨ auth.tag = Tag.authV2Password)
    (ht : t.tag = Tag.vlanMembers) (hus : us <+: [auth, t]) :
    (s.applyConfigTlvs authTag us).1.vlans = s.vlans ∨ (us = [auth, t] ∧
      ∃ m, parseVlanMembers t.value s.model.portCount = some m ∧
        (s.applyConfigTlvs authTag us).1.vlans = s.withRecord m) := by
  have hne : t.tag ≠ authTag := by
    rw [ht]
    rcases htag with rfl | rfl
    · decide
    · decide
  rcases List.prefix_cons_iff.mp hus with rfl | ⟨us₁, rfl, hus₁⟩
  · exact Or.inl rfl
  rw [applyConfigTlvs_cons_auth hauth]
  rcases List.prefix_cons_iff.mp hus₁ with rfl | ⟨us₂, rfl, hus₂⟩
  · exact Or.inl rfl
  cases List.prefix_nil.mp hus₂
  rw [VirtualSwitchState.applyConfigTlvs, if_neg hne, ht]
  cases hparse : parseVlanMembers t.value s.model.portCount with
  | none =>
    have hfails : s.applyNsdpWrite Tag.vlanMembers t.value = .error .valueError := by
      show (orFault NsdpFault.valueError (parseVlanMembers t.value s.model.portCount)).bind _ = _
      rw [hparse]
      rfl
    rw [hfails]
    exact Or.inl rfl
  | some m =>
    rw [applyNsdpWrite_vlanMembers hparse]
    exact Or.inr ⟨rfl, m, rfl, rfl⟩

theorem length_of_expectedToken {token : Bytes} (h : s.expectedToken = .ok (some token)) :
    token.length = 8 := by
  unfold VirtualSwitchState.expectedToken at h
  split at h
  · cases h
  · split at h
    · next htoken =>
      cases h
      exact length_authV2Password htoken
    · cases h

/-- A write request of one record, as much of it as has arrived. -/
theorem recordTaken_answerPacket {salt : Bytes} {q : NSDPPacket} (hop : q.op = .writeRequest)
    (hauth : auth.tag = Tag.password ∨ auth.tag = Tag.authV2Password)
    (ht : t.tag = Tag.vlanMembers) (htlvs : q.tlvs <+: [auth, t]) (hsize : q.size ≤ 4096 + 4) :
    RecordTaken s t (s.answerPacket salt q).1.vlans := by
  have hwhole : ∀ {proof : Bytes}, auth.value = proof → proof.length = proofLength s →
      q.tlvs = [auth, t] → writeSize s [t] ≤ 4096 + 4 := by
    intro proof hproof hlength hall
    rw [NSDPPacket.size, hall] at hsize
    rw [writeSize, ← hlength, ← hproof]
    exact hsize
  unfold VirtualSwitchState.answerPacket
  rw [hop]
  dsimp only
  split
  · next hv2 =>
    unfold VirtualSwitchState.writeResponseV2
    split
    · exact Or.inl rfl
    · dsimp only
      cases hexpected : s.expectedToken with
      | error fault => exact Or.inl rfl
      | ok expected =>
        dsimp only
        split_ifs with hbad
        · exact Or.inl rfl
        · push Not at hbad
          obtain ⟨_, hsome, hmatch⟩ := hbad
          obtain ⟨token, rfl⟩ := Option.ne_none_iff_exists'.mp hsome
          have hlength : token.length = proofLength s := by
            rw [proofLength, if_pos hv2]
            exact length_of_expectedToken hexpected
          have happlied := @vlans_applyConfigTlvs s auth t q.tlvs Tag.authV2Password (Or.inr rfl)
            hauth ht htlvs
          have hproof : q.tlvs = [auth, t] → auth.value = token := by
            intro hall
            rw [firstTlvValue, hall, List.find?_cons] at hmatch
            split at hmatch
            · exact Option.some.inj hmatch
            · rw [List.find?_cons, ht] at hmatch
              cases hmatch
          split
          · next s' fault happly =>
            rw [happly] at happlied
            exact happlied.imp id fun h => ⟨hwhole (hproof h.1) hlength h.1, h.2⟩
          · next s' happly =>
            rw [happly] at happlied
            exact happlied.imp id fun h => ⟨hwhole (hproof h.1) hlength h.1, h.2⟩
  · next hv1 =>
    show RecordTaken s t (s.writeResponseV1 q).1.vlans
    unfold VirtualSwitchState.writeResponseV1
    cases henc : encodePasswordV1 s.nsdpPassword with
    | none => exact Or.inl rfl
    | some expected =>
      dsimp only
      split_ifs with hknown
      · have hlength : expected.length = proofLength s := by
          rw [proofLength, if_neg hv1]
          exact length_encodePasswordV1 henc
        have happlied := @vlans_applyConfigTlvs s auth t q.tlvs Tag.password (Or.inl rfl)
          hauth ht htlvs
        have hproof : q.tlvs = [auth, t] → auth.value = expected := by
          intro hall
          obtain ⟨r, hr, hmatch⟩ := List.any_eq_true.mp hknown
          obtain ⟨htag, hvalue⟩ := of_decide_eq_true hmatch
          rw [hall] at hr
          rcases List.mem_cons.mp hr with rfl | hr
          · exact hvalue
          · rw [List.mem_singleton.mp hr, ht] at htag
            cases htag
        split
        · next s' fault happly =>
          rw [happly] at happlied
          exact happlied.imp id fun h => ⟨hwhole (hproof h.1) hlength h.1, h.2⟩
        · next s' happly =>
          rw [happly] at happlied
          exact happlied.imp id fun h => ⟨hwhole (hproof h.1) hlength h.1, h.2⟩
      · exact Or.inl rfl

end Answers

/-- What serving a datagram leaves: the state as it was, or what handling the packet made of
it. -/
theorem VirtualNsdpFace.serve_state (urandom : ℕ → Bytes) (f : VirtualNsdpFace) (data : Bytes) :
    (f.serve urandom data).1.state = f.state ∨
      ∃ q, NSDPPacket.decode (data.take 4096) = .ok q ∧
        (f.serve urandom data).1.state = (f.state.answerPacket (urandom f.taken) q).1 := by
  unfold VirtualNsdpFace.serve
  split_ifs with hserving
  · cases hdecode : NSDPPacket.decode (data.take 4096) with
    | error e =>
      rw [VirtualSwitchState.handleNsdp, hdecode]
      exact Or.inl rfl
    | ok q =>
      refine Or.inr ⟨q, rfl, ?_⟩
      rw [VirtualSwitchState.handleNsdp_of_decode hdecode]
      rcases f.state.answerPacket (urandom f.taken) q with ⟨s', (_ | _) | _ | resp⟩
      · rfl
      · rfl
      · rfl
      · dsimp only
        split
        · rfl
        · rfl
  · exact Or.inl rfl

end NetgearSwitch.Virtual

namespace NetgearSwitch.Nsdp.World

open DatagramNet Virtual

variable {urandom : ℕ → Bytes} {network : ℕ → Delivery}

/-- What one exchange does to the switch, whatever the network does to it: nothing, or it handles
the packet that its buffer holds of the request. -/
theorem exchange_decoded (awaited : Op) (req : NSDPPacket) (w : World VirtualNsdpFace) :
    let s' := (w.exchange (virtualEnvironment urandom network) awaited req).1.net.server.state
    s' = w.net.server.state ∨ ∃ salt bytes q, req.encode = some bytes ∧
      NSDPPacket.decode (bytes.take 4096) = .ok q ∧ s' = (w.net.server.state.answerPacket salt q).1 := by
  intro s'
  cases hbytes : req.encode with
  | none =>
    left
    show (w.exchange (virtualEnvironment urandom network) awaited req).1.net.server.state = _
    rw [World.exchange, hbytes]
  | some bytes =>
    let delivery := network w.net.exchanges
    have hnet : s' = (w.net.answer (VirtualNsdpFace.serve urandom) delivery bytes).1.state := by
      show (w.exchange (virtualEnvironment urandom network) awaited req).1.net.server.state = _
      rw [World.exchange, hbytes]
      dsimp only [virtualEnvironment]
      split
      · next net hnet =>
        exact congrArg (fun r => r.1.server.state) hnet.symm
      · next net datagram hnet =>
        have hstate := congrArg (fun r => r.1.server.state) hnet.symm
        split
        · exact hstate
        · exact hstate
    rw [hnet, Net.answer]
    split_ifs
    · rcases VirtualNsdpFace.serve_state urandom w.net.server bytes with h | ⟨q, hq, h⟩
      · exact Or.inl h
      · exact Or.inr ⟨_, bytes, q, rfl, hq, h⟩
    · exact Or.inl rfl

/-- The packet handled is of the request's kind and has the first of its TLVs. -/
theorem exchange_state (awaited : Op) (req : NSDPPacket) (w : World VirtualNsdpFace) :
    let s' := (w.exchange (virtualEnvironment urandom network) awaited req).1.net.server.state
    s' = w.net.server.state ∨ ∃ salt q, q.op = req.op ∧ q.tlvs <+: req.tlvs ∧ q.size ≤ 4096 + 4 ∧
      s' = (w.net.server.state.answerPacket salt q).1 := by
  rcases @exchange_decoded urandom network awaited req w with h | ⟨salt, bytes, q, hbytes, hq, h⟩
  · exact Or.inl h
  · obtain ⟨hop, htlvs, hsize⟩ := NSDPPacket.decode_take hbytes hq
    exact Or.inr ⟨salt, q, hop, htlvs, hsize, h⟩

/-- A read leaves everything but the salt. -/
theorem read_state (tags : List ℕ) (w : World VirtualNsdpFace) :
    ∃ salt, (w.read (virtualEnvironment urandom network) tags).1.net.server.state =
      { w.net.server.state with nsdpLastSalt := salt } := by
  let req := buildReadRequest w.nextSeq.client.clientMac broadcastMac w.nextSeq.client.sequence tags
  have hread : (w.read (virtualEnvironment urandom network) tags).1.net.server.state =
      (w.nextSeq.exchange (virtualEnvironment urandom network) .readResponse
        req).1.net.server.state := by
    unfold World.read
    dsimp only
    split
    · next w' e h => rw [h]
    · next w' taken resp h =>
      rw [h]
      split_ifs
      · rfl
      · rfl
  rw [hread]
  rcases exchange_state .readResponse req w.nextSeq with h | ⟨salt, q, hop, _, _, h⟩
  · exact ⟨w.net.server.state.nsdpLastSalt, h⟩
  · have hop' : q.op = .readRequest := hop
    have hanswer : (w.net.server.state.answerPacket salt q).1 =
        (w.net.server.state.readResponse salt q).1 := by
      rw [VirtualSwitchState.answerPacket, hop']
    rw [h]
    show ∃ salt', (w.net.server.state.answerPacket salt q).1 = _
    rw [hanswer, VirtualSwitchState.readResponse_state]
    split_ifs
    · exact ⟨some salt, rfl⟩
    · exact ⟨w.net.server.state.nsdpLastSalt, rfl⟩

theorem resolveScheme_state (w : World VirtualNsdpFace) :
    ∃ salt, (w.resolveScheme (virtualEnvironment urandom network)).1.net.server.state =
      { w.net.server.state with nsdpLastSalt := salt } := by
  unfold World.resolveScheme
  split
  · exact ⟨w.net.server.state.nsdpLastSalt, rfl⟩
  · exact ⟨w.net.server.state.nsdpLastSalt, rfl⟩
  · obtain ⟨salt, hread⟩ := read_state [Tag.authV2Encpass] w
    refine ⟨salt, ?_⟩
    split
    · next w' e h =>
      rw [h] at hread
      exact hread
    · next w' resp h =>
      rw [h] at hread
      exact hread

/-- Building a write reads no more than the scheme and a salt, and puts what proves the password
before the TLVs. -/
theorem buildWrite_state (tlvs : List TLVEntry) (password : Text) (w : World VirtualNsdpFace) :
    (∃ salt, (w.buildWrite (virtualEnvironment urandom network) tlvs password).1.net.server.state =
      { w.net.server.state with nsdpLastSalt := salt }) ∧
    ∀ w' req, w.buildWrite (virtualEnvironment urandom network) tlvs password = (w', .ok req) →
      req.op = .writeRequest ∧ ∃ auth, req.tlvs = auth :: tlvs ∧
        (auth.tag = Tag.password ∨ auth.tag = Tag.authV2Password) := by
  obtain ⟨salt, hscheme⟩ := @resolveScheme_state urandom network w
  unfold World.buildWrite
  split
  · next w₁ e h =>
    rw [h] at hscheme
    exact ⟨⟨salt, hscheme⟩, fun w' req heq => by cases heq⟩
  · next w₁ h =>
    rw [h] at hscheme
    obtain ⟨salt', hread⟩ := @read_state urandom network [Tag.authV2Salt] w₁
    have hsalt : ∀ s' : VirtualSwitchState, s' = { w₁.net.server.state with nsdpLastSalt := salt' } →
        ∃ salt, s' = { w.net.server.state with nsdpLastSalt := salt } := by
      intro s' hs'
      have hw₁ : w₁.net.server.state = _ := hscheme
      rw [hw₁] at hs'
      exact ⟨salt', hs'⟩
    split
    · next w₂ e h₂ =>
      rw [h₂] at hread
      exact ⟨hsalt _ hread, fun w' req heq => by cases heq⟩
    · next w₂ resp h₂ =>
      rw [h₂] at hread
      split
      · exact ⟨hsalt _ hread, fun w' req heq => by cases heq⟩
      · split
        · exact ⟨hsalt _ hread, fun w' req heq => by cases heq⟩
        · refine ⟨hsalt _ hread, fun w' req heq => ?_⟩
          cases heq
          exact ⟨rfl, _, rfl, Or.inr rfl⟩
  · next w₁ h =>
    rw [h] at hscheme
    refine ⟨⟨salt, hscheme⟩, fun w' req heq => ?_⟩
    obtain ⟨_, hbuild⟩ := Prod.mk.inj heq
    unfold buildWriteRequest at hbuild
    cases henc : encodePasswordV1 password with
    | none =>
      rw [henc] at hbuild
      cases hbuild
    | some enc =>
      rw [henc] at hbuild
      cases hbuild
      exact ⟨rfl, _, rfl, Or.inl rfl⟩

/-- What a write of one record does to the VLANs, whatever the network does to it: nothing, or
the switch has taken the record. -/
theorem recordTaken_write {t : TLVEntry} (ht : t.tag = Tag.vlanMembers) (password : Text)
    (w : World VirtualNsdpFace) : RecordTaken w.net.server.state t
      (w.write (virtualEnvironment urandom network) [t] password).1.net.server.state.vlans := by
  obtain ⟨⟨salt, hstate⟩, hreq⟩ := @buildWrite_state urandom network [t] password w
  unfold World.write
  split
  · next w₁ e h =>
    rw [h] at hstate
    left
    show w₁.net.server.state.vlans = _
    rw [hstate]
  · next w₁ req h =>
    rw [h] at hstate
    obtain ⟨hop, auth, htlvs, hauth⟩ := hreq w₁ req h
    have hexchange := @exchange_state urandom network .writeResponse req w₁
    have hstate' : w₁.net.server.state = { w.net.server.state with nsdpLastSalt := salt } := hstate
    have htaken : RecordTaken w.net.server.state t
        (w₁.exchange (virtualEnvironment urandom network) .writeResponse req).1.net.server.state.vlans := by
      rcases hexchange with h' | ⟨salt', q, hqop, hqtlvs, hqsize, h'⟩
      · left
        rw [h', hstate']
      · rw [h']
        rw [htlvs] at hqtlvs
        have := @recordTaken_answerPacket w₁.net.server.state auth t salt' q (hqop.trans hop) hauth ht
          hqtlvs hqsize
        rw [hstate'] at this ⊢
        exact this
    split
    · next w₂ e h₂ =>
      rw [h₂] at htaken
      exact htaken
    · next w₂ taken resp h₂ =>
      rw [h₂] at htaken
      split_ifs
      · exact htaken
      · split
        · exact htaken
        · exact htaken

end NetgearSwitch.Nsdp.World

namespace NetgearSwitch.Virtual

open Nsdp Nsdp.World BigEndian DatagramNet Script

/-! ## §5 The operation -/

/-- The client as the writer calls it. -/
def clientCall (urandom : ℕ → Bytes) (network : ℕ → Delivery) :
    NsdpMachine (World VirtualNsdpFace)
  | w, .read tags => w.read (virtualEnvironment urandom network) tags
  | w, .write tlvs password => w.write (virtualEnvironment urandom network) tlvs password

/-- The bytes of the TLVs that answer a read of the VLAN table. -/
def tableSize (s : VirtualSwitchState) : ℕ :=
  (4 + s.servedName.length) + (4 + 1) +
    s.vlans.sortedItems.length * (4 + (2 + bitmapBytes s.model.portCount * 2))

section Operation

variable {urandom : ℕ → Bytes} {network : ℕ → Delivery} {w : World VirtualNsdpFace}
  {s : VirtualSwitchState}

/-- The sizes of the TLVs that answer a read of the VLAN table. -/
def tableSizes (s : VirtualSwitchState) : List ℕ :=
  (4 + s.servedName.length) :: (4 + 1) ::
    s.vlans.sortedItems.map fun _ => 4 + (2 + bitmapBytes s.model.portCount * 2)

theorem sum_tableSizes (s : VirtualSwitchState) : (tableSizes s).sum = tableSize s := by
  rw [tableSizes, List.sum_cons, List.sum_cons, List.map_const', List.sum_replicate_nat, tableSize,
    Nat.add_assoc (4 + s.servedName.length)]

/-- The VLANs that a read of the table shows a client: as many as come through its buffer, and
nothing at all where the buffer cuts one in two. -/
def shownVlans (s : VirtualSwitchState) : Option (List (ℤ × VlanSim)) :=
  (tlvsThrough 4064 (tableSizes s)).map fun k => s.vlans.sortedItems.take (k - 2)

/-- A table that fits the buffer is shown whole. -/
theorem shownVlans_of_fits (htable : tableSize s ≤ 4064) :
    shownVlans s = some s.vlans.sortedItems := by
  rw [shownVlans, tlvsThrough_of_fits ((sum_tableSizes s).trans_le htable), tableSizes,
    Option.map_some, List.length_cons, List.length_cons, List.length_map]
  exact congrArg some List.take_length

theorem tlvsThrough_tableSizes {k : ℕ} (h : tlvsThrough 4064 (tableSizes s) = some k) :
    0 < k ∧ s.servedName.length ≤ 4060 := by
  rw [tableSizes, tlvsThrough] at h
  split_ifs at h with hfits hshort
  · obtain ⟨k', -, rfl⟩ := Option.map_eq_some_iff.mp h
    exact ⟨Nat.succ_pos k', by omega⟩
  · omega

/-- The TLVs of the table have these sizes. -/
theorem size_vlanAnswer {name : Bytes} {value : ℤ × VlanSim → Bytes}
    (hname : name.length = s.servedName.length)
    (hlength : ∀ e ∈ s.vlans.sortedItems,
      (value e).length = 2 + bitmapBytes s.model.portCount * 2) :
    (vlanAnswer s.model.portCount name s.vlans.sortedItems value).map TLVEntry.size =
      tableSizes s := by
  have hrows : (s.vlans.sortedItems.map fun e =>
      (⟨Tag.vlanMembers, value e⟩ : TLVEntry)).map TLVEntry.size =
      s.vlans.sortedItems.map fun _ => 4 + (2 + bitmapBytes s.model.portCount * 2) := by
    rw [List.map_map]
    refine List.map_congr_left fun e he => ?_
    show 4 + (value e).length = _
    rw [hlength e he]
  rw [vlanAnswer, List.map_cons, List.map_cons, hrows, tableSizes, ← hname]
  rfl

theorem bitmapBytes_portCount (s : VirtualSwitchState) : bitmapBytes s.model.portCount ≤ 8 := by
  rw [VirtualSwitchState.model]
  cases s.modelKey <;> decide

/-- What a client is told of the VLANs, as far as the answer comes through. -/
theorem ends_getVlans_shown (h : w.Connected urandom network s) (hname : AsciiName s)
    (hfits : NsdpVlans s) : match shownVlans s with
    | some shown => ∃ w', Ends (clientCall urandom network) NsdpWriter.getVlans w
        (.ok (shown.map fun e => e.2.nsdpInfo e.1)) w' ∧
      w'.Connected urandom network s ∧ w'.client.authScheme = w.client.authScheme
    | none => ∃ w', Ends (clientCall urandom network) NsdpWriter.getVlans w (.error .nsdp) w' := by
  obtain ⟨name, value, hserved, hlength, hanswer, hparse⟩ := exists_vlanAnswer hname hfits
  obtain ⟨_, hbytes⟩ := PyCodec.asciiEncode_eq_some.mp hserved
  have hnameLength : name.length = s.servedName.length := by rw [hbytes, List.length_map]
  have hsizes := size_vlanAnswer hnameLength hlength
  let tags := NsdpWriter.withModel [Tag.portCount, Tag.vlanMembers]
  -- a read that fails fails the lookup
  have hfailed : (w.read (virtualEnvironment urandom network) tags).2 = .error .nsdp →
      ∃ w', Ends (clientCall urandom network) NsdpWriter.getVlans w (.error .nsdp) w' := by
    intro hread
    have hcall : clientCall urandom network w (.read tags) =
        ((w.read (virtualEnvironment urandom network) tags).1, .error .nsdp) := Prod.ext rfl hread
    have hdevice : Ends (clientCall urandom network)
        (NsdpWriter.device [Tag.portCount, Tag.vlanMembers]) w (.error .nsdp) _ :=
      Ends.bind (ends_call hcall) (ends_done _)
    exact ⟨_, hdevice.bind_error⟩
  by_cases hlong : name.length < 65536
  · have hrows : ∀ r ∈ vlanAnswer s.model.portCount name s.vlans.sortedItems value,
        r.tag < 0xFFFF ∧ r.value.length < 65536 := by
      intro r hr
      rcases List.mem_cons.mp hr with rfl | hr
      · exact ⟨(by decide : Tag.model < 0xFFFF), hlong⟩
      · rcases List.mem_cons.mp hr with rfl | hr
        · exact ⟨(by decide : Tag.portCount < 0xFFFF), (by decide : 1 < 65536)⟩
        · obtain ⟨e, he, rfl⟩ := List.mem_map.mp hr
          have hwidth := bitmapBytes_portCount s
          have hrow := hlength e he
          exact ⟨(by decide : Tag.vlanMembers < 0xFFFF), by show (value e).length < _; omega⟩
    have hthrough := h.read_through tags (by decide) (by decide) (by decide) (hanswer _) hrows
    rw [show (⟨Tag.model, name⟩ :: ⟨Tag.portCount, [UInt8.ofNat s.model.portCount]⟩ ::
      s.vlans.sortedItems.map fun e => (⟨Tag.vlanMembers, value e⟩ : TLVEntry)).map TLVEntry.size =
      tableSizes s from hsizes] at hthrough
    rw [shownVlans]
    cases hcount : tlvsThrough 4064 (tableSizes s) with
    | none =>
      rw [hcount] at hthrough
      exact hfailed hthrough
    | some k =>
      rw [hcount] at hthrough
      obtain ⟨w', resp, hread, htlvs, hmac, hconnected, hclient⟩ := hthrough
      obtain ⟨dev, hdev, hvlans⟩ := hparse resp k (tlvsThrough_tableSizes hcount).1 htlvs
        (by rw [hmac, length_rawField])
      have hcall : clientCall urandom network w (.read tags) = (w', .ok resp) := hread
      have hdevice : Ends (clientCall urandom network)
          (NsdpWriter.device [Tag.portCount, Tag.vlanMembers]) w (.ok dev) w' := by
        apply Ends.bind (ends_call hcall)
        rw [← hdev]
        exact ends_done _
      refine ⟨w', ?_, hconnected, by rw [hclient]; rfl⟩
      apply hdevice.bind
      rw [← hvlans]
      exact ends_done _
  · -- the switch cannot even encode its name
    have hnone : shownVlans s = none := by
      rw [shownVlans]
      cases hcount : tlvsThrough 4064 (tableSizes s) with
      | none => rfl
      | some k =>
        have := (tlvsThrough_tableSizes hcount).2
        omega
    rw [hnone]
    refine hfailed (h.read_silent tags (by decide) (by decide) ?_)
    rw [w.answerPacket_readRequest tags (by decide) (by decide) (hanswer _)]
    exact NSDPPacket.encode_eq_none rfl (Nat.le_of_not_lt hlong)

/-- Looking one VLAN up finds the switch's own record, if the client is shown it. -/
theorem exists_vlan_shown (h : w.Connected urandom network s) (hname : AsciiName s)
    (hfits : NsdpVlans s) {shown : List (ℤ × VlanSim)} (hshown : shownVlans s = some shown) (v : ℤ) :
    ∃ w', Ends (clientCall urandom network) (NsdpWriter.vlan v) w
        (.ok (if v ∈ shown.map Prod.fst then (s.vlans.get? v).map (VlanSim.nsdpInfo v) else none)) w' ∧
      w'.Connected urandom network s ∧ w'.client.authScheme = w.client.authScheme := by
  have hall := ends_getVlans_shown h hname hfits
  rw [hshown] at hall
  obtain ⟨w', hends, hconnected, hscheme⟩ := hall
  refine ⟨w', ?_, hconnected, hscheme⟩
  apply hends.bind
  have hfind : (shown.map fun e => e.2.nsdpInfo e.1).find? (·.vlanId = v) =
      if v ∈ shown.map Prod.fst then (s.vlans.get? v).map (VlanSim.nsdpInfo v) else none := by
    obtain ⟨k, -, rfl⟩ := Option.map_eq_some_iff.mp hshown
    rw [List.find?_map]
    show ((s.vlans.sortedItems.take (k - 2)).find? fun e => decide (e.1 = v)).map _ = _
    split_ifs with hmem
    · obtain ⟨⟨u, usim⟩, he, rfl⟩ := List.mem_map.mp hmem
      have hget := PyDict.mem_sortedItems.mp (List.mem_of_mem_take he)
      cases hfound : (s.vlans.sortedItems.take (k - 2)).find? fun e => decide (e.1 = u) with
      | none =>
        have hno := List.find?_eq_none.mp hfound (u, usim) he
        simp at hno
      | some e =>
        have hkey : e.1 = u := by simpa using List.find?_some hfound
        have hget' := PyDict.mem_sortedItems.mp
          (List.mem_of_mem_take (List.mem_of_find?_eq_some hfound))
        rw [hkey, hget] at hget'
        show some (e.2.nsdpInfo e.1) = (s.vlans.get? u).map _
        rw [hget, hkey, ← Option.some.inj hget']
        rfl
    · rw [Option.map_eq_none_iff, List.find?_eq_none]
      intro e he heq
      exact hmem (List.mem_map.mpr ⟨e, he, of_decide_eq_true heq⟩)
  rw [← hfind]
  exact ends_done _

/-- Looking a VLAN up fails where the answer is cut inside a record. -/
theorem vlan_of_cut (h : w.Connected urandom network s) (hname : AsciiName s)
    (hfits : NsdpVlans s) (hcut : shownVlans s = none) (v : ℤ) :
    ((NsdpWriter.vlan v).run (clientCall urandom network) w).result = .error .nsdp := by
  have hall := ends_getVlans_shown h hname hfits
  rw [hcut] at hall
  obtain ⟨w', hends⟩ := hall
  exact (hends.bind_error).1

/-- In a table that fits the buffer, looking one VLAN up finds the switch's own record. -/
theorem exists_vlan (h : w.Connected urandom network s) (hname : AsciiName s)
    (hfits : NsdpVlans s) (htable : tableSize s ≤ 4064) (v : ℤ) :
    ∃ w', Ends (clientCall urandom network) (NsdpWriter.vlan v) w
        (.ok ((s.vlans.get? v).map (VlanSim.nsdpInfo v))) w' ∧
      w'.Connected urandom network s ∧ w'.client.authScheme = w.client.authScheme := by
  have hfound := exists_vlan_shown h hname hfits (shownVlans_of_fits htable) v
  by_cases hmem : v ∈ s.vlans.sortedItems.map Prod.fst
  · rwa [if_pos hmem] at hfound
  · have hnone : s.vlans.get? v = none := by
      cases hget : s.vlans.get? v with
      | none => rfl
      | some vsim =>
        exact absurd (List.mem_map.mpr ⟨(v, vsim), PyDict.mem_sortedItems.mpr hget, rfl⟩) hmem
    rw [if_neg hmem] at hfound
    rwa [hnone]

/-- A switch whose model name is not ASCII answers no read. -/
theorem vlan_of_not_ascii (h : w.Connected urandom network s) (hname : ¬ AsciiName s) (v : ℤ) :
    ((NsdpWriter.vlan v).run (clientCall urandom network) w).result = .error .nsdp := by
  have hnone : PyCodec.asciiEncode s.servedName = none := by
    rw [← Option.not_isSome_iff_eq_none]
    intro hsome
    obtain ⟨b, hb⟩ := Option.isSome_iff_exists.mp hsome
    have hall := (PyCodec.asciiEncode_eq_some.mp hb).1
    refine hname fun c hc => hall c ?_
    rw [VirtualSwitchState.servedName, if_neg (List.ne_nil_of_mem hc)]
    exact hc
  let tags := NsdpWriter.withModel [Tag.portCount, Tag.vlanMembers]
  have hfails : ∀ salt, s.nsdpTlvs salt tags = (s, .error .valueError) := by
    intro salt
    have hidentity : s.identityTlvs tags = .error .valueError := by
      have hname' : PyCodec.asciiEncode
          (if s.modelName = [] then s.model.displayName else s.modelName) = none := hnone
      unfold VirtualSwitchState.identityTlvs
      simp only [hname', orFault_none]
      rfl
    rw [VirtualSwitchState.nsdpTlvs, hidentity]
  have hanswer : s.answerPacket (urandom w.net.server.taken) (w.readRequest tags).onWire =
      (s, .error .valueError) := by
    have hread : s.readResponse (urandom w.net.server.taken) (w.readRequest tags).onWire =
        (s, .error .valueError) := by
      unfold VirtualSwitchState.readResponse
      have hasked : ((w.readRequest tags).onWire.tlvs.map TLVEntry.tag).filter (· ∈ Tag.catalogued) =
          tags := by
        rw [w.readRequest_tags tags]
        decide
      rw [hasked, if_neg (by decide), hfails]
    unfold VirtualSwitchState.answerPacket
    rw [show (w.readRequest tags).onWire.op = .readRequest from rfl]
    dsimp only
    rw [hread]
    rfl
  have hread := h.read_silent tags (by decide) (by decide) (by rw [hanswer]; rfl)
  have hcall : clientCall urandom network w (.read tags) =
      ((w.read (virtualEnvironment urandom network) tags).1, .error .nsdp) := Prod.ext rfl hread
  have hdevice : Ends (clientCall urandom network)
      (NsdpWriter.device [Tag.portCount, Tag.vlanMembers]) w (.error .nsdp) _ :=
    Ends.bind (ends_call hcall) (ends_done _)
  have hall : Ends (clientCall urandom network) NsdpWriter.getVlans w (.error .nsdp) _ :=
    hdevice.bind_error
  exact hall.bind_error.1

/-- Membership and tagging of every real port but the named one are as they were. -/
def LeavesOthers (s s' : VirtualSwitchState) (port : ℤ) : Prop :=
  ∀ u q, q ≠ port → 1 ≤ q → q ≤ s.model.portCount →
    (s'.isMember q u ↔ s.isMember q u) ∧ (s'.isUntagged q u ↔ s.isUntagged q u)

theorem leavesOthers_of_eq {s' : VirtualSwitchState} (h : s'.vlans = s.vlans) (port : ℤ) :
    LeavesOthers s s' port := by
  intro u q _ _ _
  rw [VirtualSwitchState.isMember, VirtualSwitchState.isMember, VirtualSwitchState.isUntagged,
    VirtualSwitchState.isUntagged, h]
  exact ⟨Iff.rfl, Iff.rfl⟩

/-- A record that replaced a VLAN has left the others alone if it spares them. -/
theorem leavesOthers_iff_spared {s' : VirtualSwitchState} {m : NsdpVlanMembership}
    (h : s'.vlans = s.withRecord m) {v : ℤ} (hid : (m.vlanId : ℤ) = v) {vsim : VlanSim}
    (hget : s.vlans.get? v = some vsim) (port : ℤ) :
    LeavesOthers s s' port ↔ vsim.Spared s.model.portCount port m := by
  have hself : s'.vlans.get? v = some
      { name := ((s.vlans.get? v).map VlanSim.name).getD []
        member := m.memberPorts
        untagged := m.untaggedPorts } := by
    rw [h, VirtualSwitchState.withRecord, hid, PyDict.get?_set_self]
  have hother : ∀ u, u ≠ v → s'.vlans.get? u = s.vlans.get? u := by
    intro u hu
    rw [h, VirtualSwitchState.withRecord, hid, PyDict.get?_set_ne _ _ hu]
  have hmember : ∀ q, (s'.isMember q v ↔ q ∈ m.memberPorts) ∧
      (s'.isUntagged q v ↔ q ∈ m.untaggedPorts) := by
    intro q
    rw [VirtualSwitchState.isMember, VirtualSwitchState.isUntagged, hself]
    simp
  have hbefore : ∀ q, (s.isMember q v ↔ q ∈ vsim.member) ∧
      (s.isUntagged q v ↔ q ∈ vsim.untagged) := by
    intro q
    rw [VirtualSwitchState.isMember, VirtualSwitchState.isUntagged, hget]
    simp
  constructor
  · intro hleaves q hne hone hq
    obtain ⟨h₁, h₂⟩ := hleaves v q hne hone hq
    rw [(hmember q).1, (hbefore q).1] at h₁
    rw [(hmember q).2, (hbefore q).2] at h₂
    exact ⟨h₁, h₂⟩
  · intro hspared u q hne hone hq
    by_cases hu : u = v
    · subst hu
      rw [(hmember q).1, (hbefore q).1, (hmember q).2, (hbefore q).2]
      exact hspared q hne hone hq
    · rw [VirtualSwitchState.isMember, VirtualSwitchState.isMember, VirtualSwitchState.isUntagged,
        VirtualSwitchState.isUntagged, hother u hu]
      exact ⟨Iff.rfl, Iff.rfl⟩

/-- A call that sends a write request. -/
def IsWrite : NsdpCall → Prop
  | .read _ => False
  | .write _ _ => True

/-- Either the operation raised before it sent a write, or it left every other port alone. -/
def Harmless (s : VirtualSwitchState) (port : ℤ)
    (o : Script.Outcome (World VirtualNsdpFace) NsdpCall (Except LibError NSDPPacket) LibError Unit) :
    Prop :=
  ((∃ e, o.result = .error e) ∧ ∀ x ∈ o.sent, ¬ IsWrite x.1) ∨
    LeavesOthers s o.device.net.server.state port

/-- The ports a membership write can be given, by what the writer is shown of the VLAN: any port
where the table is cut inside a record, as the writer gives up then; those that reach further below 1
than the bitmap, which are refused; those whose record is longer than the switch takes; and those
that spare the others. -/
def TakesPort (s : VirtualSwitchState) (v : ℤ) (vsim : VlanSim) (port : ℤ) (mode : VlanMode) : Prop :=
  match shownVlans s with
  | none => True
  | some shown =>
    (mode ≠ .excluded ∧ port ≤ -(8 * bitmapBytes s.model.portCount : ℤ)) ∨
      4096 + 4 < headerSize +
        (4 + proofLength s + (4 + recordLength s.model.portCount port mode)) + 4 ∨
      if v ∈ shown.map Prod.fst then vsim.SparesOthers s.model.portCount port mode
      else vsim.SparesUnseen s.model.portCount port mode

theorem asks_vlan (v : ℤ) : (NsdpWriter.vlan v).Asks fun c => ¬ IsWrite c :=
  asks_bind (asks_bind (asks_bind (asks_call id) fun _ => asks_done _) fun _ => asks_done _)
    fun _ => asks_done _

/-- What the lookup after a write, or the one before it, does to the VLANs: nothing. -/
theorem keeps_vlan (vlans : PyDict ℤ VlanSim) (v : ℤ) :
    Keeps (clientCall urandom network) (fun w => w.net.server.state.vlans = vlans)
      (NsdpWriter.vlan v) := by
  refine keeps_of_asks (asks_vlan v) fun c w hc hw => ?_
  cases c with
  | write tlvs password => exact absurd trivial hc
  | read tags =>
    obtain ⟨salt, hstate⟩ := @read_state urandom network tags w
    show (w.read (virtualEnvironment urandom network) tags).1.net.server.state.vlans = vlans
    rw [hstate]
    exact hw

/-- The operation behind its first lookup. -/
def rewrite (writer : NsdpWriter) (v port : ℤ) (mode : VlanMode) (before : Option VLANInfo) :
    NsdpScript Unit :=
  let sets := NsdpWriter.membersAfter before port mode
  writer.send ((vlanMembersTlv v sets.1 sets.2 writer.model.portCount).map ([·])) >>= fun _ =>
    NsdpWriter.vlan v >>= fun after =>
      ensure (NsdpWriter.membershipOk after port mode = true) .writeVerification

theorem setVlanMembership_eq (writer : NsdpWriter) (v port : ℤ) (mode : VlanMode) (force : Bool) :
    writer.setVlanMembership v port mode force = writer.guard port force >>= fun _ =>
      NsdpWriter.vlan v >>= rewrite writer v port mode := rfl

theorem keeps_lookAgain (vlans : PyDict ℤ VlanSim) (v port : ℤ) (mode : VlanMode) :
    Keeps (clientCall urandom network) (fun w => w.net.server.state.vlans = vlans)
      (NsdpWriter.vlan v >>= fun after =>
        ensure (NsdpWriter.membershipOk after port mode = true) .writeVerification) :=
  keeps_bind (keeps_vlan vlans v) fun _ => keeps_done _

/-- Sending a record: the VLANs are those the write leaves, whatever it returns. -/
theorem vlans_rewrite {writer : NsdpWriter} {v port : ℤ} {mode : VlanMode}
    {before : Option VLANInfo} {t : TLVEntry}
    (htlv : vlanMembersTlv v (NsdpWriter.membersAfter before port mode).1
      (NsdpWriter.membersAfter before port mode).2 writer.model.portCount = .ok t) :
    ((rewrite writer v port mode before).run (clientCall urandom network)
      w).device.net.server.state.vlans =
      (w.write (virtualEnvironment urandom network) [t] writer.password).1.net.server.state.vlans := by
  refine Keeps.after (I := fun w' : World VirtualNsdpFace => w'.net.server.state.vlans =
    (w.write (virtualEnvironment urandom network) [t] writer.password).1.net.server.state.vlans)
    ?_ fun _ => keeps_lookAgain _ v port mode
  rw [htlv]
  show ((call (.write [t] writer.password) >>= fun answer => done answer >>= fun _ =>
    (pure () : NsdpScript Unit)).run (clientCall urandom network) w).device.net.server.state.vlans = _
  rw [run_bind_ok (by rfl)]
  cases (clientCall urandom network w (.write [t] writer.password)).2 with
  | error e => rfl
  | ok resp => rfl

theorem sent_rewrite {writer : NsdpWriter} {v port : ℤ} {mode : VlanMode}
    {before : Option VLANInfo} {t : TLVEntry}
    (htlv : vlanMembersTlv v (NsdpWriter.membersAfter before port mode).1
      (NsdpWriter.membersAfter before port mode).2 writer.model.portCount = .ok t) :
    ∃ answer, (NsdpCall.write [t] writer.password, answer) ∈
      ((rewrite writer v port mode before).run (clientCall urandom network) w).sent := by
  refine ⟨(clientCall urandom network w (.write [t] writer.password)).2, ?_⟩
  rw [rewrite, htlv]
  exact List.mem_cons_self

/-- A port too far below 1 is refused before anything is sent. -/
theorem device_rewrite_below {writer : NsdpWriter} {v port : ℤ} (hv : 0 ≤ v) (hle : v ≤ 65535)
    {mode : VlanMode} (hmode : mode ≠ .excluded)
    (hport : port ≤ -(8 * bitmapBytes writer.model.portCount : ℤ)) (before : Option VLANInfo) :
    ((rewrite writer v port mode before).run (clientCall urandom network) w).device = w := by
  have hmem : port ∈ (NsdpWriter.membersAfter before port mode).1 := by
    cases mode with
    | excluded => exact absurd rfl hmode
    | tagged => exact Finset.mem_insert_self _ _
    | untagged => exact Finset.mem_insert_self _ _
  have hvid : packInt 2 v = some (toBytes 2 v.toNat) := packInt_eq hv (by omega)
  have htlv : vlanMembersTlv v (NsdpWriter.membersAfter before port mode).1
      (NsdpWriter.membersAfter before port mode).2 writer.model.portCount = .error .indexError := by
    rw [vlanMembersTlv, hvid, portsToBitmap_below hmem hport]
    rfl
  rw [rewrite, htlv]
  rfl

theorem run_of_guard {writer : NsdpWriter} {port : ℤ} {force : Bool}
    (hguard : port ∈ writer.protectedPorts → force = true) (v : ℤ) (mode : VlanMode) :
    (writer.setVlanMembership v port mode force).run (clientCall urandom network) w =
      (NsdpWriter.vlan v >>= rewrite writer v port mode).run (clientCall urandom network) w := by
  have hpass : writer.guard port force = pure () := by
    refine ensure_of_pos ?_ _
    rintro ⟨hprotected, hforce⟩
    exact hforce (hguard hprotected)
  rw [setVlanMembership_eq, hpass]
  rfl

theorem membersAfter_none (v port : ℤ) (mode : VlanMode) :
    NsdpWriter.membersAfter none port mode =
      NsdpWriter.membersAfter (some (VlanSim.unknown.nsdpInfo v)) port mode := by
  cases mode <;> rfl

/-- The record the operation sends for a VLAN of the switch, which it has been shown or not, and how
the switch reads it. -/
theorem exists_record {writer : NsdpWriter} (hmodel : s.modelKey = writer.modelKey)
    (hfits : NsdpVlans s) {v : ℤ} {vsim : VlanSim} (hget : s.vlans.get? v = some vsim) {port : ℤ}
    {mode : VlanMode} (seen : Prop) [Decidable seen]
    (hport : mode = .excluded ∨ -(8 * bitmapBytes s.model.portCount : ℤ) < port) :
    let sets := NsdpWriter.membersAfter (if seen then some (vsim.nsdpInfo v) else none) port mode
    ∃ t m, vlanMembersTlv v sets.1 sets.2 writer.model.portCount = .ok t ∧
      t.tag = Tag.vlanMembers ∧
      writeSize s [t] = headerSize +
        (4 + proofLength s + (4 + recordLength s.model.portCount port mode)) + 4 ∧
      parseVlanMembers t.value s.model.portCount = some m ∧ (m.vlanId : ℤ) = v ∧
      (vsim.Spared s.model.portCount port m ↔
        if seen then vsim.SparesOthers s.model.portCount port mode
        else vsim.SparesUnseen s.model.portCount port mode) := by
  intro sets
  have hv : v ∈ s.vlans := PyDict.mem_iff.mpr ⟨vsim, hget⟩
  have hpos := Int.le_of_lt (hfits.id_pos v hv)
  have hcount : writer.model.portCount = s.model.portCount := by
    rw [NsdpWriter.model, VirtualSwitchState.model, hmodel]
  have hmember := hfits.member_fits v vsim hget
  have hsub := hfits.untagged_sub v vsim hget
  -- the two cases differ in the VLAN that the record is made from
  obtain ⟨t, m, htlv, htag, hlength, hparse, hid, hspared⟩ :
      ∃ t m, vlanMembersTlv v sets.1 sets.2 s.model.portCount = .ok t ∧ t.tag = Tag.vlanMembers ∧
        t.value.length = recordLength s.model.portCount port mode ∧
        parseVlanMembers t.value s.model.portCount = some m ∧ (m.vlanId : ℤ) = v ∧
        (vsim.Spared s.model.portCount port m ↔
          if seen then vsim.SparesOthers s.model.portCount port mode
          else vsim.SparesUnseen s.model.portCount port mode) := by
    by_cases hseen : seen
    · obtain ⟨t, m, htlv, htag, hlength, hparse, hid, hm, ht⟩ :=
        exists_sentRecord hmember hpos (hfits.id_le v hv) hport
      have hsets : sets = NsdpWriter.membersAfter (some (vsim.nsdpInfo v)) port mode := by
        show NsdpWriter.membersAfter _ port mode = _
        rw [if_pos hseen]
      rw [hsets, if_pos hseen]
      exact ⟨t, m, htlv, htag, hlength, hparse, hid, spared_iff hmember hsub hport hm ht⟩
    · have hunknown : ∀ p ∈ VlanSim.unknown.member, 0 < p ∧ p ≤ (s.model.portCount : ℤ) :=
        fun p hp => absurd hp (Finset.notMem_empty p)
      obtain ⟨t, m, htlv, htag, hlength, hparse, hid, hm, ht⟩ :=
        exists_sentRecord hunknown hpos (hfits.id_le v hv) hport
      have hsets : sets = NsdpWriter.membersAfter (some (VlanSim.unknown.nsdpInfo v)) port mode := by
        show NsdpWriter.membersAfter _ port mode = _
        rw [if_neg hseen, membersAfter_none v]
      rw [hsets, if_neg hseen]
      exact ⟨t, m, htlv, htag, hlength, hparse, hid, spared_iff_unseen hmember hsub hport hm ht⟩
  rw [hcount]
  refine ⟨t, m, htlv, htag, ?_, hparse, hid, hspared⟩
  rw [writeSize, ← hlength]
  rfl

/-- What the operation does once its lookup has ended, whatever it was shown: the VLANs are as they
were, or the switch has taken the record. -/
theorem leavesOthers_rewrite (h : w.Connected urandom network s) {writer : NsdpWriter}
    (hmodel : s.modelKey = writer.modelKey) (hfits : NsdpVlans s) {v : ℤ} {vsim : VlanSim}
    (hget : s.vlans.get? v = some vsim) {port : ℤ} {mode : VlanMode} (seen : Prop) [Decidable seen]
    (htakes : (mode ≠ .excluded ∧ port ≤ -(8 * bitmapBytes s.model.portCount : ℤ)) ∨
      4096 + 4 < headerSize +
        (4 + proofLength s + (4 + recordLength s.model.portCount port mode)) + 4 ∨
      if seen then vsim.SparesOthers s.model.portCount port mode
      else vsim.SparesUnseen s.model.portCount port mode) :
    LeavesOthers s ((rewrite writer v port mode (if seen then some (vsim.nsdpInfo v) else none)).run
      (clientCall urandom network) w).device.net.server.state port := by
  by_cases hport : mode = .excluded ∨ -(8 * bitmapBytes s.model.portCount : ℤ) < port
  · obtain ⟨t, m, htlv, htag, hsize, hparse, hid, hspared⟩ :=
      @exists_record s writer hmodel hfits v vsim hget port mode seen _ hport
    have hvlans := @vlans_rewrite urandom network w writer v port mode _ t htlv
    have htaken := @recordTaken_write urandom network t htag writer.password w
    rw [← hvlans, h.state] at htaken
    rcases htaken with hsame | ⟨hwhole, m', hparse', hset⟩
    · exact leavesOthers_of_eq hsame port
    · cases hparse.symm.trans hparse'
      rw [leavesOthers_iff_spared hset hid hget, hspared]
      rcases htakes with ⟨hmode, hbelow⟩ | hlong | hspares
      · exact absurd hbelow (not_le.mpr (hport.resolve_left hmode))
      · omega
      · exact hspares
  · push Not at hport
    have hv : v ∈ s.vlans := PyDict.mem_iff.mpr ⟨vsim, hget⟩
    have hcount : writer.model.portCount = s.model.portCount := by
      rw [NsdpWriter.model, VirtualSwitchState.model, hmodel]
    rw [device_rewrite_below (Int.le_of_lt (hfits.id_pos v hv)) (hfits.id_le v hv) hport.1
      (by rw [hcount]; exact hport.2)]
    exact leavesOthers_of_eq (congrArg VirtualSwitchState.vlans h.state) port

/-- A port the operation can take does the others no harm, whoever the client and whatever the
switch's state. -/
theorem harmless_of_takesPort (h : w.Connected urandom network s) {writer : NsdpWriter}
    (hmodel : s.modelKey = writer.modelKey) (hfits : NsdpVlans s)
    {v : ℤ} {vsim : VlanSim} (hget : s.vlans.get? v = some vsim) {port : ℤ} {mode : VlanMode}
    (htakes : TakesPort s v vsim port mode) (force : Bool) :
    Harmless s port
      ((writer.setVlanMembership v port mode force).run (clientCall urandom network) w) := by
  have hstart : w.net.server.state.vlans = s.vlans := by rw [h.state]
  -- a lookup that fails ends the operation
  have hfailed : ∀ {e : LibError},
      ((NsdpWriter.vlan v).run (clientCall urandom network) w).result = .error e →
      LeavesOthers s ((NsdpWriter.vlan v >>= rewrite writer v port mode).run
        (clientCall urandom network) w).device.net.server.state port := by
    intro e hread
    apply leavesOthers_of_eq
    rw [run_bind_error hread]
    exact keeps_vlan s.vlans v w hstart
  right
  by_cases hguard : port ∈ writer.protectedPorts → force = true
  · rw [run_of_guard hguard]
    by_cases hname : AsciiName s
    · unfold TakesPort at htakes
      cases hshown : shownVlans s with
      | none => exact hfailed (vlan_of_cut h hname hfits hshown v)
      | some shown =>
        rw [hshown] at htakes
        obtain ⟨w₁, hends, hconnected, _⟩ := exists_vlan_shown h hname hfits hshown v
        rw [hget] at hends
        rw [run_bind_ok hends.1, hends.2]
        exact leavesOthers_rewrite hconnected hmodel hfits hget _ htakes
    · exact hfailed (vlan_of_not_ascii h hname v)
  · have hstop : writer.guard port force = raise .protectedPort := by
      refine ensure_of_neg ?_ _
      push Not at hguard ⊢
      exact hguard
    apply leavesOthers_of_eq
    rw [setVlanMembership_eq, hstop]
    exact hstart

/-- Of a write that reaches the switch and is accepted, no other port leaves the rest alone. -/
theorem takesPort_of_harmless (h : w.Connected urandom network s) {writer : NsdpWriter}
    (hmodel : s.modelKey = writer.modelKey) (hfits : NsdpVlans s)
    {v : ℤ} {vsim : VlanSim} (hget : s.vlans.get? v = some vsim) {port : ℤ} {mode : VlanMode}
    {force : Bool} (haccepts : w.Accepts urandom s) (hname : AsciiName s)
    (hpassword : writer.password = s.nsdpPassword)
    (hguard : port ∈ writer.protectedPorts → force = true)
    (hharmless : Harmless s port
      ((writer.setVlanMembership v port mode force).run (clientCall urandom network) w)) :
    TakesPort s v vsim port mode := by
  unfold TakesPort
  cases hshown : shownVlans s with
  | none => trivial
  | some shown =>
    by_contra hrefused
    dsimp only at hrefused
    push Not at hrefused
    obtain ⟨hport, hlength, hspares⟩ := hrefused
    obtain ⟨w₁, hends, hconnected, hscheme⟩ := exists_vlan_shown h hname hfits hshown v
    rw [hget] at hends
    rw [run_of_guard hguard, run_bind_ok hends.1, hends.2] at hharmless
    have hreach : mode = .excluded ∨ -(8 * bitmapBytes s.model.portCount : ℤ) < port := by
      by_cases hmode : mode = .excluded
      · exact Or.inl hmode
      · exact Or.inr (hport hmode)
    obtain ⟨t, m, htlv, htag, hsize, hparse, hid, hspared⟩ :=
      @exists_record s writer hmodel hfits v vsim hget port mode (v ∈ shown.map Prod.fst) _ hreach
    have haccepts₁ : w₁.Accepts urandom s :=
      { haccepts with
        scheme := hscheme ▸ haccepts.scheme
        name := hscheme ▸ haccepts.name }
    have happly : s.applyTlvs [t] = .ok { s with vlans := s.withRecord m } := by
      rw [VirtualSwitchState.applyTlvs_cons, htag, applyNsdpWrite_vlanMembers hparse]
      rfl
    obtain ⟨w₂, resp, s₂, hwrite, hconnected₂, hstate⟩ := hconnected.write haccepts₁
      (by
        intro t' ht'
        rw [List.mem_singleton.mp ht', htag]
        decide) happly (by omega)
    rcases hharmless with ⟨_, hsilent⟩ | hleaves
    · obtain ⟨answer, hanswer⟩ := sent_rewrite htlv
      exact hsilent _ (List.mem_append_right _ hanswer) trivial
    · have hvlans : ((rewrite writer v port mode
          (if v ∈ shown.map Prod.fst then some (vsim.nsdpInfo v) else none)).run
          (clientCall urandom network) w₁).device.net.server.state.vlans = s.withRecord m := by
        rw [vlans_rewrite htlv, hpassword, hwrite]
        show w₂.net.server.state.vlans = _
        rw [hconnected₂.state]
        rcases hstate with ⟨_, rfl⟩ | ⟨_, _, rfl⟩
        · rfl
        · rfl
      exact hspares (hspared.mp ((leavesOthers_iff_spared hvlans hid hget port).mp hleaves))

/-- A table keeps its size when one of its VLANs is replaced. -/
theorem tableSize_set {v : ℤ} (hv : v ∈ s.vlans) (vsim : VlanSim) {salt : Option Bytes}
    {failures : ℤ} : tableSize
      { s with
        vlans := s.vlans.set v vsim
        nsdpLastSalt := salt
        nsdpAuthFailures := failures } ≤ tableSize s := by
  have hlength : (s.vlans.set v vsim).sortedItems.length ≤ s.vlans.sortedItems.length := by
    have hcard : (s.vlans.set v vsim).sortedItems.length ≤ s.vlans.keys.toFinset.card := by
      refine PyDict.length_sortedItems_le fun u hu => List.mem_toFinset.mpr ?_
      rcases PyDict.mem_set.mp hu with rfl | hu
      · exact hv
      · exact hu
    rwa [← PySet.length_sorted, ← PyDict.length_sortedItems] at hcard
  have hrows := Nat.mul_le_mul_right (4 + (2 + bitmapBytes s.model.portCount * 2)) hlength
  show (4 + s.servedName.length) + (4 + 1) + (s.vlans.set v vsim).sortedItems.length *
    (4 + (2 + bitmapBytes s.model.portCount * 2)) ≤ tableSize s
  rw [tableSize]
  omega

/-- The VLANs that a membership write leaves behind. -/
def membershipWritten (s : VirtualSwitchState) (v port : ℤ) (mode : VlanMode) : PyDict ℤ VlanSim :=
  s.vlans.set v (VlanSim.nsdpAfter (s.vlans.get? v) v port mode)

/-- A membership write that reaches the switch: its VLAN becomes what the writer made of its last
read, and nothing else changes. -/
theorem ends_setVlanMembership (h : w.Connected urandom network s) {writer : NsdpWriter}
    (hmodel : s.modelKey = writer.modelKey) (haccepts : w.Accepts urandom s) (hname : AsciiName s)
    (hfits : NsdpVlans s) (hpassword : writer.password = s.nsdpPassword)
    (htable : tableSize s ≤ 4064) {v port : ℤ} {mode : VlanMode} {force : Bool} (hv : v ∈ s.vlans)
    (hpos : 0 < port) (hle : port ≤ s.model.portCount)
    (hsize : headerSize + (4 + proofLength s + (4 + recordLength s.model.portCount port mode)) ≤ 4096)
    (hguard : port ∈ writer.protectedPorts → force = true) :
    ∃ w' salt failures, w'.Connected urandom network
        { s with
          vlans := membershipWritten s v port mode
          nsdpLastSalt := salt
          nsdpAuthFailures := failures } ∧
      Ends (clientCall urandom network) (writer.setVlanMembership v port mode force) w (.ok ()) w' := by
  obtain ⟨vsim, hget⟩ := PyDict.mem_iff.mp hv
  have hvpos := hfits.id_pos v hv
  have hvle := hfits.id_le v hv
  have hcount : writer.model.portCount = s.model.portCount := by
    rw [NsdpWriter.model, VirtualSwitchState.model, hmodel]
  have hinside : mode = .excluded ∨ -(8 * bitmapBytes s.model.portCount : ℤ) < port :=
    Or.inr (by omega)
  let sets := NsdpWriter.membersAfter ((s.vlans.get? v).map (VlanSim.nsdpInfo v)) port mode
  obtain ⟨hmembers, htagged⟩ := @membersAfter_fits s hfits v port mode hpos hle
  -- the record sent is the one of the sets built, and has its length
  obtain ⟨t, htlv, htag, hparse⟩ := vlanMembersTlv_inverse (Int.le_of_lt hvpos) hvle hmembers htagged
  have hwhole : writeSize s [t] ≤ 4096 + 4 := by
    obtain ⟨t', _, htlv', _, hsize', _⟩ :=
      @exists_record s writer hmodel hfits v vsim hget port mode True _ hinside
    rw [hcount, if_pos trivial] at htlv'
    rw [hget] at htlv
    cases htlv.symm.trans htlv'
    omega
  obtain ⟨w₁, hlookup, hconnected, hscheme⟩ := exists_vlan h hname hfits htable v
  have haccepts₁ : w₁.Accepts urandom s :=
    { haccepts with
      scheme := hscheme ▸ haccepts.scheme
      name := hscheme ▸ haccepts.name }
  have hcast : ((v.toNat : ℕ) : ℤ) = v := Int.toNat_of_nonneg (Int.le_of_lt hvpos)
  have happly : s.applyTlvs [t] = .ok { s with vlans := membershipWritten s v port mode } := by
    rw [VirtualSwitchState.applyTlvs_cons, htag, applyNsdpWrite_vlanMembers hparse]
    dsimp only
    rw [hcast, membershipWritten, hget]
    rfl
  obtain ⟨w₂, resp, s₂, hwrite, hconnected₂, hstate⟩ := hconnected.write haccepts₁
    (by
      intro t' ht'
      rw [List.mem_singleton.mp ht', htag]
      decide) happly hwhole
  obtain ⟨salt, failures, rfl⟩ : ∃ salt failures, s₂ =
      { s with
        vlans := membershipWritten s v port mode
        nsdpLastSalt := salt
        nsdpAuthFailures := failures } := by
    rcases hstate with ⟨_, rfl⟩ | ⟨_, salt, rfl⟩
    · exact ⟨_, _, rfl⟩
    · exact ⟨_, _, rfl⟩
  have hmember : ∀ p ∈ (VlanSim.nsdpAfter (s.vlans.get? v) v port mode).member,
      0 < p ∧ p ≤ s.model.portCount := hmembers
  obtain ⟨w₃, hagain, hconnected₃, _⟩ := exists_vlan hconnected₂ hname
    (nsdpVlans_set hfits hvpos hvle hmember Finset.sdiff_subset)
    ((tableSize_set hv _).trans htable) v
  have hafter : (membershipWritten s v port mode).get? v =
      some (VlanSim.nsdpAfter (s.vlans.get? v) v port mode) := PyDict.get?_set_self _ _ _
  rw [hafter] at hagain
  have hcall : clientCall urandom network w₁ (.write [t] writer.password) = (w₂, .ok resp) := by
    rw [hpassword]
    exact hwrite
  refine ⟨w₃, salt, failures, hconnected₃, ?_⟩
  apply Ends.bind (ends_ensure _ _)
  · apply hlookup.bind
    have hsent : Ends (clientCall urandom network)
        (writer.send ((vlanMembersTlv v sets.1 sets.2 writer.model.portCount).map ([·]))) w₁
        (.ok ()) w₂ := by
      rw [hcount, htlv]
      exact (ends_done _).bind ((ends_call hcall).bind ((ends_done _).bind (ends_done _)))
    apply hsent.bind
    apply hagain.bind
    exact ends_ensure (membershipOk_nsdpAfter _ v port mode) _
  · rintro ⟨hport, hforce⟩
    exact hforce (hguard hport)

/-- **A membership write to a VLAN the switch has.**  The port takes part as asked, and every other
port, name, VLAN and PVID stays as it was. -/
theorem setVlanMembership_participates (h : w.Connected urandom network s) {writer : NsdpWriter}
    (hmodel : s.modelKey = writer.modelKey) (haccepts : w.Accepts urandom s) (hname : AsciiName s)
    (hfits : NsdpVlans s) (hpassword : writer.password = s.nsdpPassword)
    (htable : tableSize s ≤ 4064) {v port : ℤ} (mode : VlanMode) {force : Bool} (hv : v ∈ s.vlans)
    (hpos : 0 < port) (hle : port ≤ writer.model.portCount)
    (hsize : headerSize + (4 + proofLength s + (4 + recordLength s.model.portCount port mode)) ≤ 4096)
    (hguard : port ∈ writer.protectedPorts → force = true) :
    let sets := NsdpWriter.membersAfter ((s.vlans.get? v).map (VlanSim.nsdpInfo v)) port mode
    let o := (writer.setVlanMembership v port mode force).run (clientCall urandom network) w
    let s' := o.device.net.server.state
    (∃ t, vlanMembersTlv v sets.1 sets.2 writer.model.portCount = .ok t ∧
        parseVlanMembers t.value writer.model.portCount = some ⟨v.toNat, sets.1, sets.2⟩) ∧
      o.result = .ok () ∧ s'.Participates port v mode ∧
      (∀ q ≠ port, (s'.isMember q v ↔ s.isMember q v) ∧ (s'.isUntagged q v ↔ s.isUntagged q v)) ∧
      (s'.vlans.get? v).map VlanSim.name = (s.vlans.get? v).map VlanSim.name ∧
      (∀ u ≠ v, s'.vlans.get? u = s.vlans.get? u) ∧ s'.pvids = s.pvids := by
  intro sets o s'
  have hcount : writer.model.portCount = s.model.portCount := by
    rw [NsdpWriter.model, VirtualSwitchState.model, hmodel]
  rw [hcount] at hle
  obtain ⟨vsim, hget⟩ := PyDict.mem_iff.mp hv
  obtain ⟨hmembers, htagged⟩ := @membersAfter_fits s hfits v port mode hpos hle
  obtain ⟨t, htlv, _, hparse⟩ := vlanMembersTlv_inverse (Int.le_of_lt (hfits.id_pos v hv))
    (hfits.id_le v hv) hmembers htagged
  obtain ⟨w', salt, failures, hconnected, hresult, hdevice⟩ := ends_setVlanMembership h hmodel
    haccepts hname hfits hpassword htable hv hpos hle hsize hguard
  have hswitch : s' = _ := (congrArg (fun w' : World VirtualNsdpFace => w'.net.server.state)
    hdevice).trans hconnected.state
  have hvlans : s'.vlans = membershipWritten s v port mode := congrArg VirtualSwitchState.vlans hswitch
  have hafter : s'.vlans.get? v = some (VlanSim.nsdpAfter (some vsim) v port mode) := by
    rw [hvlans, membershipWritten, hget]
    exact PyDict.get?_set_self _ _ _
  have hbits := VlanSim.mem_nsdpAfter (hfits.untagged_sub v vsim hget) v port mode
  have hmember : ∀ q, s'.isMember q v ↔
      if q = port then mode ≠ .excluded else s.isMember q v := by
    intro q
    rw [VirtualSwitchState.isMember, VirtualSwitchState.isMember, hafter, hget]
    simpa using (hbits q).1
  have huntagged : ∀ q, s'.isUntagged q v ↔
      if q = port then mode = .untagged else s.isUntagged q v := by
    intro q
    rw [VirtualSwitchState.isUntagged, VirtualSwitchState.isUntagged, hafter, hget]
    simpa using (hbits q).2
  refine ⟨⟨t, by rw [hcount]; exact htlv, by rw [hcount]; exact hparse⟩, hresult, ?_, ?_, ?_, ?_, ?_⟩
  · have hm := hmember port
    have hu := huntagged port
    rw [if_pos rfl] at hm hu
    cases mode <;> simp [VirtualSwitchState.Participates, hm, hu]
  · intro q hq
    have hm := hmember q
    have hu := huntagged q
    rw [if_neg hq] at hm hu
    exact ⟨hm, hu⟩
  · rw [hafter, hget]
    rfl
  · intro u hu
    rw [hvlans]
    exact PyDict.get?_set_ne _ _ hu
  · have hpvids := congrArg VirtualSwitchState.pvids hswitch
    exact hpvids

end Operation

/-- A ten-port switch with two VLANs, one of which has a tagged port. -/
def tenPorts (modelName : Text) : VirtualSwitchState where
  modelKey := .gs110emx
  modelName := modelName
  vlans := .ofList
    [(1, { name := "default".toList, member := {1, 2, 10}, untagged := {1, 2} }),
      (7, { name := [], member := {10} })]
  pvids := .ofList [(1, 1), (2, 1)]

/-- A writer of `tenPorts` with nothing protected. -/
def tenPortsWriter : NsdpWriter where
  modelKey := .gs110emx
  password := "password".toList
  hasNsdp := by decide

theorem nsdpVlans_tenPorts (modelName : Text) : NsdpVlans (tenPorts modelName) := by
  have hall : ∀ e ∈ (tenPorts []).vlans.items, 0 < e.1 ∧ e.1 ≤ 65535 ∧
      (∀ p ∈ e.2.member, 0 < p ∧ p ≤ (tenPorts []).model.portCount) ∧
      e.2.untagged ⊆ e.2.member := by decide
  have hget : ∀ v vsim, (tenPorts modelName).vlans.get? v = some vsim → _ :=
    fun v vsim h => hall (v, vsim) (PyDict.mem_items_of_get? h)
  refine ⟨?_, ?_, ?_, ?_⟩
  · intro v hv
    obtain ⟨vsim, h⟩ := PyDict.mem_iff.mp hv
    exact (hget v vsim h).1
  · intro v hv
    obtain ⟨vsim, h⟩ := PyDict.mem_iff.mp hv
    exact (hget v vsim h).2.1
  · exact fun v vsim h => (hget v vsim h).2.2.1
  · exact fun v vsim h => (hget v vsim h).2.2.2

theorem asciiName_tenPorts : AsciiName (tenPorts []) := by unfold AsciiName; decide

theorem fits_tenPorts : tableSize (tenPorts []) ≤ 4064 := by decide

theorem accepts_tenPorts : (freshWorld (tenPorts [])).Accepts (fun _ => [1, 2, 3, 4]) (tenPorts []) :=
  ⟨fun _ => rfl, by decide, Or.inl rfl, by decide, fun _ => asciiName_tenPorts, fun _ => rfl,
    fun _ => by decide⟩

theorem shownVlans_tenPorts : shownVlans (tenPorts []) = some (tenPorts []).vlans.sortedItems :=
  shownVlans_of_fits fits_tenPorts

theorem setVlanMembership_participates_tenPorts :
    let o := (tenPortsWriter.setVlanMembership 7 3 .untagged false).run
      (clientCall (fun _ => [1, 2, 3, 4]) promptReplies) (freshWorld (tenPorts []))
    o.result = .ok () ∧ o.device.net.server.state.Participates 3 7 .untagged := by
  obtain ⟨_, hresult, hparticipates, _⟩ := setVlanMembership_participates
    (connected_freshWorld (tenPorts [])) (show (tenPorts []).modelKey = tenPortsWriter.modelKey from rfl)
    accepts_tenPorts asciiName_tenPorts (nsdpVlans_tenPorts []) rfl fits_tenPorts .untagged
    (show (7 : ℤ) ∈ (tenPorts []).vlans by decide) (show (0 : ℤ) < 3 by decide) (by decide) (by decide)
    (show (3 : ℤ) ∈ tenPortsWriter.protectedPorts → false = true by decide)
  exact ⟨hresult, hparticipates⟩

/-- A switch whose model name is not ASCII answers no read of its VLANs. -/
theorem setVlanMembership_of_modelName :
    (freshWorld (tenPorts ['é'])).Connected (fun _ => [1, 2, 3, 4]) promptReplies (tenPorts ['é']) ∧
      NsdpVlans (tenPorts ['é']) ∧ tenPortsWriter.password = (tenPorts ['é']).nsdpPassword ∧
      (tenPorts ['é']).nsdpAuthFailures = 0 ∧ 7 ∈ (tenPorts ['é']).vlans ∧
      ((tenPortsWriter.setVlanMembership 7 3 .untagged false).run
        (clientCall (fun _ => [1, 2, 3, 4]) promptReplies) (freshWorld (tenPorts ['é']))).result =
          .error .nsdp := by
  refine ⟨connected_freshWorld _, nsdpVlans_tenPorts _, rfl, rfl, by decide, ?_⟩
  have hguard : (3 : ℤ) ∈ tenPortsWriter.protectedPorts → false = true := by decide
  rw [run_of_guard hguard]
  have hread := vlan_of_not_ascii (connected_freshWorld (tenPorts ['é']))
    (by unfold AsciiName; decide) 7
  exact (congrArg _ (run_bind_error hread)).trans rfl

end NetgearSwitch.Virtual
