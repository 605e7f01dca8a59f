import NetgearSwitch.Snmp.Write

/-!
# The laws of the bitmaps

The PortLists of `protocols/snmp/write.py` and the allowed-VLAN bitmaps of `snmp_write.py` as sets
of numbers: encoding and decoding invert each other, an edit changes the numbers named and no
other, and the width of what it leaves is the least that keeps the device's octets and has room
for every number.  None of this depends on the order in which Python iterates a set.
-/

namespace NetgearSwitch.Snmp

open Virtual

/-! ## §1 PortLists -/

/-- The bytes a PortList needs to hold a port: `ceil(port / 8)`. -/
def portBytes (port : ℤ) : ℕ := ((port + 7) / 8).toNat

theorem le_portBytes_iff {port : ℤ} {width : ℕ} : port ≤ 8 * (width : ℤ) ↔ portBytes port ≤ width := by
  unfold portBytes
  omega

/-- Encoding a set of positive ports, in whatever order the set is taken. -/
theorem encodePortBitmap_spec {ports : Finset ℤ} (width : ℕ) (h : ∀ p ∈ ports, 1 ≤ p) :
    ∃ b, encodePortBitmap ports width = some b ∧ Bitmap.numbers b = ports ∧
      ∀ order : List ℤ, order.toFinset = ports → Bitmap.encodeNumbers width order = some b := by
  have hsorted : ∀ p ∈ PySet.sorted ports, 1 ≤ p := fun p hp => h p (PySet.mem_sorted.mp hp)
  obtain ⟨b, hb, -, hnum⟩ := Bitmap.encodeNumbers_spec width hsorted
  rw [PySet.toFinset_sorted] at hnum
  refine ⟨b, hb, hnum, fun order horder => ?_⟩
  have hset : order.toFinset = (PySet.sorted ports).toFinset := by rw [horder, PySet.toFinset_sorted]
  rw [Bitmap.encodeNumbers_order width hsorted hset]
  exact hb

/-- Encoding what was decoded, at the width it had, gives the octets back. -/
theorem encodePortBitmap_numbers (b : Bytes) :
    encodePortBitmap (Bitmap.numbers b) b.length = some b := by
  have hfits : ∀ p ∈ PySet.sorted (Bitmap.numbers b), 1 ≤ p ∧ p ≤ 8 * (b.length : ℤ) :=
    fun p hp => Bitmap.le_of_mem_numbers (PySet.mem_sorted.mp hp)
  obtain ⟨b', hb', hlen, hnum⟩ := Bitmap.encodeNumbers_fits hfits
  rw [PySet.toFinset_sorted] at hnum
  rw [encodePortBitmap, hb', Bitmap.eq_of_numbers hlen hnum]

/-- An edit of one port: its bit, and the width it needs. -/
theorem setPortBit_spec (current : Bytes) {port : ℤ} (present : Bool) (width : ℕ) (h : 1 ≤ port) :
    ∃ new, setPortBit current port present width = some new ∧
      new.length = max (targetWidth current.length width) (if present then portBytes port else 0) ∧
      Bitmap.numbers new = if present then insert port (Bitmap.numbers current)
        else (Bitmap.numbers current).erase port := by
  cases present with
  | false =>
    have hfits : ∀ n ∈ PySet.sorted ((Bitmap.numbers current).erase port),
        1 ≤ n ∧ n ≤ 8 * (targetWidth current.length width : ℤ) := fun n hn =>
      fits_targetWidth width (Finset.mem_of_mem_erase (PySet.mem_sorted.mp hn))
    obtain ⟨new, hnew, hlen, hnum⟩ := Bitmap.encodeNumbers_fits hfits
    rw [PySet.toFinset_sorted] at hnum
    exact ⟨new, hnew, by simpa using hlen, hnum⟩
  | true =>
    have hpos : ∀ n ∈ PySet.sorted (insert port (Bitmap.numbers current)), 1 ≤ n := by
      intro n hn
      rcases Finset.mem_insert.mp (PySet.mem_sorted.mp hn) with rfl | hn
      · exact h
      · exact (Bitmap.le_of_mem_numbers hn).1
    obtain ⟨new, hnew, hnum, hwidth, hleast⟩ :=
      Bitmap.encodeNumbers_least (targetWidth current.length width) hpos
    rw [PySet.toFinset_sorted] at hnum
    refine ⟨new, hnew, ?_, hnum⟩
    rw [if_pos rfl]
    apply le_antisymm
    · apply hleast _ (le_max_left _ _)
      intro n hn
      rcases Finset.mem_insert.mp (PySet.mem_sorted.mp hn) with rfl | hn
      · exact le_portBytes_iff.mpr (le_max_right _ _)
      · have := (fits_targetWidth width hn).2
        omega
    · have hmem : port ∈ Bitmap.numbers new := by
        rw [hnum]
        exact Finset.mem_insert_self _ _
      have hport := le_portBytes_iff.mp (Bitmap.le_of_mem_numbers hmem).2
      omega

/-- **The PortList laws.**  Decoding inverts encoding for every set of positive ports and every
width, encoding inverts decoding for every octet string, and a membership change edits one port of
two lists whose widths are the least that do. -/
theorem portBitmap_laws (ports : Finset ℤ) (width : ℕ) (hports : ∀ p ∈ ports, 1 ≤ p) (b : Bytes)
    (egress untagged : Bytes) (port : ℤ) (hport : 1 ≤ port) (mode : VlanMode) :
    (∃ encoded, encodePortBitmap ports width = some encoded ∧
      decodePortBitmap (.bytes encoded) = .ok ports ∧
      ∀ order : List ℤ, order.toFinset = ports →
        Bitmap.encodeNumbers width order = some encoded) ∧
    (∃ decoded, decodePortBitmap (.bytes b) = .ok decoded ∧
      encodePortBitmap decoded b.length = some b) ∧
    ∃ newEgress newUntagged,
      membershipBitmaps mode port egress untagged width = some (newEgress, newUntagged) ∧
      newEgress.length = max (max (max 8 egress.length) width)
        (if mode = .untagged ∨ mode = .tagged then portBytes port else 0) ∧
      newUntagged.length = max (max (max 8 untagged.length) width)
        (if mode = .untagged then portBytes port else 0) ∧
      decodePortBitmap (.bytes newEgress) = .ok (if mode = .untagged ∨ mode = .tagged then
        insert port (Bitmap.numbers egress) else (Bitmap.numbers egress).erase port) ∧
      decodePortBitmap (.bytes newUntagged) = .ok (if mode = .untagged then
        insert port (Bitmap.numbers untagged) else (Bitmap.numbers untagged).erase port) := by
  refine ⟨?_, ⟨Bitmap.numbers b, rfl, encodePortBitmap_numbers b⟩, ?_⟩
  · obtain ⟨encoded, hencoded, hnum, horder⟩ := encodePortBitmap_spec width hports
    exact ⟨encoded, hencoded, by rw [decodePortBitmap, hnum], horder⟩
  · obtain ⟨newEgress, he, helen, henum⟩ := setPortBit_spec egress (inEgress mode) width hport
    obtain ⟨newUntagged, hu, hulen, hunum⟩ := setPortBit_spec untagged (inUntagged mode) width hport
    refine ⟨newEgress, newUntagged, ?_, ?_, ?_, ?_, ?_⟩
    · rw [membershipBitmaps, he, hu]
      rfl
    · rw [helen]
      cases mode <;> rfl
    · rw [hulen]
      cases mode <;> rfl
    · rw [decodePortBitmap, henum]
      cases mode <;> rfl
    · rw [decodePortBitmap, hunum]
      cases mode <;> rfl

theorem portBitmap_laws_uplink :
    (∃ encoded, encodePortBitmap {3, 70} 8 = some encoded ∧
      decodePortBitmap (.bytes encoded) = .ok {3, 70}) ∧
    ∃ newEgress newUntagged, membershipBitmaps .tagged 70 [0x20] [] 8 =
        some (newEgress, newUntagged) ∧ newEgress.length = 9 ∧ newUntagged.length = 8 := by
  obtain ⟨⟨encoded, hencoded, hdecoded, -⟩, -, newEgress, newUntagged, hnew, helen, hulen, -⟩ :=
    portBitmap_laws {3, 70} 8 (by decide) [] [0x20] [] 70 (by decide) .tagged
  exact ⟨⟨encoded, hencoded, hdecoded⟩, newEgress, newUntagged, hnew, helen, hulen⟩

/-! ## §2 Allowed-VLAN bitmaps -/

theorem highestNamed_le {add remove : Finset ℤ} {n : ℤ} (h1 : 1 ≤ n)
    (h : ∀ v ∈ add ∪ remove, v ≤ n) : highestNamed add remove ≤ n := by
  unfold highestNamed
  cases hmax : (PySet.sorted (add ∪ remove)).max? with
  | none => exact h1
  | some m => exact h m (PySet.mem_sorted.mp (List.max?_eq_some_iff.mp hmax).1)

/-- The bytes an edit needs are no more than any number of them, 512 or more, that has room for
every VLAN named. -/
theorem bytesNeeded_le {add remove : Finset ℤ} {n : ℕ} (h512 : switchportVlanBitmapBytes ≤ n)
    (h : ∀ v ∈ add ∪ remove, v ≤ 8 * (n : ℤ)) : bytesNeeded add remove ≤ n := by
  have h512' : 512 ≤ n := h512
  have hhighest : highestNamed add remove ≤ 8 * (n : ℤ) := highestNamed_le (by omega) h
  unfold bytesNeeded switchportVlanBitmapBytes
  omega

/-- The bitmap an edit works on. -/
def grownBitmap (bitmap : Bytes) (add remove : Finset ℤ) : Bytes :=
  bitmap ++ List.replicate (bytesNeeded add remove - bitmap.length) 0

theorem length_grownBitmap (bitmap : Bytes) (add remove : Finset ℤ) :
    (grownBitmap bitmap add remove).length = max bitmap.length (bytesNeeded add remove) := by
  rw [grownBitmap, List.length_append, List.length_replicate]
  omega

/-- An edit sets and clears the VLANs named, in whatever order the sets are taken, and keeps the
width it was grown to. -/
theorem editVlanBits_grown {add remove : Finset ℤ} (bitmap : Bytes) (hadd : ∀ v ∈ add, 1 ≤ v)
    (hremove : ∀ v ∈ remove, 1 ≤ v) :
    ∃ edited, editVlanBits bitmap add remove = some edited ∧
      edited.length = max bitmap.length (bytesNeeded add remove) ∧
      decodeVlanBitmap edited = (decodeVlanBitmap bitmap ∪ add) \ remove ∧
      ∀ adds removes : List ℤ, adds.toFinset = add → removes.toFinset = remove →
        ((Bitmap.addNumbers (grownBitmap bitmap add remove) adds).bind fun data =>
          Bitmap.removeNumbers data removes) = some edited := by
  have hlen := length_grownBitmap bitmap add remove
  have hfit : ∀ {v : ℤ}, v ∈ add ∪ remove →
      v ≤ 8 * ((grownBitmap bitmap add remove).length : ℤ) := by
    intro v hv
    have := le_bytesNeeded hv
    omega
  have hadds : ∀ v ∈ PySet.sorted add, 1 ≤ v ∧ v ≤ 8 * ((grownBitmap bitmap add remove).length : ℤ) := by
    intro v hv
    have hv := PySet.mem_sorted.mp hv
    exact ⟨hadd v hv, hfit (Finset.mem_union_left _ hv)⟩
  obtain ⟨data, hdata, hdatalen, hdatanum⟩ := Bitmap.addNumbers_spec _ _ hadds
  have hremoves : ∀ v ∈ PySet.sorted remove, 1 ≤ v ∧ v ≤ 8 * (data.length : ℤ) := by
    intro v hv
    have hv := PySet.mem_sorted.mp hv
    rw [hdatalen]
    exact ⟨hremove v hv, hfit (Finset.mem_union_right _ hv)⟩
  obtain ⟨edited, hedited, heditedlen, heditednum⟩ := Bitmap.removeNumbers_spec _ _ hremoves
  refine ⟨edited, ?_, by rw [heditedlen, hdatalen, hlen], ?_, ?_⟩
  · show (Bitmap.addNumbers (grownBitmap bitmap add remove) (PySet.sorted add)).bind _ = _
    rw [hdata, Option.bind_some, hedited]
  · rw [decodeVlanBitmap, heditednum, hdatanum, grownBitmap, Bitmap.numbers_append_replicate_zero,
      PySet.toFinset_sorted, PySet.toFinset_sorted, decodeVlanBitmap]
  · intro adds removes h h'
    rw [Bitmap.addNumbers_order hadds (by rw [h, PySet.toFinset_sorted]), hdata, Option.bind_some,
      Bitmap.removeNumbers_order hremoves (by rw [h', PySet.toFinset_sorted]), hedited]

/-- **The edit of an allowed-VLAN bitmap.**  It is as long as the device's own, 512 bytes, and as
long as every VLAN named needs, and no longer; it names what the device's did and what is added,
but for what is removed.  A bitmap made of ids in `1..4096` names them. -/
theorem editVlanBits_laws (bitmap : Bytes) (add remove : Finset ℤ) (hadd : ∀ v ∈ add, 1 ≤ v)
    (hremove : ∀ v ∈ remove, 1 ≤ v) (vlans : Finset ℤ) (hvlans : ∀ v ∈ vlans, 1 ≤ v ∧ v ≤ 4096) :
    (∃ edited, editVlanBits bitmap add remove = some edited ∧
      (bitmap.length ≤ edited.length ∧ 512 ≤ edited.length ∧
        ∀ v ∈ add ∪ remove, v ≤ 8 * (edited.length : ℤ)) ∧
      (∀ n : ℕ, bitmap.length ≤ n → 512 ≤ n → (∀ v ∈ add ∪ remove, v ≤ 8 * (n : ℤ)) →
        edited.length ≤ n) ∧
      decodeVlanBitmap edited = (decodeVlanBitmap bitmap ∪ add) \ remove ∧
      ∀ adds removes : List ℤ, adds.toFinset = add → removes.toFinset = remove →
        ((Bitmap.addNumbers (grownBitmap bitmap add remove) adds).bind fun data =>
          Bitmap.removeNumbers data removes) = some edited) ∧
    ∃ made, vlanBitmap vlans = some made ∧ decodeVlanBitmap made = vlans := by
  refine ⟨?_, vlanBitmap_spec hvlans⟩
  obtain ⟨edited, hedited, hlen, hnum, horder⟩ := editVlanBits_grown bitmap hadd hremove
  have hneeded : 512 ≤ bytesNeeded add remove := by
    unfold bytesNeeded switchportVlanBitmapBytes
    omega
  refine ⟨edited, hedited, ⟨by omega, by omega, ?_⟩, ?_, hnum, horder⟩
  · intro v hv
    have := le_bytesNeeded hv
    omega
  · intro n hbitmap h512 hn
    have := bytesNeeded_le h512 hn
    omega

theorem editVlanBits_laws_late :
    (∃ edited, editVlanBits [0xFF] {5000} {2, 3} = some edited ∧
      decodeVlanBitmap edited = (decodeVlanBitmap [0xFF] ∪ {5000}) \ {2, 3}) ∧
    ∃ made, vlanBitmap {1, 4094} = some made ∧ decodeVlanBitmap made = {1, 4094} := by
  obtain ⟨⟨edited, hedited, -, -, hnum, -⟩, hmade⟩ := editVlanBits_laws [0xFF] {5000} {2, 3}
    (by decide) (by decide) {1, 4094} (by decide)
  exact ⟨⟨edited, hedited, hnum⟩, hmade⟩

end NetgearSwitch.Snmp
