import NetgearSwitch.Lib.Bitmap
import NetgearSwitch.Lib.PyDict
import NetgearSwitch.Snmp.Oids
import NetgearSwitch.Snmp.Transports

/-!
# Reading SNMP rows

The port, PVID and VLAN parsers of `protocols/snmp/parse.py`.  A column reader walks over all
rows it is given and keeps those whose OID lies under its base; a malformed index or value
under the base is an `SnmpError`.
-/

namespace NetgearSwitch.Snmp

open PyText

/-! ## §1 Columns -/

/-- `_suffix`. -/
def suffix (base : Oid) (oid : Text) : Option Text := after? (oidText base ++ ['.']) oid

/-- `int(row.value)`. -/
def SnmpValue.toInt : SnmpValue → Option ℤ
  | .int n => some n
  | .str t => pyInt t
  | .bytes b => if b.all fun x => x.toNat < 128 then pyInt (PyCodec.latin1Decode b) else none

/-- One row of a column walk: `entry` makes an index and a value of the row's suffix and value,
or skips the row. -/
def columnStep {α : Type} (base : Oid)
    (entry : Text → SnmpValue → Except LibError (Option (ℤ × α))) (out : PyDict ℤ α)
    (row : SnmpRow) : Except LibError (PyDict ℤ α) :=
  match suffix base row.oid with
  | none => .ok out
  | some s => (entry s row.value).map fun
    | none => out
    | some (i, a) => out.set i a

/-- Read one column. -/
def readColumn {α : Type} (base : Oid) (entry : Text → SnmpValue → Except LibError (Option (ℤ × α)))
    (rows : List SnmpRow) : Except LibError (PyDict ℤ α) :=
  rows.foldlM (columnStep base entry) ∅

/-- A row of an integer column; a deeper row is skipped.  The index is a part of an OID, which has
far fewer digits than `int` takes. -/
def intEntry (s : Text) (value : SnmpValue) : Except LibError (Option (ℤ × ℤ)) :=
  if '.' ∈ s then .ok none
  else match spelledInt s, value.toInt with
    | some i, some n => .ok (some (i, n))
    | _, _ => .error .snmp

/-- A row of a text column; bytes are read as UTF-8. -/
def strEntry (s : Text) (value : SnmpValue) : Except LibError (Option (ℤ × Text)) :=
  if '.' ∈ s then .ok none
  else match spelledInt s, value with
    | some i, .bytes b => .ok (some (i, PyCodec.utf8DecodeReplace b))
    | some i, .str t => .ok (some (i, t))
    | _, _ => .error .snmp

/-- A row of a static VLAN bitmap column. -/
def bitmapEntry (s : Text) (value : SnmpValue) : Except LibError (Option (ℤ × SnmpValue)) :=
  if !isDigits s then .error .snmp
  else match value with
    | .int _ => .error .snmp
    | value => .ok (some (digitsValue s, value))

/-- A row of a current VLAN bitmap column, whose index has a time mark in front. -/
def currentBitmapEntry (s : Text) (value : SnmpValue) :
    Except LibError (Option (ℤ × SnmpValue)) :=
  match s.splitOn '.', value with
  | [mark, vlan], value =>
    if !(isDigits mark && isDigits vlan) then .error .snmp
    else match value with
      | .int _ => .error .snmp
      | value => .ok (some (digitsValue vlan, value))
  | _, _ => .error .snmp

/-- `index_int_column`. -/
def indexIntColumn (rows : List SnmpRow) (base : Oid) : Except LibError (PyDict ℤ ℤ) :=
  readColumn base intEntry rows

/-- `index_str_column`. -/
def indexStrColumn (rows : List SnmpRow) (base : Oid) : Except LibError (PyDict ℤ Text) :=
  readColumn base strEntry rows

/-- `_vlan_bitmap_map`. -/
def vlanBitmapMap (rows : List SnmpRow) (base : Oid) : Except LibError (PyDict ℤ SnmpValue) :=
  readColumn base bitmapEntry rows

/-- `_current_vlan_bitmap_map`. -/
def currentVlanBitmapMap (rows : List SnmpRow) (base : Oid) :
    Except LibError (PyDict ℤ SnmpValue) :=
  readColumn base currentBitmapEntry rows

/-! ## §2 Ports -/

/-- `ETHERNET_CSMACD`. -/
def ethernetCsmacd : ℤ := 6

/-- `physical_ports`: `none` where no interface types were read. -/
def physicalPorts (ifTypes : List SnmpRow) : Except LibError (Option (Finset ℤ)) := do
  let types ← indexIntColumn ifTypes ifType
  .ok (if types.items = [] then none
    else some (types.keys.toFinset.filter fun p => types.get? p = some ethernetCsmacd))

/-- `x or None` of a text. -/
def textOrNone (t : Option Text) : Option Text := t.filter (· ≠ [])

/-- `_DUPLEX_STATUS`. -/
def duplexStatus : ℤ → Option Bool
  | 2 => some false
  | 3 => some true
  | _ => none

/-- The columns `parse_port_status` reads. -/
structure PortColumns where
  admin : PyDict ℤ ℤ
  oper : PyDict ℤ ℤ
  speed : PyDict ℤ ℤ
  name : PyDict ℤ Text
  aliases : PyDict ℤ Text
  duplex : PyDict ℤ ℤ
  pause : PyDict ℤ ℤ

/-- The status of port `p`. -/
def PortColumns.status (c : PortColumns) (p : ℤ) : PortStatus :=
  let linkUp := decide (c.oper.get? p = some 1)
  { port := p
    name := textOrNone (c.name.get? p)
    adminEnabled := decide (c.admin.get? p = some 1)
    linkUp := linkUp
    fullDuplex := duplexStatus ((c.duplex.get? p).getD 0)
    flowControl := (c.pause.get? p).map (· ≠ 1)
    speedMbps := (c.speed.get? p).filter fun mbps => mbps ≠ 0 && linkUp
    description := textOrNone (c.aliases.get? p)
    operStatus := c.oper.get? p }

/-- `parse_port_status`. -/
def parsePortStatus (admin oper speed names aliases ifTypes duplex pause : List SnmpRow) :
    Except LibError (List PortStatus) := do
  let columns : PortColumns :=
    { admin := ← indexIntColumn admin ifAdminStatus
      oper := ← indexIntColumn oper ifOperStatus
      speed := ← indexIntColumn speed ifHighSpeed
      name := ← indexStrColumn names ifName
      aliases := ← indexStrColumn aliases ifAlias
      duplex := ← indexIntColumn duplex dot3StatsDuplexStatus
      pause := ← indexIntColumn pause dot3PauseOperMode }
  let physical ← physicalPorts ifTypes
  let ports := columns.admin.keys.toFinset ∪ columns.oper.keys.toFinset
  .ok ((PySet.sorted (match physical with
    | none => ports
    | some physical => ports ∩ physical)).map columns.status)

/-! ## §3 VLANs -/

/-- `decode_port_bitmap`. -/
def decodePortBitmap : SnmpValue → Except LibError (Finset ℤ)
  | .bytes b => .ok (Bitmap.numbers b)
  | .str t => (orRaise .snmp (PyCodec.latin1Encode t)).map Bitmap.numbers
  | .int _ => .error .snmp

/-- The columns `parse_vlans` reads. -/
structure VlanColumns where
  physical : Option (Finset ℤ)
  name : PyDict ℤ Text
  egress : PyDict ℤ SnmpValue
  untagged : PyDict ℤ SnmpValue
  currentEgress : PyDict ℤ SnmpValue
  currentUntagged : PyDict ℤ SnmpValue

/-- `ports_of`; a missing bitmap is the empty text. -/
def VlanColumns.portsOf (c : VlanColumns) (bitmap : Option SnmpValue) :
    Except LibError (Finset ℤ) := do
  let decoded ← decodePortBitmap (bitmap.getD (.str []))
  .ok (match c.physical with
    | none => decoded
    | some physical => decoded ∩ physical)

/-- The entry of VLAN `vid`: its static row where it has one. -/
def VlanColumns.info (c : VlanColumns) (vid : ℤ) : Except LibError VLANInfo := do
  let staticRow := vid ∈ c.name
  let member ← c.portsOf (if staticRow then c.egress.get? vid else c.currentEgress.get? vid)
  let untagged ← c.portsOf (if staticRow then c.untagged.get? vid else c.currentUntagged.get? vid)
  .ok
    { vlanId := vid
      name := textOrNone (c.name.get? vid)
      memberPorts := member
      taggedPorts := member \ untagged
      untaggedPorts := untagged }

/-- `parse_vlans`. -/
def parseVlans (names egress untagged ifTypes currentEgress currentUntagged : List SnmpRow) :
    Except LibError (List VLANInfo) := do
  let columns : VlanColumns :=
    { physical := ← physicalPorts ifTypes
      name := ← indexStrColumn names dot1qVlanStaticName
      egress := ← vlanBitmapMap egress dot1qVlanStaticEgress
      untagged := ← vlanBitmapMap untagged dot1qVlanStaticUntagged
      currentEgress := ← currentVlanBitmapMap currentEgress dot1qVlanCurrentEgress
      currentUntagged := ← currentVlanBitmapMap currentUntagged dot1qVlanCurrentUntagged }
  (PySet.sorted (columns.name.keys.toFinset ∪ columns.currentEgress.keys.toFinset)).mapM columns.info

/-- `parse_pvids`. -/
def parsePvids (rows ifTypes : List SnmpRow) : Except LibError (List (ℤ × ℤ)) := do
  let pvids ← indexIntColumn rows dot1qPvid
  let physical ← physicalPorts ifTypes
  .ok (pvids.sortedItems.filter fun e =>
    match physical with
    | none => true
    | some physical => e.1 ∈ physical)

/-! ## §4 Reading a column

Only the rows under the base matter, and entries with distinct indices make up the column. -/

section Column

variable {α : Type} {base : Oid} {entry : Text → SnmpValue → Except LibError (Option (ℤ × α))}

theorem columnStep_of_none {row : SnmpRow} (h : suffix base row.oid = none) (out : PyDict ℤ α) :
    columnStep base entry out row = .ok out := by
  rw [columnStep, h]

theorem columnStep_of_entry {row : SnmpRow} {s : Text} {e : ℤ × α}
    (h : suffix base row.oid = some s) (he : entry s row.value = .ok (some e))
    (out : PyDict ℤ α) : columnStep base entry out row = .ok (out.set e.1 e.2) := by
  simp only [columnStep, h, he]
  rfl

theorem readColumn_filter (rows : List SnmpRow) :
    readColumn base entry rows =
      readColumn base entry (rows.filter fun r => (suffix base r.oid).isSome) := by
  unfold readColumn
  generalize (∅ : PyDict ℤ α) = out
  induction rows generalizing out with
  | nil => rfl
  | cons row rows ih =>
    cases hs : suffix base row.oid with
    | none =>
      rw [List.filter_cons_of_neg (by simp [hs]), List.foldlM_cons, columnStep_of_none hs]
      exact ih out
    | some s =>
      rw [List.filter_cons_of_pos (by simp [hs]), List.foldlM_cons, List.foldlM_cons]
      cases columnStep base entry out row with
      | error e => rfl
      | ok out' => exact ih out'

/-- Rows that all give an entry. -/
theorem readColumn_map {γ : Type} {l : List γ} {row : γ → SnmpRow} {e : γ → ℤ × α}
    (h : ∀ x ∈ l, ∃ s, suffix base (row x).oid = some s ∧
      entry s (row x).value = .ok (some (e x))) :
    readColumn base entry (l.map row) = .ok (PyDict.ofList (l.map e)) := by
  unfold readColumn PyDict.ofList
  generalize (∅ : PyDict ℤ α) = out
  induction l generalizing out with
  | nil => rfl
  | cons x l ih =>
    obtain ⟨s, hs, hentry⟩ := h x List.mem_cons_self
    rw [List.map_cons, List.foldlM_cons, columnStep_of_entry hs hentry]
    exact ih (fun y hy => h y (List.mem_cons_of_mem _ hy)) _

/-- A column that reads has an entry, or nothing, in every row under its base. -/
theorem entry_of_readColumn {rows : List SnmpRow} {d : PyDict ℤ α}
    (h : readColumn base entry rows = .ok d) {row : SnmpRow} (hrow : row ∈ rows) {s : Text}
    (hs : suffix base row.oid = some s) : ∃ e, entry s row.value = .ok e := by
  unfold readColumn at h
  generalize (∅ : PyDict ℤ α) = out at h
  induction rows generalizing out with
  | nil => cases hrow
  | cons r rows ih =>
    rw [List.foldlM_cons] at h
    obtain ⟨out', hstep, hrest⟩ := bind_eq_ok.mp h
    rcases List.mem_cons.mp hrow with rfl | hrow
    · simp only [columnStep, hs] at hstep
      cases hentry : entry s row.value with
      | error e =>
        rw [hentry] at hstep
        cases hstep
      | ok e => exact ⟨e, rfl⟩
    · exact ih hrow out' hrest

end Column

/-! ## §5 What VLANs read as -/

theorem pos_of_portsOf {columns : VlanColumns} {bitmap : Option SnmpValue} {ports : Finset ℤ}
    (h : columns.portsOf bitmap = .ok ports) : ∀ p ∈ ports, 1 ≤ p := by
  have hdecoded : ∀ {value : SnmpValue} {decoded : Finset ℤ},
      decodePortBitmap value = .ok decoded → ∀ p ∈ decoded, 1 ≤ p := by
    intro value decoded hvalue p hp
    cases value with
    | int n => cases hvalue
    | bytes b =>
      cases hvalue
      exact (Bitmap.le_of_mem_numbers hp).1
    | str text =>
      cases htext : PyCodec.latin1Encode text with
      | none =>
        rw [decodePortBitmap, htext] at hvalue
        cases hvalue
      | some b =>
        rw [decodePortBitmap, htext] at hvalue
        cases hvalue
        exact (Bitmap.le_of_mem_numbers hp).1
  unfold VlanColumns.portsOf at h
  obtain ⟨decoded, hbitmap, h⟩ := bind_eq_ok.mp h
  intro p hp
  split at h
  · cases h
    exact hdecoded hbitmap p hp
  · cases h
    exact hdecoded hbitmap p (Finset.mem_inter.mp hp).1

/-- What the reader makes of a VLAN, whatever the rows are. -/
structure WellRead (info : VLANInfo) : Prop where
  tagged : info.taggedPorts = info.memberPorts \ info.untaggedPorts
  pos : (∀ p ∈ info.memberPorts, 1 ≤ p) ∧ ∀ p ∈ info.untaggedPorts, 1 ≤ p

theorem wellRead_of_info {columns : VlanColumns} {vid : ℤ} {info : VLANInfo}
    (h : columns.info vid = .ok info) : info.vlanId = vid ∧ WellRead info := by
  unfold VlanColumns.info at h
  obtain ⟨member, hmember, h⟩ := bind_eq_ok.mp h
  obtain ⟨untagged, huntagged, h⟩ := bind_eq_ok.mp h
  cases h
  exact ⟨rfl, rfl, pos_of_portsOf hmember, pos_of_portsOf huntagged⟩

section Vlans

variable {names egress untagged ifTypes currentEgress currentUntagged : List SnmpRow}
  {vlans : List VLANInfo}

/-- The VLANs are those of some columns, each id once. -/
theorem exists_columns_of_parseVlans
    (h : parseVlans names egress untagged ifTypes currentEgress currentUntagged = .ok vlans) :
    ∃ (columns : VlanColumns) (ids : Finset ℤ),
      (PySet.sorted ids).mapM columns.info = .ok vlans := by
  unfold parseVlans at h
  obtain ⟨physical, -, h⟩ := bind_eq_ok.mp h
  obtain ⟨name, -, h⟩ := bind_eq_ok.mp h
  obtain ⟨egress, -, h⟩ := bind_eq_ok.mp h
  obtain ⟨untagged, -, h⟩ := bind_eq_ok.mp h
  obtain ⟨currentEgress, -, h⟩ := bind_eq_ok.mp h
  obtain ⟨currentUntagged, -, h⟩ := bind_eq_ok.mp h
  exact ⟨_, _, h⟩

theorem wellRead_of_parseVlans
    (h : parseVlans names egress untagged ifTypes currentEgress currentUntagged = .ok vlans) :
    ∀ info ∈ vlans, WellRead info := by
  obtain ⟨columns, ids, hread⟩ := exists_columns_of_parseVlans h
  intro info hinfo
  obtain ⟨vid, -, hvid⟩ := mem_of_mapM_eq_ok hread info hinfo
  exact (wellRead_of_info hvid).2

theorem nodup_vlanId_of_parseVlans
    (h : parseVlans names egress untagged ifTypes currentEgress currentUntagged = .ok vlans) :
    (vlans.map (·.vlanId)).Nodup := by
  obtain ⟨columns, ids, hread⟩ := exists_columns_of_parseVlans h
  rw [map_of_mapM_eq_ok (fun vid info hinfo => (wellRead_of_info hinfo).1) hread, List.map_id']
  exact PySet.nodup_sorted ids

end Vlans

end NetgearSwitch.Snmp
