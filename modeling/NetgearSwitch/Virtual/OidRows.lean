import NetgearSwitch.Snmp.Parse
import NetgearSwitch.Virtual.OidMap

/-!
# Reading the MIB view back

The rows a manager walks out of `oid_map`, and what the parsers of `protocols/snmp/parse.py`
make of them.  Every section of the map lives in its own subtrees, so the rows of a column are
those of one section, and each parsed column is a dictionary of the state seen through a
function.
-/

namespace NetgearSwitch.Virtual

open Snmp PyText

/-! ## §1 The rows of a walk -/

/-- The token of a type. -/
def SnmpType.token : SnmpType → Text
  | .integer => "INTEGER".toList
  | .gauge32 => "Gauge32".toList
  | .counter32 => "Counter32".toList
  | .counter64 => "Counter64".toList
  | .ipaddr => "IPADDR".toList
  | .octetstr => "OCTETSTR".toList
  | .oid => "OID".toList

/-- `_to_smi_value`: an octet string is sent as its latin-1 bytes. -/
def MibValue.toSnmpValue? (v : MibValue) : Option SnmpValue :=
  match v.type with
  | .integer | .gauge32 | .counter32 | .counter64 => (spelledInt v.value).map .int
  | .ipaddr | .oid => some (.str v.value)
  | .octetstr => (PyCodec.latin1Encode v.value).map .bytes

/-- The integer and the text of a row. -/
def intValue (type : SnmpType) (n : ℤ) : MibValue := ⟨type, intText n⟩

def textValue (t : Text) : MibValue := ⟨.octetstr, t⟩

def bytesValue (b : Bytes) : MibValue := textValue (PyCodec.latin1Decode b)

/-- The row a manager receives. -/
def snmpRow? (row : MibRow) : Option SnmpRow :=
  row.2.toSnmpValue?.map fun v => ⟨joinDot row.1, v, row.2.type.token⟩

/-- The rows of the whole map. -/
def VirtualSwitchState.snmpRows (s : VirtualSwitchState) : Option (List SnmpRow) :=
  s.oidMap.2.bind fun m => m.items.mapM snmpRow?

/-! ## §2 Subtrees -/

/-- Two OIDs that differ at a place both have. -/
def apart : Oid → Oid → Bool
  | c :: cs, b :: bs => c ≠ b || apart cs bs
  | _, _ => false

/-- The row stands under one of the roots. -/
def Under (roots : List Oid) (row : MibRow) : Prop :=
  ∃ root ∈ roots, ∃ tail : List Text, (∀ t ∈ tail, '.' ∉ t) ∧ row.1 = oidParts root ++ tail

/-- Does the row stand in the column? -/
def inColumn (column : Oid) (row : MibRow) : Bool := (suffix column (joinDot row.1)).isSome

theorem not_mem_natText (n : ℕ) : '.' ∉ natText n := fun h =>
  absurd (all_isDigit_natText n '.' h) (by decide)

theorem not_mem_intText (n : ℤ) : '.' ∉ intText n := by
  unfold intText
  split_ifs
  · simp [not_mem_natText]
  · exact not_mem_natText _

theorem not_mem_oidParts {oid : Oid} {t : Text} (h : t ∈ oidParts oid) : '.' ∉ t := by
  obtain ⟨n, -, rfl⟩ := List.mem_map.mp h
  exact not_mem_natText n

theorem not_mem_map_intText {ns : List ℤ} {t : Text} (h : t ∈ ns.map intText) : '.' ∉ t := by
  obtain ⟨n, -, rfl⟩ := List.mem_map.mp h
  exact not_mem_intText n

theorem under_instanceText {roots : List Oid} {base : Oid} (h : ∃ root ∈ roots, root <+: base)
    (ns : List ℤ) (v : MibValue) : Under roots (instanceText base ns, v) := by
  obtain ⟨root, hroot, rest, rfl⟩ := h
  refine ⟨root, hroot, oidParts rest ++ ns.map intText, ?_, ?_⟩
  · intro t ht
    rcases List.mem_append.mp ht with ht | ht
    · exact not_mem_oidParts ht
    · exact not_mem_map_intText ht
  · simp [instanceText, oidParts]

theorem under_instanceOfText {roots : List Oid} {base : Oid} (h : ∃ root ∈ roots, root <+: base)
    (t : Text) (v : MibValue) : Under roots (instanceOfText base t, v) := by
  obtain ⟨root, hroot, rest, rfl⟩ := h
  refine ⟨root, hroot, oidParts rest ++ t.splitOn '.', ?_, ?_⟩
  · intro u hu
    rcases List.mem_append.mp hu with hu | hu
    · exact not_mem_oidParts hu
    · exact not_mem_of_mem_splitOn hu
  · simp [instanceOfText, oidParts]

theorem Under.mono {roots roots' : List Oid} {row : MibRow} (h : Under roots row)
    (hsub : ∀ r ∈ roots, r ∈ roots') : Under roots' row := by
  obtain ⟨root, hroot, hrow⟩ := h
  exact ⟨root, hsub root hroot, hrow⟩

/-- A row under a subtree is under every subtree around it. -/
theorem Under.coarsen {roots roots' : List Oid} {row : MibRow} (h : Under roots row)
    (hroots : ∀ r ∈ roots, ∃ r' ∈ roots', r' <+: r) : Under roots' row := by
  obtain ⟨root, hroot, tail, htail, hkey⟩ := h
  obtain ⟨root', hroot', rest, rfl⟩ := hroots root hroot
  refine ⟨root', hroot', oidParts rest ++ tail, ?_, ?_⟩
  · intro t ht
    rcases List.mem_append.mp ht with ht | ht
    · exact not_mem_oidParts ht
    · exact htail t ht
  · rw [hkey, oidParts, List.map_append, List.append_assoc]
    rfl

/-- Taking a column's OID off an OID under the column. -/
theorem afterParts?_self {parts tail : List Text} (h : tail ≠ []) :
    afterParts? parts (parts ++ tail) = some tail := by
  induction parts with
  | nil =>
    obtain ⟨t, ts, rfl⟩ := List.exists_cons_of_ne_nil h
    rfl
  | cons p parts ih => simpa [afterParts?] using ih

theorem afterParts?_of_apart {column root : Oid} (h : apart column root = true)
    (tail : List Text) : afterParts? (oidParts column) (oidParts root ++ tail) = none := by
  induction column generalizing root with
  | nil => cases h
  | cons c cs ih =>
    cases root with
    | nil => cases h
    | cons b bs =>
      show (if natText c = natText b then afterParts? (oidParts cs) (oidParts bs ++ tail) else none) =
        none
      by_cases hcb : c = b
      · have hrest : apart cs bs = true := by simpa [apart, hcb] using h
        rw [if_pos (by rw [hcb]), ih hrest]
      · rw [if_neg fun hn => hcb (natText_injective hn)]

theorem suffix_joinDot {column : Oid} (hne : column ≠ []) {parts : List Text}
    (hparts : ∀ p ∈ parts, '.' ∉ p) :
    suffix column (joinDot parts) = (afterParts? (oidParts column) parts).map joinDot :=
  after?_joinDot (by simpa [oidParts] using hne) (fun _ h => not_mem_oidParts h) hparts

theorem inColumn_of_under {column : Oid} {roots : List Oid} {row : MibRow}
    (hrow : Under roots row) (hapart : ∀ root ∈ roots, apart column root = true) :
    inColumn column row = false := by
  obtain ⟨root, hroot, tail, htail, hkey⟩ := hrow
  have hsep := hapart root hroot
  have hne : column ≠ [] := by
    rintro rfl
    cases hsep
  have hparts : ∀ p ∈ oidParts root ++ tail, '.' ∉ p := by
    intro p hp
    rcases List.mem_append.mp hp with hp | hp
    · exact not_mem_oidParts hp
    · exact htail p hp
  rw [inColumn, hkey, suffix_joinDot hne hparts, afterParts?_of_apart hsep]
  rfl

theorem inColumn_of_apart {column base : Oid} (h : apart column base = true) (ns : List ℤ)
    (v : MibValue) : inColumn column (instanceText base ns, v) = false :=
  inColumn_of_under (under_instanceText ⟨base, List.mem_singleton_self base, List.prefix_refl base⟩
    ns v) (by simpa using h)

/-- The index of a row of the column. -/
theorem suffix_instanceText {column : Oid} (hne : column ≠ []) {ns : List ℤ} (hns : ns ≠ []) :
    suffix column (joinDot (instanceText column ns)) = some (joinDot (ns.map intText)) := by
  have hparts : ∀ p ∈ instanceText column ns, '.' ∉ p := by
    intro p hp
    rcases List.mem_append.mp hp with hp | hp
    · exact not_mem_oidParts hp
    · exact not_mem_map_intText hp
  rw [suffix_joinDot hne hparts, instanceText, afterParts?_self (by simpa using hns)]
  rfl

theorem inColumn_self {column : Oid} (hne : column ≠ []) {ns : List ℤ} (hns : ns ≠ [])
    (v : MibValue) : inColumn column (instanceText column ns, v) = true := by
  rw [inColumn, suffix_instanceText hne hns]
  rfl

theorem inColumn_instance {column : Oid} (hne : column ≠ []) (n : ℤ) (ns : List ℤ)
    (v : MibValue) : inColumn column (instanceText column (n :: ns), v) = true :=
  inColumn_self hne (List.cons_ne_nil n ns) v

theorem filter_inColumn_eq_nil {column : Oid} {roots : List Oid} {rows : List MibRow}
    (hrows : ∀ row ∈ rows, Under roots row) (hapart : ∀ root ∈ roots, apart column root = true) :
    rows.filter (inColumn column) = [] :=
  List.filter_eq_nil_iff.mpr fun row hrow => by
    rw [inColumn_of_under (hrows row hrow) hapart]
    exact Bool.false_ne_true

/-! ## §3 Where the sections stand -/

/-- The subtrees of the interface tables. -/
def portRoots : List Oid :=
  [[1, 3, 6, 1, 2, 1, 2], [1, 3, 6, 1, 2, 1, 31], [1, 3, 6, 1, 2, 1, 10]]

/-- The subtrees of the current and the static VLAN table. -/
def vlanRoots : List Oid := [[1, 3, 6, 1, 2, 1, 17, 7, 1, 4, 2], [1, 3, 6, 1, 2, 1, 17, 7, 1, 4, 3]]

/-- The columns of the interface tables. -/
def portTable : List Oid :=
  [Snmp.ifAdminStatus, ifOperStatus, ifHighSpeed, Snmp.ifType, ifName, dot3StatsDuplexStatus,
    dot3PauseOperMode, dot3PauseAdminMode, Snmp.ifAlias, ifHcInOctets, ifHcOutOctets, ifHcInUcast,
    ifHcOutUcast, ifInErrors, ifOutErrors]

/-- The columns of the two VLAN tables. -/
def vlanTable : List Oid :=
  [dot1qVlanCurrentEgress, dot1qVlanCurrentUntagged, dot1qVlanStatus, dot1qVlanStaticName,
    dot1qVlanStaticEgress, dot1qVlanStaticUntagged]

/-- The subtree of the PVID table. -/
def pvidRoots : List Oid := [[1, 3, 6, 1, 2, 1, 17, 7, 1, 4, 5]]

/-- The subtree of the vendor. -/
def vendorRoot : Oid := [1, 3, 6, 1, 4, 1, 4526]

/-- The subtrees of everything else. -/
def otherRoots : List Oid :=
  [vendorRoot, [1, 3, 6, 1, 2, 1, 1], [1, 3, 6, 1, 2, 1, 17, 1], [1, 3, 6, 1, 2, 1, 17, 7, 1, 2],
    [1, 3, 6, 1, 2, 1, 105], [1, 3, 6, 1, 2, 1, 47], [1, 0, 8802], [1, 3, 6, 1, 2, 1, 4]]

/-- The vendor subtree of a model is one of two. -/
theorem vendorBase_eq {m : SwitchModel} {base : Oid} (h : m.snmpVendorBase = some base)
    (hm : ∃ key, m = getModel key) : base = fmBase ∨ base = smpBase := by
  obtain ⟨key, rfl⟩ := hm
  cases key <;> simp [getModel] at h <;> simp [← h]

theorem vendorRoot_isPrefix {m : SwitchModel} {v : VendorOids} (h : m.snmpVendorBase = some v.base)
    (hm : ∃ key, m = getModel key) (rest : Oid) : ∃ root ∈ otherRoots, root <+: v.base ++ rest := by
  refine ⟨vendorRoot, List.mem_cons_self, ?_⟩
  rcases vendorBase_eq h hm with hbase | hbase
  · rw [hbase]
    exact ⟨10 :: rest, rfl⟩
  · rw [hbase]
    exact ⟨11 :: rest, rfl⟩

namespace VirtualSwitchState

section Sections

variable (s : VirtualSwitchState)

private theorem under_cons {roots : List Oid} {base : Oid} {ns : List ℤ} {v : MibValue}
    {rows : List MibRow} (hbase : ∃ root ∈ roots, root <+: base) (h : ∀ row ∈ rows, Under roots row) :
    ∀ row ∈ (instanceText base ns, v) :: rows, Under roots row :=
  List.forall_mem_cons.mpr ⟨under_instanceText hbase ns v, h⟩

private theorem under_nil {roots : List Oid} : ∀ row ∈ ([] : List MibRow), Under roots row :=
  List.forall_mem_nil _

theorem under_vendor {v : VendorOids} (h : vendorOids s.model = some v) (rest : Oid) :
    ∃ root ∈ otherRoots, root <+: v.base ++ rest := by
  obtain ⟨base, hbase, rfl⟩ := Option.map_eq_some_iff.mp h
  exact vendorRoot_isPrefix hbase ⟨s.modelKey, rfl⟩ rest

theorem under_systemRows : ∀ row ∈ s.systemRows, Under otherRoots row := by
  unfold systemRows
  exact under_cons (by decide) <| under_cons (by decide) <| under_cons (by decide) <|
    under_cons (by decide) under_nil

theorem under_syslogRows {v : VendorOids} (h : vendorOids s.model = some v) :
    ∀ row ∈ s.syslogRows v, Under otherRoots row := by
  have hv := s.under_vendor h
  rw [syslogRows, List.forall_mem_append, List.forall_mem_flatMap]
  constructor
  · exact under_cons (hv _) <| under_cons (hv _) under_nil
  · intro col _
    exact under_cons (hv _) <| under_cons (hv _) <| under_cons (hv _) <| under_cons (hv _) <|
      under_cons (hv _) under_nil

theorem under_counterRow {roots : List Oid} {base : Oid} (hbase : ∃ root ∈ roots, root <+: base)
    (port : ℤ) (type : SnmpType) (n : Option ℤ) :
    ∀ row ∈ counterRow base port type n, Under roots row := by
  cases n with
  | none => exact under_nil
  | some n => exact under_cons hbase under_nil

theorem under_portTable : ∀ row ∈ s.portRows, Under portTable row := by
  rw [portRows, List.forall_mem_flatMap]
  rintro ⟨port, sim⟩ _
  simp only [List.forall_mem_append]
  refine ⟨⟨⟨⟨⟨⟨⟨⟨?_, ?_⟩, ?_⟩, under_counterRow (by decide) _ _ _⟩,
    under_counterRow (by decide) _ _ _⟩, under_counterRow (by decide) _ _ _⟩,
    under_counterRow (by decide) _ _ _⟩, under_counterRow (by decide) _ _ _⟩,
    under_counterRow (by decide) _ _ _⟩
  · exact under_cons (by decide) <| under_cons (by decide) <| under_cons (by decide) <|
      under_cons (by decide) <| under_cons (by decide) under_nil
  · cases sim.servesEtherlike with
    | true => exact under_cons (by decide) <| under_cons (by decide) <|
        under_cons (by decide) under_nil
    | false => exact under_nil
  · cases sim.description with
    | none => exact under_nil
    | some d => exact under_cons (by decide) under_nil

theorem under_portRows : ∀ row ∈ s.portRows, Under portRoots row :=
  fun row hrow => (s.under_portTable row hrow).coarsen (by decide)

theorem under_switchportRow {p : ℤ} {rows : List MibRow} (h : s.switchportRow p = some rows) :
    ∀ row ∈ rows, Under otherRoots row := by
  simp only [switchportRow, Option.bind_eq_bind, Option.bind_eq_some_iff, Option.some.injEq] at h
  obtain ⟨_, _, _, _, rfl⟩ := h
  exact under_cons (by decide) <| under_cons (by decide) <| under_cons (by decide) <|
    under_cons (by decide) <| under_cons (by decide) <| under_cons (by decide) under_nil

theorem under_switchportRows : ∀ {ports : List ℤ} {s s' : VirtualSwitchState} {rows : List MibRow},
    switchportRows ports s = (s', some rows) → ∀ row ∈ rows, Under otherRoots row
  | [], s, s', rows, h => by
    cases h
    exact under_nil
  | port :: ports, s, s', rows, h => by
    rw [switchportRows] at h
    split at h
    · cases h
    · next row hrow =>
      split at h
      · cases h
      · next rest hrest =>
        cases h
        intro r hr
        rcases List.mem_append.mp hr with hr | hr
        · exact under_switchportRow _ hrow r hr
        · exact under_switchportRows hrest r hr

theorem under_vlanRow {vid : ℤ} {vsim : VlanSim} {rows : List MibRow}
    (h : s.vlanRow vid vsim = some rows) : ∀ row ∈ rows, Under vlanTable row := by
  simp only [vlanRow, Option.bind_eq_bind, Option.bind_eq_some_iff] at h
  obtain ⟨member, _, untagged, _, h⟩ := h
  split at h
  · simp only [Option.bind_eq_some_iff, Option.some.injEq] at h
    obtain ⟨_, _, rfl⟩ := h
    exact under_cons (by decide) <| under_cons (by decide) <| under_cons (by decide) <|
      under_cons (by decide) <| under_cons (by decide) <| under_cons (by decide) under_nil
  · cases h
    exact under_cons (by decide) <| under_cons (by decide) <| under_cons (by decide) under_nil

theorem under_vlanTable {rows : List MibRow} (h : s.vlanRows = some rows) :
    ∀ row ∈ rows, Under vlanTable row := by
  obtain ⟨tables, htables, rfl⟩ := Option.map_eq_some_iff.mp h
  intro row hrow
  obtain ⟨table, htable, hrow⟩ := List.mem_flatten.mp hrow
  obtain ⟨e, _, he⟩ := mem_of_mapM_eq_some htables table htable
  exact s.under_vlanRow he row hrow

theorem under_vlanRows {rows : List MibRow} (h : s.vlanRows = some rows) :
    ∀ row ∈ rows, Under vlanRoots row :=
  fun row hrow => (s.under_vlanTable h row hrow).coarsen (by decide)

theorem under_pvidRows : ∀ row ∈ s.pvidRows, Under pvidRoots row := by
  rw [pvidRows, List.forall_mem_map]
  intro e _
  exact under_instanceText (by decide) _ _

theorem under_poeRows : ∀ row ∈ s.poeRows, Under otherRoots row := by
  rw [poeRows, List.forall_mem_flatMap]
  rintro ⟨port, psim⟩ _
  rw [List.forall_mem_append, List.forall_mem_map]
  constructor
  · exact under_cons (by decide) <| under_cons (by decide) under_nil
  · intro v hv
    have hroot := s.under_vendor (Option.mem_toList.mp hv)
    refine under_instanceText ?_ _ _
    rw [VendorOids.poePowerMw, List.append_assoc]
    exact hroot _

theorem under_sensorRows {v : VendorOids} (h : vendorOids s.model = some v) :
    ∀ row ∈ s.sensorRows v, Under otherRoots row := by
  rw [sensorRows, List.forall_mem_map]
  intro ssim _
  cases ssim.kind with
  | fan | power | temperature => exact under_instanceOfText (s.under_vendor h _) _ _

theorem under_entityRows : ∀ row ∈ s.entityRows, Under otherRoots row := by
  rw [entityRows, List.forall_mem_flatMap]
  intro ent _
  exact under_cons (by decide) <| under_cons (by decide) <| under_cons (by decide) under_nil

theorem under_fdbRows : ∀ row ∈ s.fdbRows, Under otherRoots row := by
  rw [fdbRows, List.forall_mem_append, List.forall_mem_map, List.forall_mem_map]
  constructor
  · intro msim _
    split_ifs
    · refine ⟨[1, 3, 6, 1, 2, 1, 17, 7, 1, 2], by decide,
        oidParts [2, 1, 2] ++ ([msim.vlan].map intText ++ [[]]), ?_, ?_⟩
      · intro t ht
        rcases List.mem_append.mp ht with ht | ht
        · exact not_mem_oidParts ht
        · rcases List.mem_append.mp ht with ht | ht
          · exact not_mem_map_intText ht
          · rw [List.mem_singleton.mp ht]
            exact List.not_mem_nil
      · rfl
    · exact under_instanceText (by decide) _ _
  · intro e _
    exact under_instanceText (by decide) _ _

theorem under_lldpRows : ∀ row ∈ s.lldpRows, Under otherRoots row := by
  rw [lldpRows, List.forall_mem_flatMap]
  intro nb _
  exact under_cons (by decide) <| under_cons (by decide) <| under_cons (by decide) <|
    under_cons (by decide) under_nil

theorem under_mgmtRows : ∀ row ∈ s.mgmtRows, Under otherRoots row := by
  rw [mgmtRows, List.forall_mem_append, List.forall_mem_map]
  constructor
  · refine List.forall_mem_cons.mpr ⟨under_instanceOfText (by decide) _ _, ?_⟩
    refine List.forall_mem_cons.mpr ⟨under_instanceOfText (by decide) _ _, ?_⟩
    exact under_cons (by decide) <| under_cons (by decide) under_nil
  · intro v hv
    exact under_instanceText (s.under_vendor (Option.mem_toList.mp hv) _) _ _

end Sections

/-! ## §4 The rows of a column -/

/-- The rows of the column are a dictionary seen through `val`, each under its index. -/
def ColumnOf {γ : Type} (rows : List MibRow) (column : Oid) (idx : ℤ → List ℤ) (d : PyDict ℤ γ)
    (val : ℤ → γ → Option MibValue) : Prop :=
  rows.filter (inColumn column) =
    (d.filterMap val).items.map fun e => (instanceText column (idx e.1), e.2)

theorem columnOf_flatMap {γ : Type} {column : Oid} {idx : ℤ → List ℤ} {d : PyDict ℤ γ}
    {val : ℤ → γ → Option MibValue} {f : ℤ × γ → List MibRow}
    (h : ∀ e ∈ d.items, (f e).filter (inColumn column) =
      ((val e.1 e.2).map fun v => (instanceText column (idx e.1), v)).toList) :
    ColumnOf (d.items.flatMap f) column idx d val := by
  show _ = (d.items.filterMap fun e => (val e.1 e.2).map (e.1, ·)).map _
  generalize d.items = es at h ⊢
  induction es with
  | nil => rfl
  | cons e es ih =>
    rw [List.flatMap_cons, List.filter_append, h e List.mem_cons_self,
      ih fun e' he' => h e' (List.mem_cons_of_mem _ he'), List.filterMap_cons]
    cases val e.1 e.2 <;> rfl

/-- What a successful `mapM` answers, item by item. -/
private theorem eq_map_of_mapM {α β : Type} {f : α → Option β} (default : β) :
    ∀ {l : List α} {l' : List β}, l.mapM f = some l' → l' = l.map fun a => (f a).getD default
  | [], l', h => by
    cases h
    rfl
  | a :: l, l', h => by
    rw [List.mapM_cons] at h
    obtain ⟨b, hb, h⟩ := Option.bind_eq_some_iff.mp h
    obtain ⟨rest, hrest, h⟩ := Option.bind_eq_some_iff.mp h
    cases h
    rw [List.map_cons, hb, ← eq_map_of_mapM default hrest]
    rfl

section Columns

variable (s : VirtualSwitchState) {switchport vlans : List MibRow}

/-- Only three sections can have rows outside the other subtrees. -/
theorem filter_allRows {column : Oid} (hswitchport : ∀ row ∈ switchport, Under otherRoots row)
    (hapart : ∀ root ∈ otherRoots, apart column root = true) :
    (s.allRows switchport vlans).filter (inColumn column) =
      s.portRows.filter (inColumn column) ++ vlans.filter (inColumn column) ++
        s.pvidRows.filter (inColumn column) := by
  have hvendor : ∀ {rows : VendorOids → List MibRow},
      (∀ v, vendorOids s.model = some v → ∀ row ∈ rows v, Under otherRoots row) →
        (((vendorOids s.model).map rows).getD []).filter (inColumn column) = [] := by
    intro rows hrows
    cases hv : vendorOids s.model with
    | none => rfl
    | some v => exact filter_inColumn_eq_nil (hrows v hv) hapart
  simp only [allRows, List.filter_append, filter_inColumn_eq_nil (under_systemRows s) hapart,
    hvendor fun v hv => under_syslogRows s hv, filter_inColumn_eq_nil hswitchport hapart,
    filter_inColumn_eq_nil (under_poeRows s) hapart, hvendor fun v hv => under_sensorRows s hv,
    filter_inColumn_eq_nil (under_entityRows s) hapart,
    filter_inColumn_eq_nil (under_fdbRows s) hapart,
    filter_inColumn_eq_nil (under_lldpRows s) hapart,
    filter_inColumn_eq_nil (under_mgmtRows s) hapart, List.nil_append, List.append_nil]

/-- The interface columns the parsers read. -/
inductive PortColumn
  | admin
  | oper
  | speed
  | ifType
  | name
  | aliases
  | duplex
  | pause

namespace PortColumn

def oid : PortColumn → Oid
  | admin => Snmp.ifAdminStatus
  | oper => ifOperStatus
  | speed => ifHighSpeed
  | ifType => Snmp.ifType
  | name => ifName
  | aliases => Snmp.ifAlias
  | duplex => dot3StatsDuplexStatus
  | pause => dot3PauseOperMode

/-- What a port has in the column. -/
def value (sim : PortSim) : PortColumn → Option MibValue
  | admin => some (intValue .integer (truthValue sim.admin))
  | oper => some (intValue .integer (truthValue sim.link))
  | speed => some (intValue .gauge32 sim.speed)
  | ifType => some (intValue .integer sim.ifType)
  | name => some (textValue sim.name)
  | aliases => sim.description.map textValue
  | duplex =>
    if sim.servesEtherlike then some (intValue .integer (if sim.link then 3 else 1)) else none
  | pause =>
    if sim.servesEtherlike then some (intValue .integer (if sim.flowControl then 4 else 1)) else none

end PortColumn

theorem filter_counterRow {column base : Oid} (h : apart column base = true) (port : ℤ)
    (type : SnmpType) (n : Option ℤ) :
    (counterRow base port type n).filter (inColumn column) = [] :=
  filter_inColumn_eq_nil (under_counterRow ⟨base, List.mem_singleton_self base, List.prefix_refl _⟩
    port type n) (by simpa using h)

theorem columnOf_portRows (c : PortColumn) :
    ColumnOf s.portRows c.oid (fun p => [p]) s.ports fun _ sim => c.value sim := by
  refine columnOf_flatMap ?_
  rintro ⟨port, sim⟩ _
  cases c
  all_goals
    cases hdescription : sim.description <;> cases hether : sim.servesEtherlike <;>
    simp (disch := decide) [List.filter_append, List.filter_cons, intRow, textRow, PortColumn.oid,
      inColumn_of_apart, inColumn_instance, filter_counterRow, PortColumn.value, intValue, textValue,
      hdescription, hether]

/-- The VLAN columns the parsers read. -/
inductive VlanColumn
  | name
  | egress
  | untagged
  | currentEgress
  | currentUntagged

namespace VlanColumn

def oid : VlanColumn → Oid
  | name => dot1qVlanStaticName
  | egress => dot1qVlanStaticEgress
  | untagged => dot1qVlanStaticUntagged
  | currentEgress => dot1qVlanCurrentEgress
  | currentUntagged => dot1qVlanCurrentUntagged

/-- A current table has a time mark in front of the VLAN. -/
def index (vid : ℤ) : VlanColumn → List ℤ
  | name | egress | untagged => [vid]
  | currentEgress | currentUntagged => [0, vid]

/-- What a VLAN has in the column, its bitmaps `width` bytes wide. -/
def value (width : ℕ) (vsim : VlanSim) : VlanColumn → Option MibValue
  | name => if vsim.staticRow then some (textValue vsim.name) else none
  | egress =>
    if vsim.staticRow then (encodePortBitmap vsim.configured width).map bytesValue else none
  | untagged =>
    if vsim.staticRow then (encodePortBitmap vsim.untagged width).map bytesValue else none
  | currentEgress => (encodePortBitmap vsim.member width).map bytesValue
  | currentUntagged => (encodePortBitmap vsim.untagged width).map bytesValue

end VlanColumn

theorem filter_vlanRow {vid : ℤ} {vsim : VlanSim} {rows : List MibRow}
    (h : s.vlanRow vid vsim = some rows) (c : VlanColumn) :
    rows.filter (inColumn c.oid) =
      ((c.value s.vlanWidth vsim).map fun v => (instanceText c.oid (c.index vid), v)).toList := by
  simp only [vlanRow, Option.bind_eq_bind, Option.bind_eq_some_iff] at h
  obtain ⟨member, hmember, untagged, huntagged, h⟩ := h
  cases hstatic : vsim.staticRow with
  | true =>
    rw [if_pos hstatic] at h
    obtain ⟨configured, hconfigured, h⟩ := Option.bind_eq_some_iff.mp h
    cases h
    cases c
    all_goals
      simp (disch := decide) [List.filter_cons, intRow, textRow, bytesRow, VlanColumn.oid,
        VlanColumn.index, VlanColumn.value, inColumn_of_apart, inColumn_instance, textValue,
        bytesValue, hstatic, hmember, huntagged, hconfigured]
  | false =>
    rw [if_neg (by simp [hstatic])] at h
    cases h
    cases c
    all_goals
      simp (disch := decide) [List.filter_cons, intRow, textRow, bytesRow, VlanColumn.oid,
        VlanColumn.index, VlanColumn.value, inColumn_of_apart, inColumn_instance, textValue,
        bytesValue, hstatic, hmember, huntagged]

theorem columnOf_vlanRows (h : s.vlanRows = some vlans) (c : VlanColumn) :
    ColumnOf vlans c.oid c.index s.vlans fun _ vsim => c.value s.vlanWidth vsim := by
  obtain ⟨tables, htables, rfl⟩ := Option.map_eq_some_iff.mp h
  rw [eq_map_of_mapM [] htables, ← List.flatMap_def]
  refine columnOf_flatMap ?_
  intro e he
  obtain ⟨rows, hrows⟩ := Option.isSome_iff_exists.mp
    (isSome_mapM_iff.mp (Option.isSome_of_eq_some htables) e he)
  rw [hrows]
  exact s.filter_vlanRow hrows c

theorem columnOf_pvidRows :
    ColumnOf s.pvidRows Snmp.dot1qPvid (fun p => [p]) s.pvids
      fun _ pv => some (intValue .gauge32 pv) := by
  rw [pvidRows, List.map_eq_flatMap]
  refine columnOf_flatMap ?_
  intro e _
  simp (disch := decide) [List.filter_cons, intRow, inColumn_instance, intValue]

/-! The columns of the whole map: each stands apart from the sections it is not of. -/

theorem columnOf_allRows_port (hswitchport : ∀ row ∈ switchport, Under otherRoots row)
    (hvlans : s.vlanRows = some vlans) (c : PortColumn) :
    ColumnOf (s.allRows switchport vlans) c.oid (fun p => [p]) s.ports fun _ sim => c.value sim := by
  have hvlan : vlans.filter (inColumn c.oid) = [] :=
    filter_inColumn_eq_nil (s.under_vlanRows hvlans) (by cases c <;> decide)
  have hpvid : s.pvidRows.filter (inColumn c.oid) = [] :=
    filter_inColumn_eq_nil s.under_pvidRows (by cases c <;> decide)
  rw [ColumnOf, s.filter_allRows hswitchport (by cases c <;> decide), hvlan, hpvid,
    List.append_nil, List.append_nil]
  exact s.columnOf_portRows c

theorem columnOf_allRows_vlan (hswitchport : ∀ row ∈ switchport, Under otherRoots row)
    (hvlans : s.vlanRows = some vlans) (c : VlanColumn) :
    ColumnOf (s.allRows switchport vlans) c.oid c.index s.vlans
      fun _ vsim => c.value s.vlanWidth vsim := by
  have hport : s.portRows.filter (inColumn c.oid) = [] :=
    filter_inColumn_eq_nil s.under_portRows (by cases c <;> decide)
  have hpvid : s.pvidRows.filter (inColumn c.oid) = [] :=
    filter_inColumn_eq_nil s.under_pvidRows (by cases c <;> decide)
  rw [ColumnOf, s.filter_allRows hswitchport (by cases c <;> decide), hport, hpvid,
    List.nil_append, List.append_nil]
  exact s.columnOf_vlanRows hvlans c

theorem columnOf_allRows_pvid (hswitchport : ∀ row ∈ switchport, Under otherRoots row)
    (hvlans : s.vlanRows = some vlans) :
    ColumnOf (s.allRows switchport vlans) Snmp.dot1qPvid (fun p => [p]) s.pvids
      fun _ pv => some (intValue .gauge32 pv) := by
  have hport : s.portRows.filter (inColumn Snmp.dot1qPvid) = [] :=
    filter_inColumn_eq_nil s.under_portRows (by decide)
  have hvlan : vlans.filter (inColumn Snmp.dot1qPvid) = [] :=
    filter_inColumn_eq_nil (s.under_vlanRows hvlans) (by decide)
  rw [ColumnOf, s.filter_allRows hswitchport (by decide), hport, hvlan]
  exact s.columnOf_pvidRows

end Columns

/-! ## §5 What a manager reads in a column -/

theorem intText_injective : Function.Injective intText := fun m n h => by
  simpa using congrArg spelledInt h

theorem instanceText_injective (base : Oid) : Function.Injective (instanceText base) :=
  fun _ _ h => intText_injective.list_map (List.append_cancel_left h)

private theorem mapM_filter {α β : Type} {f : α → Option β} {p : α → Bool} {q : β → Bool}
    (hpq : ∀ a b, f a = some b → p a = q b) :
    ∀ {l : List α} {l' : List β}, l.mapM f = some l' → (l.filter p).mapM f = some (l'.filter q)
  | [], l', h => by
    cases h
    rfl
  | a :: l, l', h => by
    rw [List.mapM_cons] at h
    obtain ⟨b, hb, h⟩ := Option.bind_eq_some_iff.mp h
    obtain ⟨rest, hrest, h⟩ := Option.bind_eq_some_iff.mp h
    cases h
    have ih := mapM_filter hpq hrest
    by_cases hp : p a = true
    · rw [List.filter_cons_of_pos hp, List.filter_cons_of_pos ((hpq a b hb).symm.trans hp),
        List.mapM_cons, hb, ih]
      rfl
    · rw [List.filter_cons_of_neg hp, List.filter_cons_of_neg (by rwa [← hpq a b hb])]
      exact ih

/-- The rows of a column, as the dictionary of all rows has them. -/
theorem items_filter_of_columnOf {γ : Type} {all : List MibRow} {column : Oid} {idx : ℤ → List ℤ}
    {d : PyDict ℤ γ} {val : ℤ → γ → Option MibValue} (hcolumn : ColumnOf all column idx d val)
    (hinj : Function.Injective idx) : (PyDict.ofList all).items.filter (inColumn column) =
      (d.filterMap val).items.map fun e => (instanceText column (idx e.1), e.2) := by
  have hfilter := PyDict.filter_items_ofList
    (fun key => (suffix column (joinDot key)).isSome) all
  refine hfilter.trans ?_
  change (PyDict.ofList (all.filter (inColumn column))).items = _
  rw [hcolumn, PyDict.items_ofList]
  rw [List.map_map]
  refine (List.nodup_map_iff_inj_on (d.filterMap val).nodup.of_map).mpr ?_
  intro e he e' he' heq
  have hkey : e.1 = e'.1 := hinj (instanceText_injective column heq)
  exact List.inj_on_of_nodup_map (d.filterMap val).nodup he he' hkey

/-- Reading a column whose rows each give an entry: the dictionary, read through `read`. -/
theorem readColumn_of_columnOf {γ α : Type} {all : List MibRow} {rows : List SnmpRow}
    {column : Oid} {idx : ℤ → List ℤ} {d : PyDict ℤ γ} {val : ℤ → γ → Option MibValue}
    {entry : Text → SnmpValue → Except LibError (Option (ℤ × α))} {read : MibValue → α}
    (hrows : (PyDict.ofList all).items.mapM snmpRow? = some rows)
    (hcolumn : ColumnOf all column idx d val) (hne : column ≠ []) (hidx : ∀ k, idx k ≠ [])
    (hinj : Function.Injective idx)
    (hentry : ∀ k c v w, d.get? k = some c → val k c = some v → v.toSnmpValue? = some w →
      entry (joinDot ((idx k).map intText)) w = .ok (some (k, read v))) :
    readColumn column entry rows = .ok (d.filterMap fun k c => (val k c).map read) := by
  let row : ℤ × MibValue → MibRow := fun e => (instanceText column (idx e.1), e.2)
  let out : ℤ × MibValue → SnmpRow := fun e => (snmpRow? (row e)).getD ⟨[], .int 0, []⟩
  have hitems : (PyDict.ofList all).items.filter (inColumn column) =
      (d.filterMap val).items.map row := items_filter_of_columnOf hcolumn hinj
  -- and as they are received
  have hreceived : ((d.filterMap val).items.map row).mapM snmpRow? =
      some (rows.filter fun r => (suffix column r.oid).isSome) := by
    rw [← hitems]
    refine mapM_filter ?_ hrows
    intro r r' hr
    obtain ⟨w, _, rfl⟩ := Option.map_eq_some_iff.mp hr
    rfl
  have hsent : ∀ e ∈ (d.filterMap val).items, ∃ s, suffix column (out e).oid = some s ∧
      entry s (out e).value = .ok (some (e.1, read e.2)) := by
    rintro ⟨k, v⟩ he
    obtain ⟨w, hw⟩ := Option.isSome_iff_exists.mp (isSome_mapM_iff.mp
      (Option.isSome_of_eq_some hreceived) (row (k, v)) (List.mem_map_of_mem he))
    have hout : out (k, v) = w := by
      show (snmpRow? (row (k, v))).getD _ = w
      rw [hw]
      rfl
    obtain ⟨value, hvalue, rfl⟩ := Option.map_eq_some_iff.mp hw
    have hget := PyDict.get?_of_mem_items he
    rw [PyDict.get?_filterMap] at hget
    obtain ⟨c, hc, hv⟩ := Option.bind_eq_some_iff.mp hget
    refine ⟨joinDot ((idx k).map intText), ?_, ?_⟩
    · rw [hout]
      exact suffix_instanceText hne (hidx k)
    · rw [hout]
      exact hentry k c v value hc hv hvalue
  have hfiltered : rows.filter (fun r => (suffix column r.oid).isSome) =
      (d.filterMap val).items.map out := by
    rw [eq_map_of_mapM ⟨[], .int 0, []⟩ hreceived, List.map_map]
    rfl
  rw [readColumn_filter, hfiltered, readColumn_map hsent]
  refine congrArg Except.ok (PyDict.ext ?_)
  rw [PyDict.items_ofList]
  · show List.map _ (d.items.filterMap _) = d.items.filterMap _
    rw [List.map_filterMap]
    simp only [Option.map_map]
    rfl
  · rw [List.map_map]
    exact (d.filterMap val).nodup

end VirtualSwitchState

end NetgearSwitch.Virtual
