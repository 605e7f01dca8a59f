import NetgearSwitch.Snmp.Agent
import NetgearSwitch.Virtual.MibWalk
import NetgearSwitch.Virtual.SnmpReadback

/-!
# The SNMP face as an agent

What a client of `virtual/faces/snmp.py` meets: `_to_smi_value` makes a varbind of every entry of
the view, a walk brings the varbinds below its base, and a SET is answered by `write_variables`.
An octet string reaches the client through one of the two transports, so it may come as text, and
through net-snmp with its quotes and backslashes escaped.

§1 varbinds · §2 the agent · §3 octets on their way · §4 the varbinds of a column · §5 columns as
they are read · §6 the VLANs a client hears · §7 a small switch
-/

namespace NetgearSwitch.Virtual

open Snmp PyText Script

/-! ## §1 Varbinds -/

/-- The numbers of an OID, if it has no negative ones. -/
def arcs? (oid : List ℤ) : Option Oid := oid.mapM fun n => if 0 ≤ n then some n.toNat else none

/-- The least and the greatest integer of a class. -/
def intRange : IntClass → ℤ × ℤ
  | .integer32 => (-2147483648, 2147483647)
  | .gauge32 | .counter32 => (0, 4294967295)
  | .counter64 => (0, 18446744073709551615)

/-- `Integer32(int(value))` and its siblings. -/
def smiInt? (cls : IntClass) (t : Text) : Option SmiValue :=
  (pyInt t).bind fun n =>
    if (intRange cls).1 ≤ n ∧ n ≤ (intRange cls).2 then some (.int cls n) else none

/-- A number of the class is sent as it is. -/
theorem smiInt?_intText {cls : IntClass} {n : ℤ}
    (h : (intRange cls).1 ≤ n ∧ n ≤ (intRange cls).2) :
    smiInt? cls (intText n) = some (.int cls n) := by
  have hrange : -10 ^ 20 < (intRange cls).1 ∧ (intRange cls).2 < 10 ^ 20 := by cases cls <;> decide
  have hprint : Printable n := printable_of_lt (k := 20) (by decide) (by decide) (by omega)
  rw [smiInt?, pyInt_intText hprint, Option.bind_some, if_pos h]

/-- An octet of a dotted address. -/
def octet? (t : Text) : Option UInt8 :=
  (pyInt t).bind fun n => if 0 ≤ n ∧ n < 256 then some (UInt8.ofNat n.toNat) else none

/-- `IpAddress(value)` of a dotted address. -/
def smiIpAddress? (t : Text) : Option SmiValue :=
  match (t.splitOn '.').mapM octet? with
  | some [a, b, c, d] => some (.ipAddress a b c d)
  | _ => none

/-- `ObjectIdentifier(value)`: empty parts are left out. -/
def smiOid? (t : Text) : Option SmiValue :=
  (((t.splitOn '.').filter (· ≠ [])).mapM pyInt).bind fun oid => (arcs? oid).map .objectIdentifier

/-- `_to_smi_value`; none where it raises. -/
def MibValue.toSmi? (v : MibValue) : Option SmiValue :=
  match v.type with
  | .integer => smiInt? .integer32 v.value
  | .gauge32 => smiInt? .gauge32 v.value
  | .counter32 => smiInt? .counter32 v.value
  | .counter64 => smiInt? .counter64 v.value
  | .ipaddr => smiIpAddress? v.value
  | .octetstr => (PyCodec.latin1Encode v.value).map .octetString
  | .oid => smiOid? v.value

/-- The varbind an entry is answered as. -/
def MibEntry.varbind? (e : MibEntry) : Option AgentVarbind :=
  (arcs? e.oid).bind fun oid => e.value.toSmi?.map fun value => ⟨oid, value⟩

/-! ## §2 The agent -/

namespace StateMibView

/-- The varbinds a walk can meet: those of the subtrees the model's agent registers. -/
def varbinds (view : StateMibView) : List AgentVarbind :=
  (view.entries.filter fun e => isOidImplemented view.state.model e.oid).filterMap MibEntry.varbind?

/-- Every entry can be sent, and no two have the same OID. -/
structure Served (view : StateMibView) : Prop where
  sent : ∀ e ∈ view.entries, e.varbind?.isSome
  nodup : (view.entries.map MibEntry.oid).Nodup

instance (view : StateMibView) : Decidable view.Served :=
  decidable_of_iff ((∀ e ∈ view.entries, e.varbind?.isSome) ∧ (view.entries.map MibEntry.oid).Nodup)
    ⟨fun h => ⟨h.1, h.2⟩, fun h => ⟨h.1, h.2⟩⟩

/-- What the agent holds. -/
def mib (view : StateMibView) : Mib :=
  if h : (view.varbinds.map AgentVarbind.oid).Nodup then ⟨view.varbinds, h⟩ else ⟨[], List.nodup_nil⟩

/-- A value on its way to the agent: a text goes as octets. -/
def wire (t : Transport) : SetValue → Except LibError SetValue
  | .str text =>
    match t with
    | .pysnmp => (orRaise .unicodeError (PyCodec.latin1Encode text)).map .bytes
    | .netsnmp => .ok (.bytes (PyCodec.utf8Encode text))
  | value => .ok value

/-- A SET as its client sees it: done, or an error. -/
def answerSet (t : Transport) (view : StateMibView) (varbinds : List SetVarbind) :
    StateMibView × Except LibError Unit :=
  match varbinds.mapM fun vb => (wire t vb.value).map fun value => (vb.oid, value) with
  | .error e => (view, .error e)
  | .ok varBinds =>
    match view.writeVariables varBinds with
    | (view', .echoed _) => (view', .ok ())
    | (view', _) => (view', .error .snmp)

/-- The SNMP face behind a transport. -/
def agent (t : Transport) : Agent StateMibView where
  mib := mib
  write := answerSet t

end StateMibView

/-! ## §3 Octets on their way -/

/-- Octets with a backslash in front of every quote and backslash. -/
def escapeOctets (raw : Bytes) : Bytes :=
  raw.flatMap fun b => if b = 0x22 ∨ b = 0x5C then [0x5C, b] else [b]

/-- The octets a client has in hand of an octet string: net-snmp escapes what it prints as
text. -/
def delivered (t : Transport) (raw : Bytes) : Bytes :=
  match t with
  | .pysnmp => raw
  | .netsnmp => if raw.all isPrintable then escapeOctets raw else raw

theorem delivered_of_binary {raw : Bytes} (t : Transport) (h : Binary raw) :
    delivered t raw = raw := by
  have hnot : ¬ raw.all isPrintable = true := by
    obtain ⟨b, hb, hprint⟩ := h
    intro hall
    rw [List.all_eq_true.mp hall b hb] at hprint
    cases hprint
  cases t with
  | pysnmp => rfl
  | netsnmp => exact if_neg hnot

theorem latin1Decode_injective : Function.Injective PyCodec.latin1Decode := fun a b h => by
  have hencode := congrArg PyCodec.latin1Encode h
  rw [PyCodec.latin1Encode_latin1Decode, PyCodec.latin1Encode_latin1Decode] at hencode
  exact Option.some.inj hencode

/-- Escaping the text of octets is escaping the octets. -/
theorem escapeQuoted_latin1Decode (raw : Bytes) :
    escapeQuoted (PyCodec.latin1Decode raw) = PyCodec.latin1Decode (escapeOctets raw) := by
  induction raw with
  | nil => rfl
  | cons b raw ih =>
    have hchar : ∀ x : UInt8, Char.ofNat b.toNat = Char.ofNat x.toNat ↔ b = x := by
      intro x
      constructor
      · intro h
        have hlist : PyCodec.latin1Decode [b] = PyCodec.latin1Decode [x] :=
          congrArg (fun c => [c]) h
        exact (List.cons.inj (latin1Decode_injective hlist)).1
      · rintro rfl
        rfl
    have hescape : needsEscape (Char.ofNat b.toNat) = decide (b = 0x22 ∨ b = 0x5C) := by
      rw [Bool.eq_iff_iff, needsEscape, Bool.or_eq_true, decide_eq_true_iff, decide_eq_true_iff,
        decide_eq_true_iff]
      exact or_congr (hchar 0x22) (hchar 0x5C)
    show escapeQuoted (Char.ofNat b.toNat :: PyCodec.latin1Decode raw) = _
    unfold escapeQuoted escapeOctets at ih ⊢
    rw [List.flatMap_cons, List.flatMap_cons, hescape]
    by_cases hb : b = 0x22 ∨ b = 0x5C
    · rw [if_pos (decide_eq_true hb), if_pos hb, ih]
      rfl
    · rw [if_neg (by simpa using hb), if_neg hb, ih]
      rfl

/-- **What a client decodes of a PortList is what the transport delivers of it.** -/
theorem decodePortBitmap_row (t : Transport) (oid : Oid) (raw : Bytes) :
    decodePortBitmap (t.row ⟨oid, .octetString raw⟩).value =
      .ok (Bitmap.numbers (delivered t raw)) := by
  by_cases hprint : raw.all isPrintable = true
  · cases t with
    | pysnmp =>
      simp only [Transport.row, normalizeVarbind, octetValue, if_pos hprint, decodePortBitmap,
        PyCodec.latin1Encode_latin1Decode, delivered]
      rfl
    | netsnmp =>
      simp only [Transport.row, netsnmpRow, if_pos hprint, decodePortBitmap,
        escapeQuoted_latin1Decode, PyCodec.latin1Encode_latin1Decode, delivered]
      rfl
  · cases t <;>
      simp only [Transport.row, netsnmpRow, normalizeVarbind, octetValue, if_neg hprint,
        decodePortBitmap, delivered]

/-! ## §4 The varbinds of a column -/

/-- The numbers of an OID as the integers of an entry. -/
def intArcs (oid : Oid) : List ℤ := oid.map fun n : ℕ => (n : ℤ)

theorem arcs?_intArcs (oid : Oid) : arcs? (intArcs oid) = some oid := by
  induction oid with
  | nil => rfl
  | cons n oid ih =>
    unfold arcs? intArcs at ih ⊢
    rw [List.map_cons, List.mapM_cons, ih, if_pos (Int.natCast_nonneg n), Int.toNat_natCast]
    rfl

theorem eq_intArcs_of_arcs? : ∀ {ns : List ℤ} {oid : Oid}, arcs? ns = some oid → ns = intArcs oid
  | [], oid, h => by
    cases h
    rfl
  | n :: ns, oid, h => by
    unfold arcs? at h
    rw [List.mapM_cons] at h
    obtain ⟨m, hm, h⟩ := Option.bind_eq_some_iff.mp h
    obtain ⟨rest, hrest, h⟩ := Option.bind_eq_some_iff.mp h
    cases h
    rw [Option.ite_none_right_eq_some] at hm
    obtain ⟨hn, hm⟩ := hm
    have hm : n.toNat = m := Option.some.inj hm
    rw [eq_intArcs_of_arcs? hrest, intArcs, intArcs, List.map_cons, ← hm, Int.toNat_of_nonneg hn]

theorem intArcs_append (a b : Oid) : intArcs (a ++ b) = intArcs a ++ intArcs b := List.map_append

theorem exists_append_of_intArcs {a : Oid} {ns : List ℤ} : ∀ {oid : Oid},
    intArcs a ++ ns = intArcs oid → ∃ rest, oid = a ++ rest ∧ ns = intArcs rest := by
  induction a with
  | nil => exact fun h => ⟨_, rfl, h⟩
  | cons n a ih =>
    intro oid h
    cases oid with
    | nil => cases h
    | cons m oid =>
      obtain ⟨hhead, htail⟩ := List.cons.inj h
      obtain ⟨rest, rfl, hns⟩ := ih htail
      exact ⟨rest, by rw [Int.natCast_inj.mp hhead, List.cons_append], hns⟩

/-- What the varbind of an entry below a column is. -/
theorem exists_rest_of_varbind? {column : Oid} {ns : List ℤ} {v : MibValue} {vb : AgentVarbind}
    (h : MibEntry.varbind? ⟨intArcs column ++ ns, v⟩ = some vb) :
    ∃ rest, vb.oid = column ++ rest ∧ ns = intArcs rest ∧ v.toSmi? = some vb.value := by
  obtain ⟨oid, harcs, hvalue⟩ := Option.bind_eq_some_iff.mp h
  obtain ⟨value, hsmi, rfl⟩ := Option.map_eq_some_iff.mp hvalue
  obtain ⟨rest, hoid, hns⟩ := exists_append_of_intArcs (eq_intArcs_of_arcs? harcs)
  exact ⟨rest, hoid, hns, hsmi⟩

theorem intArcs_injective : Function.Injective intArcs :=
  Function.Injective.list_map fun _ _ h => Int.natCast_inj.mp h

theorem oidToTuple_append (a b : OidText) :
    oidToTuple (a ++ b) = (oidToTuple a).bind fun x => (oidToTuple b).map (x ++ ·) := by
  induction a with
  | nil =>
    show oidToTuple b = (oidToTuple b).map _
    exact Option.map_id'.symm
  | cons part a ih =>
    unfold oidToTuple at ih ⊢
    rw [List.cons_append, List.mapM_cons, List.mapM_cons, ih]
    cases spelledInt part <;> cases List.mapM spelledInt a <;> cases List.mapM spelledInt b <;> rfl

theorem oidToTuple_oidParts (oid : Oid) : oidToTuple (oidParts oid) = some (intArcs oid) := by
  induction oid with
  | nil => rfl
  | cons n oid ih =>
    unfold oidToTuple oidParts intArcs at ih ⊢
    rw [List.map_cons, List.mapM_cons, spelledInt_natText, ih]
    rfl

theorem ofRow_instanceText (base : Oid) (ns : List ℤ) (v : MibValue) :
    MibEntry.ofRow (instanceText base ns, v) = some ⟨intArcs base ++ ns, v⟩ := by
  have htuple : oidToTuple (instanceText base ns) = some (intArcs base ++ ns) := by
    rw [instanceText, oidToTuple_append, oidToTuple_oidParts, oidToTuple_intText]
    rfl
  rw [MibEntry.ofRow, htuple]
  rfl

/-- OIDs under subtrees that stand apart differ. -/
theorem append_ne_of_apart : ∀ {base root : Oid}, apart base root = true →
    ∀ xs ys : List ℤ, intArcs root ++ xs ≠ intArcs base ++ ys
  | [], _, h, _, _ => by cases h
  | _ :: _, [], h, _, _ => by cases h
  | b :: base, r :: root, h, xs, ys => by
    intro heq
    obtain ⟨hhead, htail⟩ := List.cons.inj heq
    rw [apart, Bool.or_eq_true, decide_eq_true_iff] at h
    rcases h with hne | h
    · exact hne (Int.natCast_inj.mp hhead).symm
    · exact append_ne_of_apart h xs ys htail

/-- An entry below a column comes of a row in the column, where no other subtree of the map is in
the column's way. -/
theorem inColumn_of_ofRow {base : Oid} (hbase : base ≠ []) {roots : List Oid} {row : MibRow}
    (hunder : Under roots row) (hroots : ∀ root ∈ roots, apart base root = true ∨ root = base)
    {e : MibEntry} (hrow : MibEntry.ofRow row = some e) {rest : List ℤ} (hrest : rest ≠ [])
    (hoid : e.oid = intArcs base ++ rest) : inColumn base row = true := by
  obtain ⟨root, hroot, tail, htail, hkey⟩ := hunder
  obtain ⟨ns, hns, rfl⟩ := Option.map_eq_some_iff.mp hrow
  rw [hkey, oidToTuple_append, oidToTuple_oidParts, Option.bind_some] at hns
  obtain ⟨xs, hxs, rfl⟩ := Option.map_eq_some_iff.mp hns
  rcases hroots root hroot with hapart | rfl
  · exact absurd hoid (append_ne_of_apart hapart xs rest)
  · have hne : tail ≠ [] := by
      rintro rfl
      cases hxs
      exact hrest (List.append_cancel_left hoid).symm
    have hparts : ∀ part ∈ oidParts root ++ tail, '.' ∉ part := by
      intro part hpart
      rcases List.mem_append.mp hpart with hpart | hpart
      · exact not_mem_oidParts hpart
      · exact htail part hpart
    rw [inColumn, hkey, suffix_joinDot hbase hparts, afterParts?_self hne]
    rfl

namespace VirtualSwitchState

variable {s : VirtualSwitchState} {switchport vlans : List MibRow}

theorem under_pvidTable : ∀ row ∈ s.pvidRows, Under [dot1qPvid] row := by
  rw [pvidRows, List.forall_mem_map]
  intro e _
  exact under_instanceText (by decide) _ _

/-- The subtrees of the map, the tables that are read column by column with a root a column. -/
def allRoots : List Oid := otherRoots ++ portTable ++ vlanTable ++ [dot1qPvid]

theorem under_allRows (hswitchport : ∀ row ∈ switchport, Under otherRoots row)
    (hvlans : s.vlanRows = some vlans) :
    ∀ row ∈ s.allRows switchport vlans, Under allRoots row := by
  have hother : ∀ {rows : List MibRow}, (∀ row ∈ rows, Under otherRoots row) →
      ∀ row ∈ rows, Under allRoots row := by
    intro rows hrows row hrow
    refine (hrows row hrow).mono fun r hr => ?_
    simp only [allRoots, List.mem_append]
    exact .inl (.inl (.inl hr))
  have hvendor : ∀ {rows : VendorOids → List MibRow},
      (∀ v, vendorOids s.model = some v → ∀ row ∈ rows v, Under otherRoots row) →
        ∀ row ∈ ((vendorOids s.model).map rows).getD [], Under allRoots row := by
    intro rows hrows
    cases hv : vendorOids s.model with
    | none => exact List.forall_mem_nil _
    | some v => exact hother (hrows v hv)
  have hport : ∀ row ∈ s.portRows, Under allRoots row := fun row hrow =>
    (s.under_portTable row hrow).mono fun r hr => by
      simp only [allRoots, List.mem_append]
      exact .inl (.inl (.inr hr))
  have hvlan : ∀ row ∈ vlans, Under allRoots row := fun row hrow =>
    (s.under_vlanTable hvlans row hrow).mono fun r hr => by
      simp only [allRoots, List.mem_append]
      exact .inl (.inr hr)
  have hpvid : ∀ row ∈ s.pvidRows, Under allRoots row := fun row hrow =>
    (under_pvidTable row hrow).mono fun r hr => by
      simp only [allRoots, List.mem_append]
      exact .inr hr
  simp only [allRows, List.forall_mem_append]
  exact ⟨⟨⟨⟨⟨⟨⟨⟨⟨⟨⟨hother s.under_systemRows, hvendor fun v hv => s.under_syslogRows hv⟩, hport⟩,
    hother hswitchport⟩, hvlan⟩, hpvid⟩, hother s.under_poeRows⟩,
    hvendor fun v hv => s.under_sensorRows hv⟩, hother s.under_entityRows⟩,
    hother s.under_fdbRows⟩, hother s.under_lldpRows⟩, hother s.under_mgmtRows⟩

end VirtualSwitchState

theorem mem_iff_of_mapM_eq_some {α β : Type} {f : α → Option β} {l : List α} {bs : List β}
    (h : l.mapM f = some bs) {b : β} : b ∈ bs ↔ ∃ a ∈ l, f a = some b := by
  refine ⟨VirtualSwitchState.mem_of_mapM_eq_some h b, ?_⟩
  rintro ⟨a, ha, hb⟩
  induction l generalizing bs with
  | nil => cases ha
  | cons x l ih =>
    rw [List.mapM_cons] at h
    obtain ⟨y, hy, h⟩ := Option.bind_eq_some_iff.mp h
    obtain ⟨ys, hys, h⟩ := Option.bind_eq_some_iff.mp h
    cases h
    rcases List.mem_cons.mp ha with rfl | ha
    · cases hb.symm.trans hy
      exact List.mem_cons_self
    · exact List.mem_cons_of_mem _ (ih hys ha)

namespace StateMibView

variable {view : StateMibView}

/-- What a current view was made of: its entries are those of the rows, in another order. -/
structure Made (view : StateMibView) (switchport vlans : List MibRow) (es : List MibEntry) :
    Prop where
  under : ∀ row ∈ switchport, Under otherRoots row
  plain : view.state.switchportModel = false → switchport = []
  emitted : view.state.vlanRows = some vlans
  loaded : (PyDict.ofList (view.state.allRows switchport vlans)).items.mapM MibEntry.ofRow = some es
  perm : view.entries.Perm es

theorem exists_made (h : view.Current) : ∃ switchport vlans es, view.Made switchport vlans es := by
  obtain ⟨s, entries⟩ := view
  unfold Current loadView VirtualSwitchState.oidMap at h
  dsimp only at h
  split at h
  · cases (Prod.mk.inj h).2
  next s' m hmap =>
    obtain ⟨rfl, hentries⟩ := Prod.mk.inj h
    split_ifs at hentries with hlong
    obtain ⟨es, hes, rfl⟩ := Option.map_eq_some_iff.mp hentries
    split at hmap
    · cases (Prod.mk.inj hmap).2
    next s'' switchport htable =>
      obtain ⟨rfl, hm⟩ := Prod.mk.inj hmap
      obtain ⟨vlans, hvlans, rfl⟩ := Option.map_eq_some_iff.mp hm
      have hperm := List.perm_insertionSort (fun a b => oidLe a.oid b.oid = true) es
      split_ifs at htable with hmodel
      · refine ⟨switchport, vlans, es, VirtualSwitchState.under_switchportRows htable, ?_, hvlans, hes,
          hperm⟩
        intro hplain
        exact absurd (hplain.symm.trans hmodel) (by decide)
      · cases htable
        exact ⟨[], vlans, es, List.forall_mem_nil _, fun _ => rfl, hvlans, hes, hperm⟩

/-- No text of a current view's state writes an arc that int() refuses for its length. -/
theorem Current.short (h : view.Current) : view.state.oidTexts.any hasLongPart = false := by
  obtain ⟨s, entries⟩ := view
  unfold Current loadView at h
  dsimp only at h
  split at h
  · cases (Prod.mk.inj h).2
  next s' m hmap =>
    obtain ⟨rfl, hentries⟩ := Prod.mk.inj h
    split_ifs at hentries with hlong
    exact Bool.eq_false_iff.mpr hlong

theorem Made.mem_entries {switchport vlans : List MibRow} {es : List MibEntry}
    (h : view.Made switchport vlans es) {e : MibEntry} : e ∈ view.entries ↔
      ∃ row ∈ (PyDict.ofList (view.state.allRows switchport vlans)).items,
        MibEntry.ofRow row = some e :=
  h.perm.mem_iff.trans (mem_iff_of_mapM_eq_some h.loaded)

theorem varbinds_mib (h : view.Served) : view.mib.varbinds = view.varbinds := by
  have hoids : view.varbinds.map (fun vb => intArcs vb.oid) =
      (view.entries.filter fun e => isOidImplemented view.state.model e.oid).map MibEntry.oid := by
    have hsent : ∀ e ∈ view.entries.filter fun e => isOidImplemented view.state.model e.oid,
        e.varbind?.isSome := fun e he => h.sent e (List.mem_filter.mp he).1
    rw [varbinds]
    generalize view.entries.filter (fun e => isOidImplemented view.state.model e.oid) = es at hsent
    induction es with
    | nil => rfl
    | cons e es ih =>
      obtain ⟨vb, hvb⟩ := Option.isSome_iff_exists.mp (hsent e List.mem_cons_self)
      obtain ⟨oid, hoid, hvalue⟩ := Option.bind_eq_some_iff.mp hvb
      obtain ⟨value, -, rfl⟩ := Option.map_eq_some_iff.mp hvalue
      rw [List.filterMap_cons_some hvb, List.map_cons, List.map_cons,
        ih fun e he => hsent e (List.mem_cons_of_mem _ he), eq_intArcs_of_arcs? hoid]
  have hnodup : (view.varbinds.map AgentVarbind.oid).Nodup := by
    have hmap : (view.varbinds.map fun vb => intArcs vb.oid).Nodup := by
      rw [hoids]
      exact h.nodup.sublist (List.filter_sublist.map _)
    exact List.Nodup.of_map intArcs (by rwa [List.map_map])
  rw [mib, dif_pos hnodup]

/-- The varbinds below a column are a dictionary seen through `val`, each under its index. -/
structure Emits {γ : Type} (view : StateMibView) (column : Oid) (idx : ℤ → List ℤ) (d : PyDict ℤ γ)
    (val : ℤ → γ → Option MibValue) : Prop where
  mem_below : ∀ vb, vb ∈ view.mib.below column ↔ ∃ k v, (d.filterMap val).get? k = some v ∧
    MibEntry.varbind? ⟨intArcs column ++ idx k, v⟩ = some vb
  sent : ∀ k v, (d.filterMap val).get? k = some v →
    (MibEntry.varbind? ⟨intArcs column ++ idx k, v⟩).isSome

/-- No subtree that a model leaves out has a column of the tables in it. -/
theorem isOidImplemented_of_apart {m : SwitchModel} (hm : ∃ key, m = getModel key) {column : Oid}
    (hpeth : apart column pethPsePortTable = true) (hvendor : apart column vendorRoot = true)
    (rest : List ℤ) : isOidImplemented m (intArcs column ++ rest) = true := by
  have hextend : ∀ {a b : Oid}, apart a b = true → ∀ c, apart a (b ++ c) = true := by
    intro a
    induction a with
    | nil =>
      intro b h
      cases h
    | cons x a ih =>
      intro b h c
      cases b with
      | nil => cases h
      | cons y b =>
        rw [apart, Bool.or_eq_true] at h
        rw [List.cons_append, apart, Bool.or_eq_true]
        exact h.imp_right fun h => ih h c
  have hroots : ∀ root ∈ unimplementedRoots m, apart column root = true := by
    intro root hroot
    unfold unimplementedRoots at hroot
    split_ifs at hroot
    · cases hroot
    · rcases List.mem_cons.mp hroot with rfl | hroot
      · exact hpeth
      · obtain ⟨v, hv, rfl⟩ := List.mem_map.mp hroot
        obtain ⟨base, hbase, rfl⟩ := Option.map_eq_some_iff.mp (Option.mem_toList.mp hv)
        rcases vendorBase_eq hbase hm with rfl | rfl
        · exact hextend hvendor ([10] ++ [15, 1, 1, 1, 2])
        · exact hextend hvendor ([11] ++ [15, 1, 1, 1, 2])
  rw [isOidImplemented, List.all_eq_true]
  intro root hroot
  rw [Bool.not_eq_true', Bool.eq_false_iff, Ne, List.isPrefixOf_iff_prefix]
  rintro ⟨tail, htail⟩
  exact append_ne_of_apart (hroots root hroot) tail rest htail

theorem Made.emits {switchport vlans : List MibRow} {es : List MibEntry}
    (h : view.Made switchport vlans es) (hserved : view.Served) {γ : Type} {column : Oid}
    (hne : column ≠ []) (hpeth : apart column pethPsePortTable = true)
    (hvendor : apart column vendorRoot = true)
    (hroots : ∀ root ∈ VirtualSwitchState.allRoots, apart column root = true ∨ root = column)
    {idx : ℤ → List ℤ} {d : PyDict ℤ γ} {val : ℤ → γ → Option MibValue}
    (hcolumn : VirtualSwitchState.ColumnOf (view.state.allRows switchport vlans) column idx d val)
    (hidx : ∀ k, idx k ≠ []) (hinj : Function.Injective idx) : view.Emits column idx d val := by
  have himplemented := @isOidImplemented_of_apart view.state.model ⟨view.state.modelKey, rfl⟩ column
    hpeth hvendor
  have hitems := VirtualSwitchState.items_filter_of_columnOf hcolumn hinj
  have hentry : ∀ k v, (d.filterMap val).get? k = some v →
      (⟨intArcs column ++ idx k, v⟩ : MibEntry) ∈ view.entries := by
    intro k v hget
    have hrow : (instanceText column (idx k), v) ∈
        (PyDict.ofList (view.state.allRows switchport vlans)).items.filter (inColumn column) := by
      rw [hitems]
      exact List.mem_map.mpr ⟨(k, v), PyDict.mem_items_iff.mpr hget, rfl⟩
    exact h.mem_entries.mpr ⟨_, (List.mem_filter.mp hrow).1, ofRow_instanceText _ _ _⟩
  refine ⟨fun vb => ?_, fun k v hget => hserved.sent _ (hentry k v hget)⟩
  rw [Mib.mem_below, varbinds_mib hserved, varbinds, List.mem_filterMap]
  constructor
  · rintro ⟨⟨e, he, hvb⟩, rest, hrest, hoid⟩
    obtain ⟨row, hrow, hof⟩ := h.mem_entries.mp (List.mem_filter.mp he).1
    obtain ⟨oid, harcs, hvalue⟩ := Option.bind_eq_some_iff.mp hvb
    obtain ⟨value, hsmi, rfl⟩ := Option.map_eq_some_iff.mp hvalue
    obtain rfl : oid = column ++ rest := hoid
    have heoid : e.oid = intArcs column ++ intArcs rest :=
      (eq_intArcs_of_arcs? harcs).trans (intArcs_append _ _)
    have hin : inColumn column row = true := by
      have hmem : row.1 ∈ PyDict.ofList (view.state.allRows switchport vlans) :=
        PyDict.mem_def.mpr (List.mem_map_of_mem hrow)
      obtain ⟨row', hrow', hkey⟩ := List.mem_map.mp (PyDict.mem_ofList.mp hmem)
      have hunder : Under VirtualSwitchState.allRoots row := by
        have hunder' := VirtualSwitchState.under_allRows h.under h.emitted row' hrow'
        unfold Under at hunder' ⊢
        rwa [hkey] at hunder'
      refine inColumn_of_ofRow hne hunder hroots hof ?_ heoid
      simpa [intArcs] using hrest
    have hfilter : row ∈ (PyDict.ofList (view.state.allRows switchport vlans)).items.filter
        (inColumn column) := List.mem_filter.mpr ⟨hrow, hin⟩
    rw [hitems] at hfilter
    obtain ⟨⟨k, v⟩, hkv, rfl⟩ := List.mem_map.mp hfilter
    rw [ofRow_instanceText] at hof
    cases hof
    exact ⟨k, v, PyDict.get?_of_mem_items hkv, hvb⟩
  · rintro ⟨k, v, hget, hvb⟩
    obtain ⟨rest, hoid, hns, -⟩ := exists_rest_of_varbind? hvb
    refine ⟨⟨_, List.mem_filter.mpr ⟨hentry k v hget, himplemented _⟩, hvb⟩, rest, ?_, hoid⟩
    rintro rfl
    exact hidx k hns

end StateMibView

/-! A view is ready to be served where every row of the map has an OID in normal form and a value
that can be sent. -/

/-- A row that can be served, whatever else is. -/
def Sendable (row : MibRow) : Prop := (∃ oid : Oid, row.1 = oidParts oid) ∧ row.2.toSmi?.isSome

theorem sendable_instance {base : Oid} {ns : List ℤ} {v : MibValue} (hns : ∀ n ∈ ns, 0 ≤ n)
    (hv : v.toSmi?.isSome) : Sendable (instanceText base ns, v) := by
  refine ⟨⟨base ++ ns.map Int.toNat, ?_⟩, hv⟩
  have hparts : ns.map intText = oidParts (ns.map Int.toNat) := by
    rw [oidParts, List.map_map]
    refine List.map_congr_left fun n hn => ?_
    obtain ⟨k, rfl⟩ := Int.eq_ofNat_of_zero_le (hns n hn)
    rfl
  show oidParts base ++ ns.map intText = _
  rw [hparts]
  exact List.map_append.symm

theorem nonneg_of_sendable {base : Oid} {ns : List ℤ} {v : MibValue}
    (h : Sendable (instanceText base ns, v)) : ∀ n ∈ ns, 0 ≤ n := by
  obtain ⟨⟨oid, hoid⟩, -⟩ := h
  have htuple : some (intArcs base ++ ns) = some (intArcs oid) := by
    rw [← oidToTuple_oidParts oid, ← hoid, instanceText, oidToTuple_append, oidToTuple_oidParts,
      oidToTuple_intText]
    rfl
  intro n hn
  have hmem : n ∈ intArcs oid := by
    rw [← Option.some.inj htuple]
    exact List.mem_append_right _ hn
  obtain ⟨k, -, rfl⟩ := List.mem_map.mp hmem
  exact Int.natCast_nonneg k

theorem Sendable.loadable {row : MibRow} (h : Sendable row) : Loadable row := by
  obtain ⟨⟨oid, hoid⟩, -⟩ := h
  intro part hpart
  rw [hoid] at hpart
  obtain ⟨n, -, rfl⟩ := List.mem_map.mp hpart
  rw [spelledInt_natText]
  rfl

theorem map_oid_of_mapM : ∀ {rows : List MibRow} {es : List MibEntry},
    rows.mapM MibEntry.ofRow = some es →
      es.map (fun e => some e.oid) = rows.map fun row => oidToTuple row.1
  | [], es, h => by
    cases h
    rfl
  | row :: rows, es, h => by
    rw [List.mapM_cons] at h
    obtain ⟨e, he, h⟩ := Option.bind_eq_some_iff.mp h
    obtain ⟨rest, hrest, h⟩ := Option.bind_eq_some_iff.mp h
    cases h
    obtain ⟨oid, hoid, rfl⟩ := Option.map_eq_some_iff.mp he
    rw [List.map_cons, List.map_cons, map_oid_of_mapM hrest, hoid]

namespace StateMibView

/-- A current view of a switch with plain Q-BRIDGE tables, all of it fit to be served. -/
structure Ready (view : StateMibView) : Prop where
  current : view.Current
  plain : view.state.switchportModel = false
  rows : ∀ vlans, view.state.vlanRows = some vlans →
    ∀ row ∈ view.state.allRows [] vlans, Sendable row

theorem Ready.served {view : StateMibView} (h : view.Ready) : view.Served := by
  obtain ⟨switchport, vlans, es, hmade⟩ := exists_made h.current
  obtain rfl := hmade.plain h.plain
  have hrow : ∀ row ∈ (PyDict.ofList (view.state.allRows [] vlans)).items, Sendable row :=
    fun row hrow => h.rows vlans hmade.emitted row (PyDict.mem_of_mem_ofList hrow)
  refine ⟨fun e he => ?_, ?_⟩
  · obtain ⟨row, hmem, hof⟩ := hmade.mem_entries.mp he
    obtain ⟨⟨oid, hoid⟩, hvalue⟩ := hrow row hmem
    obtain ⟨ns, hns, rfl⟩ := Option.map_eq_some_iff.mp hof
    rw [hoid, oidToTuple_oidParts] at hns
    obtain rfl := Option.some.inj hns
    rw [MibEntry.varbind?, arcs?_intArcs, Option.bind_some, Option.isSome_map]
    exact hvalue
  · have hsome : (es.map fun e => some e.oid).Nodup := by
      rw [map_oid_of_mapM hmade.loaded]
      have hkeys := (PyDict.ofList (view.state.allRows [] vlans)).nodup
      refine (List.nodup_map_iff_inj_on hkeys.of_map).mpr fun x hx y hy hxy => ?_
      obtain ⟨⟨a, ha⟩, -⟩ := hrow x hx
      obtain ⟨⟨b, hb⟩, -⟩ := hrow y hy
      rw [ha, hb, oidToTuple_oidParts, oidToTuple_oidParts] at hxy
      refine List.inj_on_of_nodup_map hkeys hx hy ?_
      rw [ha, hb, intArcs_injective (Option.some.inj hxy)]
    rw [(hmade.perm.map MibEntry.oid).nodup_iff]
    refine List.Nodup.of_map some ?_
    rw [List.map_map]
    exact hsome

/-- A state all of whose rows can be served has a view that is ready. -/
theorem exists_ready {s : VirtualSwitchState} {vlans : List MibRow} (hplain : s.switchportModel = false)
    (hvlans : s.vlanRows = some vlans) (hshort : s.oidTexts.any hasLongPart = false)
    (hrows : ∀ row ∈ s.allRows [] vlans, Sendable row) :
    ∃ es, loadView s = (s, some es) ∧ (⟨s, es⟩ : StateMibView).Ready := by
  have hmap : s.oidMap = (s, some (PyDict.ofList (s.allRows [] vlans))) := by
    rw [VirtualSwitchState.oidMap, if_neg (by simp [hplain])]
    dsimp only
    rw [hvlans]
    rfl
  obtain ⟨es, hes⟩ := Option.isSome_iff_exists.mp
    (VirtualSwitchState.isSome_mapM_ofRow_iff.mpr fun row hrow => (hrows row hrow).loadable)
  have hload : loadView s = (s, some (es.insertionSort fun a b => oidLe a.oid b.oid)) := by
    rw [loadView, hmap]
    dsimp only
    rw [hshort, if_neg Bool.false_ne_true, hes]
    rfl
  refine ⟨_, hload, hload, hplain, fun vlans' hvlans' => ?_⟩
  obtain rfl := Option.some.inj (hvlans.symm.trans hvlans')
  exact hrows

end StateMibView

/-! ## §5 Columns as they are read -/

/-- The value a client is handed. -/
def handed (t : Transport) (value : SmiValue) : SnmpValue := (t.row ⟨[], value⟩).value

theorem row_value (t : Transport) (vb : AgentVarbind) : (t.row vb).value = handed t vb.value := by
  obtain ⟨oid, value⟩ := vb
  cases t with
  | pysnmp => cases value <;> rfl
  | netsnmp =>
    cases value with
    | octetString raw =>
      by_cases hprint : raw.all isPrintable = true
      · simp only [handed, Transport.row, netsnmpRow, if_pos hprint]
      · simp only [handed, Transport.row, netsnmpRow, if_neg hprint, normalizeVarbind]
    | _ => rfl

theorem map_intText_intArcs (oid : Oid) : (intArcs oid).map intText = oidParts oid := by
  rw [intArcs, List.map_map]
  rfl

namespace StateMibView

variable {view : StateMibView}

/-- **A column that is emitted is read as its dictionary**, each value as it is handed to the
client, where every row of it makes an entry. -/
theorem Emits.readColumn {γ α : Type} {column : Oid} {idx : ℤ → List ℤ} {d : PyDict ℤ γ}
    {val : ℤ → γ → Option MibValue} (h : view.Emits column idx d val) (t : Transport)
    (hne : column ≠ []) (hidx : ∀ k, idx k ≠ []) (hinj : Function.Injective idx)
    {entry : Text → SnmpValue → Except LibError (Option (ℤ × α))} {read : SnmpValue → α}
    (hentry : ∀ k v value rest, (d.filterMap val).get? k = some v → v.toSmi? = some value →
      idx k = intArcs rest → entry (joinDot ((idx k).map intText)) (handed t value) =
        .ok (some (k, read (handed t value)))) :
    ∃ d', Snmp.readColumn column entry (view.mib.rows t column) = .ok d' ∧
      ∀ k, d'.get? k = ((d.filterMap val).get? k).bind fun v =>
        v.toSmi?.map fun value => read (handed t value) := by
  have hall : ∀ vb, ∃ kv : ℤ × MibValue, vb ∈ view.mib.below column →
      (d.filterMap val).get? kv.1 = some kv.2 ∧
        MibEntry.varbind? ⟨intArcs column ++ idx kv.1, kv.2⟩ = some vb := by
    intro vb
    by_cases hvb : vb ∈ view.mib.below column
    · obtain ⟨k, v, hget, hsent⟩ := (h.mem_below vb).mp hvb
      exact ⟨(k, v), fun _ => ⟨hget, hsent⟩⟩
    · exact ⟨(0, ⟨.integer, []⟩), fun hmem => absurd hmem hvb⟩
  choose item hitem using hall
  let e : AgentVarbind → ℤ × α := fun vb => ((item vb).1, read (handed t vb.value))
  have hread : ∀ vb ∈ view.mib.below column, ∃ s, suffix column (t.row vb).oid = some s ∧
      entry s (t.row vb).value = .ok (some (e vb)) := by
    intro vb hvb
    obtain ⟨hget, hsent⟩ := hitem vb hvb
    obtain ⟨rest, hoid, hns, hsmi⟩ := exists_rest_of_varbind? hsent
    have hrest : rest ≠ [] := by
      rintro rfl
      exact hidx _ hns
    refine ⟨joinDot ((idx (item vb).1).map intText), ?_, ?_⟩
    · rw [t.row_oid, hoid, lstripChar_oidText, suffix_oidText hne hrest, hns,
        map_intText_intArcs]
      rfl
    · rw [row_value]
      exact hentry _ _ _ _ hget hsmi hns
  refine ⟨_, readColumn_map hread, fun k => ?_⟩
  have hnodup : (((view.mib.below column).map e).map Prod.fst).Nodup := by
    rw [List.map_map]
    have hbelow : (view.mib.below column).Nodup :=
      (view.mib.nodup.of_map).sublist List.filter_sublist
    refine (List.nodup_map_iff_inj_on hbelow).mpr ?_
    intro vb hvb vb' hvb' hkey
    obtain ⟨hget, hsent⟩ := hitem vb hvb
    obtain ⟨hget', hsent'⟩ := hitem vb' hvb'
    have hk : (item vb).1 = (item vb').1 := hkey
    rw [hk] at hget hsent
    have hv : (item vb).2 = (item vb').2 := Option.some.inj (hget.symm.trans hget')
    rw [hv] at hsent
    exact Option.some.inj (hsent.symm.trans hsent')
  have hget : ∀ a, (PyDict.ofList ((view.mib.below column).map e)).get? k = some a ↔
      ∃ vb ∈ view.mib.below column, e vb = (k, a) := by
    intro a
    rw [← PyDict.mem_items_iff, PyDict.items_ofList hnodup, List.mem_map]
  rw [Option.ext_iff]
  intro a
  rw [hget a]
  constructor
  · rintro ⟨vb, hvb, heq⟩
    obtain ⟨hkv, hsent⟩ := hitem vb hvb
    obtain ⟨rest, -, -, hsmi⟩ := exists_rest_of_varbind? hsent
    obtain ⟨rfl, rfl⟩ := Prod.mk.inj heq
    rw [hkv, Option.bind_some, hsmi]
    rfl
  · intro ha
    obtain ⟨v, hv, ha⟩ := Option.bind_eq_some_iff.mp ha
    obtain ⟨value, hsmi, rfl⟩ := Option.map_eq_some_iff.mp ha
    obtain ⟨vb, hvb⟩ := Option.isSome_iff_exists.mp (h.sent k v hv)
    have hmem : vb ∈ view.mib.below column := (h.mem_below vb).mpr ⟨k, v, hv, hvb⟩
    obtain ⟨rest, hoid, hns, hsmi'⟩ := exists_rest_of_varbind? hvb
    obtain ⟨rest', hoid', hns', -⟩ := exists_rest_of_varbind? (hitem vb hmem).2
    have hrest : rest' = rest := List.append_cancel_left (hoid'.symm.trans hoid)
    have hkey : (item vb).1 = k := hinj (by rw [hns', hns, hrest])
    have hvalue : vb.value = value := Option.some.inj (hsmi'.symm.trans hsmi)
    exact ⟨vb, hmem, by rw [← hkey, ← hvalue]⟩

end StateMibView

/-- The text of a name as it is handed over: octets are read as UTF-8. -/
def textOf : SnmpValue → Text
  | .bytes b => PyCodec.utf8DecodeReplace b
  | .str text => text
  | .int _ => []

/-- The text a client makes of an octet string. -/
def heardText (t : Transport) (raw : Bytes) : Text := textOf (handed t (.octetString raw))

/-- The text a client makes of a name. -/
def heardName (t : Transport) (name : Text) : Text := heardText t ((PyCodec.latin1Encode name).getD [])

theorem handed_octetString_ne_int (t : Transport) (raw : Bytes) (n : ℤ) :
    handed t (.octetString raw) ≠ .int n := by
  cases t with
  | pysnmp =>
    simp only [handed, Transport.row, normalizeVarbind, octetValue]
    split_ifs <;> exact fun h => by cases h
  | netsnmp =>
    simp only [handed, Transport.row, netsnmpRow, normalizeVarbind, octetValue]
    split_ifs <;> exact fun h => by cases h

theorem int_of_toSmi? {type : SnmpType} (htype : type = .integer ∨ type = .gauge32) {n : ℤ}
    {value : SmiValue} (h : (intValue type n).toSmi? = some value) : ∃ cls, value = .int cls n := by
  have hint : ∀ cls : IntClass, smiInt? cls (intText n) = some value → ∃ cls, value = .int cls n := by
    intro cls h
    obtain ⟨m, hm, h⟩ := Option.bind_eq_some_iff.mp h
    obtain ⟨-, rfl⟩ := pyInt_intText_eq_some_iff.mp hm
    rw [Option.ite_none_right_eq_some] at h
    exact ⟨cls, (Option.some.inj h.2).symm⟩
  rcases htype with rfl | rfl
  · exact hint .integer32 h
  · exact hint .gauge32 h

theorem intEntry_handed (t : Transport) (k : ℤ) (cls : IntClass) (n : ℤ) :
    intEntry (joinDot ([k].map intText)) (handed t (.int cls n)) =
      .ok (some (k, ((handed t (.int cls n)).toInt).getD 0)) := by
  have hhanded : handed t (.int cls n) = .int n := by cases t <;> rfl
  rw [hhanded]
  simp [intEntry, joinDot, not_mem_intText, SnmpValue.toInt]

theorem strEntry_handed (t : Transport) (k : ℤ) (raw : Bytes) :
    strEntry (joinDot ([k].map intText)) (handed t (.octetString raw)) =
      .ok (some (k, heardText t raw)) := by
  have hkey : joinDot ([k].map intText) = intText k := by simp [joinDot]
  rw [hkey, heardText]
  unfold strEntry
  rw [if_neg (not_mem_intText k), spelledInt_intText]
  cases hvalue : handed t (.octetString raw) with
  | int n => exact absurd hvalue (handed_octetString_ne_int t raw n)
  | bytes b => rfl
  | str text => rfl

namespace StateMibView

variable {view : StateMibView}

section Columns

variable (t : Transport) {γ : Type} {column : Oid} {d : PyDict ℤ γ}

/-- A column of numbers. -/
theorem Emits.readInts {type : SnmpType} (htype : type = .integer ∨ type = .gauge32)
    {read : γ → Option ℤ}
    (h : view.Emits column (fun k => [k]) d fun _ c => (read c).map (intValue type))
    (hne : column ≠ []) :
    ∃ d', indexIntColumn (view.mib.rows t column) column = .ok d' ∧
      ∀ k, d'.get? k = (d.get? k).bind read := by
  have hcell : ∀ {k : ℤ} {v : MibValue}, (d.filterMap fun _ c =>
      (read c).map (intValue type)).get? k = some v →
        ∃ n, (d.get? k).bind read = some n ∧ v = intValue type n := by
    intro k v hv
    rw [PyDict.get?_filterMap] at hv
    obtain ⟨c, hc, hv⟩ := Option.bind_eq_some_iff.mp hv
    obtain ⟨n, hn, rfl⟩ := Option.map_eq_some_iff.mp hv
    exact ⟨n, by rw [hc, Option.bind_some, hn], rfl⟩
  obtain ⟨d', hread, hget⟩ := @Emits.readColumn view _ _ _ _ _ _ h t hne
    (fun _ => List.cons_ne_nil _ _) List.singleton_injective intEntry
    (fun value => value.toInt.getD 0) (by
      intro k v value rest hv hvalue _
      obtain ⟨n, -, rfl⟩ := hcell hv
      obtain ⟨cls, rfl⟩ := int_of_toSmi? htype hvalue
      exact intEntry_handed t k cls n)
  refine ⟨d', hread, fun k => ?_⟩
  rw [hget k]
  cases hv : (d.filterMap fun _ c => (read c).map (intValue type)).get? k with
  | none =>
    rw [PyDict.get?_filterMap] at hv
    cases hc : d.get? k with
    | none => rfl
    | some c =>
      rw [hc] at hv
      exact (Option.map_eq_none_iff.mp hv).symm
  | some v =>
    obtain ⟨n, hn, rfl⟩ := hcell hv
    obtain ⟨vb, hvb⟩ := Option.isSome_iff_exists.mp (h.sent k _ hv)
    obtain ⟨rest, -, -, hvalue⟩ := exists_rest_of_varbind? hvb
    obtain ⟨cls, hcls⟩ := int_of_toSmi? htype hvalue
    rw [hn, Option.bind_some, hvalue, hcls]
    cases t <;> rfl

/-- A column of texts. -/
theorem Emits.readTexts {read : γ → Option Text}
    (h : view.Emits column (fun k => [k]) d fun _ c => (read c).map textValue) (hne : column ≠ []) :
    ∃ d', indexStrColumn (view.mib.rows t column) column = .ok d' ∧
      ∀ k, d'.get? k = (d.get? k).bind fun c => (read c).map (heardName t) := by
  have hcell : ∀ {k : ℤ} {v : MibValue}, (d.filterMap fun _ c =>
      (read c).map textValue).get? k = some v →
        ∃ text, (d.get? k).bind read = some text ∧ v = textValue text := by
    intro k v hv
    rw [PyDict.get?_filterMap] at hv
    obtain ⟨c, hc, hv⟩ := Option.bind_eq_some_iff.mp hv
    obtain ⟨text, htext, rfl⟩ := Option.map_eq_some_iff.mp hv
    exact ⟨text, by rw [hc, Option.bind_some, htext], rfl⟩
  have hoctets : ∀ {text : Text} {value : SmiValue}, (textValue text).toSmi? = some value →
      ∃ raw, PyCodec.latin1Encode text = some raw ∧ value = .octetString raw := by
    intro text value hvalue
    obtain ⟨raw, hraw, rfl⟩ := Option.map_eq_some_iff.mp
      (show (PyCodec.latin1Encode text).map SmiValue.octetString = some value from hvalue)
    exact ⟨raw, hraw, rfl⟩
  obtain ⟨d', hread, hget⟩ := @Emits.readColumn view _ _ _ _ _ _ h t hne
    (fun _ => List.cons_ne_nil _ _) List.singleton_injective strEntry textOf (by
      intro k v value rest hv hvalue _
      obtain ⟨text, -, rfl⟩ := hcell hv
      obtain ⟨raw, -, rfl⟩ := hoctets hvalue
      exact strEntry_handed t k raw)
  refine ⟨d', hread, fun k => ?_⟩
  have hreads : ((d.get? k).bind fun c => (read c).map (heardName t)) =
      ((d.get? k).bind read).map (heardName t) := by
    cases d.get? k <;> rfl
  rw [hget k, hreads]
  cases hv : (d.filterMap fun _ c => (read c).map textValue).get? k with
  | none =>
    rw [PyDict.get?_filterMap] at hv
    cases hc : d.get? k with
    | none => rfl
    | some c =>
      rw [hc] at hv
      rw [Option.bind_some, Option.map_eq_none_iff.mp hv]
      rfl
  | some v =>
    obtain ⟨text, htext, rfl⟩ := hcell hv
    obtain ⟨vb, hvb⟩ := Option.isSome_iff_exists.mp (h.sent k _ hv)
    obtain ⟨rest, -, -, hvalue⟩ := exists_rest_of_varbind? hvb
    obtain ⟨raw, hraw, hsmi⟩ := hoctets hvalue
    rw [htext, Option.bind_some, hvalue, hsmi, Option.map_some, Option.map_some, heardName, hraw]
    rfl

end Columns

/-! The tables whose columns are roots of their own. -/

section Tables

variable (hcurrent : view.Current) (hserved : view.Served)

include hcurrent hserved

theorem emits_port (c : VirtualSwitchState.PortColumn) :
    view.Emits c.oid (fun p => [p]) view.state.ports fun _ sim => c.value sim := by
  obtain ⟨switchport, vlans, es, hmade⟩ := exists_made hcurrent
  exact hmade.emits hserved (by cases c <;> decide) (by cases c <;> decide) (by cases c <;> decide)
    (by cases c <;> decide) (view.state.columnOf_allRows_port hmade.under hmade.emitted c)
    (fun _ => List.cons_ne_nil _ _) List.singleton_injective

theorem emits_vlan (c : VirtualSwitchState.VlanColumn) :
    view.Emits c.oid c.index view.state.vlans fun _ vsim =>
      c.value view.state.vlanWidth vsim := by
  obtain ⟨switchport, vlans, es, hmade⟩ := exists_made hcurrent
  refine hmade.emits hserved (by cases c <;> decide) (by cases c <;> decide)
    (by cases c <;> decide) (by cases c <;> decide)
    (view.state.columnOf_allRows_vlan hmade.under hmade.emitted c) ?_ ?_
  · cases c <;> exact fun _ => List.cons_ne_nil _ _
  · cases c <;> exact fun a b h => by simpa [VirtualSwitchState.VlanColumn.index] using h

theorem physicalPorts_rows (t : Transport) (hports : view.state.ports.items ≠ []) :
    Snmp.physicalPorts (view.mib.rows t ifType) = .ok (some view.state.ethernetPorts) := by
  have hemits : view.Emits ifType (fun p => [p]) view.state.ports
      fun _ sim => (some sim.ifType).map (intValue .integer) := emits_port hcurrent hserved .ifType
  obtain ⟨types, hcolumn, htypes⟩ := hemits.readInts t (.inl rfl) (by decide)
  have hitems : types.items ≠ [] := by
    obtain ⟨⟨p, sim⟩, hp⟩ := List.exists_mem_of_ne_nil _ hports
    have hmem := htypes p
    rw [PyDict.get?_of_mem_items hp] at hmem
    exact List.ne_nil_of_mem (PyDict.mem_items_iff.mpr hmem)
  rw [Snmp.physicalPorts, hcolumn]
  change Except.ok (if _ = [] then none else some _) = _
  rw [if_neg hitems]
  congr 2
  ext p
  rw [VirtualSwitchState.ethernetPorts, Finset.mem_filter, Finset.mem_filter, List.mem_toFinset,
    List.mem_toFinset, ← PyDict.mem_def, ← PyDict.mem_def, PyDict.mem_iff, PyDict.mem_iff, htypes p]
  cases view.state.ports.get? p <;> simp

end Tables

end StateMibView

/-! ## §6 The VLANs a client hears -/

/-- The ports a client makes of the PortList of some ports. -/
def heardPorts (t : Transport) (width : ℕ) (ports : Finset ℤ) : Finset ℤ :=
  Bitmap.numbers (delivered t ((encodePortBitmap ports width).getD []))

/-- The entry a client makes of a VLAN. -/
def VlanSim.heard (t : Transport) (width : ℕ) (physical : Finset ℤ) (vid : ℤ) (vsim : VlanSim) :
    VLANInfo :=
  let member :=
    heardPorts t width (if vsim.staticRow then vsim.configured else vsim.member) ∩ physical
  let untagged := heardPorts t width vsim.untagged ∩ physical
  { vlanId := vid
    name := if vsim.staticRow then textOrNone (some (heardName t vsim.name)) else none
    memberPorts := member
    taggedPorts := member \ untagged
    untaggedPorts := untagged }

/-- What `get_vlans` answers. -/
def VirtualSwitchState.heardVlans (t : Transport) (s : VirtualSwitchState) : List VLANInfo :=
  (PySet.sorted s.vlanIds).filterMap fun v =>
    (s.vlans.get? v).map (VlanSim.heard t s.vlanWidth s.ethernetPorts v)

theorem toSmi?_bytesValue (raw : Bytes) : (bytesValue raw).toSmi? = some (.octetString raw) := by
  simp [MibValue.toSmi?, bytesValue, textValue]

namespace StateMibView

/-- Every PortList of a current view was encoded. -/
theorem exists_portLists {view : StateMibView} (hcurrent : view.Current) {v : ℤ} {vsim : VlanSim}
    (hvsim : view.state.vlans.get? v = some vsim) :
    ∃ member untagged, encodePortBitmap vsim.member view.state.vlanWidth = some member ∧
      encodePortBitmap vsim.untagged view.state.vlanWidth = some untagged ∧
      (vsim.staticRow = true →
        ∃ configured, encodePortBitmap vsim.configured view.state.vlanWidth = some configured) := by
  obtain ⟨switchport, vlans, es, hmade⟩ := exists_made hcurrent
  have hrow := VirtualSwitchState.isSome_vlanRows_iff.mp
    (Option.isSome_of_eq_some hmade.emitted) v vsim hvsim
  obtain ⟨rows, hrows⟩ := Option.isSome_iff_exists.mp hrow
  simp only [VirtualSwitchState.vlanRow, Option.bind_eq_bind, Option.bind_eq_some_iff] at hrows
  obtain ⟨member, hmember, untagged, huntagged, hrows⟩ := hrows
  refine ⟨member, untagged, hmember, huntagged, fun hstatic => ?_⟩
  rw [if_pos hstatic] at hrows
  obtain ⟨configured, hconfigured, -⟩ := Option.bind_eq_some_iff.mp hrows
  exact ⟨configured, hconfigured⟩

variable {view : StateMibView} (hcurrent : view.Current) (hserved : view.Served) (t : Transport)

include hcurrent hserved

/-- A column of PortLists, each as it is handed to the client. -/
theorem exists_bitmaps (c : VirtualSwitchState.VlanColumn)
    {entry : Text → SnmpValue → Except LibError (Option (ℤ × SnmpValue))}
    (hentry : ∀ (n : ℕ) (value : SnmpValue), (∀ i, value ≠ .int i) →
      entry (joinDot ((c.index n).map intText)) value = .ok (some ((n : ℤ), value))) :
    ∃ d, Snmp.readColumn c.oid entry (view.mib.rows t c.oid) = .ok d ∧
      ∀ v, d.get? v = (view.state.vlans.get? v).bind fun vsim =>
        (c.value view.state.vlanWidth vsim).bind fun value => value.toSmi?.map (handed t) := by
  have hemits := emits_vlan hcurrent hserved c
  have hidx : ∀ v, c.index v ≠ [] := by cases c <;> exact fun _ => List.cons_ne_nil _ _
  have hinj : Function.Injective c.index := by
    cases c <;> exact fun a b h => by simpa [VirtualSwitchState.VlanColumn.index] using h
  have hoctets : ∀ {vsim : VlanSim} {v : MibValue} {value : SmiValue},
      c.value view.state.vlanWidth vsim = some v → v.toSmi? = some value →
        ∃ raw, value = .octetString raw := by
    intro vsim v value hv hvalue
    rw [MibValue.toSmi?, VirtualSwitchState.Projected.octetstr_of_value hv] at hvalue
    obtain ⟨raw, -, hraw⟩ := Option.map_eq_some_iff.mp hvalue
    exact ⟨raw, hraw.symm⟩
  obtain ⟨d, hread, hget⟩ := @Emits.readColumn view _ _ _ _ _ _ hemits t (by cases c <;> decide)
    hidx hinj entry id (by
      intro v w value rest hw hvalue hrest
      rw [PyDict.get?_filterMap] at hw
      obtain ⟨vsim, -, hw⟩ := Option.bind_eq_some_iff.mp hw
      obtain ⟨raw, rfl⟩ := hoctets hw hvalue
      have hmem : v ∈ intArcs rest := by
        rw [← hrest]
        cases c <;> simp [VirtualSwitchState.VlanColumn.index]
      obtain ⟨n, -, rfl⟩ := List.mem_map.mp hmem
      exact hentry n _ (handed_octetString_ne_int t raw))
  refine ⟨d, hread, fun v => ?_⟩
  rw [hget v, PyDict.get?_filterMap, Option.bind_assoc]
  rfl

theorem exists_names : ∃ d, indexStrColumn (view.mib.rows t dot1qVlanStaticName)
    dot1qVlanStaticName = .ok d ∧ ∀ v, d.get? v = (view.state.vlans.get? v).bind fun vsim =>
      if vsim.staticRow then some (heardName t vsim.name) else none := by
  have hvalue : (fun (_ : ℤ) (vsim : VlanSim) =>
      VirtualSwitchState.VlanColumn.name.value view.state.vlanWidth vsim) =
        fun _ vsim => (if vsim.staticRow then some vsim.name else none).map textValue := by
    funext _ vsim
    rw [VirtualSwitchState.VlanColumn.value]
    cases vsim.staticRow <;> rfl
  have hemits := emits_vlan hcurrent hserved .name
  rw [hvalue] at hemits
  obtain ⟨d, hread, hget⟩ := Emits.readTexts t hemits (by decide)
  refine ⟨d, hread, fun v => ?_⟩
  rw [hget v]
  refine Option.bind_congr fun vsim _ => ?_
  cases vsim.staticRow <;> rfl

/-- **What `get_vlans` answers of the virtual switch**, through either client. -/
theorem vlans_mib (hports : view.state.ports.items ≠ []) :
    view.mib.vlans t = .ok (view.state.heardVlans t) := by
  obtain ⟨name, hname, hnames⟩ := exists_names hcurrent hserved t
  have hstaticEntry : ∀ (n : ℕ) (value : SnmpValue), (∀ i, value ≠ .int i) →
      bitmapEntry (joinDot ([(n : ℤ)].map intText)) value = .ok (some ((n : ℤ), value)) := by
    intro n value hvalue
    have hkey : joinDot ([(n : ℤ)].map intText) = natText n := by simp [joinDot, intText_natCast]
    rw [hkey]
    unfold bitmapEntry
    rw [isDigits_natText]
    cases value with
    | int i => exact absurd rfl (hvalue i)
    | _ => simp
  have hcurrentEntry : ∀ (n : ℕ) (value : SnmpValue), (∀ i, value ≠ .int i) →
      currentBitmapEntry (joinDot ([0, (n : ℤ)].map intText)) value =
        .ok (some ((n : ℤ), value)) := by
    intro n value hvalue
    have hsplit : (joinDot ([0, (n : ℤ)].map intText)).splitOn '.' = [natText 0, natText n] := by
      refine splitOn_joinDot (List.cons_ne_nil _ _) ?_
      intro p hp
      exact not_mem_map_intText hp
    unfold currentBitmapEntry
    rw [hsplit]
    cases value with
    | int i => exact absurd rfl (hvalue i)
    | _ => simp [isDigits_natText]
  obtain ⟨egress, hegress, hegresses⟩ := exists_bitmaps hcurrent hserved t .egress hstaticEntry
  obtain ⟨untagged, huntagged, huntaggeds⟩ :=
    exists_bitmaps hcurrent hserved t .untagged hstaticEntry
  obtain ⟨currentEgress, hcurrentEgress, hcurrentEgresses⟩ :=
    exists_bitmaps hcurrent hserved t .currentEgress hcurrentEntry
  obtain ⟨currentUntagged, hcurrentUntagged, hcurrentUntaggeds⟩ :=
    exists_bitmaps hcurrent hserved t .currentUntagged hcurrentEntry
  have hegress : vlanBitmapMap (view.mib.rows t dot1qVlanStaticEgress) dot1qVlanStaticEgress =
      .ok egress := hegress
  have huntagged : vlanBitmapMap (view.mib.rows t dot1qVlanStaticUntagged)
      dot1qVlanStaticUntagged = .ok untagged := huntagged
  have hcurrentEgress : currentVlanBitmapMap (view.mib.rows t dot1qVlanCurrentEgress)
      dot1qVlanCurrentEgress = .ok currentEgress := hcurrentEgress
  have hcurrentUntagged : currentVlanBitmapMap (view.mib.rows t dot1qVlanCurrentUntagged)
      dot1qVlanCurrentUntagged = .ok currentUntagged := hcurrentUntagged
  rw [Mib.vlans, Snmp.parseVlans, physicalPorts_rows hcurrent hserved t hports, hname, hegress,
    huntagged, hcurrentEgress, hcurrentUntagged]
  let columns : VlanColumns :=
    ⟨some view.state.ethernetPorts, name, egress, untagged, currentEgress, currentUntagged⟩
  change (PySet.sorted (name.keys.toFinset ∪ currentEgress.keys.toFinset)).mapM columns.info = _
  have hids : name.keys.toFinset ∪ currentEgress.keys.toFinset = view.state.vlanIds := by
    ext v
    rw [Finset.mem_union, List.mem_toFinset, List.mem_toFinset, ← PyDict.mem_def, ← PyDict.mem_def,
      VirtualSwitchState.mem_vlanIds, PyDict.mem_iff_isSome, PyDict.mem_iff_isSome,
      PyDict.mem_iff_isSome, hnames, hcurrentEgresses]
    cases hvsim : view.state.vlans.get? v with
    | none => simp
    | some vsim =>
      obtain ⟨member, -, hmember, -, -⟩ := exists_portLists hcurrent hvsim
      simp [VirtualSwitchState.VlanColumn.value, hmember, toSmi?_bytesValue]
  rw [hids, VirtualSwitchState.heardVlans]
  refine VirtualSwitchState.mapM_eq_ok_filterMap fun v hv => ?_
  obtain ⟨vsim, hvsim⟩ :=
    PyDict.mem_iff.mp (VirtualSwitchState.mem_vlanIds.mp (PySet.mem_sorted.mp hv))
  refine ⟨vsim.heard t view.state.vlanWidth view.state.ethernetPorts v, ?_, by rw [hvsim]; rfl⟩
  obtain ⟨member, untaggedList, hmember, huntaggedList, hconfigured⟩ :=
    exists_portLists hcurrent hvsim
  have hheard : ∀ {ports : Finset ℤ} {raw : Bytes},
      encodePortBitmap ports view.state.vlanWidth = some raw →
        columns.portsOf (some (handed t (.octetString raw))) =
          .ok (heardPorts t view.state.vlanWidth ports ∩ view.state.ethernetPorts) := by
    intro ports raw hraw
    unfold VlanColumns.portsOf
    rw [Option.getD_some, handed, decodePortBitmap_row, heardPorts, hraw]
    rfl
  have hbitmap : ∀ {c : VirtualSwitchState.VlanColumn} {ports : Finset ℤ} {raw : Bytes}
      {d : PyDict ℤ SnmpValue}, (∀ v, d.get? v = (view.state.vlans.get? v).bind fun vsim =>
        (c.value view.state.vlanWidth vsim).bind fun value => value.toSmi?.map (handed t)) →
      c.value view.state.vlanWidth vsim = (encodePortBitmap ports view.state.vlanWidth).map bytesValue →
      encodePortBitmap ports view.state.vlanWidth = some raw →
        columns.portsOf (d.get? v) =
          .ok (heardPorts t view.state.vlanWidth ports ∩ view.state.ethernetPorts) := by
    intro c ports raw d hd hvalue hraw
    rw [hd v, hvsim, Option.bind_some, hvalue, hraw, Option.map_some, Option.bind_some,
      toSmi?_bytesValue]
    exact hheard hraw
  have hnameGet : columns.name.get? v = if vsim.staticRow then
      some (heardName t vsim.name) else none := by
    rw [show columns.name = name from rfl, hnames v, hvsim, Option.bind_some]
  unfold VlanColumns.info
  cases hstatic : vsim.staticRow with
  | true =>
    obtain ⟨configuredList, hconfiguredList⟩ := hconfigured hstatic
    have hmem : v ∈ columns.name := by
      rw [PyDict.mem_iff_isSome, hnameGet, hstatic]
      rfl
    simp only [hmem, if_true]
    rw [hbitmap hegresses (by rw [VirtualSwitchState.VlanColumn.value, if_pos hstatic])
        hconfiguredList,
      hbitmap huntaggeds (by rw [VirtualSwitchState.VlanColumn.value, if_pos hstatic])
        huntaggedList, hnameGet, VlanSim.heard, hstatic]
    rfl
  | false =>
    have hnot : v ∉ columns.name := by
      rw [PyDict.mem_iff_isSome, hnameGet, hstatic]
      simp
    simp only [hnot, if_false]
    rw [hbitmap hcurrentEgresses rfl hmember, hbitmap hcurrentUntaggeds rfl huntaggedList,
      hnameGet, VlanSim.heard, hstatic]
    rfl

end StateMibView

/-! ## §7 A small switch -/

/-- A switch of two ports and two VLANs. -/
def twoPorts : VirtualSwitchState where
  modelKey := .gsm7228ps
  ports := .ofList [
    (1, { name := "1/g1".toList, admin := true, link := true, speed := 1000 }),
    (2, { name := "1/g2".toList, admin := true, link := false, speed := 0 })]
  vlans := .ofList [(1, { name := "default".toList, member := {1, 2}, untagged := {1, 2} }),
    (7, { name := "lab".toList, member := {2} })]

/-- Its view. -/
def twoPortsView : StateMibView := ⟨twoPorts, (loadView twoPorts).2.getD []⟩

theorem hasSnmp_gsm7228ps : Backend.snmp ∈ (getModel .gsm7228ps).backends := by decide

/-- Its writer. -/
def twoPortsWriter : SnmpWriter where
  modelKey := .gsm7228ps
  hasSnmp := hasSnmp_gsm7228ps

theorem current_twoPortsView : twoPortsView.Current := by decide +kernel

theorem rows_twoPorts : twoPorts.vlanRows.all (fun vlans => (twoPorts.allRows [] vlans).all fun row =>
    row.1 = oidParts (((oidToTuple row.1).getD []).map Int.toNat) && row.2.toSmi?.isSome) = true := by
  decide +kernel

theorem ready_twoPortsView : twoPortsView.Ready where
  current := current_twoPortsView
  plain := rfl
  rows vlans hvlans row hrow := by
    have hvlans : twoPorts.vlanRows = some vlans := hvlans
    have hall := rows_twoPorts
    rw [hvlans, Option.all_some, List.all_eq_true] at hall
    have hchecked := hall row hrow
    rw [Bool.and_eq_true, decide_eq_true_iff] at hchecked
    exact ⟨⟨_, hchecked.1⟩, hchecked.2⟩

end NetgearSwitch.Virtual
