import NetgearSwitch.Http.GoAheadText
import NetgearSwitch.Http.Session
import NetgearSwitch.Virtual.WebGs728tpp

/-!
# The `wcd` pages of rows of the virtual GS728TPP

`render_ports`, `render_vlans` and `render_poe` of `virtual/web_gs728tpp.py`.  A page of rows is
a section of elements that hold one field each; the texts of its fields are read back stripped,
with their line ends normalised.  A page in which one of them sends to the login page is not
handed over by the client.

§1 pages · §2 rows as they are read · §3 the ports page · §4 the VLAN page ·
§5 pages that are taken for the login page
-/

namespace NetgearSwitch.Virtual

open Http PyText Script

/-! ## §1 Pages -/

/-- A row of fields, their texts as they stand. -/
def rowText (tag : String) (fields : List (String × Text)) : Text :=
  Xml.tagged tag (fields.flatMap fun f => Xml.tagged f.1 f.2)

/-- `_ADMIN` and `_LINK`. -/
def onOff (on : Bool) : Text := if on then ['1'] else ['2']

/-- The fields of an `Entry`, with the text that stands for the description. -/
def portFields (p : ℤ) (sim : PortSim) (description : Text) : List (String × Text) :=
  [("interfaceName", 'g' :: intText p), ("interfaceType", ['1']), ("interfaceID", intText p),
    ("interfaceDescription", description),
    ("adminState", onOff sim.admin), ("linkState", onOff sim.link),
    ("speedOper", intText sim.speed), ("duplexOperMode", if sim.link then ['2'] else ['4']),
    ("speedAdmin", sim.speedAdmin), ("duplexAdminMode", sim.duplexAdminMode),
    ("autoNegotiationAdminEnabled", sim.autonegAdmin),
    ("flowControlOperType", onOff sim.flowControl),
    ("flowControlAdminType", onOff sim.flowControl)]

/-- `_port_entry`. -/
def portEntry (p : ℤ) (sim : PortSim) : Text :=
  rowText "Entry" (portFields p sim (Xml.escape false (sim.description.getD [])))

/-- The fields of a `VLAN`, with the text that stands for its name. -/
def vlanFields (vid : ℤ) (name : Text) : List (String × Text) :=
  [("VLANID", intText vid), ("VLANName", name), ("authorizationType", ['1']),
    ("VLANType", if vid = 1 then ['1'] else ['2'])]

/-- The fields of an `Interface` of the PoE page. -/
def poeFields (p : ℤ) (sim : PoeSim) : List (String × Text) :=
  [("interfaceName", 'g' :: intText p), ("interfaceType", ['1']), ("interfaceID", intText p),
    ("adminEnable", onOff sim.admin), ("detectionStatus", intText sim.detect),
    ("poweredDevice", []), ("powerPriority", ['3']), ("powerClassification", ['1']),
    ("outputVoltage", ['0']), ("outputCurrent", ['0']), ("outputPower", intText sim.powerMw),
    ("powerLimit", "30000".toList)]

/-- A section of rows. -/
def wcdSection (name : String) (rows : List Text) : Text :=
  wcd (Xml.startTag name.toList sectionAttrs ++ (rows.flatten ++ Xml.endTag name.toList))

namespace VirtualSwitchState

/-- `render_ports`. -/
def renderWcdPorts (s : VirtualSwitchState) : Text :=
  wcdSection "Standard802_3List"
    (s.wcdPhysicalPorts.filterMap fun p => (s.ports.get? p).map (portEntry p))

/-- `render_vlans`. -/
def renderWcdVlans (s : VirtualSwitchState) : Text :=
  wcdSection "VLANList" (s.vlans.sortedItems.map fun e =>
    rowText "VLAN" (vlanFields e.1 (Xml.escape false e.2.name)))

/-- `render_poe`. -/
def renderWcdPoe (s : VirtualSwitchState) : Text :=
  wcdSection "PoEPSEInterfaceList" (s.poe.sortedItems.map fun e => rowText "Interface" (poeFields e.1 e.2))

end VirtualSwitchState

/-! ## §2 Rows as they are read -/

/-- A text of one word that the page can have as it stands. -/
def Plain (t : Text) : Prop :=
  ' ' ∉ t ∧ ∀ c ∈ t, Xml.isXmlChar c = true ∧ c ≠ '&' ∧ c ≠ '<' ∧ c ≠ '>'

theorem Plain.legal {t : Text} (h : Plain t) : Legal t := fun c hc => (h.2 c hc).1

theorem plain_of_mem {t : Text} (h : ∀ c ∈ t, c = 'g' ∨ c = '-' ∨ isDigit c = true) : Plain t := by
  refine ⟨fun hspace => ?_, fun c hc => ?_⟩
  · rcases h ' ' hspace with hg | hminus | hdigit
    · exact absurd hg (by decide)
    · exact absurd hminus (by decide)
    · exact absurd hdigit (by decide)
  rcases h c hc with rfl | rfl | hdigit
  · decide
  · decide
  · simp only [isDigit, Bool.and_eq_true, decide_eq_true_eq, Char.le_def,
      UInt32.le_iff_toNat_le] at hdigit
    have hlow : 48 ≤ c.toNat := hdigit.1
    have hhigh : c.toNat ≤ 57 := hdigit.2
    refine ⟨?_, ?_, ?_, ?_⟩
    · simp only [Xml.isXmlChar, Bool.or_eq_true, Bool.and_eq_true, decide_eq_true_eq]
      omega
    all_goals
      rintro rfl
      revert hlow hhigh
      decide

theorem plain_intText (n : ℤ) : Plain (intText n) :=
  plain_of_mem fun _ hc => Or.inr (mem_intText hc)

theorem plain_portName (p : ℤ) : Plain ('g' :: intText p) := by
  refine plain_of_mem fun c hc => ?_
  rcases List.mem_cons.mp hc with rfl | hc
  · exact Or.inl rfl
  · exact Or.inr (mem_intText hc)

theorem plain_onOff (on : Bool) : Plain (onOff on) := by
  cases on
  · exact plain_of_mem (by decide)
  · exact plain_of_mem (by decide)

/-- A row of fields, with the texts that its texts stand for. -/
def rowXml (tag : String) (fields : List (String × Text)) : Xml :=
  Xml.node tag (fields.map fun f => Xml.field f.1 f.2)

/-- Fields as they are written. -/
def escapeFields (fields : List (String × Text)) : List (String × Text) :=
  fields.map fun f => (f.1, Xml.escape false f.2)

/-- Fields as they are read back. -/
def readFields (fields : List (String × Text)) : List (String × Text) :=
  fields.map fun f => (f.1, Xml.normalLines f.2)

theorem renderAll_fields (fields : List (String × Text)) :
    Xml.renderAll false (fields.map fun f => Xml.field f.1 f.2) =
      (escapeFields fields).flatMap fun f => Xml.tagged f.1 f.2 := by
  induction fields with
  | nil => rfl
  | cons f fields ih =>
    rw [List.map_cons, Xml.renderAll, ih, Xml.render_field]
    rfl

theorem readBackAll_fields {fields : List (String × Text)} (h : ∀ f ∈ fields, Legal f.2) :
    Xml.readBackAll (fields.map fun f => Xml.field f.1 f.2) =
      some ((readFields fields).map fun f => Xml.field f.1 f.2) := by
  induction fields with
  | nil => rfl
  | cons f fields ih =>
    rw [List.map_cons, Xml.readBackAll, Xml.readBack_field,
      readText_of_legal (h f List.mem_cons_self), ih fun g hg => h g (List.mem_cons_of_mem _ hg)]
    rfl

theorem renderAll_rows (tag : String) (rows : List (List (String × Text))) :
    Xml.renderAll false (rows.map (rowXml tag)) =
      (rows.map fun fields => rowText tag (escapeFields fields)).flatten := by
  induction rows with
  | nil => rfl
  | cons fields rows ih =>
    rw [List.map_cons, Xml.renderAll, ih, rowXml, Xml.render_node, renderAll_fields]
    rfl

theorem readBackAll_fields_none {fields : List (String × Text)} (h : ∃ f ∈ fields, ¬ Legal f.2) :
    Xml.readBackAll (fields.map fun f => Xml.field f.1 f.2) = none := by
  induction fields with
  | nil =>
    obtain ⟨f, hf, -⟩ := h
    cases hf
  | cons g fields ih =>
    rw [List.map_cons, Xml.readBackAll, Xml.readBack_field]
    by_cases hg : Legal g.2
    · obtain ⟨f, hf, hlegal⟩ := h
      rcases List.mem_cons.mp hf with rfl | hf
      · exact absurd hg hlegal
      · rw [ih ⟨f, hf, hlegal⟩, readText_of_legal hg]
        rfl
    · rw [readText_of_not_legal hg]
      rfl

theorem readBackAll_rows (tag : String) {rows : List (List (String × Text))}
    (h : ∀ fields ∈ rows, ∀ f ∈ fields, Legal f.2) :
    Xml.readBackAll (rows.map (rowXml tag)) =
      some (rows.map fun fields => rowXml tag (readFields fields)) := by
  induction rows with
  | nil => rfl
  | cons fields rows ih =>
    rw [List.map_cons, Xml.readBackAll, rowXml, Xml.node, Xml.readBack,
      readBackAll_fields (h fields List.mem_cons_self),
      ih fun g hg => h g (List.mem_cons_of_mem _ hg)]
    rfl

/-- A tag that a section can have. -/
def IsSectionTag (tag : Text) : Prop := Xml.WfName tag ∧ '>' ∉ tag ∧ tag ≠ deviceConfiguration

theorem isSectionTag_iff {tag : Text} : IsSectionTag tag ↔
    ((tag.head?.any Xml.isNameStart && tag.all Xml.isNameChar) = true ∧ '>' ∉ tag ∧
      tag ≠ deviceConfiguration) :=
  and_congr_left' Xml.wfName_iff

instance (tag : Text) : Decidable (IsSectionTag tag) := decidable_of_iff' _ isSectionTag_iff

theorem formed_rowXml {tag : String} {fields : List (String × Text)} (htag : IsSectionTag tag.toList)
    (hfields : ∀ f ∈ fields, IsSectionTag f.1.toList) : Xml.Formed (rowXml tag fields) := by
  refine Xml.formed_node htag.1 fun x hx => ?_
  obtain ⟨f, hf, rfl⟩ := List.mem_map.mp hx
  exact ⟨Xml.formed_field (hfields f hf).1 f.2, id⟩

theorem tags_rowXml {tag : String} {fields : List (String × Text)} :
    ∀ t ∈ Xml.tags (rowXml tag fields), t = tag.toList ∨ ∃ f ∈ fields, t = f.1.toList := by
  intro t ht
  rw [rowXml, Xml.node, Xml.tags] at ht
  rcases List.mem_cons.mp ht with rfl | ht
  · exact Or.inl rfl
  · right
    obtain ⟨x, hx, ht⟩ := Xml.mem_tagsAll.mp ht
    obtain ⟨f, hf, rfl⟩ := List.mem_map.mp hx
    refine ⟨f, hf, ?_⟩
    rw [Xml.field, Xml.node, Xml.tags] at ht
    rcases List.mem_cons.mp ht with rfl | ht
    · rfl
    · split_ifs at ht <;> cases ht

/-- **The rows of a section are read**, where every text in them is legal. -/
theorem goaheadSection_wcdSection (name tag : String) {rows : List (List (String × Text))}
    (hname : IsSectionTag name.toList) (hversion : name ≠ "version") (htag : IsSectionTag tag.toList)
    (hfields : ∀ fields ∈ rows, ∀ f ∈ fields, IsSectionTag f.1.toList)
    (hlegal : ∀ fields ∈ rows, ∀ f ∈ fields, Legal f.2) :
    goaheadSection (wcdSection name (rows.map fun fields => rowText tag (escapeFields fields))) name =
      .ok (.elem name.toList sectionAttrs (rows.map fun fields => rowXml tag (readFields fields))) := by
  have hpage : wcdSection name (rows.map fun fields => rowText tag (escapeFields fields)) =
      wcd (Xml.render false (.elem name.toList sectionAttrs (rows.map (rowXml tag)))) := by
    rw [wcdSection, Xml.render, renderAll_rows]
  have hformed : Xml.FormedAll (rows.map (rowXml tag)) := by
    refine Xml.formedAll_of_elems fun x hx => ?_
    obtain ⟨fields, hmem, rfl⟩ := List.mem_map.mp hx
    exact ⟨formed_rowXml htag (hfields fields hmem), id⟩
  rw [hpage, goaheadSection_wcd name hname.1 hversion hformed ?_, readBackAll_rows tag hlegal]
  · rfl
  · rw [List.forall_mem_cons]
    refine ⟨hname.2, fun t ht => ?_⟩
    obtain ⟨x, hx, ht⟩ := Xml.mem_tagsAll.mp ht
    obtain ⟨fields, hmem, rfl⟩ := List.mem_map.mp hx
    rcases tags_rowXml t ht with rfl | ⟨f, hf, rfl⟩
    · exact htag.2
    · exact (hfields fields hmem f hf).2

/-- The text of a field: of the first one with the tag. -/
def fieldOf (tag : String) (fields : List (String × Text)) : Text :=
  ((fields.find? fun f => f.1 = tag).map Prod.snd).getD []

theorem find_rowXml (tag name : String) (fields : List (String × Text)) :
    (rowXml tag fields).find name =
      (fields.find? fun f => f.1 = name).map fun f => Xml.field f.1 f.2 := by
  rw [rowXml, Xml.find, Xml.node, Xml.contents, List.find?_map]
  congr 1
  refine congrArg (List.find? · fields) (funext fun f => ?_)
  rw [Function.comp_apply, Xml.field, Xml.node, Xml.hasTag]
  exact decide_eq_decide.mpr String.toList_inj

theorem gtext_rowXml (tag name : String) (fields : List (String × Text)) :
    gtext (rowXml tag fields) name = strip (fieldOf name fields) := by
  rw [gtext, find_rowXml, fieldOf]
  cases fields.find? fun f => f.1 = name with
  | none => rfl
  | some f => exact congrArg strip (Xml.ownText_field f.1 f.2)

theorem fieldOf_readFields (name : String) (fields : List (String × Text)) :
    fieldOf name (readFields fields) = Xml.normalLines (fieldOf name fields) := by
  induction fields with
  | nil => rfl
  | cons f fields ih =>
    rw [readFields, List.map_cons, ← readFields]
    by_cases hf : f.1 = name
    · rw [fieldOf, fieldOf, List.find?_cons_of_pos (by simp [hf]),
        List.find?_cons_of_pos (by simp [hf])]
      rfl
    · rw [fieldOf, fieldOf, List.find?_cons_of_neg (by simp [hf]),
        List.find?_cons_of_neg (by simp [hf]), ← fieldOf, ← fieldOf, ih]

/-- What a reader makes of a field of a row. -/
theorem gtext_readFields (tag name : String) (fields : List (String × Text)) :
    gtext (rowXml tag (readFields fields)) name = carry (fieldOf name fields) := by
  rw [gtext_rowXml, fieldOf_readFields, carry]

theorem carry_of_not_isSpace {t : Text} (h : ∀ c ∈ t, isSpace c = false) : carry t = t := by
  have hcr : '\r' ∉ t := fun hc => absurd (h '\r' hc) (by decide)
  rw [carry, Xml.normalLines_of_not_mem hcr, strip_of_not_isSpace h]

theorem carry_intText (n : ℤ) : carry (intText n) = intText n :=
  carry_of_not_isSpace (isSpace_intText n)

theorem isSpace_portName (p : ℤ) : ∀ c ∈ 'g' :: intText p, isSpace c = false := by
  rw [List.forall_mem_cons]
  exact ⟨by decide, isSpace_intText p⟩

/-- The name of a port is read as the port, if it can be one. -/
theorem goaheadPortNum_intText (p : ℤ) :
    goaheadPortNum ('g' :: intText p) = if 0 ≤ p then some p else none := by
  split_ifs with hp
  · obtain ⟨n, rfl⟩ := Int.eq_ofNat_of_zero_le hp
    exact goaheadPortNum_natText n
  · have hminus : intText p = '-' :: natText p.natAbs := by
      rw [intText, if_pos (by omega)]
    rw [goaheadPortNum, strip_of_not_isSpace (isSpace_portName p), hminus]
    exact if_neg Bool.false_ne_true

/-- The handler reads the name of a port as the reader does, and raises where the number is too long
for `int`. -/
theorem ifacePort_of_fieldText {row : Xml} {p : ℤ}
    (h : fieldText row "interfaceName" = 'g' :: intText p) :
    ifacePort row = if 0 ≤ p then (if Printable p then some (some p) else none) else some none := by
  rw [ifacePort, h]
  split_ifs with hp hprint
  · obtain ⟨n, rfl⟩ := Int.eq_ofNat_of_zero_le hp
    have hint : intOfDigits (natText n) = some n := intOfDigits_natText hprint
    simp [intText_natCast, isDigitText_natText, hint]
  · obtain ⟨n, rfl⟩ := Int.eq_ofNat_of_zero_le hp
    have hint : intOfDigits (natText n) = none := intOfDigits_eq_none hprint
    simp [intText_natCast, isDigitText_natText, hint]
  · have hminus : intText p = '-' :: natText p.natAbs := by
      rw [intText, if_pos (by omega)]
    rw [hminus]
    exact if_neg Bool.false_ne_true

/-! ## §3 The ports page -/

/-- The codes that the page has as they stand, and the texts it escapes. -/
structure VirtualSwitchState.WcdTidy (s : VirtualSwitchState) : Prop where
  codes : ∀ p sim, s.ports.get? p = some sim →
    Plain sim.speedAdmin ∧ Plain sim.duplexAdminMode ∧ Plain sim.autonegAdmin
  descriptions : ∀ p sim, s.ports.get? p = some sim → Legal (sim.description.getD [])
  names : ∀ v vlan, s.vlans.get? v = some vlan → Legal vlan.name

theorem escapeFields_portFields {p : ℤ} {sim : PortSim} (hspeed : Plain sim.speedAdmin)
    (hduplex : Plain sim.duplexAdminMode) (hautoneg : Plain sim.autonegAdmin) (d : Text) :
    escapeFields (portFields p sim d) = portFields p sim (Xml.escape false d) := by
  have hplain : ∀ {t : Text}, Plain t → Xml.escape false t = t :=
    fun h => Xml.escape_eq_self fun c hc => (h.2 c hc).2
  have hoper : Plain (if sim.link then ['2'] else ['4'] : Text) := by
    split_ifs <;> exact plain_of_mem (by decide)
  simp only [escapeFields, portFields, List.map_cons, List.map_nil, hplain (plain_portName p),
    hplain (plain_intText _), hplain (plain_onOff _), hplain hoper, hplain hspeed, hplain hduplex,
    hplain hautoneg]
  rfl

theorem legal_portFields {p : ℤ} {sim : PortSim} (hspeed : Plain sim.speedAdmin)
    (hduplex : Plain sim.duplexAdminMode) (hautoneg : Plain sim.autonegAdmin) {d : Text}
    (hd : Legal d) : ∀ f ∈ portFields p sim d, Legal f.2 := by
  have hoper : Legal (if sim.link then ['2'] else ['4'] : Text) := by
    split_ifs <;> exact (plain_of_mem (by decide)).legal
  simp only [portFields, List.forall_mem_cons]
  exact ⟨(plain_portName p).legal, (plain_of_mem (by decide)).legal, (plain_intText p).legal, hd,
    (plain_onOff _).legal, (plain_onOff _).legal, (plain_intText _).legal, hoper, hspeed.legal,
    hduplex.legal, hautoneg.legal, (plain_onOff _).legal, (plain_onOff _).legal,
    List.forall_mem_nil _⟩

theorem isSectionTag_portFields (p : ℤ) (sim : PortSim) (d : Text) :
    ∀ f ∈ portFields p sim d, IsSectionTag f.1.toList := by
  have htags : ∀ tag ∈ (portFields p sim d).map Prod.fst, IsSectionTag tag.toList := by
    show ∀ tag ∈ ["interfaceName", "interfaceType", "interfaceID", "interfaceDescription",
      "adminState", "linkState", "speedOper", "duplexOperMode", "speedAdmin", "duplexAdminMode",
      "autoNegotiationAdminEnabled", "flowControlOperType", "flowControlAdminType"],
        IsSectionTag tag.toList
    decide
  exact fun f hf => htags f.1 (List.mem_map_of_mem hf)

/-- A row of the ports page as it is read: not at all where the name can be no port. -/
theorem goaheadPortEntry_portFields (p : ℤ) (sim : PortSim) (d : Text) :
    (p < 0 ∧ goaheadPortEntry (rowXml "Entry" (readFields (portFields p sim d))) = none) ∨
      0 ≤ p ∧ ∃ row : PortStatus, row.port = p ∧ row.description = orNone (carry d) ∧
        goaheadPortEntry (rowXml "Entry" (readFields (portFields p sim d))) = some row := by
  have hname : gtext (rowXml "Entry" (readFields (portFields p sim d))) "interfaceName" =
      'g' :: intText p := by
    rw [gtext_readFields]
    exact carry_of_not_isSpace (isSpace_portName p)
  have hdescription : gtext (rowXml "Entry" (readFields (portFields p sim d)))
      "interfaceDescription" = carry d := by
    rw [gtext_readFields]
    rfl
  rw [goaheadPortEntry, hname, hdescription, goaheadPortNum_intText]
  rcases lt_or_ge p 0 with hp | hp
  · left
    rw [if_neg (not_le.mpr hp)]
    exact ⟨hp, rfl⟩
  · right
    rw [if_pos hp]
    exact ⟨hp, _, rfl, rfl, rfl⟩

namespace VirtualSwitchState

variable {s : VirtualSwitchState} {p : ℤ}

/-- The ports page has a row that is read as this port. -/
def ShowsPort (s : VirtualSwitchState) (p : ℤ) : Prop := p ∈ s.wcdPhysicalPorts ∧ 0 ≤ p

instance (s : VirtualSwitchState) (p : ℤ) : Decidable (s.ShowsPort p) :=
  inferInstanceAs (Decidable (_ ∧ _))

/-- The description the state has for a port. -/
def portDescription (s : VirtualSwitchState) (p : ℤ) : Text :=
  ((s.ports.get? p).bind (·.description)).getD []

theorem mem_ports_of_mem_wcdPhysicalPorts (h : p ∈ s.wcdPhysicalPorts) :
    ∃ sim, s.ports.get? p = some sim :=
  PyDict.mem_iff.mp (mem_wcdPhysicalPorts.mp h).1

/-- The rows of the ports page. -/
def wcdPortRows (s : VirtualSwitchState) : List (List (String × Text)) :=
  s.wcdPhysicalPorts.filterMap fun p =>
    (s.ports.get? p).map fun sim => portFields p sim (sim.description.getD [])

/-- The rows of the page as they are read. -/
def wcdReadRows (s : VirtualSwitchState) : List PortStatus :=
  s.wcdPortRows.filterMap fun fields => goaheadPortEntry (rowXml "Entry" (readFields fields))

theorem mem_wcdPortRows {fields : List (String × Text)} : fields ∈ s.wcdPortRows ↔
    ∃ p sim, p ∈ s.wcdPhysicalPorts ∧ s.ports.get? p = some sim ∧
      portFields p sim (sim.description.getD []) = fields := by
  rw [wcdPortRows, List.mem_filterMap]
  constructor
  · rintro ⟨p, hp, h⟩
    obtain ⟨sim, hsim, rfl⟩ := Option.map_eq_some_iff.mp h
    exact ⟨p, sim, hp, hsim, rfl⟩
  · rintro ⟨p, sim, hp, hsim, rfl⟩
    exact ⟨p, hp, by rw [hsim]; rfl⟩

theorem renderWcdPorts_eq (h : s.WcdTidy) : s.renderWcdPorts = wcdSection "Standard802_3List"
    (s.wcdPortRows.map fun fields => rowText "Entry" (escapeFields fields)) := by
  rw [renderWcdPorts, wcdPortRows, List.map_filterMap]
  congr 1
  refine List.filterMap_congr fun p _ => ?_
  cases hsim : s.ports.get? p with
  | none => rfl
  | some sim =>
    obtain ⟨hspeed, hduplex, hautoneg⟩ := h.codes p sim hsim
    rw [Option.map_some, Option.map_some, Option.map_some,
      escapeFields_portFields hspeed hduplex hautoneg, portEntry]

theorem goaheadSection_renderWcdPorts (h : s.WcdTidy) :
    goaheadSection s.renderWcdPorts "Standard802_3List" =
      .ok (.elem "Standard802_3List".toList sectionAttrs
        (s.wcdPortRows.map fun fields => rowXml "Entry" (readFields fields))) := by
  rw [renderWcdPorts_eq h]
  refine goaheadSection_wcdSection _ _ (by decide) (by decide) (by decide) ?_ ?_
  · intro fields hfields
    obtain ⟨p, sim, -, -, rfl⟩ := mem_wcdPortRows.mp hfields
    exact isSectionTag_portFields p sim _
  · intro fields hfields
    obtain ⟨p, sim, -, hsim, rfl⟩ := mem_wcdPortRows.mp hfields
    obtain ⟨hspeed, hduplex, hautoneg⟩ := h.codes p sim hsim
    exact legal_portFields hspeed hduplex hautoneg (h.descriptions p sim hsim)

theorem parseGoaheadPorts_renderWcdPorts (h : s.WcdTidy) : parseGoaheadPorts s.renderWcdPorts =
    if s.wcdReadRows = [] then .error .httpUnexpectedPage else .ok s.wcdReadRows := by
  have hentries : (Xml.findAll "Entry" (.elem "Standard802_3List".toList sectionAttrs
      (s.wcdPortRows.map fun fields => rowXml "Entry" (readFields fields)))).filterMap
        goaheadPortEntry = s.wcdReadRows := by
    have hall : Xml.findAll "Entry" (.elem "Standard802_3List".toList sectionAttrs
        (s.wcdPortRows.map fun fields => rowXml "Entry" (readFields fields))) =
          s.wcdPortRows.map fun fields => rowXml "Entry" (readFields fields) := by
      refine List.filter_eq_self.mpr fun x hx => ?_
      obtain ⟨fields, -, rfl⟩ := List.mem_map.mp hx
      exact decide_eq_true (Eq.refl "Entry".toList)
    rw [hall, List.filterMap_map]
    rfl
  rw [parseGoaheadPorts, goaheadSection_renderWcdPorts h]
  show (if (Xml.findAll "Entry" _).filterMap goaheadPortEntry = [] then _ else
    Except.ok ((Xml.findAll "Entry" _).filterMap goaheadPortEntry)) = _
  rw [hentries]

/-- What is read of a port: its description, carried. -/
theorem mem_wcdReadRows {row : PortStatus} (h : row ∈ s.wcdReadRows) :
    s.ShowsPort row.port ∧ row.description = orNone (carry (s.portDescription row.port)) := by
  obtain ⟨fields, hfields, hrow⟩ := List.mem_filterMap.mp h
  obtain ⟨p, sim, hp, hsim, rfl⟩ := mem_wcdPortRows.mp hfields
  rcases goaheadPortEntry_portFields p sim (sim.description.getD []) with
    ⟨-, hnone⟩ | ⟨hpos, row', hport, hdescription, hsome⟩
  · rw [hnone] at hrow
    cases hrow
  · obtain rfl := Option.some.inj (hsome.symm.trans hrow)
    rw [hport, portDescription, hsim]
    exact ⟨⟨hp, hpos⟩, hdescription⟩

theorem exists_mem_wcdReadRows (h : s.ShowsPort p) : ∃ row ∈ s.wcdReadRows, row.port = p := by
  obtain ⟨sim, hsim⟩ := mem_ports_of_mem_wcdPhysicalPorts h.1
  rcases goaheadPortEntry_portFields p sim (sim.description.getD []) with
    ⟨hneg, -⟩ | ⟨-, row, hport, -, hsome⟩
  · exact absurd h.2 (not_le.mpr hneg)
  · exact ⟨row, List.mem_filterMap.mpr ⟨_, mem_wcdPortRows.mpr ⟨p, sim, h.1, hsim, rfl⟩, hsome⟩,
      hport⟩

/-- **The ports page as it is read.** -/
theorem described_renderWcdPorts (h : s.WcdTidy) (hshows : ∃ q, s.ShowsPort q) (p : ℤ) :
    described p s.renderWcdPorts =
      .ok (if s.ShowsPort p then orNone (carry (s.portDescription p)) else none) := by
  have hne : s.wcdReadRows ≠ [] := by
    obtain ⟨q, hq⟩ := hshows
    obtain ⟨row, hrow, -⟩ := exists_mem_wcdReadRows hq
    exact List.ne_nil_of_mem hrow
  have hfind : (s.wcdReadRows.find? (·.port = p)).bind (·.description) =
      if s.ShowsPort p then orNone (carry (s.portDescription p)) else none := by
    cases hrow : s.wcdReadRows.find? (·.port = p) with
    | none =>
      rw [if_neg]
      · rfl
      · intro hp
        obtain ⟨row, hmem, hport⟩ := exists_mem_wcdReadRows hp
        exact List.find?_eq_none.mp hrow row hmem (decide_eq_true hport)
    | some row =>
      have hport : row.port = p := by
        have hpred := List.find?_some hrow
        exact of_decide_eq_true hpred
      obtain ⟨hp, hdescription⟩ := mem_wcdReadRows (List.mem_of_find?_eq_some hrow)
      rw [hport] at hp hdescription
      rw [if_pos hp]
      exact hdescription
  rw [described, parseGoaheadPorts_renderWcdPorts h, if_neg hne, ← hfind]
  rfl

/-- A page without a port is refused. -/
theorem described_renderWcdPorts_error (h : s.WcdTidy) (hshows : ∀ q, ¬ s.ShowsPort q) (p : ℤ) :
    described p s.renderWcdPorts = .error .httpUnexpectedPage := by
  have hnil : s.wcdReadRows = [] :=
    List.eq_nil_iff_forall_not_mem.mpr fun row hrow => hshows _ (mem_wcdReadRows hrow).1
  rw [described, parseGoaheadPorts_renderWcdPorts h, if_pos hnil]
  rfl

/-! ## §4 The VLAN page -/

/-- The rows of the VLAN page. -/
def wcdVlanRows (s : VirtualSwitchState) : List (List (String × Text)) :=
  s.vlans.sortedItems.map fun e => vlanFields e.1 e.2.name

theorem plain_vlanType (vid : ℤ) : Plain (if vid = 1 then ['1'] else ['2']) := by
  split_ifs <;> exact plain_of_mem (by decide)

theorem renderWcdVlans_eq (s : VirtualSwitchState) : s.renderWcdVlans = wcdSection "VLANList"
    (s.wcdVlanRows.map fun fields => rowText "VLAN" (escapeFields fields)) := by
  have hone : Plain ['1'] := plain_of_mem (by decide)
  have hescape : ∀ {t : Text}, Plain t → Xml.escape false t = t :=
    fun h => Xml.escape_eq_self fun c hc => (h.2 c hc).2
  rw [renderWcdVlans, wcdVlanRows, List.map_map]
  congr 1
  refine List.map_congr_left fun e _ => ?_
  simp only [Function.comp_apply, escapeFields, vlanFields, List.map_cons, List.map_nil,
    hescape (plain_intText _), hescape hone, hescape (plain_vlanType _)]

theorem isSectionTag_wcdVlanRows : ∀ fields ∈ s.wcdVlanRows, ∀ f ∈ fields,
    IsSectionTag f.1.toList := by
  intro fields hfields
  obtain ⟨⟨v, vlan⟩, he, rfl⟩ := List.mem_map.mp hfields
  simp only [vlanFields, List.forall_mem_cons]
  exact ⟨by decide, by decide, by decide, by decide, List.forall_mem_nil _⟩

/-- **The VLAN page as it is read.** -/
theorem parseGoaheadVlanNames_renderWcdVlans (h : s.WcdTidy) :
    parseGoaheadVlanNames s.renderWcdVlans = if s.vlans.sortedItems = [] then
      .error .httpUnexpectedPage
    else .ok (.ofList (s.vlans.sortedItems.map fun e => (e.1, orNone (carry e.2.name)))) := by
  have hone : Plain ['1'] := plain_of_mem (by decide)
  have hlegal : ∀ fields ∈ s.wcdVlanRows, ∀ f ∈ fields, Legal f.2 := by
    intro fields hfields
    obtain ⟨⟨v, vlan⟩, he, rfl⟩ := List.mem_map.mp hfields
    simp only [vlanFields, List.forall_mem_cons]
    exact ⟨(plain_intText v).legal, h.names v vlan (PyDict.mem_sortedItems.mp he), hone.legal,
      (plain_vlanType v).legal, List.forall_mem_nil _⟩
  have hsection := goaheadSection_wcdSection "VLANList" "VLAN" (by decide) (by decide) (by decide)
    (isSectionTag_wcdVlanRows (s := s)) hlegal
  have hread : ∀ (v : ℤ) (name : Text),
      (searchInt (gtext (rowXml "VLAN" (readFields (vlanFields v name))) "VLANID")).map
        (fun vid => (vid, orNone (gtext (rowXml "VLAN" (readFields (vlanFields v name))) "VLANName"))) =
        some (v, orNone (carry name)) := by
    intro v name
    rw [gtext_readFields, gtext_readFields]
    have hid : fieldOf "VLANID" (vlanFields v name) = intText v := rfl
    have hname : fieldOf "VLANName" (vlanFields v name) = name := rfl
    rw [hid, hname, carry_intText, searchInt_intText]
    rfl
  have hnames : (Xml.findAll "VLAN" (.elem "VLANList".toList sectionAttrs
      (s.wcdVlanRows.map fun fields => rowXml "VLAN" (readFields fields)))).filterMap (fun v =>
          (searchInt (gtext v "VLANID")).map fun vid => (vid, orNone (gtext v "VLANName"))) =
      s.vlans.sortedItems.map fun e => (e.1, orNone (carry e.2.name)) := by
    have hall : Xml.findAll "VLAN" (.elem "VLANList".toList sectionAttrs
        (s.wcdVlanRows.map fun fields => rowXml "VLAN" (readFields fields))) =
        s.wcdVlanRows.map fun fields => rowXml "VLAN" (readFields fields) := by
      refine List.filter_eq_self.mpr fun x hx => ?_
      obtain ⟨fields, -, rfl⟩ := List.mem_map.mp hx
      exact decide_eq_true (Eq.refl "VLAN".toList)
    rw [hall, wcdVlanRows, List.filterMap_map, List.filterMap_map, ← List.filterMap_eq_map]
    exact List.filterMap_congr fun e _ => hread e.1 e.2.name
  rw [parseGoaheadVlanNames, renderWcdVlans_eq, hsection]
  show (if (Xml.findAll "VLAN" _).filterMap _ = [] then _ else
    Except.ok (PyDict.ofList ((Xml.findAll "VLAN" _).filterMap _))) = _
  rw [hnames]
  simp only [List.map_eq_nil_iff]

end VirtualSwitchState

/-! ## §5 Pages that are taken for the login page -/

theorem redirectsToLogin_tagged_append {tag : String} (htag : ' ' ∉ tag.toList) (t u : Text) :
    redirectsToLogin (Xml.tagged tag t ++ u) = (redirectsToLogin t || redirectsToLogin u) := by
  have hpieces : Xml.tagged tag t ++ u =
      ('<' :: tag.toList) ++ '>' :: (t ++ '<' :: (('/' :: tag.toList) ++ '>' :: u)) := by
    simp [Xml.tagged, Xml.startTag, Xml.attrsText, Xml.endTag]
  have hopen : ' ' ∉ '<' :: tag.toList := List.not_mem_cons_of_ne_of_not_mem (by decide) htag
  have hclose : ' ' ∉ '/' :: tag.toList := List.not_mem_cons_of_ne_of_not_mem (by decide) htag
  rw [hpieces, redirectsToLogin_append_cons (by decide), redirectsToLogin_append_cons (by decide),
    redirectsToLogin_append_cons (by decide), redirectsToLogin_of_not_mem hopen,
    redirectsToLogin_of_not_mem hclose, Bool.false_or, Bool.false_or]

/-- The references of an escaped text hide no word of it and add none. -/
theorem redirectsToLogin_escape (t : Text) :
    redirectsToLogin (Xml.escape false t) = redirectsToLogin t := by
  -- the text before the next character to be escaped is carried along
  suffices h : ∀ a : Text, redirectsToLogin (a ++ Xml.escape false t) = redirectsToLogin (a ++ t) from
    h []
  have hstep : ∀ (name : Text) {c : Char} {u : Text}, c.toLower ∉ "redirect to login".toList →
      ' ' ∉ name → (∀ a : Text, redirectsToLogin (a ++ Xml.escape false u) = redirectsToLogin (a ++ u)) →
      ∀ a : Text, redirectsToLogin (a ++ '&' :: (name ++ ';' :: Xml.escape false u)) =
        redirectsToLogin (a ++ c :: u) := by
    intro name c u hc hname ih a
    have htail : redirectsToLogin (Xml.escape false u) = redirectsToLogin u := ih []
    rw [redirectsToLogin_append_cons (by decide), redirectsToLogin_append_cons (by decide),
      redirectsToLogin_append_cons hc, redirectsToLogin_of_not_mem hname, Bool.false_or, htail]
  induction t with
  | nil => exact fun _ => rfl
  | cons c t ih =>
    intro a
    rw [Xml.escape, List.flatMap_cons, ← Xml.escape]
    by_cases hamp : c = '&'
    · subst hamp
      exact hstep "amp".toList (by decide) (by decide) ih a
    by_cases hlt : c = '<'
    · subst hlt
      exact hstep "lt".toList (by decide) (by decide) ih a
    by_cases hgt : c = '>'
    · subst hgt
      exact hstep "gt".toList (by decide) (by decide) ih a
    have hsame : Xml.escapeChar false c = [c] := by
      simp [Xml.escapeChar, hamp, hlt, hgt]
    rw [hsame, ← List.append_assoc, ih, List.append_assoc, List.singleton_append]

theorem redirectsToLogin_rowText {tag : String} {fields : List (String × Text)} {u : Text}
    (htag : ' ' ∉ tag.toList) (hfields : ∀ f ∈ fields, ' ' ∉ f.1.toList) :
    redirectsToLogin (rowText tag (escapeFields fields) ++ u) =
      ((fields.any fun f => redirectsToLogin f.2) || redirectsToLogin u) := by
  rw [rowText, redirectsToLogin_tagged_append htag]
  congr 1
  induction fields with
  | nil => decide
  | cons f fields ih =>
    rw [escapeFields, List.map_cons, List.flatMap_cons, List.any_cons,
      redirectsToLogin_tagged_append (hfields f List.mem_cons_self), redirectsToLogin_escape,
      ← escapeFields, ih fun g hg => hfields g (List.mem_cons_of_mem _ hg)]

/-- A page of rows is taken for the login page where one of its texts is. -/
theorem redirectsToLogin_wcdSection {name tag : String} {rows : List (List (String × Text))}
    (hname : redirectsToLogin (wcdSection name []) = false) (htag : IsSectionTag tag.toList)
    (hfields : ∀ fields ∈ rows, ∀ f ∈ fields, IsSectionTag f.1.toList) :
    redirectsToLogin (wcdSection name (rows.map fun fields => rowText tag (escapeFields fields))) =
        true ↔
      ∃ fields ∈ rows, ∃ f ∈ fields, redirectsToLogin f.2 = true := by
  have hspace : ∀ {t : Text}, IsSectionTag t → ' ' ∉ t := fun h hmem =>
    absurd (List.all_eq_true.mp (Bool.and_eq_true _ _ ▸ (Xml.wfName_iff.mp h.1)).2 ' ' hmem)
      (by decide)
  have hpieces : ∀ texts : List Text, redirectsToLogin (wcdSection name texts) =
      redirectsToLogin texts.flatten := by
    have hcut : ∃ a b : Text, ∀ texts : List Text,
        wcdSection name texts = a ++ '>' :: (texts.flatten ++ '<' :: b) :=
      ⟨wcdProlog ++ "<DeviceConfiguration>\n<version>1.0</version>\n".toList ++
          ('<' :: name.toList ++ Xml.attrsText sectionAttrs),
        ('/' :: name.toList) ++ '>' :: "\n</DeviceConfiguration>\n</ResponseData>\n".toList,
        fun texts => by simp [wcdSection, wcd, Xml.startTag, Xml.endTag]⟩
    obtain ⟨a, b, hcut⟩ := hcut
    have hsides : ∀ texts : List Text, redirectsToLogin (wcdSection name texts) =
        (redirectsToLogin a || (redirectsToLogin texts.flatten || redirectsToLogin b)) := by
      intro texts
      rw [hcut, redirectsToLogin_append_cons (by decide), redirectsToLogin_append_cons (by decide)]
    rw [hsides, Bool.or_eq_false_iff, Bool.or_eq_false_iff] at hname
    intro texts
    rw [hsides, hname.1, hname.2.2, Bool.false_or, Bool.or_false]
  have hrows : redirectsToLogin (rows.map fun fields => rowText tag (escapeFields fields)).flatten =
      rows.any fun fields => fields.any fun f => redirectsToLogin f.2 := by
    clear hname hpieces
    induction rows with
    | nil => rfl
    | cons fields rows ih =>
      rw [List.map_cons, List.flatten_cons, redirectsToLogin_rowText (hspace htag)
        (fun f hf => hspace (hfields fields List.mem_cons_self f hf)), List.any_cons,
        ih fun g hg => hfields g (List.mem_cons_of_mem _ hg)]
  rw [hpieces, hrows]
  simp only [List.any_eq_true]

namespace VirtualSwitchState

variable {s : VirtualSwitchState}

/-- **The ports page is taken for the login page** where a description is. -/
theorem redirectsToLogin_renderWcdPorts (h : s.WcdTidy) :
    redirectsToLogin s.renderWcdPorts = true ↔
      ∃ p ∈ s.wcdPhysicalPorts, redirectsToLogin (s.portDescription p) = true := by
  have hother : ∀ {p : ℤ} {sim : PortSim}, s.ports.get? p = some sim →
      ∀ f ∈ portFields p sim (sim.description.getD []), redirectsToLogin f.2 = true →
        f.2 = s.portDescription p := by
    intro p sim hsim f hf hredirects
    have hspace : ¬ Plain f.2 := fun hplain =>
      Bool.false_ne_true ((redirectsToLogin_of_not_mem hplain.1).symm.trans hredirects)
    obtain ⟨hspeed, hduplex, hautoneg⟩ := h.codes p sim hsim
    have hoper : Plain (if sim.link then ['2'] else ['4'] : Text) := by
      split_ifs <;> exact plain_of_mem (by decide)
    have hdescription : sim.description.getD [] = s.portDescription p := by
      rw [portDescription, hsim]
      rfl
    -- every field but the description is plain
    have hplain : ∀ g ∈ portFields p sim (sim.description.getD []),
        Plain g.2 ∨ g.2 = s.portDescription p := by
      simp only [portFields, List.forall_mem_cons]
      exact ⟨.inl (plain_portName p), .inl (plain_of_mem (by decide)), .inl (plain_intText p),
        .inr hdescription, .inl (plain_onOff _), .inl (plain_onOff _), .inl (plain_intText _),
        .inl hoper, .inl hspeed, .inl hduplex, .inl hautoneg, .inl (plain_onOff _),
        .inl (plain_onOff _), List.forall_mem_nil _⟩
    exact (hplain f hf).resolve_left hspace
  rw [renderWcdPorts_eq h, redirectsToLogin_wcdSection (by decide +kernel) (by decide)]
  · constructor
    · rintro ⟨fields, hfields, f, hf, hredirects⟩
      obtain ⟨p, sim, hp, hsim, rfl⟩ := mem_wcdPortRows.mp hfields
      exact ⟨p, hp, hother hsim f hf hredirects ▸ hredirects⟩
    · rintro ⟨p, hp, hredirects⟩
      obtain ⟨sim, hsim⟩ := mem_ports_of_mem_wcdPhysicalPorts hp
      refine ⟨_, mem_wcdPortRows.mpr ⟨p, sim, hp, hsim, rfl⟩,
        ("interfaceDescription", sim.description.getD []), ?_, ?_⟩
      · simp [portFields]
      · rw [portDescription, hsim] at hredirects
        exact hredirects
  · intro fields hfields
    obtain ⟨p, sim, -, -, rfl⟩ := mem_wcdPortRows.mp hfields
    exact isSectionTag_portFields p sim _

/-- **The VLAN page is taken for the login page** where a name is. -/
theorem redirectsToLogin_renderWcdVlans (s : VirtualSwitchState) :
    redirectsToLogin s.renderWcdVlans = true ↔
      ∃ v vlan, s.vlans.get? v = some vlan ∧ redirectsToLogin vlan.name = true := by
  rw [renderWcdVlans_eq, redirectsToLogin_wcdSection (by decide +kernel) (by decide)
    isSectionTag_wcdVlanRows]
  constructor
  · rintro ⟨fields, hfields, f, hf, hredirects⟩
    obtain ⟨⟨v, vlan⟩, he, rfl⟩ := List.mem_map.mp hfields
    have hplain : ∀ g ∈ vlanFields v vlan.name, Plain g.2 ∨ g.2 = vlan.name := by
      simp only [vlanFields, List.forall_mem_cons]
      exact ⟨.inl (plain_intText v), .inr trivial, .inl (plain_of_mem (by decide)),
        .inl (plain_vlanType v), List.forall_mem_nil _⟩
    refine ⟨v, vlan, PyDict.mem_sortedItems.mp he, ?_⟩
    rcases hplain f hf with hf | hf
    · rw [redirectsToLogin_of_not_mem hf.1] at hredirects
      cases hredirects
    · exact hf ▸ hredirects
  · rintro ⟨v, vlan, hvlan, hredirects⟩
    refine ⟨_, List.mem_map_of_mem (PyDict.mem_sortedItems.mpr hvlan), ("VLANName", vlan.name),
      ?_, hredirects⟩
    simp [vlanFields]

end VirtualSwitchState

end NetgearSwitch.Virtual
