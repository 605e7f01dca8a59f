import NetgearSwitch.Virtual.WcdPages

/-!
# Texts over the `wcd` face of the virtual GS728TPP

The write bodies of the library as `apply_write` applies them, the routes of
`virtual/web_gs728tpp.py`, and what a port description and a VLAN name have become when the page
is read again.

The writer escapes a text, the switch strips it, the page escapes it and the reader strips it
once more; every line end is normalised on the way.  The client looks for `redirect to login` in
every page it gets.

§1 writes · §2 the face · §3 round trips · §4 the writer
-/

namespace NetgearSwitch.Virtual

open Http PyText Script

namespace VirtualSwitchState

variable {s : VirtualSwitchState} {p : ℤ}

/-! ## §1 Writes -/

/-- The section that `write_body` writes. -/
def bodySection (obj action : String) (children : List Xml) : Xml :=
  .elem obj.toList [("action".toList, action.toList)] children

private theorem readBack_bodySection (obj action : String) (children : List Xml) :
    Xml.readBack (Xml.node "DeviceConfiguration" [bodySection obj action children]) =
      (Xml.readBackAll children).map fun children =>
        Xml.node "DeviceConfiguration" [bodySection obj action children] := by
  rw [Xml.node, bodySection, Xml.readBack, Xml.readBackAll, Xml.readBackAll, Xml.readBack]
  cases Xml.readBackAll children <;> rfl

private theorem clear_xmlDeclaration (w : Text) :
    PyRe.clear PyRe.same ('<' :: '!' :: w) xmlDeclaration = true := by
  obtain ⟨t, ht, hdecl⟩ : ∃ t, '<' ∉ t ∧ xmlDeclaration = '<' :: '?' :: t :=
    ⟨xmlDeclaration.drop 2, by decide, by decide⟩
  rw [hdecl, PyRe.clear, Bool.and_eq_true]
  refine ⟨rfl, PyRe.clear_of_head fun d hd => ?_⟩
  rw [PyRe.same, beq_eq_false_iff_ne]
  rintro rfl
  rcases List.mem_cons.mp hd with h | h
  · cases h
  · exact ht h

/-- **A body of the library is applied as its section**, as far as its texts are read. -/
theorem applyXml_writeBody (s : VirtualSwitchState) {obj action : String} {children : List Xml}
    (hobj : Xml.WfName obj.toList) (haction : Xml.WfAttrs [("action".toList, action.toList)])
    (hchildren : Xml.FormedAll children)
    (hcert : obj ≠ "SSLCryptoCertificateImportList") :
    s.applyXml (writeBody obj action children) =
      match Xml.readBackAll children with
      | none => (s, .status 1)
      | some children => applySections false [bodySection obj action children] s := by
  have hformed : Xml.Formed (.elem "DeviceConfiguration".toList []
      [bodySection obj action children]) :=
    ⟨Xml.wfName_iff.mpr (by decide), ⟨List.nodup_nil, List.forall_mem_nil _⟩,
      ⟨hobj, haction, hchildren⟩, trivial, fun h => absurd h id⟩
  have hparse : Xml.parseDocument (writeBody obj action children) =
      (Xml.readBackAll children).map fun children =>
        Xml.node "DeviceConfiguration" [bodySection obj action children] := by
    rw [← readBack_bodySection]
    have hversion : PyRe.clear PyRe.same "?>".toList xmlVersion = true := by decide
    rw [writeBody, xmlDeclaration_eq, List.append_assoc, List.append_assoc]
    exact Xml.parseDocument_render true hversion hformed
  -- no declaration of entities is in it
  have hclear : ∀ w : Text, PyRe.occurs ('<' :: '!' :: w) (writeBody obj action children) = false := by
    intro w
    refine PyRe.occurs_of_clear (List.cons_ne_nil _ _) (PyRe.clear_append ?_
      (Xml.clear_render true (by decide) hformed fun tag _ => rfl))
    exact clear_xmlDeclaration w
  have hdoctype := hclear "DOCTYPE".toList
  have hentity := hclear "ENTITY".toList
  rw [applyXml, show "<!DOCTYPE".toList = '<' :: '!' :: "DOCTYPE".toList from rfl, hdoctype,
    show "<!ENTITY".toList = '<' :: '!' :: "ENTITY".toList from rfl, hentity, hparse]
  cases Xml.readBackAll children with
  | none => rfl
  | some read =>
    have hno : Xml.hasTag "SSLCryptoCertificateImportList" (bodySection obj action read) = false := by
      rw [bodySection, Xml.hasTag, decide_eq_false_iff_not]
      exact fun h => hcert (String.toList_inj.mp h)
    have hcerts : (((Xml.node "DeviceConfiguration" [bodySection obj action read]).findAll
        "SSLCryptoCertificateImportList").flatMap (Xml.findAll "Entry")).head? = none := by
      rw [Xml.findAll, Xml.node, Xml.contents, List.filter_cons, hno]
      rfl
    simp only [Option.map_some, hcerts]
    rfl

theorem wfAttrs_set : Xml.WfAttrs [("action".toList, "set".toList)] := by
  refine ⟨by decide, ?_⟩
  rw [List.forall_mem_singleton]
  exact ⟨Xml.wfName_iff.mpr (by decide), by decide⟩

/-- A body of one row: applied as the row where its texts are legal, else refused. -/
theorem applyXml_row (s : VirtualSwitchState) (obj tag : String) {fields : List (String × Text)}
    (hobj : IsSectionTag obj.toList) (hcert : obj ≠ "SSLCryptoCertificateImportList")
    (htag : IsSectionTag tag.toList) (hfields : ∀ f ∈ fields, IsSectionTag f.1.toList) :
    ((∀ f ∈ fields, Legal f.2) → s.applyXml (writeBody obj "set" [rowXml tag fields]) =
        applySections false [bodySection obj "set" [rowXml tag (readFields fields)]] s) ∧
      ((∃ f ∈ fields, ¬ Legal f.2) →
        s.applyXml (writeBody obj "set" [rowXml tag fields]) = (s, .status 1)) := by
  have hformed : Xml.FormedAll [rowXml tag fields] :=
    ⟨formed_rowXml htag hfields, trivial, fun h => absurd h id⟩
  rw [applyXml_writeBody s hobj.1 wfAttrs_set hformed hcert]
  constructor
  · intro hlegal
    have hrows : ∀ row ∈ [fields], ∀ f ∈ row, Legal f.2 := by
      rw [List.forall_mem_singleton]
      exact hlegal
    have hread := readBackAll_rows tag hrows
    rw [List.map_singleton] at hread
    rw [hread]
    rfl
  · intro hlegal
    rw [Xml.readBackAll, rowXml, Xml.node, Xml.readBack, readBackAll_fields_none hlegal]
    rfl

/-- A section of one row: it is applied, or its handler raises. -/
theorem applySections_row {s : VirtualSwitchState} {obj tag : String} {fields : List (String × Text)}
    {f : VirtualSwitchState → Xml → Option VirtualSwitchState}
    (h : s.applySection (bodySection obj "set" [rowXml tag fields]) =
      match forEach f [rowXml tag fields] s with
      | (s', false) => some (s', WcdReply.raised)
      | (s', true) => some (s', .status 0)) :
    applySections false [bodySection obj "set" [rowXml tag fields]] s =
      match f s (rowXml tag fields) with
      | none => (s, .raised)
      | some s' => (s', .status 0) := by
  rw [bodySection] at h ⊢
  rw [applySections, h, forEach]
  · cases f s (rowXml tag fields) <;> rfl
  · rintro t ⟨⟩

theorem applySections_vlanList {s s' : VirtualSwitchState} {r : WcdReply} {vlans : List Xml}
    (h : applyVlanList "set".toList (vlans.filter (Xml.hasTag "VLAN")) s = (s', r))
    (hr : r = .status 0 ∨ r = .raised) :
    applySections false [bodySection "VLANList" "set" vlans] s = (s', r) := by
  have hsection : s.applySection (bodySection "VLANList" "set" vlans) = some (s', r) := by
    rw [← h]
    rfl
  rw [bodySection] at hsection ⊢
  rw [applySections, hsection]
  · rcases hr with rfl | rfl <;> rfl
  · rintro t ⟨⟩

theorem rowXml_filter (tag : String) (fields : List (String × Text)) :
    [rowXml tag fields].filter (Xml.hasTag tag) = [rowXml tag fields] :=
  List.filter_cons_of_pos (decide_eq_true (Eq.refl tag.toList))

/-- The texts of the body of a description. -/
private def descriptionFields (p : ℤ) (d : Text) : List (String × Text) :=
  [("interfaceName", 'g' :: intText p), ("interfaceType", ['1']), ("interfaceID", intText p),
    ("interfaceDescription", d)]

theorem leaf_eq_field (tag : String) {t : Text} (h : t ≠ []) : Xml.leaf tag t = Xml.field tag t := by
  rw [Xml.field, if_neg h, Xml.leaf, Xml.node]

private theorem portConfigBody_eq (p : ℤ) (d : Text) :
    portConfigBody (portInterfaceName p) p none (some d) =
      writeBody "Standard802_3List" "set" [rowXml "Entry" (descriptionFields p d)] := by
  rw [portConfigBody, portInterfaceName, leaf_eq_field _ (List.cons_ne_nil _ _),
    leaf_eq_field _ (intText_ne_nil p), leaf_eq_field _ (List.cons_ne_nil _ _)]
  rfl

/-- The state with a description for a port. -/
def describePort (s : VirtualSwitchState) (p : ℤ) (d : Text) : VirtualSwitchState :=
  if 0 ≤ p ∧ Printable p then
    { s with ports := s.ports.modify p fun sim => { sim with description := orNone (carry d) } }
  else s

private theorem isSectionTag_descriptionFields (p : ℤ) (d : Text) :
    ∀ f ∈ descriptionFields p d, IsSectionTag f.1.toList := by
  simp only [descriptionFields, List.forall_mem_cons]
  exact ⟨by decide, by decide, by decide, by decide, List.forall_mem_nil _⟩

private theorem applyStandardEntry_descriptionFields (p : ℤ) (d : Text) (sim : PortSim) :
    applyStandardEntry (rowXml "Entry" (readFields (descriptionFields p d))) sim =
      { sim with description := orNone (carry d) } := by
  have hfind : (rowXml "Entry" (readFields (descriptionFields p d))).find "interfaceDescription" =
      some (Xml.field "interfaceDescription" (Xml.normalLines d)) := by
    rw [find_rowXml]
    rfl
  have habsent : ∀ name, fieldOf name (descriptionFields p d) = [] →
      fieldText (rowXml "Entry" (readFields (descriptionFields p d))) name = [] := by
    intro name hname
    rw [fieldText, gtext_readFields, hname]
    rfl
  have hadmin := habsent "adminState" rfl
  have hautoneg := habsent "autoNegotiationAdminEnabled" rfl
  have hrate := habsent "speedAdmin" rfl
  unfold applyStandardEntry
  rw [hadmin, hautoneg, hrate, hfind]
  dsimp only
  rw [Xml.ownText_field]
  rfl

/-- **What a description write does**: the port is described, or the body is refused; a number that
is too long for `int` is answered by nothing. -/
theorem applyXml_portConfigBody (s : VirtualSwitchState) (p : ℤ) (d : Text) :
    (Legal d → s.applyXml (portConfigBody (portInterfaceName p) p none (some d)) =
        (s.describePort p d, if 0 ≤ p → Printable p then .status 0 else .raised)) ∧
      (¬ Legal d → s.applyXml (portConfigBody (portInterfaceName p) p none (some d)) =
        (s, .status 1)) := by
  obtain ⟨happlied, hrefused⟩ := applyXml_row s "Standard802_3List" "Entry" (by decide) (by decide)
    (by decide) (isSectionTag_descriptionFields p d)
  rw [portConfigBody_eq]
  constructor
  · intro hd
    have hlegal : ∀ f ∈ descriptionFields p d, Legal f.2 := by
      simp only [descriptionFields, List.forall_mem_cons]
      exact ⟨(plain_portName p).legal, (plain_of_mem (by decide)).legal, (plain_intText p).legal,
        hd, List.forall_mem_nil _⟩
    have hname : fieldText (rowXml "Entry" (readFields (descriptionFields p d))) "interfaceName" =
        'g' :: intText p := by
      rw [fieldText, gtext_readFields]
      exact carry_of_not_isSpace (isSpace_portName p)
    have hrow := @applySections_row s "Standard802_3List" "Entry" (readFields (descriptionFields p d))
      applyStandard rfl
    rw [happlied hlegal, hrow, applyStandard, ifacePort_of_fieldText hname, describePort]
    by_cases hp : 0 ≤ p
    · by_cases hprint : Printable p
      · rw [if_pos hp, if_pos hprint, if_pos ⟨hp, hprint⟩, if_pos fun _ => hprint, Option.map_some]
        dsimp only
        rw [funext (applyStandardEntry_descriptionFields p d)]
      · rw [if_pos hp, if_neg hprint, if_neg fun h => hprint h.2, if_neg fun h => hprint (h hp)]
        rfl
    · rw [if_neg hp, if_neg fun h => hp h.1, if_pos fun h => absurd h hp]
      rfl
  · intro hd
    exact hrefused ⟨("interfaceDescription", d), by simp [descriptionFields], hd⟩

/-- The state with a VLAN of a name, created or renamed. -/
def nameVlan (s : VirtualSwitchState) (v : ℤ) (name : Text) : VirtualSwitchState :=
  { s with vlans := if v ∈ s.vlans then s.vlans.modify v fun vlan => { vlan with name := carry name }
    else s.vlans.set v { name := carry name } }

/-- **What a VLAN write does**: the VLAN has the name, or the body is refused; a number that is too
long for `int` is answered by nothing. -/
theorem applyXml_vlanCreateBody (s : VirtualSwitchState) (v : ℕ) (name : Text) :
    (Legal name → s.applyXml (vlanCreateBody v name) =
        if Printable v then (s.nameVlan v name, .status 0) else (s, .raised)) ∧
      (¬ Legal name → s.applyXml (vlanCreateBody v name) = (s, .status 1)) := by
  have htags : ∀ f ∈ [("VLANID", intText v), ("VLANName", name)], IsSectionTag f.1.toList := by
    simp only [List.forall_mem_cons]
    exact ⟨by decide, by decide, List.forall_mem_nil _⟩
  have hbody : vlanCreateBody v name =
      writeBody "VLANList" "set" [rowXml "VLAN" [("VLANID", intText v), ("VLANName", name)]] := by
    rw [vlanCreateBody, leaf_eq_field _ (intText_ne_nil v)]
    rfl
  obtain ⟨happlied, hrefused⟩ := applyXml_row s "VLANList" "VLAN" (by decide) (by decide)
    (by decide) htags
  rw [hbody]
  constructor
  · intro hname
    have hlegal : ∀ f ∈ [("VLANID", intText v), ("VLANName", name)], Legal f.2 := by
      simp only [List.forall_mem_cons]
      exact ⟨(plain_intText v).legal, hname, List.forall_mem_nil _⟩
    have hid : fieldText (rowXml "VLAN" (readFields [("VLANID", intText v), ("VLANName", name)]))
        "VLANID" = natText v := by
      rw [fieldText, gtext_readFields]
      exact carry_intText v
    have hvname : fieldText (rowXml "VLAN" (readFields [("VLANID", intText v), ("VLANName", name)]))
        "VLANName" = carry name := by
      rw [fieldText, gtext_readFields]
      rfl
    have hset : ("set".toList : Text) ≠ "delete".toList := by decide
    rw [happlied hlegal]
    split_ifs with hprint
    · refine applySections_vlanList ?_ (.inl rfl)
      rw [rowXml_filter, applyVlanList, hid, hvname, isDigitText_natText, @intOfDigits_natText v hprint]
      dsimp only
      rw [if_neg hset]
      rfl
    · refine applySections_vlanList ?_ (.inr rfl)
      rw [rowXml_filter, applyVlanList, hid, hvname, isDigitText_natText, @intOfDigits_eq_none v hprint]
      rfl
  · intro hname
    exact hrefused ⟨("VLANName", name), by simp, hname⟩

/-! ### What the writes keep -/

theorem legal_getD_orNone {d : Text} (h : Legal d) : Legal ((orNone (carry d)).getD []) := by
  rw [orNone]
  split_ifs
  · exact List.forall_mem_nil _
  · exact (carried_carry h).1

theorem WcdTidy.describePort (h : s.WcdTidy) {d : Text} (hd : Legal d) :
    (s.describePort p d).WcdTidy := by
  unfold VirtualSwitchState.describePort
  split_ifs with hp
  · have hget : ∀ q sim, (s.ports.modify p fun sim =>
        { sim with description := orNone (carry d) }).get? q = some sim →
          (∃ old, s.ports.get? q = some old ∧ sim.speedAdmin = old.speedAdmin ∧
            sim.duplexAdminMode = old.duplexAdminMode ∧ sim.autonegAdmin = old.autonegAdmin) ∧
            Legal (sim.description.getD []) := by
      intro q sim hsim
      rw [PyDict.get?_modify] at hsim
      split_ifs at hsim with hq
      · obtain ⟨old, hold, rfl⟩ := Option.map_eq_some_iff.mp hsim
        exact ⟨⟨old, by rw [hq]; exact hold, rfl, rfl, rfl⟩, legal_getD_orNone hd⟩
      · exact ⟨⟨sim, hsim, rfl, rfl, rfl⟩, h.descriptions q sim hsim⟩
    refine ⟨fun q sim hsim => ?_, fun q sim hsim => (hget q sim hsim).2, h.names⟩
    obtain ⟨⟨old, hold, hspeed, hduplex, hautoneg⟩, -⟩ := hget q sim hsim
    rw [hspeed, hduplex, hautoneg]
    exact h.codes q old hold
  · exact h

theorem WcdTidy.nameVlan (h : s.WcdTidy) {v : ℤ} {name : Text} (hname : Legal name) :
    (s.nameVlan v name).WcdTidy := by
  refine ⟨h.codes, h.descriptions, fun u vlan hvlan => ?_⟩
  unfold VirtualSwitchState.nameVlan at hvlan
  dsimp only at hvlan
  split_ifs at hvlan with hv
  · rw [PyDict.get?_modify] at hvlan
    split_ifs at hvlan with hu
    · obtain ⟨old, -, rfl⟩ := Option.map_eq_some_iff.mp hvlan
      exact (carried_carry hname).1
    · exact h.names u vlan hvlan
  · rw [PyDict.get?_set] at hvlan
    split_ifs at hvlan with hu
    · cases hvlan
      exact (carried_carry hname).1
    · exact h.names u vlan hvlan

/-! ## §2 The face -/

/-- The pages that are no part of the model. -/
structure WcdPages where
  deviceInfo : VirtualSwitchState → Text
  mgmtIp : VirtualSwitchState → Text
  macs : VirtualSwitchState → Text
  lldp : VirtualSwitchState → Text

/-- `_ROUTES`. -/
def wcdRoutes (pages : WcdPages) : List (Text × (VirtualSwitchState → Text)) :=
  [("SystemInfo_master".toList, pages.deviceInfo), ("IPConf_master".toList, pages.mgmtIp),
    ("portConfiguration_master".toList, renderWcdPorts),
    ("PortPvidConf_master".toList, renderPvidsMembership),
    ("VlanConfBasic_master".toList, renderWcdVlans),
    ("DynamicAddresses_master".toList, pages.macs),
    ("PoeInterfaceConf_master".toList, renderWcdPoe),
    ("NeighborsInformation_master".toList, pages.lldp)]

/-- `render_wcd`. -/
def renderWcd (pages : WcdPages) (s : VirtualSwitchState) (query : Text) : Option Text :=
  ((wcdRoutes pages).find? fun route => PyRe.occurs route.1 query).map fun route => route.2 s

/-- `HttpClient.get_page` of a page the switch answers with. -/
def gotPage (page : Text) : Except LibError Text :=
  (validateResponse true { status := 200, text := page }).map fun _ => page

theorem gotPage_eq (page : Text) :
    gotPage page = if redirectsToLogin page then .error .httpAuth else .ok page := by
  have hstatus : ¬ 400 ≤ 200 := by decide
  rw [gotPage, validateResponse, if_neg hstatus, Bool.true_and]
  split_ifs <;> rfl

theorem bind_gotPage_eq_ok_iff {β : Type} {page : Text} {f : Text → Except LibError β} {b : β} :
    (gotPage page >>= f) = .ok b ↔ redirectsToLogin page = false ∧ f page = .ok b := by
  rw [gotPage_eq]
  by_cases hlogin : redirectsToLogin page = true
  · rw [if_pos hlogin, hlogin]
    exact ⟨by rintro ⟨⟩, by rintro ⟨⟨⟩, -⟩⟩
  · rw [if_neg hlogin]
    exact ⟨fun h => ⟨Bool.eq_false_iff.mpr hlogin, h⟩, fun h => h.2⟩

/-- The text of a status; `message` is what it says of a body that is refused. -/
def wcdAnswer (message : VirtualSwitchState → Text → Text) (s : VirtualSwitchState) (body : Text) :
    Except LibError Text :=
  match (s.applyXml body).2 with
  | .status 0 => .ok (statusResponse 0 [])
  | .status code => .ok (statusResponse code (message s body))
  | .raised => .error .http

/-- The web face of the switch in a session that is logged in. -/
def wcdFace (pages : WcdPages) (message : VirtualSwitchState → Text → Text) :
    Machine VirtualSwitchState Call (Except LibError Text) := fun s c =>
  match c with
  | .getPage path => (s, orRaise .http (s.renderWcd pages path) >>= gotPage)
  | .postXml path body =>
    if path = "wcd".toList then ((s.applyXml body).1, wcdAnswer message s body)
    else (s, .error .http)
  | _ => (s, .error .http)

/-! ## §3 Round trips -/

/-- The description of a port on the ports page the client gets. -/
def gotDescription (s : VirtualSwitchState) (p : ℤ) : Except LibError (Option Text) :=
  gotPage s.renderWcdPorts >>= described p

/-- The names on the VLAN page the client gets. -/
def gotNames (s : VirtualSwitchState) : Except LibError (PyDict ℤ (Option Text)) :=
  gotPage s.renderWcdVlans >>= parseGoaheadVlanNames

/-- A description comes back from the ports page as it was sent. -/
def DescriptionRoundTrips (s : VirtualSwitchState) (p : ℤ) (d : Text) : Prop :=
  (s.applyXml (portConfigBody (portInterfaceName p) p none (some d))).1.gotDescription p =
    .ok (orNone d)

/-- A VLAN name is taken and comes back from the VLAN page as it was sent. -/
def NameRoundTrips (s : VirtualSwitchState) (v : ℤ) (name : Text) : Prop :=
  (s.applyXml (vlanCreateBody v name)).2 = .status 0 ∧ ∃ names,
    (s.applyXml (vlanCreateBody v name)).1.gotNames = .ok names ∧
    names.get? v = some (orNone name)

/-- No other description on the page sends to the login page. -/
def OtherDescriptionsShown (s : VirtualSwitchState) (p : ℤ) : Prop :=
  ∀ q ∈ s.wcdPhysicalPorts, ¬ (q = p ∧ 0 ≤ p) → redirectsToLogin (s.portDescription q) = false

/-- No other name on the page sends to the login page. -/
def OtherNamesShown (s : VirtualSwitchState) (v : ℤ) : Prop :=
  ∀ u vlan, u ≠ v → s.vlans.get? u = some vlan → redirectsToLogin vlan.name = false

/-- The page has room for a description: a row of the port, or at least rows where there is
nothing to describe. -/
def HasRoom (s : VirtualSwitchState) (p : ℤ) (d : Text) : Prop :=
  (∃ q, s.ShowsPort q) ∧ (s.ShowsPort p ∨ d = [])

theorem mem_wcdPhysicalPorts_describePort (d : Text) (q : ℤ) :
    q ∈ (s.describePort p d).wcdPhysicalPorts ↔ q ∈ s.wcdPhysicalPorts := by
  unfold describePort
  split_ifs
  · rw [mem_wcdPhysicalPorts, mem_wcdPhysicalPorts, PyDict.mem_modify]
  · rfl

theorem showsPort_describePort (d : Text) (q : ℤ) :
    (s.describePort p d).ShowsPort q ↔ s.ShowsPort q :=
  and_congr_left' (mem_wcdPhysicalPorts_describePort d q)

/-- The ports of the page are those of the model, and have few digits. -/
theorem printable_of_mem_wcdPhysicalPorts (hp : p ∈ s.wcdPhysicalPorts) (hpos : 0 ≤ p) :
    Printable p := by
  have hall : ∀ key : ModelKey, (getModel key).portCount < 256 := by
    intro key
    cases key <;> decide
  have hcount : s.model.portCount < 256 := hall s.modelKey
  have hle := (mem_wcdPhysicalPorts.mp hp).2
  exact printable_of_lt (k := 20) (by decide) (by decide) (by omega)

theorem portDescription_describePort {q : ℤ} (hq : q ∈ s.wcdPhysicalPorts) (d : Text) :
    (s.describePort p d).portDescription q =
      if q = p ∧ 0 ≤ p then carry d else s.portDescription q := by
  unfold describePort
  split_ifs with hp hqp hqp
  · obtain ⟨rfl, -⟩ := hqp
    obtain ⟨sim, hsim⟩ := mem_ports_of_mem_wcdPhysicalPorts hq
    rw [portDescription, PyDict.get?_modify, if_pos rfl, hsim]
    exact getD_orNone (carry d)
  · rw [portDescription, PyDict.get?_modify, if_neg fun h => hqp ⟨h, hp.1⟩]
    rfl
  · obtain ⟨rfl, hpos⟩ := hqp
    exact absurd ⟨hpos, printable_of_mem_wcdPhysicalPorts hq hpos⟩ hp
  · rfl

/-- What the page shows of a description after its write. -/
theorem shown_describePort {d : Text} (hd : Legal d) :
    (if (s.describePort p d).ShowsPort p then
        orNone (carry ((s.describePort p d).portDescription p)) else none) =
      if s.ShowsPort p then orNone (carry d) else none := by
  by_cases hp : s.ShowsPort p
  · rw [if_pos hp, if_pos ((showsPort_describePort d p).mpr hp),
      portDescription_describePort hp.1, if_pos ⟨rfl, hp.2⟩, carry_carry hd]
  · rw [if_neg hp, if_neg fun h => hp ((showsPort_describePort d p).mp h)]

/-- The ports page after a description write. -/
theorem redirectsToLogin_describePort (h : s.WcdTidy) {d : Text} (hd : Legal d) :
    redirectsToLogin (s.describePort p d).renderWcdPorts = false ↔
      s.OtherDescriptionsShown p ∧ (s.ShowsPort p → redirectsToLogin (carry d) = false) := by
  rw [Bool.eq_false_iff, Ne, redirectsToLogin_renderWcdPorts (h.describePort hd)]
  constructor
  · intro hno
    have hshown : ∀ q ∈ s.wcdPhysicalPorts,
        redirectsToLogin ((s.describePort p d).portDescription q) = false := fun q hq =>
      Bool.eq_false_iff.mpr fun hlogin =>
        hno ⟨q, (mem_wcdPhysicalPorts_describePort d q).mpr hq, hlogin⟩
    refine ⟨fun q hq hne => ?_, fun hp => ?_⟩
    · have hq' := hshown q hq
      rwa [portDescription_describePort hq, if_neg hne] at hq'
    · have hp' := hshown p hp.1
      rwa [portDescription_describePort hp.1, if_pos ⟨rfl, hp.2⟩] at hp'
  · rintro ⟨hothers, hown⟩ ⟨q, hq, hlogin⟩
    have hq' : q ∈ s.wcdPhysicalPorts := (mem_wcdPhysicalPorts_describePort d q).mp hq
    rw [portDescription_describePort hq'] at hlogin
    split_ifs at hlogin with hqp
    · obtain ⟨rfl, hpos⟩ := hqp
      rw [hown ⟨hq', hpos⟩] at hlogin
      cases hlogin
    · rw [hothers q hq' hqp] at hlogin
      cases hlogin

/-- What the client makes of the ports page. -/
theorem gotDescription_eq_ok_iff (h : s.WcdTidy) {o : Option Text} : s.gotDescription p = .ok o ↔
    redirectsToLogin s.renderWcdPorts = false ∧ (∃ q, s.ShowsPort q) ∧
      (if s.ShowsPort p then orNone (carry (s.portDescription p)) else none) = o := by
  rw [gotDescription, bind_gotPage_eq_ok_iff]
  refine and_congr_right fun _ => ?_
  by_cases hshows : ∃ q, s.ShowsPort q
  · rw [described_renderWcdPorts h hshows, Except.ok.injEq]
    exact ⟨fun heq => ⟨hshows, heq⟩, fun hshown => hshown.2⟩
  · rw [described_renderWcdPorts_error h (not_exists.mp hshows)]
    constructor
    · rintro ⟨⟩
    · exact fun hshown => absurd hshown.1 hshows

/-- What the page shows of a legal description is the description exactly where it is carried and
has room. -/
theorem shown_eq_iff (hshows : ∃ q, s.ShowsPort q) {d : Text} (hd : Legal d) :
    (if s.ShowsPort p then orNone (carry d) else none) = orNone d ↔ Carried d ∧ s.HasRoom p d := by
  split_ifs with hp
  · rw [orNone_injective.eq_iff, carry_eq_self_iff hd]
    exact ⟨fun h => ⟨h, hshows, Or.inl hp⟩, fun h => h.1⟩
  · have hnone : none = orNone d ↔ d = [] := by
      rw [← orNone_injective.eq_iff]
      exact eq_comm
    rw [hnone]
    constructor
    · rintro rfl
      exact ⟨carried_nil, hshows, Or.inr rfl⟩
    · rintro ⟨-, -, hport | rfl⟩
      · exact absurd hport hp
      · rfl

theorem descriptionRoundTrips_iff (h : s.WcdTidy) (p : ℤ) (d : Text) :
    s.DescriptionRoundTrips p d ↔
      Carried d ∧ redirectsToLogin d = false ∧ s.HasRoom p d ∧ s.OtherDescriptionsShown p := by
  obtain ⟨happlied, hrefused⟩ := s.applyXml_portConfigBody p d
  unfold DescriptionRoundTrips
  by_cases hd : Legal d
  · have hshows : (∃ q, (s.describePort p d).ShowsPort q) ↔ ∃ q, s.ShowsPort q :=
      exists_congr (showsPort_describePort d)
    rw [happlied hd, gotDescription_eq_ok_iff (h.describePort hd), shown_describePort hd,
      redirectsToLogin_describePort h hd, hshows]
    constructor
    · rintro ⟨⟨hothers, hown⟩, hshows, heq⟩
      obtain ⟨hcarried, hroom⟩ := (shown_eq_iff hshows hd).mp heq
      refine ⟨hcarried, ?_, hroom, hothers⟩
      rcases hroom.2 with hp | rfl
      · have hcarry := hown hp
        rwa [(carry_eq_self_iff hd).mpr hcarried] at hcarry
      · rfl
    · rintro ⟨hcarried, hlogin, hroom, hothers⟩
      have hcarry : redirectsToLogin (carry d) = false := by
        rwa [(carry_eq_self_iff hd).mpr hcarried]
      exact ⟨⟨hothers, fun _ => hcarry⟩, hroom.1, (shown_eq_iff hroom.1 hd).mpr ⟨hcarried, hroom⟩⟩
  · -- the body is refused, and what the page shows is legal
    rw [hrefused hd, gotDescription_eq_ok_iff h]
    refine ⟨?_, fun hcarried => absurd hcarried.1.1 hd⟩
    rintro ⟨-, -, heq⟩
    refine absurd ?_ hd
    split_ifs at heq with hp
    · obtain ⟨sim, hsim⟩ := mem_ports_of_mem_wcdPhysicalPorts hp.1
      have hlegal : Legal (s.portDescription p) := by
        rw [portDescription, hsim]
        exact h.descriptions p sim hsim
      rw [← orNone_injective heq]
      exact (carried_carry hlegal).1
    · have hnil : orNone [] = orNone d := heq
      rw [← orNone_injective hnil]
      exact List.forall_mem_nil _

/-- The name of a VLAN on the page. -/
theorem get?_names (h : s.WcdTidy) {names : PyDict ℤ (Option Text)}
    (hnames : parseGoaheadVlanNames s.renderWcdVlans = .ok names) (v : ℤ) :
    names.get? v = (s.vlans.get? v).map fun vlan => orNone (carry vlan.name) := by
  rw [parseGoaheadVlanNames_renderWcdVlans h] at hnames
  split_ifs at hnames
  cases hnames
  exact PyDict.get?_ofList_sortedItems s.vlans (fun vlan => orNone (carry vlan.name)) v

theorem get?_nameVlan (v : ℤ) (name : Text) :
    ∃ vlan, (s.nameVlan v name).vlans.get? v = some vlan ∧ vlan.name = carry name := by
  unfold nameVlan
  dsimp only
  split_ifs with hv
  · obtain ⟨vlan, hvlan⟩ := PyDict.mem_iff.mp hv
    rw [PyDict.get?_modify, if_pos rfl, hvlan]
    exact ⟨_, rfl, rfl⟩
  · rw [PyDict.get?_set, if_pos rfl]
    exact ⟨_, rfl, rfl⟩

theorem get?_nameVlan_of_ne {u v : ℤ} (hu : u ≠ v) (name : Text) :
    (s.nameVlan v name).vlans.get? u = s.vlans.get? u := by
  unfold nameVlan
  dsimp only
  split_ifs
  · rw [PyDict.get?_modify, if_neg hu]
  · rw [PyDict.get?_set, if_neg hu]

/-- The VLAN page after a name write. -/
theorem redirectsToLogin_nameVlan (v : ℤ) (name : Text) :
    redirectsToLogin (s.nameVlan v name).renderWcdVlans = false ↔
      s.OtherNamesShown v ∧ redirectsToLogin (carry name) = false := by
  obtain ⟨named, hnamed, hname⟩ := @get?_nameVlan s v name
  rw [Bool.eq_false_iff, Ne, redirectsToLogin_renderWcdVlans]
  constructor
  · intro hno
    refine ⟨fun u vlan hu hvlan => ?_, ?_⟩
    · exact Bool.eq_false_iff.mpr fun hlogin =>
        hno ⟨u, vlan, by rw [get?_nameVlan_of_ne hu]; exact hvlan, hlogin⟩
    · exact Bool.eq_false_iff.mpr fun hlogin => hno ⟨v, named, hnamed, by rw [hname]; exact hlogin⟩
  · rintro ⟨hothers, hown⟩ ⟨u, vlan, hvlan, hlogin⟩
    by_cases hu : u = v
    · rw [hu, hnamed] at hvlan
      rw [← Option.some.inj hvlan, hname, hown] at hlogin
      cases hlogin
    · rw [get?_nameVlan_of_ne hu] at hvlan
      rw [hothers u vlan hu hvlan] at hlogin
      cases hlogin

theorem nameRoundTrips_iff (h : s.WcdTidy) (v : ℕ) (name : Text) :
    s.NameRoundTrips v name ↔
      Printable v ∧ Carried name ∧ redirectsToLogin name = false ∧ s.OtherNamesShown v := by
  obtain ⟨happlied, hrefused⟩ := s.applyXml_vlanCreateBody v name
  unfold NameRoundTrips gotNames
  simp only [bind_gotPage_eq_ok_iff]
  by_cases hname : Legal name
  · rw [happlied hname]
    by_cases hprint : Printable v
    · rw [if_pos hprint]
      have htidy : (s.nameVlan v name).WcdTidy := h.nameVlan hname
      obtain ⟨vlan, hvlan, hcarried⟩ := @get?_nameVlan s v name
      have hread : ∀ names, parseGoaheadVlanNames (s.nameVlan v name).renderWcdVlans = .ok names →
          names.get? v = some (orNone (carry name)) := by
        intro names hnames
        rw [get?_names htidy hnames, hvlan, Option.map_some, hcarried,
          carry_carry hname]
      rw [redirectsToLogin_nameVlan]
      constructor
      · rintro ⟨-, names, ⟨⟨hothers, hlogin⟩, hnames⟩, hget⟩
        rw [hread names hnames, Option.some.injEq, orNone_injective.eq_iff] at hget
        rw [hget] at hlogin
        exact ⟨hprint, (carry_eq_self_iff hname).mp hget, hlogin, hothers⟩
      · rintro ⟨-, hcarriedName, hlogin, hothers⟩
        have heq : carry name = name := (carry_eq_self_iff hname).mpr hcarriedName
        have hne : (s.nameVlan v name).vlans.sortedItems ≠ [] :=
          List.ne_nil_of_mem (PyDict.mem_sortedItems.mpr hvlan)
        have hpage := parseGoaheadVlanNames_renderWcdVlans htidy
        rw [if_neg hne] at hpage
        refine ⟨rfl, _, ⟨⟨hothers, by rw [heq]; exact hlogin⟩, hpage⟩, ?_⟩
        rw [hread _ hpage, heq]
    · rw [if_neg hprint]
      refine ⟨?_, fun hcarried => absurd hcarried.1 hprint⟩
      rintro ⟨⟨⟩, -⟩
  · rw [hrefused hname]
    refine ⟨?_, fun hcarried => absurd hcarried.2.1.1 hname⟩
    rintro ⟨⟨⟩, -⟩

/-! ## §4 The writer -/

end VirtualSwitchState

/-- A run in which the switch has accepted a body. -/
def Accepted {δ α : Type} (o : Script.Outcome δ Call (Except LibError Text) LibError α) : Prop :=
  ∃ path body answer, (Call.postXml path body, Except.ok answer) ∈ o.sent ∧
    checkGoaheadStatus answer = .ok ()

section Writer

variable {pages : VirtualSwitchState.WcdPages} {message : VirtualSwitchState → Text → Text}
variable {w : GoAheadWriter} {s : VirtualSwitchState} {p : ℤ} {d : Text}

/-- The dashboard path of the model. -/
private def portsPath : Text :=
  "wcd?\x7bfile=/Switching/Ports/portConfiguration_master_jq.htm\x7d".toList ++
    "\x7bStandard802_3List\x7d".toList

theorem renderWcd_portsPath (s : VirtualSwitchState) :
    s.renderWcd pages portsPath = some s.renderWcdPorts := by
  have hsystem : PyRe.occurs "SystemInfo_master".toList portsPath = false := by decide
  have hmgmt : PyRe.occurs "IPConf_master".toList portsPath = false := by decide
  have hports : PyRe.occurs "portConfiguration_master".toList portsPath = true := by decide
  simp only [VirtualSwitchState.renderWcd, VirtualSwitchState.wcdRoutes, List.find?_cons, hsystem,
    hmgmt, hports, Option.map_some]

theorem goahead_paths (h : httpSpec .gs728tpp = some w.spec) :
    w.spec.xmlWritePath = some "wcd".toList ∧ w.spec.dashboardPath = some portsPath := by
  constructor
  · exact (Option.some.inj (congrArg (Option.map HttpModelSpec.xmlWritePath) h)).symm
  · exact (Option.some.inj (congrArg (Option.map HttpModelSpec.dashboardPath) h)).symm

theorem wcdFace_getPage (s : VirtualSwitchState) :
    VirtualSwitchState.wcdFace pages message s (.getPage portsPath) =
      (s, VirtualSwitchState.gotPage s.renderWcdPorts) := by
  have hface : VirtualSwitchState.wcdFace pages message s (.getPage portsPath) =
      (s, orRaise .http (s.renderWcd pages portsPath) >>= VirtualSwitchState.gotPage) := rfl
  have hpage : orRaise LibError.http (s.renderWcd pages portsPath) = .ok s.renderWcdPorts := by
    rw [renderWcd_portsPath, orRaise_some]
  have hbind : ∀ f : Text → Except LibError Text, (.ok s.renderWcdPorts >>= f) =
      f s.renderWcdPorts := fun _ => rfl
  rw [hface, hpage, hbind]

theorem wcdFace_postXml {body : Text} {s' : VirtualSwitchState} {code : ℕ}
    (h : s.applyXml body = (s', .status code)) :
    ∃ text, VirtualSwitchState.wcdFace pages message s (.postXml "wcd".toList body) =
      (s', .ok (statusResponse code text)) := by
  have hface : VirtualSwitchState.wcdFace pages message s (.postXml "wcd".toList body) =
      ((s.applyXml body).1, VirtualSwitchState.wcdAnswer message s body) := rfl
  rw [hface, VirtualSwitchState.wcdAnswer, h]
  cases code with
  | zero => exact ⟨[], rfl⟩
  | succ code => exact ⟨_, rfl⟩

/-- A write body, applied with a status. -/
theorem run_goaheadWrite (h : httpSpec .gs728tpp = some w.spec) {body : Text}
    {s' : VirtualSwitchState} {code : ℕ} (happly : s.applyXml body = (s', .status code)) :
    ∃ text, (w.goaheadWrite body).run (VirtualSwitchState.wcdFace pages message) s =
      ⟨if code = 0 then .ok () else .error .http, s',
        [(.postXml "wcd".toList body, .ok (statusResponse code text))]⟩ := by
  obtain ⟨text, hpost⟩ := @wcdFace_postXml pages message s body s' code happly
  refine ⟨text, ?_⟩
  rw [GoAheadWriter.goaheadWrite, (goahead_paths h).1]
  show ((sessionCall _) >>= _).run _ s = _
  rw [run_bind_ok (by rw [run_sessionCall, hpost]), run_sessionCall, hpost,
    checkGoaheadStatus_statusResponse]
  rfl

/-- A legal description is written and read back. -/
theorem run_writePortDescription (h : httpSpec .gs728tpp = some w.spec) (htidy : s.WcdTidy)
    (hshows : ∃ q, s.ShowsPort q) (hprint : 0 ≤ p → Printable p) (hd : Legal d) :
    ((w.writePortDescription portsPath p d).run
        (VirtualSwitchState.wcdFace pages message) s).result =
          (if redirectsToLogin (s.describePort p d).renderWcdPorts then .error .httpAuth
            else if (if s.ShowsPort p then orNone (carry d) else none) = orNone d then .ok ()
            else .error .writeVerification) ∧
      Accepted ((w.writePortDescription portsPath p d).run
        (VirtualSwitchState.wcdFace pages message) s) := by
  have happly := (s.applyXml_portConfigBody p d).1 hd
  rw [if_pos hprint] at happly
  obtain ⟨text, hwrite⟩ := @run_goaheadWrite pages message w s h _ _ 0 happly
  have hpage : (sessionCall (.getPage portsPath)).run (VirtualSwitchState.wcdFace pages message)
      (s.describePort p d) = ⟨VirtualSwitchState.gotPage (s.describePort p d).renderWcdPorts,
        s.describePort p d,
        [(.getPage portsPath, VirtualSwitchState.gotPage (s.describePort p d).renderWcdPorts)]⟩ := by
    rw [run_sessionCall, wcdFace_getPage]
  rw [VirtualSwitchState.gotPage_eq] at hpage
  have hshows' : ∃ q, (s.describePort p d).ShowsPort q :=
    (exists_congr (VirtualSwitchState.showsPort_describePort d)).mpr hshows
  have hdescribed := VirtualSwitchState.described_renderWcdPorts (htidy.describePort hd (p := p))
    hshows' p
  rw [VirtualSwitchState.shown_describePort hd] at hdescribed
  rw [GoAheadWriter.writePortDescription, run_bind_ok (by rw [hwrite]; rfl), hwrite]
  refine ⟨?_, ?_⟩
  · by_cases hlogin : redirectsToLogin (s.describePort p d).renderWcdPorts = true
    · rw [if_pos hlogin] at hpage ⊢
      rw [run_bind_error (by rw [hpage])]
    · rw [if_neg hlogin] at hpage ⊢
      rw [run_bind_ok (by rw [hpage]), hpage, hdescribed]
      rfl
  · refine ⟨_, _, _, List.mem_append_left _ (List.mem_singleton_self _), ?_⟩
    rw [checkGoaheadStatus_statusResponse, if_pos rfl]

/-- A write body whose handler raises is not answered. -/
theorem run_goaheadWrite_raised (h : httpSpec .gs728tpp = some w.spec) {body : Text}
    {s' : VirtualSwitchState} (happly : s.applyXml body = (s', .raised)) :
    (w.goaheadWrite body).run (VirtualSwitchState.wcdFace pages message) s =
      ⟨.error .http, s', [(.postXml "wcd".toList body, .error .http)]⟩ := by
  have hface : VirtualSwitchState.wcdFace pages message s (.postXml "wcd".toList body) =
      ((s.applyXml body).1, VirtualSwitchState.wcdAnswer message s body) := rfl
  rw [VirtualSwitchState.wcdAnswer, happly] at hface
  rw [GoAheadWriter.goaheadWrite, (goahead_paths h).1]
  show ((sessionCall _) >>= _).run _ s = _
  rw [run_bind_error (by rw [run_sessionCall, hface]), run_sessionCall, hface]

/-- A description that no document may have is refused by the switch, and a number that is too long
is not answered. -/
theorem not_accepted_writePortDescription (h : httpSpec .gs728tpp = some w.spec)
    (hd : ¬ (Legal d ∧ (0 ≤ p → Printable p))) :
    ¬ Accepted ((w.writePortDescription portsPath p d).run
      (VirtualSwitchState.wcdFace pages message) s) := by
  obtain ⟨happlied, hrefused⟩ := s.applyXml_portConfigBody p d
  rintro ⟨path, body, answer, hmem, hcheck⟩
  by_cases hlegal : Legal d
  · have happly := happlied hlegal
    rw [if_neg fun hprint => hd ⟨hlegal, hprint⟩] at happly
    have hwrite := @run_goaheadWrite_raised pages message w s h _ _ happly
    rw [GoAheadWriter.writePortDescription, run_bind_error (by rw [hwrite]), hwrite,
      List.mem_singleton] at hmem
    cases hmem
  · obtain ⟨text, hwrite⟩ := @run_goaheadWrite pages message w s h _ _ 1 (hrefused hlegal)
    rw [if_neg one_ne_zero] at hwrite
    rw [GoAheadWriter.writePortDescription, run_bind_error (by rw [hwrite]), hwrite,
      List.mem_singleton] at hmem
    cases hmem
    rw [checkGoaheadStatus_statusResponse, if_neg one_ne_zero] at hcheck
    cases hcheck

/-- What the writer does up to the write. -/
theorem run_setPortDescription (h : httpSpec .gs728tpp = some w.spec) (htidy : s.WcdTidy)
    (hlogin : redirectsToLogin s.renderWcdPorts = false) (hshows : ∃ q, s.ShowsPort q)
    {force : Bool} (hguard : ¬ (p ∈ w.protectedPorts ∧ ¬ force)) :
    ∃ o, o = (w.writePortDescription portsPath p d).run
        (VirtualSwitchState.wcdFace pages message) s ∧
      (w.setPortDescription p d force).run (VirtualSwitchState.wcdFace pages message) s =
        { o with sent := (.getPage portsPath, .ok s.renderWcdPorts) :: o.sent } := by
  refine ⟨_, rfl, ?_⟩
  have hgot : VirtualSwitchState.gotPage s.renderWcdPorts = .ok s.renderWcdPorts := by
    rw [VirtualSwitchState.gotPage_eq, if_neg (Bool.eq_false_iff.mp hlogin)]
  rw [GoAheadWriter.setPortDescription, GoAheadWriter.guard, ensure_of_pos hguard,
    (goahead_paths h).2]
  show (sessionCall (.getPage portsPath) >>= fun page => done (described p page) >>= fun _ =>
    w.writePortDescription portsPath p d).run (VirtualSwitchState.wcdFace pages message) s = _
  rw [run_bind_ok (by rw [run_sessionCall, wcdFace_getPage, hgot]), run_sessionCall,
    wcdFace_getPage, hgot]
  dsimp only
  rw [VirtualSwitchState.described_renderWcdPorts htidy hshows]
  rfl

/-- A writer that cannot read the page first writes nothing. -/
theorem not_accepted_setPortDescription (h : httpSpec .gs728tpp = some w.spec) {force : Bool}
    {e : LibError} (hread : s.gotDescription p = .error e) :
    ¬ Accepted ((w.setPortDescription p d force).run
      (VirtualSwitchState.wcdFace pages message) s) := by
  rintro ⟨path, body, answer, hmem, -⟩
  by_cases hguard : p ∈ w.protectedPorts ∧ ¬ force
  · rw [GoAheadWriter.setPortDescription, GoAheadWriter.guard,
      ensure_of_neg (not_not.mpr hguard)] at hmem
    cases hmem
  · rw [GoAheadWriter.setPortDescription, GoAheadWriter.guard, ensure_of_pos hguard,
      (goahead_paths h).2] at hmem
    change (Call.postXml path body, Except.ok answer) ∈ ((sessionCall (.getPage portsPath) >>=
      fun page => done (described p page) >>= fun _ => w.writePortDescription portsPath p d).run
        (VirtualSwitchState.wcdFace pages message) s).sent at hmem
    rw [VirtualSwitchState.gotDescription] at hread
    cases hgot : VirtualSwitchState.gotPage s.renderWcdPorts with
    | error e' =>
      rw [run_bind_error (by rw [run_sessionCall, wcdFace_getPage, hgot]), run_sessionCall] at hmem
      cases List.mem_singleton.mp hmem
    | ok page =>
      rw [hgot] at hread
      change described p page = .error e at hread
      rw [run_bind_ok (by rw [run_sessionCall, wcdFace_getPage, hgot]), run_sessionCall] at hmem
      dsimp only at hmem
      rw [hread] at hmem
      cases List.mem_singleton.mp hmem

/-- What the switch accepts: a legal description of a port whose number is read, once the writer has
come to the write. -/
theorem accepted_setPortDescription_iff (h : httpSpec .gs728tpp = some w.spec) (htidy : s.WcdTidy)
    {force : Bool} : Accepted ((w.setPortDescription p d force).run
      (VirtualSwitchState.wcdFace pages message) s) ↔
        ¬ (p ∈ w.protectedPorts ∧ ¬ force) ∧ redirectsToLogin s.renderWcdPorts = false ∧
          (∃ q, s.ShowsPort q) ∧ Legal d ∧ (0 ≤ p → Printable p) := by
  constructor
  · intro haccepted
    have hguard : ¬ (p ∈ w.protectedPorts ∧ ¬ force) := by
      intro hguard
      rw [GoAheadWriter.setPortDescription, GoAheadWriter.guard,
        ensure_of_neg (not_not.mpr hguard)] at haccepted
      obtain ⟨path, body, answer, hmem, -⟩ := haccepted
      cases hmem
    obtain ⟨o, hread⟩ : ∃ o, s.gotDescription p = .ok o := by
      cases hread : s.gotDescription p with
      | error e => exact absurd haccepted (not_accepted_setPortDescription h hread)
      | ok o => exact ⟨o, rfl⟩
    obtain ⟨hlogin, hshows, -⟩ := (VirtualSwitchState.gotDescription_eq_ok_iff htidy).mp hread
    refine ⟨hguard, hlogin, hshows, ?_⟩
    by_contra hd
    obtain ⟨o, ho, hrun⟩ := @run_setPortDescription pages message w s p d h htidy hlogin hshows
      force hguard
    rw [hrun] at haccepted
    have hno : ¬ Accepted ((w.writePortDescription portsPath p d).run
        (VirtualSwitchState.wcdFace pages message) s) := not_accepted_writePortDescription h hd
    rw [← ho] at hno
    obtain ⟨path, body, answer, hmem, hcheck⟩ := haccepted
    -- nothing but the write itself is a write
    rcases List.mem_cons.mp hmem with hget | hmem
    · cases hget
    · exact hno ⟨path, body, answer, hmem, hcheck⟩
  · rintro ⟨hguard, hlogin, hshows, hd, hprint⟩
    obtain ⟨o, ho, hrun⟩ := @run_setPortDescription pages message w s p d h htidy hlogin hshows
      force hguard
    obtain ⟨-, haccepted⟩ := @run_writePortDescription pages message w s p d h htidy hshows hprint hd
    rw [← ho] at haccepted
    rw [hrun]
    obtain ⟨path, body, answer, hmem, hcheck⟩ := haccepted
    exact ⟨path, body, answer, List.mem_cons_of_mem _ hmem, hcheck⟩

/-- What the writer of an accepted description comes to. -/
theorem result_setPortDescription (h : httpSpec .gs728tpp = some w.spec) (htidy : s.WcdTidy)
    {force : Bool} (haccepted : Accepted ((w.setPortDescription p d force).run
      (VirtualSwitchState.wcdFace pages message) s)) :
    ((w.setPortDescription p d force).run (VirtualSwitchState.wcdFace pages message) s).result =
      if redirectsToLogin (s.describePort p d).renderWcdPorts then .error .httpAuth
      else if (if s.ShowsPort p then orNone (carry d) else none) = orNone d then .ok ()
      else .error .writeVerification := by
  obtain ⟨hguard, hlogin, hshows, hd, hprint⟩ :=
    (accepted_setPortDescription_iff h htidy).mp haccepted
  obtain ⟨o, ho, hrun⟩ := @run_setPortDescription pages message w s p d h htidy hlogin hshows
    force hguard
  rw [hrun, ho]
  exact (run_writePortDescription h htidy hshows hprint hd).1

theorem returns_setPortDescription_iff (h : httpSpec .gs728tpp = some w.spec) (htidy : s.WcdTidy)
    {force : Bool} (haccepted : Accepted ((w.setPortDescription p d force).run
      (VirtualSwitchState.wcdFace pages message) s)) :
    ((w.setPortDescription p d force).run (VirtualSwitchState.wcdFace pages message) s).result =
      .ok () ↔ Carried d ∧ redirectsToLogin d = false ∧ s.HasRoom p d := by
  obtain ⟨-, hlogin, hshows, hd, -⟩ := (accepted_setPortDescription_iff h htidy).mp haccepted
  -- the page the writer has read first shows the other descriptions
  have hothers : s.OtherDescriptionsShown p := fun q hq _ => Bool.eq_false_iff.mpr fun hq' =>
    Bool.eq_false_iff.mp hlogin
      ((VirtualSwitchState.redirectsToLogin_renderWcdPorts htidy).mpr ⟨q, hq, hq'⟩)
  have hround : redirectsToLogin (s.describePort p d).renderWcdPorts = false ∧
      (if s.ShowsPort p then orNone (carry d) else none) = orNone d ↔
        Carried d ∧ redirectsToLogin d = false ∧ s.HasRoom p d := by
    have hiff := VirtualSwitchState.descriptionRoundTrips_iff htidy p d
    rw [VirtualSwitchState.DescriptionRoundTrips, (s.applyXml_portConfigBody p d).1 hd,
      VirtualSwitchState.gotDescription_eq_ok_iff (htidy.describePort hd),
      VirtualSwitchState.shown_describePort hd,
      exists_congr (VirtualSwitchState.showsPort_describePort d)] at hiff
    constructor
    · rintro ⟨hshown, heq⟩
      obtain ⟨hcarried, hquiet, hroom, -⟩ := hiff.mp ⟨hshown, hshows, heq⟩
      exact ⟨hcarried, hquiet, hroom⟩
    · rintro ⟨hcarried, hquiet, hroom⟩
      obtain ⟨hshown, -, heq⟩ := hiff.mpr ⟨hcarried, hquiet, hroom, hothers⟩
      exact ⟨hshown, heq⟩
  rw [result_setPortDescription h htidy haccepted, ← hround]
  constructor
  · intro hok
    by_cases hredirects : redirectsToLogin (s.describePort p d).renderWcdPorts = true
    · rw [if_pos hredirects] at hok
      cases hok
    · rw [if_neg hredirects] at hok
      refine ⟨Bool.eq_false_iff.mpr hredirects, ?_⟩
      by_contra hne
      rw [if_neg hne] at hok
      cases hok
  · rintro ⟨hshown, heq⟩
    rw [if_neg (Bool.eq_false_iff.mp hshown), if_pos heq]

/-- A switch with one port. -/
def wcdLab : VirtualSwitchState where
  modelKey := .gs728tpp
  ports := .ofList [(1, { name := "g1".toList, admin := true, link := false, speed := 0 })]
  vlans := .ofList [(1, { name := "default".toList })]

theorem isXmlApiDialect_gs728tpp :
    ((httpSpec .gs728tpp).get isSome_httpSpec_gs728tpp).isXmlApiDialect = true :=
  rfl

def wcdLabWriter : GoAheadWriter where
  spec := (httpSpec .gs728tpp).get isSome_httpSpec_gs728tpp
  isXmlApi := isXmlApiDialect_gs728tpp

def wcdLabPages : VirtualSwitchState.WcdPages := ⟨fun _ => [], fun _ => [], fun _ => [], fun _ => []⟩

theorem wcdTidy_wcdLab : wcdLab.WcdTidy := by
  have hports : ∀ p sim, wcdLab.ports.get? p = some sim →
      sim = { name := "g1".toList, admin := true, link := false, speed := 0 } := by
    intro p sim h
    have hmem := PyDict.mem_items_of_get? h
    exact (Prod.mk.inj (List.mem_singleton.mp hmem)).2
  refine ⟨fun p sim h => ?_, fun p sim h => ?_, fun v vlan h => ?_⟩
  · rw [hports p sim h]
    exact ⟨plain_of_mem (by decide), plain_of_mem (by decide), plain_of_mem (by decide)⟩
  · rw [hports p sim h]
    exact List.forall_mem_nil _
  · have hmem := PyDict.mem_items_of_get? h
    obtain ⟨-, rfl⟩ := Prod.mk.inj (List.mem_singleton.mp hmem)
    exact (by decide : ∀ c ∈ "default".toList, Xml.isXmlChar c = true)

end Writer

end NetgearSwitch.Virtual
