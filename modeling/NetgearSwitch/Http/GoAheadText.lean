import NetgearSwitch.Http.PoeRearm

/-!
# Texts over the GoAhead UI

The readers of the ports page and of the VLAN page, the bodies that carry a port description or
a VLAN name, and `HttpWriter.set_port_description`.

What a text comes back as is stripped and has its line ends normalised, so a text comes back as
it went exactly where it is carried: legal characters, no carriage return, no blank at an end.

§1 reading · §2 writing · §3 texts that are carried · §4 declarations and status codes
-/

namespace NetgearSwitch.Http

open PyText Script

/-! ## §1 Reading -/

/-- `text or None`. -/
def orNone (t : Text) : Option Text := if t = [] then none else some t

/-- `_goahead_speed_config`. -/
def goaheadSpeedConfig (entry : Xml) : Option PortSpeed :=
  let autoneg := gtext entry "autoNegotiationAdminEnabled"
  let duplex := gtext entry "duplexAdminMode"
  if autoneg = ['1'] then some .auto
  else if autoneg ≠ ['2'] then none
  else (searchInt (gtext entry "speedAdmin")).bind fun rate =>
    if duplex = ['2'] ∨ duplex = ['3'] then some (.forced rate (duplex = ['3'])) else none

/-- `_GOAHEAD_DUPLEX_OPER`. -/
def goaheadDuplexOper (code : Text) : Option Bool := if code = ['2'] then some true else none

/-- `_GOAHEAD_FLOW_CONTROL`. -/
def goaheadFlowControl (code : Text) : Option Bool :=
  if code = ['1'] then some true else if code = ['2'] then some false else none

/-- The status in one `Entry`, if it is a physical port. -/
def goaheadPortEntry (e : Xml) : Option PortStatus :=
  (goaheadPortNum (gtext e "interfaceName")).map fun port =>
    let linkUp : Bool := gtext e "linkState" = ['1']
    { port := port
      name := orNone (gtext e "interfaceName")
      adminEnabled := gtext e "adminState" = ['1']
      linkUp := linkUp
      speedMbps := if linkUp then searchInt (gtext e "speedOper") else none
      description := orNone (gtext e "interfaceDescription")
      fullDuplex := goaheadDuplexOper (gtext e "duplexOperMode")
      flowControl := goaheadFlowControl (gtext e "flowControlOperType")
      speedConfig := goaheadSpeedConfig e }

/-- `parse_goahead_ports`. -/
def parseGoaheadPorts (body : Text) : Except LibError (List PortStatus) := do
  let sec ← goaheadSection body "Standard802_3List"
  let out := (sec.findAll "Entry").filterMap goaheadPortEntry
  if out = [] then .error .httpUnexpectedPage else .ok out

/-- `parse_goahead_vlan_names`. -/
def parseGoaheadVlanNames (body : Text) : Except LibError (PyDict ℤ (Option Text)) := do
  let sec ← goaheadSection body "VLANList"
  let names := (sec.findAll "VLAN").filterMap fun v =>
    (searchInt (gtext v "VLANID")).map fun vid => (vid, orNone (gtext v "VLANName"))
  if names = [] then .error .httpUnexpectedPage else .ok (.ofList names)

/-! ## §2 Writing -/

/-- `port_config_body`. -/
def portConfigBody (portName : Text) (portId : ℤ) (adminEnabled : Option Bool)
    (description : Option Text) : Text :=
  writeBody "Standard802_3List" "set" [Xml.node "Entry"
    ([Xml.leaf "interfaceName" portName, Xml.leaf "interfaceType" ['1'],
        Xml.leaf "interfaceID" (intText portId)] ++
      (adminEnabled.map fun on => Xml.leaf "adminState" (if on then ['1'] else ['2'])).toList ++
      (description.map (Xml.field "interfaceDescription")).toList)]

/-- `vlan_create_body`. -/
def vlanCreateBody (vlan : ℤ) (name : Text) : Text :=
  writeBody "VLANList" "set" [Xml.node "VLAN"
    [Xml.leaf "VLANID" (intText vlan), Xml.field "VLANName" name]]

/-- The label of a port on the ports page. -/
def described (port : ℤ) (body : Text) : Except LibError (Option Text) := do
  let rows ← parseGoaheadPorts body
  .ok ((rows.find? (·.port = port)).bind (·.description))

namespace GoAheadWriter

variable (w : GoAheadWriter)

/-- What `set_port_description` does once the page has been looked at. -/
def writePortDescription (path : Text) (port : ℤ) (description : Text) : HttpScript Unit := do
  w.goaheadWrite (portConfigBody (portInterfaceName port) port none (some description))
  let page ← sessionCall (.getPage path)
  let after ← done (described port page)
  ensure (after = orNone description) .writeVerification

/-- `set_port_description`. -/
def setPortDescription (port : ℤ) (description : Text) (force : Bool) : HttpScript Unit := do
  w.guard port force
  let path ← done (orRaise .unsupportedCapability w.spec.dashboardPath)
  let page ← sessionCall (.getPage path)
  let _ ← done (described port page)
  w.writePortDescription path port description

end GoAheadWriter

/-! ## §3 Texts that are carried -/

/-- A text as a document can have it: every character is legal. -/
def Legal (t : Text) : Prop := ∀ c ∈ t, Xml.isXmlChar c = true

/-- A text that comes back as it went. -/
def Carried (t : Text) : Prop := Legal t ∧ '\r' ∉ t ∧ strip t = t

/-- A legal text as it comes back. -/
def carry (t : Text) : Text := strip (Xml.normalLines t)

theorem orNone_injective : Function.Injective orNone := by
  intro t u h
  unfold orNone at h
  split_ifs at h with ht hu hu
  · rw [ht, hu]
  · exact Option.some.inj h

theorem mem_of_mem_normalLines {t : Text} {c : Char} (h : c ∈ Xml.normalLines t) :
    c ∈ t ∨ c = '\n' := by
  fun_induction Xml.normalLines t with
  | case1 => cases h
  | case2 t ih | case3 t _ ih =>
    rcases List.mem_cons.mp h with rfl | h
    · exact Or.inr rfl
    · rcases ih h with h | h
      · exact Or.inl (by simp [h])
      · exact Or.inr h
  | case4 c' t _ _ ih =>
    rcases List.mem_cons.mp h with rfl | h
    · exact Or.inl List.mem_cons_self
    · rcases ih h with h | h
      · exact Or.inl (List.mem_cons_of_mem _ h)
      · exact Or.inr h

theorem mem_of_mem_strip {t : Text} {c : Char} (h : c ∈ strip t) : c ∈ t := by
  obtain ⟨front, back, ht, -, -⟩ := exists_strip t
  rw [ht]
  exact List.mem_append_left _ (List.mem_append_right _ h)

/-- What comes back would come back again. -/
theorem carried_carry {t : Text} (h : Legal t) : Carried (carry t) := by
  refine ⟨fun c hc => ?_, fun hc => ?_, strip_strip _⟩
  · rcases mem_of_mem_normalLines (mem_of_mem_strip hc) with hc | rfl
    · exact h c hc
    · rfl
  · exact Xml.cr_not_mem_normalLines t (mem_of_mem_strip hc)

theorem carry_of_carried {t : Text} (h : Carried t) : carry t = t := by
  rw [carry, Xml.normalLines_of_not_mem h.2.1, h.2.2]

theorem carry_carry {t : Text} (h : Legal t) : carry (carry t) = carry t :=
  carry_of_carried (carried_carry h)

/-- A legal text comes back as it went exactly where it is carried. -/
theorem carry_eq_self_iff {t : Text} (h : Legal t) : carry t = t ↔ Carried t := by
  refine ⟨fun heq => ?_, carry_of_carried⟩
  have hcarried := carried_carry h
  rwa [heq] at hcarried

theorem getD_orNone (t : Text) : (orNone t).getD [] = t := by
  rw [orNone]
  split_ifs with h
  · exact h.symm
  · rfl

theorem carried_nil : Carried [] := ⟨List.forall_mem_nil _, List.not_mem_nil, rfl⟩

theorem readText_of_legal {t : Text} (h : Legal t) : Xml.readText t = some (Xml.normalLines t) :=
  Xml.readText_eq_some.mpr ⟨h, rfl⟩

theorem readText_of_not_legal {t : Text} (h : ¬ Legal t) : Xml.readText t = none := by
  rw [Option.eq_none_iff_forall_ne_some]
  intro u hu
  exact h (Xml.readText_eq_some.mp hu).1

/-! ## §4 Declarations and status codes -/

/-- What the declaration says. -/
def xmlVersion : Text := "version='1.0' encoding='utf-8'".toList

theorem xmlDeclaration_eq : xmlDeclaration = "<?xml ".toList ++ (xmlVersion ++ "?>".toList) := by
  decide

/-- `_status_response`. -/
def statusResponse (code : ℕ) (message : Text) : Text :=
  "<?xml version=\"1.0\" encoding=\"UTF-8\" ?>".toList ++
    ("<ResponseData>".toList ++ ("<statusCode>".toList ++ (natText code ++
      ("</statusCode>".toList ++ ("<statusString>".toList ++ (Xml.escape false message ++
        "</statusString></ResponseData>".toList))))))

theorem statusCode_statusResponse (code : ℕ) (message : Text) :
    statusCode (statusResponse code message) = some (natText code) := by
  unfold statusCode statusResponse
  generalize "<statusString>".toList ++ (Xml.escape false message ++
    "</statusString></ResponseData>".toList) = rest
  rw [PyRe.search_clear _ (PyRe.startsWith_lit _ _) (by decide),
    PyRe.search_clear _ (PyRe.startsWith_lit _ _) (by decide)]
  refine PyRe.search_here ?_
  rw [PyRe.lit_append]
  have hspan := PyRe.many1_span (natText_ne_nil code) (isDecimal_natText code)
    (show isDecimal '<' = false from rfl) (s := "/statusCode>".toList ++ rest)
    (k := fun ds => PyRe.lit "</statusCode>" fun _ => some ds) (PyRe.lit_append _ _ _)
  exact hspan

/-- A status is taken where it is 0. -/
theorem checkGoaheadStatus_statusResponse (code : ℕ) (message : Text) :
    checkGoaheadStatus (statusResponse code message) =
      if code = 0 then .ok () else .error .http := by
  rw [checkGoaheadStatus, statusCode_statusResponse]
  have hzero : natText code = ['0'] ↔ code = 0 := by
    constructor
    · intro h
      have hdigits := digitsValue_natText code
      rw [h] at hdigits
      exact hdigits.symm
    · rintro rfl
      simp [natText, digitChar]
  dsimp only
  simp only [hzero]

end NetgearSwitch.Http
