import NetgearSwitch.Virtual.CliRuns
import NetgearSwitch.Virtual.WcdTexts
import NetgearSwitch.Virtual.WebPlus
import NetgearSwitch.Virtual.WriteDispatch

/-!
# One switch of a port over every face

Turning the PoE of a port, or the port itself, on or off, as each face of the virtual switch
applies it: an SNMP SET, a CLI command, a checked row of a FASTPATH XUI form, the CGI form of the
Plus pages, the port form of the GS110EMX and the XML body of the GoAhead UI.

`apply_poe_admin` is one rule for SNMP and CLI.  The web faces have rules of their own: what an
enabled port shows as its detection code differs, and a disabled one keeps its link.

§1 the CGI forms · §2 what carries a write · §3 what it does · §4 when two faces agree
-/

namespace NetgearSwitch.Virtual

open Http PyText

/-! ## §1 The CGI forms of the Plus pages -/

/-- `poe_apply_form`. -/
def poeApplyForm (port : ℤ) (on isEpx : Bool) (csrfHash : Text) : Form :=
  .ofList [("ACTION".toList, "Apply".toList), ("portID".toList, intText (port - 1)),
    ("ADMIN_MODE".toList, if on then ['1'] else ['0']), ("PORT_PRIO".toList, ['0']),
    ("POW_MOD".toList, ['3']), ("POW_LIMT_TYP".toList, if isEpx then ['2'] else ['0']),
    ("DETEC_TYP".toList, ['2']), ("DISCONNECT_TYP".toList, ['2']), ("hash".toList, csrfHash)]

/-- `int(m.group(1)) + 1` of a key `port<n>`, counted from 0 on the wire; `some none` where int()
raises. -/
def keyedPort? (key : Text) : Option (Option ℤ) :=
  if key.take 4 = "port".toList ∧ isNumber (key.drop 4) then
    some ((intOfDecimals (key.drop 4)).map fun n : ℕ => (n : ℤ) + 1)
  else none

/-- The ports that the keys of a form name, up to the first one that raises. -/
def keyedPorts (form : Form) : List ℤ :=
  ((form.keys.filterMap keyedPort?).takeWhile Option.isSome).reduceOption

namespace VirtualSwitchState

/-- `_apply_poe` of the Plus pages. -/
def applyPlusPoe (s : VirtualSwitchState) (form : Form) : VirtualSwitchState × WebReply :=
  if form.get? "ACTION".toList = some "Apply".toList ∧ "portID".toList ∈ form then
    match (form.get? "portID".toList).bind pyInt with
    | none => (s, .raised)
    | some port =>
      let on : Bool := form.get? "ADMIN_MODE".toList = some ['1']
      ({ s with poe := s.poe.modify (port + 1) fun sim =>
        { sim with
          admin := on
          detect := if on then 3 else 1 } }, .accepted)
  else if form.get? "ACTION".toList = some "Reset".toList then
    ({ s with poe := (keyedPorts form).foldl (fun poe port => poe.modify port fun sim =>
        { sim with detect := if sim.admin then 3 else 1 }) s.poe },
      if (form.keys.filterMap keyedPort?).all Option.isSome then .accepted else .raised)
  else (s, .accepted)

end VirtualSwitchState

/-- `gs110emx_port_admin_form`. -/
def gs110emxPortAdminForm (port : ℤ) (on : Bool) (flowControlMode : Text) : Form :=
  .ofList [("PORT_NO".toList, intText port ++ [';']),
    ("PORT_CTRL_MODE".toList, if on then ['1'] else ['3']), ("PORT_CTRL_DUPLEX".toList, ['0']),
    ("PORT_CTRL_SPEED".toList, ['0']), ("FLOW_CONTROL_MODE".toList, flowControlMode),
    ("ACTION".toList, "apply".toList)]

namespace VirtualSwitchState

/-- The loop of `apply_port_settings` over the selected ports. -/
def applySelectedPorts (on : Bool) :
    List Text → VirtualSwitchState → VirtualSwitchState × WebReply
  | [], s => (s, .accepted)
  | part :: parts, s =>
    if !isDigitText (strip part) then applySelectedPorts on parts s
    else
      match pyInt part with
      | none => (s, .raised)
      | some port => applySelectedPorts on parts
          { s with ports := s.ports.modify port fun sim => { sim with admin := on } }

/-- `apply_port_settings`: a selection that does not end with a semicolon is none. -/
def applyPortSettings (s : VirtualSwitchState) (form : Form) : VirtualSwitchState × WebReply :=
  if form.get? "ACTION".toList ≠ some "apply".toList then (s, .accepted)
  else
    let raw := (form.get? "PORT_NO".toList).getD []
    if raw.getLast? ≠ some ';' then (s, .accepted)
    else applySelectedPorts (form.get? "PORT_CTRL_MODE".toList ≠ some ['3']) (raw.splitOn ';') s

end VirtualSwitchState

/-! ## §2 What carries a write -/

/-- What is turned on or off: the PoE of a port, or the port. -/
inductive PortToggle
  | poe
  | link
  deriving DecidableEq, Repr

inductive WriteFace
  | snmp
  | cli
  | xui
  | plus
  | portSettings
  | goAhead
  deriving DecidableEq, Repr

/-- `Carried s p on face toggle s'`: a write that `face` accepts turns the PoE of `p`, or `p`, on or
off, and leaves `s'`. -/
inductive Carried (s : VirtualSwitchState) (p : ℤ) (on : Bool) :
    WriteFace → PortToggle → VirtualSwitchState → Prop
  | snmpPoe {n : ℕ} {s' : VirtualSwitchState} (hport : p = n)
      (h : s.applyWrite (Snmp.pethPsePortTable ++ [3, 1] ++ [n]) (.int (if on then 1 else 2)) =
        .ok s') : Carried s p on .snmp .poe s'
  | snmpLink {n : ℕ} {s' : VirtualSwitchState} (hport : p = n)
      (h : s.applyWrite (Snmp.ifAdminStatus ++ [n]) (.int (if on then 1 else 2)) = .ok s') :
      Carried s p on .snmp .link s'
  | cliPoe {f f' : VirtualCliFace} (hstate : f.state = s) (hmode : f.modes.head? = some .interface)
      (hport : f.ifacePort = some p) (h : f.run (Cli.CliModelSpec.poeAdmin on) = (f', .text accepted)) :
      Carried s p on .cli .poe f'.state
  | cliLink {f f' : VirtualCliFace} (hstate : f.state = s) (hmode : f.modes.head? = some .interface)
      (hport : f.ifacePort = some p) (h : f.run (Cli.CliModelSpec.portAdmin on) = (f', .text accepted)) :
      Carried s p on .cli .link f'.state
  | xuiPoe {form : Form} {checkbox row : Text} {unitRequired : Bool} {s' : VirtualSwitchState}
      (hrow : checkedRows form checkbox = [row])
      (hport : rowPort (PySet.sorted s.poe.keys.toFinset) row = some (some p))
      (hbutton : pressed form ["v_2_1_3", "v_2_1_2"] ≠ some "v_2_1_3") (happly : isApply form = true)
      (hvalue : form.get? (row ++ "v_1_2_2".toList) =
        some (if on then "Enable" else "Disable").toList)
      (h : s.applyPoe form checkbox unitRequired = (s', .accepted)) : Carried s p on .xui .poe s'
  | xuiLink {form : Form} {checkbox row : Text} {s' : VirtualSwitchState}
      (hrow : checkedRows form checkbox = [row])
      (hport : rowPort s.gridPorts row = some (some p)) (happly : isApply form = true)
      (hvalue : form.get? (row ++ "v_1_2_6".toList) =
        some (if on then "Enable" else "Disable").toList)
      (h : s.applyPorts form checkbox = (s', .accepted)) : Carried s p on .xui .link s'
  | plusPoe {isEpx : Bool} {csrfHash : Text} {s' : VirtualSwitchState}
      (h : s.applyPlusPoe (poeApplyForm p on isEpx csrfHash) = (s', .accepted)) :
      Carried s p on .plus .poe s'
  | settingsLink {flowControlMode : Text} {s' : VirtualSwitchState} (hport : 0 ≤ p)
      (h : s.applyPortSettings (gs110emxPortAdminForm p on flowControlMode) = (s', .accepted)) :
      Carried s p on .portSettings .link s'
  | goAheadPoe {s' : VirtualSwitchState} (hport : 0 ≤ p)
      (h : s.applyXml (poeAdminBody (portInterfaceName p) on) = (s', .status 0)) :
      Carried s p on .goAhead .poe s'
  | goAheadLink {s' : VirtualSwitchState} (hport : 0 ≤ p)
      (h : s.applyXml (portConfigBody (portInterfaceName p) p (some on) none) = (s', .status 0)) :
      Carried s p on .goAhead .link s'

/-! ## §3 What it does -/

/-- The faces whose PoE write goes through `apply_poe_admin`. -/
def WriteFace.sharesRule (f : WriteFace) : Bool := f = .snmp || f = .cli

/-- What a PoE write over a face makes of the PoE port. -/
def WriteFace.togglePoe (f : WriteFace) (on : Bool) (sim : PoeSim) : PoeSim :=
  { sim with
    admin := on
    detect :=
      if on then
        match f with
        | .xui => if sim.detect = 1 then 2 else sim.detect
        | .goAhead => 2
        | .snmp | .cli | .plus | .portSettings => 3
      else 1
    cliStatusLagReads := if f.sharesRule && on && !sim.admin then 1 else sim.cliStatusLagReads }

/-- Is the link of a port that is turned off down? -/
def WriteFace.dropsLink (f : WriteFace) : PortToggle → Bool
  | .poe => f.sharesRule
  | .link => f.sharesRule || f = .goAhead

/-- The link of the port, after a write over a face. -/
def WriteFace.toggleLink (f : WriteFace) (t : PortToggle) (on : Bool) (sim : PortSim) : PortSim :=
  { sim with link := sim.link && (on || !f.dropsLink t) }

namespace VirtualSwitchState

/-- The state after a write over a face. -/
def toggled (s : VirtualSwitchState) (f : WriteFace) (t : PortToggle) (p : ℤ) (on : Bool) :
    VirtualSwitchState :=
  match t with
  | .poe => { s with
      poe := s.poe.modify p (f.togglePoe on)
      ports := if p ∈ s.poe then s.ports.modify p (f.toggleLink .poe on) else s.ports }
  | .link => { s with ports := s.ports.modify p fun sim =>
      { f.toggleLink .link on sim with admin := on } }

variable {s : VirtualSwitchState} {p : ℤ}

/-- A change that leaves the link of every port leaves the ports. -/
theorem modify_toggleLink_of_keeps {f : WriteFace} {t : PortToggle} {on : Bool}
    (h : (on || !f.dropsLink t) = true) : s.ports.modify p (f.toggleLink t on) = s.ports := by
  refine PyDict.modify_eq_self_iff.mpr fun sim _ => ?_
  rw [WriteFace.toggleLink, h, Bool.and_true]

theorem applyPoeAdmin_eq (s : VirtualSwitchState) (p : ℤ) (on : Bool) {f : WriteFace}
    (hf : f.sharesRule = true) : s.applyPoeAdmin p on = s.toggled f .poe p on := by
  unfold applyPoeAdmin toggled
  cases hpoe : s.poe.get? p with
  | none =>
    have hmem : p ∉ s.poe := PyDict.not_mem_iff.mpr hpoe
    dsimp only
    rw [if_neg hmem, PyDict.modify_of_not_mem _ hmem]
  | some sim =>
    have hmem : p ∈ s.poe := PyDict.mem_iff.mpr ⟨sim, hpoe⟩
    have hcode : ∀ sim : PoeSim, f.togglePoe on sim = { sim with
        admin := on
        detect := if on then 3 else 1
        cliStatusLagReads := if on && !sim.admin then 1 else sim.cliStatusLagReads } := by
      intro sim
      cases f with
      | snmp | cli => rfl
      | xui | plus | portSettings | goAhead => cases hf
    have hset : s.poe.set p (f.togglePoe on sim) = s.poe.modify p (f.togglePoe on) := by
      rw [PyDict.set_eq_modify hmem, PyDict.modify_eq_modify_iff]
      intro a ha
      rw [hpoe] at ha
      cases ha
      rfl
    have hports : (if on then s.ports else s.ports.modify p fun sim => { sim with link := false }) =
        s.ports.modify p (f.toggleLink .poe on) := by
      cases on with
      | true => exact (modify_toggleLink_of_keeps rfl).symm
      | false =>
        rw [if_neg Bool.false_ne_true, PyDict.modify_eq_modify_iff]
        intro sim _
        rw [WriteFace.toggleLink, WriteFace.dropsLink, hf, Bool.not_true, Bool.or_false,
          Bool.and_false]
    dsimp only
    rw [if_pos hmem, ← hset, hcode, hports]

/-- One checked row of a port that the page lists. -/
theorem applyPoeRows_row {form : Form} {unitRequired on : Bool} {ports : List ℤ} {row : Text}
    {s' : VirtualSwitchState} (hport : rowPort ports row = some (some p))
    (hbutton : pressed form ["v_2_1_3", "v_2_1_2"] ≠ some "v_2_1_3")
    (hvalue : form.get? (row ++ "v_1_2_2".toList) =
      some (if on then "Enable" else "Disable").toList)
    (h : applyPoeRows form unitRequired ports [row] s = (s', .accepted)) :
    s' = { s with poe := s.poe.modify p (setPoeAdmin on) } := by
  have hwords : ¬ ((if on then "Enable" else "Disable").toList ≠ "Enable".toList ∧
      (if on then "Enable" else "Disable").toList ≠ "Disable".toList) := by
    cases on <;> decide
  have hon : decide ((if on then "Enable" else "Disable").toList = "Enable".toList) = on := by
    cases on <;> decide
  unfold applyPoeRows at h
  split at h
  · cases h
  · rw [hport] at h
    dsimp only at h
    rw [hvalue] at h
    dsimp only at h
    rw [if_neg hwords, hon] at h
    cases h
    rfl

theorem applyPortAdminRows_row {form : Form} {on : Bool} {ports : List ℤ} {row : Text}
    {s' : VirtualSwitchState} (hport : rowPort ports row = some (some p))
    (hvalue : form.get? (row ++ "v_1_2_6".toList) =
      some (if on then "Enable" else "Disable").toList)
    (h : applyPortAdminRows form ports [row] s = (s', .accepted)) :
    s' = { s with ports := s.ports.modify p fun sim => { sim with admin := on } } := by
  have hwords : ¬ ((if on then "Enable" else "Disable").toList ≠ "Enable".toList ∧
      (if on then "Enable" else "Disable").toList ≠ "Disable".toList) := by
    cases on <;> decide
  have hon : decide ((if on then "Enable" else "Disable").toList = "Enable".toList) = on := by
    cases on <;> decide
  unfold applyPortAdminRows at h
  rw [hvalue] at h
  dsimp only at h
  rw [if_neg hwords, hport, hon] at h
  cases h
  rfl

/-- The form names the port counted from 0, and the handler counts from 1 again. -/
theorem of_applyPlusPoe_poeApplyForm {on isEpx : Bool} {csrfHash : Text} {s' : VirtualSwitchState}
    (h : s.applyPlusPoe (poeApplyForm p on isEpx csrfHash) = (s', .accepted)) :
    s' = s.toggled .plus .poe p on := by
  have haction : (poeApplyForm p on isEpx csrfHash).get? "ACTION".toList =
      some "Apply".toList := rfl
  have hid : (poeApplyForm p on isEpx csrfHash).get? "portID".toList =
      some (intText (p - 1)) := rfl
  have hmode : (poeApplyForm p on isEpx csrfHash).get? "ADMIN_MODE".toList =
      some (if on then ['1'] else ['0']) := rfl
  have hon : decide (some (if on then ['1'] else ['0']) = some ['1']) = on := by
    cases on <;> decide
  have hport : p - 1 + 1 = p := by omega
  have hports : (if p ∈ s.poe then s.ports.modify p (WriteFace.toggleLink .plus .poe on)
      else s.ports) = s.ports := by
    rw [modify_toggleLink_of_keeps (by rw [WriteFace.dropsLink]; exact Bool.or_true on), ite_self]
  rw [applyPlusPoe, if_pos ⟨haction, PyDict.mem_iff.mpr ⟨_, hid⟩⟩, hid, hmode, hon,
    Option.bind_some] at h
  split at h
  · cases h
  · next n hn =>
    obtain ⟨-, rfl⟩ := pyInt_intText_eq_some_iff.mp hn
    rw [hport] at h
    cases h
    rw [toggled, hports]
    rfl

/-- **The port form of a GS110EMX** turns the port on or off and leaves its link. -/
theorem of_applyPortSettings_gs110emxPortAdminForm {on : Bool} {flowControlMode : Text}
    {s' : VirtualSwitchState} (hp : 0 ≤ p)
    (h : s.applyPortSettings (gs110emxPortAdminForm p on flowControlMode) = (s', .accepted)) :
    s' = s.toggled .portSettings .link p on := by
  have haction : (gs110emxPortAdminForm p on flowControlMode).get? "ACTION".toList =
      some "apply".toList := rfl
  have hselected : (gs110emxPortAdminForm p on flowControlMode).get? "PORT_NO".toList =
      some (intText p ++ [';']) := rfl
  have hmode : (gs110emxPortAdminForm p on flowControlMode).get? "PORT_CTRL_MODE".toList =
      some (if on then ['1'] else ['3']) := rfl
  have hon : decide (some (if on then ['1'] else ['3'] : Text) ≠ some ['3']) = on := by
    cases on <;> decide
  obtain ⟨n, rfl⟩ := Int.eq_ofNat_of_zero_le hp
  have hparts : (intText (n : ℤ) ++ [';']).splitOn ';' = [natText n, []] := by
    have hfree : ∀ part ∈ [natText n, []], ';' ∉ part := by
      simp only [List.forall_mem_cons]
      refine ⟨fun hmem => ?_, List.not_mem_nil, List.forall_mem_nil _⟩
      exact absurd (all_isDigit_natText n ';' hmem) (by decide)
    rw [intText_natCast, ← List.splitOn_intercalate ';' hfree (List.cons_ne_nil _ _)]
    simp [List.intercalate]
  have hdigits : isDigitText (strip (natText n)) = true := by
    rw [strip_of_not_isSpace (isSpace_natText n)]
    exact isDigitText_natText n
  have hkeeps : (on || !WriteFace.dropsLink .portSettings .link) = true := Bool.or_true on
  have hsim : ∀ sim : PortSim, { WriteFace.toggleLink .portSettings .link on sim with admin := on } =
      { sim with admin := on } := by
    intro sim
    rw [WriteFace.toggleLink, hkeeps, Bool.and_true]
  rw [applyPortSettings, haction, if_neg (not_not.mpr rfl), hselected, hmode, hon] at h
  dsimp only [Option.getD_some] at h
  rw [List.getLast?_append, if_neg (by simp), hparts, applySelectedPorts, hdigits, Bool.not_true,
    if_neg Bool.false_ne_true] at h
  split at h
  · cases h
  · next m hm =>
    obtain ⟨-, rfl⟩ := pyInt_intText_eq_some_iff.mp ((congrArg pyInt (intText_natCast n)).trans hm)
    cases h
    rw [toggled, funext hsim]

/-! ### The bodies of the GoAhead UI -/

/-- The texts of a PoE body. -/
def poeAdminFields (p : ℤ) (on : Bool) : List (String × Text) :=
  [("interfaceName", portInterfaceName p), ("interfaceType", ['1']), ("adminEnable", onOff on)]

/-- The texts of a body that turns a port on or off. -/
def portAdminFields (p : ℤ) (on : Bool) : List (String × Text) :=
  [("interfaceName", portInterfaceName p), ("interfaceType", ['1']), ("interfaceID", intText p),
    ("adminState", onOff on)]

theorem onOff_ne_nil (on : Bool) : onOff on ≠ [] := by
  cases on <;> decide

theorem carry_onOff (on : Bool) : carry (onOff on) = onOff on :=
  carry_of_not_isSpace (by cases on <;> decide)

theorem onOff_eq_one (on : Bool) : decide (onOff on = ['1']) = on := by
  cases on <;> decide

theorem poeAdminBody_eq (p : ℤ) (on : Bool) : poeAdminBody (portInterfaceName p) on =
    writeBody "PoEPSEInterfaceList" "set" [rowXml "Interface" (poeAdminFields p on)] := by
  have hon : (if on then ['1'] else ['2'] : Text) = onOff on := rfl
  rw [poeAdminBody, hon, portInterfaceName, leaf_eq_field _ (List.cons_ne_nil _ _),
    leaf_eq_field _ (List.cons_ne_nil _ _), leaf_eq_field _ (onOff_ne_nil on)]
  rfl

theorem portAdminBody_eq (p : ℤ) (on : Bool) :
    portConfigBody (portInterfaceName p) p (some on) none =
      writeBody "Standard802_3List" "set" [rowXml "Entry" (portAdminFields p on)] := by
  have hon : (if on then ['1'] else ['2'] : Text) = onOff on := rfl
  rw [portConfigBody, portInterfaceName, Option.map_some, hon, leaf_eq_field _ (List.cons_ne_nil _ _),
    leaf_eq_field _ (List.cons_ne_nil _ _), leaf_eq_field _ (intText_ne_nil p),
    leaf_eq_field _ (onOff_ne_nil on)]
  rfl

theorem ifacePort_readFields {tag : String} {fields : List (String × Text)} (hp : 0 ≤ p)
    (hname : fieldOf "interfaceName" fields = portInterfaceName p) :
    ifacePort (rowXml tag (readFields fields)) = if Printable p then some (some p) else none := by
  have htext : fieldText (rowXml tag (readFields fields)) "interfaceName" = 'g' :: intText p := by
    rw [fieldText, gtext_readFields, hname, portInterfaceName,
      carry_of_not_isSpace (isSpace_portName p)]
  rw [ifacePort_of_fieldText htext, if_pos hp]

theorem applyXml_poeAdminBody (s : VirtualSwitchState) (hp : 0 ≤ p) (on : Bool) :
    s.applyXml (poeAdminBody (portInterfaceName p) on) =
      if Printable p then (s.toggled .goAhead .poe p on, .status 0) else (s, .raised) := by
  have htags : ∀ f ∈ poeAdminFields p on, IsSectionTag f.1.toList := by
    simp only [poeAdminFields, List.forall_mem_cons]
    exact ⟨by decide, by decide, by decide, List.forall_mem_nil _⟩
  have hlegal : ∀ f ∈ poeAdminFields p on, Legal f.2 := by
    simp only [poeAdminFields, List.forall_mem_cons]
    exact ⟨(plain_portName p).legal, (plain_of_mem (by decide)).legal, (plain_onOff on).legal,
      List.forall_mem_nil _⟩
  have hadmin : fieldText (rowXml "Interface" (readFields (poeAdminFields p on))) "adminEnable" =
      onOff on := by
    rw [fieldText, gtext_readFields]
    exact carry_onOff on
  have hone : onOff on = ['1'] ∨ onOff on = ['2'] := by
    cases on
    · exact .inr rfl
    · exact .inl rfl
  have hcode : (if onOff on = ['1'] then 2 else 1 : ℤ) = if on then 2 else 1 := by
    cases on <;> rfl
  have hports : (if p ∈ s.poe then s.ports.modify p (WriteFace.toggleLink .goAhead .poe on)
      else s.ports) = s.ports := by
    rw [modify_toggleLink_of_keeps (by rw [WriteFace.dropsLink]; exact Bool.or_true on), ite_self]
  have happlied := (applyXml_row s "PoEPSEInterfaceList" "Interface" (by decide) (by decide)
    (by decide) htags).1 hlegal
  have hrow := @applySections_row s "PoEPSEInterfaceList" "Interface"
    (readFields (poeAdminFields p on)) applyPoeInterface rfl
  rw [poeAdminBody_eq, happlied, hrow, applyPoeInterface, ifacePort_readFields hp rfl, hadmin,
    onOff_eq_one, hcode, toggled, hports]
  by_cases hprint : Printable p
  · rw [if_pos hprint, if_pos hprint, Option.map_some]
    dsimp only
    rw [if_pos hone]
    rfl
  · rw [if_neg hprint, if_neg hprint]
    rfl

theorem applyXml_portAdminBody (s : VirtualSwitchState) (hp : 0 ≤ p) (on : Bool) :
    s.applyXml (portConfigBody (portInterfaceName p) p (some on) none) =
      if Printable p then (s.toggled .goAhead .link p on, .status 0) else (s, .raised) := by
  have htags : ∀ f ∈ portAdminFields p on, IsSectionTag f.1.toList := by
    simp only [portAdminFields, List.forall_mem_cons]
    exact ⟨by decide, by decide, by decide, by decide, List.forall_mem_nil _⟩
  have hlegal : ∀ f ∈ portAdminFields p on, Legal f.2 := by
    simp only [portAdminFields, List.forall_mem_cons]
    exact ⟨(plain_portName p).legal, (plain_of_mem (by decide)).legal, (plain_intText p).legal,
      (plain_onOff on).legal, List.forall_mem_nil _⟩
  have hadmin : fieldText (rowXml "Entry" (readFields (portAdminFields p on))) "adminState" =
      onOff on := by
    rw [fieldText, gtext_readFields]
    exact carry_onOff on
  have habsent : ∀ name, fieldOf name (portAdminFields p on) = [] →
      fieldText (rowXml "Entry" (readFields (portAdminFields p on))) name = [] := by
    intro name hname
    rw [fieldText, gtext_readFields, hname]
    rfl
  have hautoneg := habsent "autoNegotiationAdminEnabled" rfl
  have hrate := habsent "speedAdmin" rfl
  have hfind : (rowXml "Entry" (readFields (portAdminFields p on))).find "interfaceDescription" =
      none := by
    rw [find_rowXml]
    rfl
  have hentry : ∀ sim : PortSim,
      applyStandardEntry (rowXml "Entry" (readFields (portAdminFields p on))) sim =
        { WriteFace.toggleLink .goAhead .link on sim with admin := on } := by
    intro sim
    unfold applyStandardEntry
    rw [hadmin, hautoneg, hrate, hfind]
    cases on with
    | true =>
      rw [WriteFace.toggleLink, Bool.true_or, Bool.and_true]
      rfl
    | false =>
      have hdrops : WriteFace.dropsLink .goAhead .link = true := rfl
      rw [WriteFace.toggleLink, hdrops, Bool.not_true, Bool.or_false, Bool.and_false]
      rfl
  have happlied := (applyXml_row s "Standard802_3List" "Entry" (by decide) (by decide)
    (by decide) htags).1 hlegal
  have hrow := @applySections_row s "Standard802_3List" "Entry" (readFields (portAdminFields p on))
    applyStandard rfl
  rw [portAdminBody_eq, happlied, hrow, applyStandard, ifacePort_readFields hp rfl]
  by_cases hprint : Printable p
  · rw [if_pos hprint, if_pos hprint, Option.map_some]
    dsimp only
    rw [funext hentry]
    rfl
  · rw [if_neg hprint, if_neg hprint]
    rfl

/-! ### Every face -/

theorem applyWrite_poeAdmin (s : VirtualSwitchState) (n : ℕ) (on : Bool) :
    s.applyWrite (Snmp.pethPsePortTable ++ [3, 1] ++ [n]) (.int (if on then 1 else 2)) =
      .ok (s.toggled .snmp .poe n on) := by
  have hmem : (Snmp.pethPsePortTable ++ [3, 1], Column.pethPsePortAdmin) ∈ tailColumns :=
    List.mem_cons_of_mem _ (List.mem_cons_of_mem _ List.mem_cons_self)
  have hcolumn := column_of_tail s.model hmem (tail_append _ n)
  have hon : decide ((if on then 1 else 2 : ℤ) = 1) = on := by
    cases on <;> decide
  rw [applyWrite, hcolumn, ← applyPoeAdmin_eq s n on rfl]
  show Except.ok (s.applyPoeAdmin n (decide ((if on then 1 else 2 : ℤ) = 1))) = _
  rw [hon]

theorem applyWrite_portAdmin (s : VirtualSwitchState) (n : ℕ) (on : Bool) :
    s.applyWrite (Snmp.ifAdminStatus ++ [n]) (.int (if on then 1 else 2)) =
      .ok (s.toggled .snmp .link n on) := by
  have hcolumn := column_of_tail s.model
    (List.mem_cons_self : (Snmp.ifAdminStatus, Column.ifAdminStatus) ∈ tailColumns) (tail_append _ n)
  have hsim : ∀ sim : PortSim, { sim with
      admin := decide ((if on then 1 else 2 : ℤ) = 1)
      link := if (if on then 1 else 2 : ℤ) ≠ 1 then false else sim.link } =
      { WriteFace.toggleLink .snmp .link on sim with admin := on } := by
    intro sim
    cases on with
    | true =>
      rw [WriteFace.toggleLink, Bool.true_or, Bool.and_true]
      rfl
    | false =>
      have hdrops : WriteFace.dropsLink .snmp .link = true := rfl
      rw [WriteFace.toggleLink, hdrops, Bool.not_true, Bool.or_false, Bool.and_false]
      rfl
  rw [applyWrite, hcolumn, toggled, ← funext hsim]
  dsimp only
  rw [applyColumn]
  by_cases hport : (n : ℤ) ∈ s.ports
  · rw [if_pos hport]
    rfl
  · rw [if_neg hport, PyDict.modify_of_not_mem _ hport]

theorem interfaceCommand_poe {on : Bool} (h : (s.interfaceCommand p (.poe on)).2 = accepted) :
    (s.interfaceCommand p (.poe on)).1 = s.toggled .cli .poe p on := by
  unfold interfaceCommand at h ⊢
  dsimp only at h ⊢
  by_cases hcapable : s.poeCapable = true
  · rw [if_pos hcapable]
    exact applyPoeAdmin_eq s p on rfl
  · rw [if_neg hcapable] at h
    exact absurd (show invalid = accepted from h) (by decide)

theorem interfaceCommand_shutdown {on : Bool}
    (h : (s.interfaceCommand p (.shutdown on)).2 = accepted) :
    (s.interfaceCommand p (.shutdown on)).1 = s.toggled .cli .link p on := by
  have hsim : ∀ sim : PortSim, { WriteFace.toggleLink .cli .link on sim with admin := on } =
      { sim with admin := on, link := on && sim.link } := by
    intro sim
    have hdrops : WriteFace.dropsLink .cli .link = true := rfl
    rw [WriteFace.toggleLink, hdrops, Bool.not_true, Bool.or_false, Bool.and_comm]
  unfold interfaceCommand at h ⊢
  dsimp only at h ⊢
  by_cases hport : p ∈ s.ports
  · rw [if_pos hport, toggled, funext hsim]
  · rw [if_neg hport] at h
    exact absurd (show invalid = accepted from h) (by decide)

/-- **What an accepted write leaves**, over each of the faces. -/
theorem toggled_of_carried {on : Bool} {f : WriteFace} {t : PortToggle} {s' : VirtualSwitchState}
    (h : Carried s p on f t s') : s' = s.toggled f t p on := by
  cases h with
  | snmpPoe hport h =>
    subst hport
    rw [applyWrite_poeAdmin] at h
    exact (Except.ok.inj h).symm
  | snmpLink hport h =>
    subst hport
    rw [applyWrite_portAdmin] at h
    exact (Except.ok.inj h).symm
  | cliPoe hstate hmode hport h =>
    subst hstate
    have hcommand : InterfaceCommand.ofText (Cli.CliModelSpec.poeAdmin on) = some (.poe on) := by
      cases on <;> decide
    rw [VirtualCliFace.run_interface hmode hport (by cases on <;> decide) hcommand] at h
    obtain ⟨hstate, hreply⟩ := Prod.mk.inj h
    rw [← hstate]
    exact interfaceCommand_poe (CliReply.text.inj hreply)
  | cliLink hstate hmode hport h =>
    subst hstate
    have hcommand : InterfaceCommand.ofText (Cli.CliModelSpec.portAdmin on) =
        some (.shutdown on) := by
      cases on <;> decide
    rw [VirtualCliFace.run_interface hmode hport (by cases on <;> decide) hcommand] at h
    obtain ⟨hstate, hreply⟩ := Prod.mk.inj h
    rw [← hstate]
    exact interfaceCommand_shutdown (CliReply.text.inj hreply)
  | xuiPoe hrow hport hbutton happly hvalue h =>
    rw [applyPoe, if_pos happly, hrow] at h
    have hkeeps : (on || !WriteFace.dropsLink .xui .poe) = true := Bool.or_true on
    have hpoe : setPoeAdmin on = WriteFace.togglePoe .xui on := by
      funext sim
      cases on <;> rfl
    rw [applyPoeRows_row hport hbutton hvalue h, toggled, modify_toggleLink_of_keeps hkeeps, ite_self,
      hpoe]
  | xuiLink hrow hport happly hvalue h =>
    rw [applyPorts, applyPortAdmin, if_pos happly, hrow] at h
    have hkeeps : (on || !WriteFace.dropsLink .xui .link) = true := Bool.or_true on
    have hsim : ∀ sim : PortSim, { WriteFace.toggleLink .xui .link on sim with admin := on } =
        { sim with admin := on } := by
      intro sim
      rw [WriteFace.toggleLink, hkeeps, Bool.and_true]
    rw [applyPortAdminRows_row hport hvalue h, toggled, funext hsim]
  | plusPoe h => exact of_applyPlusPoe_poeApplyForm h
  | settingsLink hport h => exact of_applyPortSettings_gs110emxPortAdminForm hport h
  | goAheadPoe hport h =>
    rw [applyXml_poeAdminBody s hport] at h
    split_ifs at h
    · exact (Prod.mk.inj h).1.symm
    · cases (Prod.mk.inj h).2
  | goAheadLink hport h =>
    rw [applyXml_portAdminBody s hport] at h
    split_ifs at h
    · exact (Prod.mk.inj h).1.symm
    · cases (Prod.mk.inj h).2

/-! ## §4 When two faces agree -/

/-- `s'` is `s` but for the admin flags, the detection code and the link flag of a port. -/
def OnlyFlags (s : VirtualSwitchState) (p : ℤ) (s' : VirtualSwitchState) : Prop :=
  ∃ (poeAdmin : Bool) (detect : ℤ) (admin link : Bool), s' = { s with
    poe := s.poe.modify p fun sim => { sim with admin := poeAdmin, detect := detect }
    ports := s.ports.modify p fun sim => { sim with admin := admin, link := link } }

/-- The two writes leave the same device, and nothing of it has changed but the flags. -/
def SameWrite (s : VirtualSwitchState) (p : ℤ) (s₁ s₂ : VirtualSwitchState) : Prop :=
  s₁ = s₂ ∧ OnlyFlags s p s₁

/-- The link of the port is down, or there is no such port. -/
def LinkDown (s : VirtualSwitchState) (p : ℤ) : Prop :=
  ∀ sim, s.ports.get? p = some sim → sim.link = false

end VirtualSwitchState

/-- Two faces leave the same code on a port that shows `detect` when its PoE is turned on. -/
def WriteFace.ShowAlike (detect : ℤ) : WriteFace → WriteFace → Prop
  | .xui, .xui | .goAhead, .goAhead => True
  | .xui, .goAhead | .goAhead, .xui => detect = 1 ∨ detect = 2
  | .goAhead, _ | _, .goAhead => False
  | .xui, _ | _, .xui => detect = 3
  | _, _ => True

namespace VirtualSwitchState

variable {s : VirtualSwitchState} {p : ℤ}

/-- Two faces have the same effect where a port is turned on or off. -/
def FacesAgree (s : VirtualSwitchState) (p : ℤ) (on : Bool) (f g : WriteFace) : PortToggle → Prop
  | .poe => ∀ sim, s.poe.get? p = some sim →
    if on then f.ShowAlike sim.detect g ∧
      (f.sharesRule = true ∨ g.sharesRule = true → sim.admin = true ∨ sim.cliStatusLagReads = 1)
    else f.sharesRule = g.sharesRule ∨ s.LinkDown p
  | .link => on = true ∨ f.dropsLink .link = g.dropsLink .link ∨ s.LinkDown p

theorem tables_eq_iff {poe poe' : PyDict ℤ PoeSim} {ports ports' : PyDict ℤ PortSim} :
    ({ s with poe := poe, ports := ports } : VirtualSwitchState) =
      { s with poe := poe', ports := ports' } ↔ poe = poe' ∧ ports = ports' := by
  constructor
  · intro h
    exact ⟨congrArg VirtualSwitchState.poe h, congrArg VirtualSwitchState.ports h⟩
  · rintro ⟨rfl, rfl⟩
    rfl

theorem onlyFlags_modify {f : PoeSim → PoeSim} {g : PortSim → PortSim}
    (hf : ∀ sim, s.poe.get? p = some sim →
      f sim = { sim with admin := (f sim).admin, detect := (f sim).detect })
    (hg : ∀ sim, s.ports.get? p = some sim →
      g sim = { sim with admin := (g sim).admin, link := (g sim).link }) :
    s.OnlyFlags p { s with poe := s.poe.modify p f, ports := s.ports.modify p g } := by
  refine ⟨((s.poe.get? p).map fun sim => (f sim).admin).getD false,
    ((s.poe.get? p).map fun sim => (f sim).detect).getD 0,
    ((s.ports.get? p).map fun sim => (g sim).admin).getD false,
    ((s.ports.get? p).map fun sim => (g sim).link).getD false, tables_eq_iff.mpr ⟨?_, ?_⟩⟩
  · refine PyDict.modify_eq_modify_iff.mpr fun sim hsim => ?_
    rw [hsim]
    exact hf sim hsim
  · refine PyDict.modify_eq_modify_iff.mpr fun sim hsim => ?_
    rw [hsim]
    exact hg sim hsim

/-- A PoE write leaves the rest of the device unless it is the one that a re-enable is pending
of. -/
theorem onlyFlags_toggledPoe_iff {f : WriteFace} {on : Bool} :
    s.OnlyFlags p (s.toggled f .poe p on) ↔ ∀ sim, s.poe.get? p = some sim →
      f.sharesRule = true ∧ on = true → sim.admin = true ∨ sim.cliStatusLagReads = 1 := by
  have hpending : ∀ sim : PoeSim, (f.togglePoe on sim).cliStatusLagReads = sim.cliStatusLagReads ↔
      (f.sharesRule = true ∧ on = true → sim.admin = true ∨ sim.cliStatusLagReads = 1) := by
    intro sim
    unfold WriteFace.togglePoe
    cases hshares : f.sharesRule <;> cases on <;> cases hadmin : sim.admin <;>
      simp [eq_comm]
  constructor
  · rintro ⟨poeAdmin, detect, admin, link, heq⟩ sim hsim
    have hpoe : s.poe.modify p (f.togglePoe on) = s.poe.modify p fun sim =>
        { sim with admin := poeAdmin, detect := detect } := congrArg VirtualSwitchState.poe heq
    have hlag := congrArg PoeSim.cliStatusLagReads (PyDict.modify_eq_modify_iff.mp hpoe sim hsim)
    exact (hpending sim).mp hlag
  · intro h
    have hports : (if p ∈ s.poe then s.ports.modify p (f.toggleLink .poe on) else s.ports) =
        s.ports.modify p (if p ∈ s.poe then f.toggleLink .poe on else id) := by
      split_ifs
      · rfl
      · exact (PyDict.modify_eq_self_iff.mpr fun _ _ => rfl).symm
    rw [toggled, hports]
    refine onlyFlags_modify (fun sim hsim => ?_) fun sim _ => ?_
    · have hlag := (hpending sim).mpr (h sim hsim)
      rw [← hlag]
      rfl
    · split_ifs <;> rfl

theorem onlyFlags_toggledLink (s : VirtualSwitchState) (p : ℤ) (f : WriteFace) (on : Bool) :
    s.OnlyFlags p (s.toggled f .link p on) := by
  have hpoe : s.poe = s.poe.modify p id := (PyDict.modify_eq_self_iff.mpr fun _ _ => rfl).symm
  have hsplit : s.toggled f .link p on = { s with
      poe := s.poe.modify p id
      ports := s.ports.modify p fun sim => { f.toggleLink .link on sim with admin := on } } :=
    tables_eq_iff.mpr ⟨hpoe, rfl⟩
  rw [hsplit]
  exact onlyFlags_modify (fun sim _ => rfl) fun sim _ => rfl

/-- Where neither of two faces drops the link, or both do, or it is down, they leave it alike. -/
theorem modify_toggleLink_eq_iff {f g : WriteFace} {t : PortToggle} {on : Bool} :
    s.ports.modify p (f.toggleLink t on) = s.ports.modify p (g.toggleLink t on) ↔
      on = true ∨ f.dropsLink t = g.dropsLink t ∨ s.LinkDown p := by
  have hsim : ∀ sim : PortSim, f.toggleLink t on sim = g.toggleLink t on sim ↔
      on = true ∨ f.dropsLink t = g.dropsLink t ∨ sim.link = false := by
    intro sim
    have hlink : f.toggleLink t on sim = g.toggleLink t on sim ↔
        (sim.link && (on || !f.dropsLink t)) = (sim.link && (on || !g.dropsLink t)) :=
      ⟨fun h => congrArg PortSim.link h, fun h => by rw [WriteFace.toggleLink, WriteFace.toggleLink, h]⟩
    rw [hlink]
    cases sim.link <;> cases on <;> cases f.dropsLink t <;> cases g.dropsLink t <;> decide
  rw [PyDict.modify_eq_modify_iff]
  simp only [hsim, LinkDown]
  constructor
  · intro h
    by_cases hon : on = true
    · exact .inl hon
    by_cases hdrops : f.dropsLink t = g.dropsLink t
    · exact .inr (.inl hdrops)
    · refine .inr (.inr fun sim hget => ?_)
      rcases h sim hget with h | h | h
      · exact absurd h hon
      · exact absurd h hdrops
      · exact h
  · rintro (h | h | h) sim hget
    · exact .inl h
    · exact .inr (.inl h)
    · exact .inr (.inr (h sim hget))

/-- An enabled port: the two faces leave the same of it, and the pending re-enable as it was. -/
theorem togglePoe_on_iff {f g : WriteFace} (sim : PoeSim) :
    f.togglePoe true sim = g.togglePoe true sim ∧
        (f.sharesRule = true → sim.admin = true ∨ sim.cliStatusLagReads = 1) ↔
      f.ShowAlike sim.detect g ∧ (f.sharesRule = true ∨ g.sharesRule = true →
        sim.admin = true ∨ sim.cliStatusLagReads = 1) := by
  obtain ⟨admin, detect, powerMw, lag⟩ := sim
  have hxui : (if detect = 1 then 2 else detect) = 3 ↔ detect = 3 := by
    split_ifs <;> omega
  have hgoAhead : 2 = (if detect = 1 then 2 else detect) ↔ detect = 1 ∨ detect = 2 := by
    split_ifs <;> omega
  cases f <;> cases g <;> cases admin <;>
    simp [WriteFace.togglePoe, WriteFace.ShowAlike, WriteFace.sharesRule, hxui, hgoAhead, eq_comm]

theorem togglePoe_off (f g : WriteFace) (sim : PoeSim) :
    f.togglePoe false sim = g.togglePoe false sim := by
  simp [WriteFace.togglePoe]

theorem sameWrite_toggledPoe_iff {f g : WriteFace} {on : Bool} :
    s.SameWrite p (s.toggled f .poe p on) (s.toggled g .poe p on) ↔
      s.FacesAgree p on f g .poe := by
  have hequal : s.toggled f .poe p on = s.toggled g .poe p on ↔
      (∀ sim, s.poe.get? p = some sim → f.togglePoe on sim = g.togglePoe on sim) ∧
        (p ∈ s.poe → on = true ∨ f.sharesRule = g.sharesRule ∨ s.LinkDown p) := by
    refine tables_eq_iff.trans (and_congr PyDict.modify_eq_modify_iff ?_)
    by_cases hmem : p ∈ s.poe
    · rw [if_pos hmem, if_pos hmem, modify_toggleLink_eq_iff]
      exact ⟨fun h _ => h, fun h => h hmem⟩
    · rw [if_neg hmem, if_neg hmem]
      exact ⟨fun _ h => absurd h hmem, fun _ => rfl⟩
  rw [SameWrite, hequal, onlyFlags_toggledPoe_iff, FacesAgree]
  cases hpoe : s.poe.get? p with
  | none =>
    have hmem : p ∉ s.poe := PyDict.not_mem_iff.mpr hpoe
    have hnone : ∀ q : PoeSim → Prop, ∀ sim, none = some sim → q sim := by
      intro q sim h
      cases h
    exact ⟨fun _ => hnone _, fun _ => ⟨⟨hnone _, fun h => absurd h hmem⟩, hnone _⟩⟩
  | some sim =>
    have hmem : p ∈ s.poe := PyDict.mem_iff.mpr ⟨sim, hpoe⟩
    have honly : ∀ q : PoeSim → Prop, (∀ sim', some sim = some sim' → q sim') ↔ q sim := by
      intro q
      exact ⟨fun h => h sim rfl, fun h sim' heq => Option.some.inj heq ▸ h⟩
    simp only [honly, forall_const, hmem]
    cases on with
    | true =>
      simp only [if_true, and_true, true_or]
      exact togglePoe_on_iff sim
    | false => simp [togglePoe_off f g sim]

theorem sameWrite_toggledLink_iff {f g : WriteFace} {on : Bool} :
    s.SameWrite p (s.toggled f .link p on) (s.toggled g .link p on) ↔
      s.FacesAgree p on f g .link := by
  have hequal : s.toggled f .link p on = s.toggled g .link p on ↔
      s.ports.modify p (f.toggleLink .link on) = s.ports.modify p (g.toggleLink .link on) := by
    refine (tables_eq_iff.trans (and_iff_right rfl)).trans ?_
    rw [PyDict.modify_eq_modify_iff, PyDict.modify_eq_modify_iff]
    refine forall_congr' fun sim => imp_congr_right fun _ => ?_
    refine ⟨fun h => ?_, fun h => by rw [h]⟩
    have hlink : (sim.link && (on || !f.dropsLink .link)) =
        (sim.link && (on || !g.dropsLink .link)) := congrArg PortSim.link h
    rw [WriteFace.toggleLink, WriteFace.toggleLink, hlink]
  rw [SameWrite, hequal, modify_toggleLink_eq_iff]
  exact and_iff_left (onlyFlags_toggledLink s p f on)

/-- **One write, two faces.**  The same switch of a port, carried by two faces, leaves the same
device with nothing changed but the flags exactly where the rules of the two agree: the codes they
give an enabled PoE port, the pending status of a re-enabled one, and whether a link drops that is
not down already. -/
theorem sameWrite_iff {on : Bool} {f g : WriteFace} {t : PortToggle} {s₁ s₂ : VirtualSwitchState}
    (h₁ : Carried s p on f t s₁) (h₂ : Carried s p on g t s₂) :
    s.SameWrite p s₁ s₂ ↔ s.FacesAgree p on f g t := by
  rw [toggled_of_carried h₁, toggled_of_carried h₂]
  cases t with
  | poe => exact sameWrite_toggledPoe_iff
  | link => exact sameWrite_toggledLink_iff

end VirtualSwitchState

/-- A GS728TPP whose only PoE port is turned off. -/
def poeOffState : VirtualSwitchState where
  modelKey := .gs728tpp
  ports := .ofList [(1, { name := "g1".toList, admin := true, link := false, speed := 0 })]
  vlans := .ofList [(1, { name := "default".toList })]
  poe := .ofList [(1, { admin := false, detect := 1 })]

theorem carried_snmp_poeOffState :
    Carried poeOffState 1 true .snmp .poe (poeOffState.toggled .snmp .poe 1 true) :=
  .snmpPoe rfl (VirtualSwitchState.applyWrite_poeAdmin poeOffState 1 true)

theorem carried_goAhead_poeOffState :
    Carried poeOffState 1 true .goAhead .poe (poeOffState.toggled .goAhead .poe 1 true) := by
  have happlied := @VirtualSwitchState.applyXml_poeAdminBody 1 poeOffState (by decide) true
  rw [if_pos (printable_of_lt (k := 20) (by decide) (by decide) (by decide))] at happlied
  exact .goAheadPoe (by decide) happlied

/-- SNMP and the GoAhead UI on it. -/
theorem sameWrite_iff_poeOffState :
    poeOffState.SameWrite 1 (poeOffState.toggled .snmp .poe 1 true)
        (poeOffState.toggled .goAhead .poe 1 true) ↔
      poeOffState.FacesAgree 1 true .snmp .goAhead .poe :=
  VirtualSwitchState.sameWrite_iff carried_snmp_poeOffState carried_goAhead_poeOffState

/-- Turned on over SNMP the port delivers, and over the GoAhead UI it searches. -/
theorem not_sameWrite_poeOffState :
    ¬ ∀ (s : VirtualSwitchState) (p : ℤ) (on : Bool) (f g : WriteFace) (t : PortToggle)
        (s₁ s₂ : VirtualSwitchState), Carried s p on f t s₁ → Carried s p on g t s₂ →
      s.SameWrite p s₁ s₂ := by
  intro h
  obtain ⟨hequal, -⟩ := h poeOffState 1 true .snmp .goAhead .poe _ _ carried_snmp_poeOffState
    carried_goAhead_poeOffState
  have hdetect := congrArg (fun s => (s.poe.get? 1).map PoeSim.detect) hequal
  exact absurd hdetect (by decide)

end NetgearSwitch.Virtual
