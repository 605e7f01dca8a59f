import NetgearSwitch.Lib.RunUntil
import NetgearSwitch.Virtual.WebForms
import NetgearSwitch.Virtual.WebGs728tpp

/-!
# Web writes that are refused

A form of a FASTPATH XUI page may have many checked rows, and a body of the GoAhead UI many
sections.  They are applied in turn and each is checked when its turn comes, so that a refusal
leaves what the rows or sections in front of it have done.

§1 the rows of a port form · §2 the rows of a PoE form · §3 the sections of a body · §4 when a
refused request has changed nothing
-/

namespace NetgearSwitch.Virtual

open Http PyText

namespace VirtualSwitchState

variable {s : VirtualSwitchState} {form : Form} {ports : List ℤ}

/-! ## §1 The rows of a port form -/

/-- The answer that a checked row of a port form stops the loop with. -/
def portRowCheck (form : Form) (ports : List ℤ) (row : Text) : Option WebReply :=
  (form.get? (row ++ "v_1_2_6".toList)).bind fun value =>
    if value ≠ "Enable".toList ∧ value ≠ "Disable".toList then
      some (.refused (failedToSet "Admin <br/> Mode" value))
    else if rowPort ports row = none then some .raised
    else none

/-- The port that a row writes, and its flag. -/
def portRowWrite (form : Form) (ports : List ℤ) (row : Text) : Option (ℤ × Bool) :=
  (form.get? (row ++ "v_1_2_6".toList)).bind fun value =>
    ((rowPort ports row).join).map fun port => (port, decide (value = "Enable".toList))

/-- The rows in front of the one that a port form stops at. -/
def portRowsApplied (form : Form) (ports : List ℤ) (rows : List Text) : List Text :=
  RunUntil.applied (fun _ => portRowCheck form ports) (fun u _ => u) rows ()

/-- The answer that a port form stops with. -/
def portRowsRefusal (form : Form) (ports : List ℤ) (rows : List Text) : Option WebReply :=
  RunUntil.refusal (fun _ => portRowCheck form ports) (fun u _ => u) rows ()

def setAdmin (on : Bool) (sim : PortSim) : PortSim := { sim with admin := on }

/-- What a row does that the loop does not stop at. -/
def portRowEffect (form : Form) (ports : List ℤ) (s : VirtualSwitchState) (row : Text) :
    VirtualSwitchState :=
  match portRowWrite form ports row with
  | none => s
  | some w => { s with ports := s.ports.modify w.1 (setAdmin w.2) }

theorem applyPortAdminRows_eq_run (form : Form) (ports : List ℤ) (rows : List Text)
    (s : VirtualSwitchState) :
    applyPortAdminRows form ports rows s =
      ((RunUntil.run (fun _ => portRowCheck form ports) (portRowEffect form ports) rows s).1,
        (RunUntil.run (fun _ => portRowCheck form ports) (portRowEffect form ports) rows
          s).2.getD .accepted) := by
  induction rows generalizing s with
  | nil => rfl
  | cons row rows ih =>
    rw [applyPortAdminRows, RunUntil.run]
    unfold portRowCheck portRowEffect portRowWrite at ih ⊢
    cases form.get? (row ++ "v_1_2_6".toList) with
    | none => exact ih s
    | some value =>
      dsimp only [Option.bind_some]
      by_cases hword : value ≠ "Enable".toList ∧ value ≠ "Disable".toList
      · rw [if_pos hword, if_pos hword]
        rfl
      · rw [if_neg hword, if_neg hword]
        cases rowPort ports row with
        | none => rfl
        | some port =>
          cases port with
          | none => exact ih s
          | some port => exact ih _

theorem foldl_portRowEffect (rows : List Text) (s : VirtualSwitchState) :
    rows.foldl (portRowEffect form ports) s = { s with
      ports := (rows.filterMap (portRowWrite form ports)).foldl
        (fun d w => d.modify w.1 (setAdmin w.2)) s.ports } := by
  induction rows generalizing s with
  | nil => rfl
  | cons row rows ih =>
    rw [List.foldl_cons, ih, List.filterMap_cons, portRowEffect]
    cases portRowWrite form ports row <;> rfl

/-- The flags that a port form sets before it stops, row by row. -/
def portRowsWrites (form : Form) (ports : List ℤ) (rows : List Text) : List (ℤ × Bool) :=
  (portRowsApplied form ports rows).filterMap (portRowWrite form ports)

theorem applyPortAdminRows_eq (form : Form) (ports : List ℤ) (rows : List Text)
    (s : VirtualSwitchState) :
    applyPortAdminRows form ports rows s =
      ({ s with
          ports := (portRowsWrites form ports rows).foldl (fun d w => d.modify w.1 (setAdmin w.2))
            s.ports },
        (portRowsRefusal form ports rows).getD .accepted) := by
  have hrun : RunUntil.run (fun _ => portRowCheck form ports) (portRowEffect form ports) rows s =
      ((portRowsApplied form ports rows).foldl (portRowEffect form ports) s,
        portRowsRefusal form ports rows) :=
    RunUntil.run_of_const _ _ rows s
  rw [applyPortAdminRows_eq_run, hrun, foldl_portRowEffect]
  rfl

/-- The last flag that the rows give each port is the one it has. -/
def PortFlagsStand (s : VirtualSwitchState) (writes : List (ℤ × Bool)) : Prop :=
  ∀ p sim on, s.ports.get? p = some sim → RunUntil.lastFor writes p = some on → sim.admin = on

theorem fst_applyPortAdminRows_eq_self_iff {rows : List Text} :
    (applyPortAdminRows form ports rows s).1 = s ↔
      s.PortFlagsStand (portRowsWrites form ports rows) := by
  have hstate : (applyPortAdminRows form ports rows s).1 = s ↔
      (portRowsWrites form ports rows).foldl (fun d w => d.modify w.1 (setAdmin w.2)) s.ports =
        s.ports := by
    rw [applyPortAdminRows_eq]
    exact ⟨fun h => congrArg VirtualSwitchState.ports h, fun h => by rw [h]⟩
  have hset : ∀ (on : Bool) (sim : PortSim), setAdmin on sim = sim ↔ sim.admin = on :=
    fun on sim => ⟨fun h => (congrArg PortSim.admin h).symm, fun h => by rw [setAdmin, ← h]⟩
  have hover : ∀ (w v : Bool) (sim : PortSim), setAdmin w (setAdmin v sim) = setAdmin w sim :=
    fun _ _ _ => rfl
  rw [hstate, RunUntil.foldl_modify_overwrite_eq_self_iff hover, PortFlagsStand]
  simp only [hset]

/-! ## §2 The rows of a PoE form -/

/-- The button of the form re-arms detection. -/
def isResetForm (form : Form) : Bool := pressed form ["v_2_1_3", "v_2_1_2"] = some "v_2_1_3"

/-- The answer that a checked row of a PoE form stops the loop with. -/
def poeRowCheck (form : Form) (unitRequired : Bool) (ports : List ℤ) (row : Text) :
    Option WebReply :=
  if unitRequired && !hasListUnit form then some (.refused (noListUnitRefusal form row))
  else
    match rowPort ports row with
    | none => some .raised
    | some none => none
    | some (some _) =>
      if isResetForm form then
        (form.get? (row ++ "v_1_2_20".toList)).bind fun value =>
          if value = "Reset".toList ∨ value = "None".toList then none
          else some (.refused (failedToSet "Port Reset" value))
      else
        (form.get? (row ++ "v_1_2_2".toList)).bind fun admin =>
          if admin ≠ "Enable".toList ∧ admin ≠ "Disable".toList then
            some (.refused (failedToSet "Admin <br/> Mode" admin))
          else none

/-- The port that a row writes, and its flag; no flag where the row re-arms the port. -/
def poeRowWrite (form : Form) (ports : List ℤ) (row : Text) : Option (ℤ × Option Bool) :=
  (rowPort ports row).join.bind fun port =>
    if isResetForm form then
      (form.get? (row ++ "v_1_2_20".toList)).bind fun value =>
        if value = "Reset".toList then some (port, none) else none
    else
      (form.get? (row ++ "v_1_2_2".toList)).map fun admin =>
        (port, some (decide (admin = "Enable".toList)))

/-- What a row makes of its port. -/
def poeRowAct : Option Bool → PoeSim → PoeSim
  | none => resetPoe
  | some on => setPoeAdmin on

/-- What a row does that the loop does not stop at. -/
def poeRowEffect (form : Form) (ports : List ℤ) (s : VirtualSwitchState) (row : Text) :
    VirtualSwitchState :=
  match poeRowWrite form ports row with
  | none => s
  | some w => { s with poe := s.poe.modify w.1 (poeRowAct w.2) }

theorem applyPoeRows_eq_run (form : Form) (unitRequired : Bool) (ports : List ℤ)
    (rows : List Text) (s : VirtualSwitchState) :
    applyPoeRows form unitRequired ports rows s =
      ((RunUntil.run (fun _ => poeRowCheck form unitRequired ports) (poeRowEffect form ports) rows
          s).1,
        (RunUntil.run (fun _ => poeRowCheck form unitRequired ports) (poeRowEffect form ports) rows
          s).2.getD .accepted) := by
  induction rows generalizing s with
  | nil => rfl
  | cons row rows ih =>
    rw [applyPoeRows, RunUntil.run]
    unfold poeRowCheck poeRowEffect poeRowWrite at ih ⊢
    by_cases hunit : (unitRequired && !hasListUnit form) = true
    · rw [if_pos hunit, if_pos hunit]
      rfl
    rw [if_neg hunit, if_neg hunit]
    cases rowPort ports row with
    | none => rfl
    | some port =>
      cases port with
      | none => exact ih s
      | some port =>
        dsimp only [Option.join_some, Option.bind_some]
        by_cases hreset : isResetForm form = true
        · have hpressed : pressed form ["v_2_1_3", "v_2_1_2"] = some "v_2_1_3" :=
            of_decide_eq_true hreset
          rw [if_pos hpressed, if_pos hreset, if_pos hreset]
          cases form.get? (row ++ "v_1_2_20".toList) with
          | none => exact ih s
          | some value =>
            dsimp only [Option.bind_some]
            by_cases hvalue : value = "Reset".toList
            · rw [if_pos hvalue, if_pos (.inl hvalue), if_pos hvalue]
              exact ih _
            · by_cases hnone : value = "None".toList
              · rw [if_neg hvalue, if_pos hnone, if_pos (.inr hnone), if_neg hvalue]
                exact ih s
              · rw [if_neg hvalue, if_neg hnone, if_neg (not_or.mpr ⟨hvalue, hnone⟩)]
                rfl
        · have hpressed : ¬ pressed form ["v_2_1_3", "v_2_1_2"] = some "v_2_1_3" :=
            fun h => hreset (decide_eq_true h)
          rw [if_neg hpressed, if_neg hreset, if_neg hreset]
          cases form.get? (row ++ "v_1_2_2".toList) with
          | none => exact ih s
          | some admin =>
            dsimp only [Option.bind_some, Option.map_some]
            by_cases hword : admin ≠ "Enable".toList ∧ admin ≠ "Disable".toList
            · rw [if_pos hword, if_pos hword]
              rfl
            · rw [if_neg hword, if_neg hword]
              exact ih _

/-- What a PoE form writes before it stops, row by row. -/
def poeRowsWrites (form : Form) (unitRequired : Bool) (ports : List ℤ) (rows : List Text) :
    List (ℤ × Option Bool) :=
  (RunUntil.applied (fun _ => poeRowCheck form unitRequired ports) (fun u _ => u) rows ()).filterMap
    (poeRowWrite form ports)

/-- The answer that a PoE form stops with. -/
def poeRowsRefusal (form : Form) (unitRequired : Bool) (ports : List ℤ) (rows : List Text) :
    Option WebReply :=
  RunUntil.refusal (fun _ => poeRowCheck form unitRequired ports) (fun u _ => u) rows ()

theorem foldl_poeRowEffect (rows : List Text) (s : VirtualSwitchState) :
    rows.foldl (poeRowEffect form ports) s = { s with
      poe := (rows.filterMap (poeRowWrite form ports)).foldl
        (fun d w => d.modify w.1 (poeRowAct w.2)) s.poe } := by
  induction rows generalizing s with
  | nil => rfl
  | cons row rows ih =>
    rw [List.foldl_cons, ih, List.filterMap_cons, poeRowEffect]
    cases poeRowWrite form ports row <;> rfl

theorem applyPoeRows_eq (form : Form) (unitRequired : Bool) (ports : List ℤ) (rows : List Text)
    (s : VirtualSwitchState) :
    applyPoeRows form unitRequired ports rows s =
      ({ s with
          poe := (poeRowsWrites form unitRequired ports rows).foldl
            (fun d w => d.modify w.1 (poeRowAct w.2)) s.poe },
        (poeRowsRefusal form unitRequired ports rows).getD .accepted) := by
  have hrun : RunUntil.run (fun _ => poeRowCheck form unitRequired ports) (poeRowEffect form ports)
      rows s = ((RunUntil.applied (fun _ => poeRowCheck form unitRequired ports) (fun u _ => u) rows
        ()).foldl (poeRowEffect form ports) s, poeRowsRefusal form unitRequired ports rows) :=
    RunUntil.run_of_const _ _ rows s
  rw [applyPoeRows_eq_run, hrun, foldl_poeRowEffect]
  rfl

/-- The button decides for all rows whether they re-arm or set a flag. -/
theorem isNone_of_mem_poeRowsWrites {unitRequired : Bool} {rows : List Text} {w : ℤ × Option Bool}
    (h : w ∈ poeRowsWrites form unitRequired ports rows) : w.2.isNone = isResetForm form := by
  obtain ⟨row, -, hw⟩ := List.mem_filterMap.mp h
  obtain ⟨port, -, hw⟩ := Option.bind_eq_some_iff.mp hw
  split_ifs at hw with hreset
  · obtain ⟨value, -, hw⟩ := Option.bind_eq_some_iff.mp hw
    split_ifs at hw
    cases hw
    exact hreset.symm
  · obtain ⟨admin, -, rfl⟩ := Option.map_eq_some_iff.mp hw
    exact (Bool.eq_false_iff.mpr hreset).symm

/-- What flags in turn make of a PoE port. -/
theorem foldl_setPoeAdmin (flags : List Bool) (sim : PoeSim) {on : Bool}
    (h : flags.getLast? = some on) :
    flags.foldl (fun sim on => setPoeAdmin on sim) sim = { sim with
      admin := on
      detect := if !on then 1 else if false ∈ flags then 2 else if sim.detect = 1 then 2
        else sim.detect } := by
  induction flags using List.reverseRecOn generalizing on with
  | nil => cases h
  | append_singleton flags b ih =>
    rw [List.getLast?_append, List.getLast?_singleton, Option.some_or] at h
    cases h
    rw [List.foldl_append, List.foldl_cons, List.foldl_nil]
    cases hlast : flags.getLast? with
    | none =>
      rw [List.getLast?_eq_none_iff.mp hlast]
      cases b <;> rfl
    | some c =>
      have hmem : c ∈ flags := List.mem_of_getLast? hlast
      rw [ih hlast, setPoeAdmin]
      cases b with
      | false => rfl
      | true =>
        cases c with
        | false => simp [hmem]
        | true =>
          by_cases hoff : false ∈ flags
          · simp [hoff]
          · by_cases hone : sim.detect = 1 <;> simp [hoff, hone]

/-- Flags in turn leave a PoE port: the last is the one it has, and its code is the one they end
with. -/
def FlagsStand (flags : List Bool) (sim : PoeSim) : Prop :=
  ∀ on, flags.getLast? = some on → sim.admin = on ∧
    if on then (if false ∈ flags then sim.detect = 2 else sim.detect ≠ 1) else sim.detect = 1

theorem foldl_setPoeAdmin_eq_self_iff {flags : List Bool} {sim : PoeSim} :
    flags.foldl (fun sim on => setPoeAdmin on sim) sim = sim ↔ FlagsStand flags sim := by
  cases hlast : flags.getLast? with
  | none =>
    rw [List.getLast?_eq_none_iff.mp hlast]
    refine ⟨fun _ on h => ?_, fun _ => rfl⟩
    cases h
  | some on =>
    have hstand : FlagsStand flags sim ↔ sim.admin = on ∧
        if on then (if false ∈ flags then sim.detect = 2 else sim.detect ≠ 1)
        else sim.detect = 1 := by
      rw [FlagsStand, hlast]
      exact ⟨fun h => h on rfl, fun h on' heq => Option.some.inj heq ▸ h⟩
    rw [foldl_setPoeAdmin flags sim hlast, hstand]
    obtain ⟨admin, detect, powerMw, lag⟩ := sim
    simp only [PoeSim.mk.injEq, and_true]
    cases on with
    | false => simp [eq_comm]
    | true =>
      by_cases hoff : false ∈ flags
      · simp [hoff, eq_comm]
      · by_cases hone : detect = 1 <;> simp [hoff, hone, eq_comm]

/-- What a PoE form has written is what its ports had: a re-armed port shows its code already, and
the flags of the others stand. -/
def PoePortsStand (s : VirtualSwitchState) (writes : List (ℤ × Option Bool)) : Prop :=
  ∀ p sim, s.poe.get? p = some sim →
    ((p, none) ∈ writes → sim.detect = if sim.powerMw ≠ 0 then 3 else 2) ∧
      FlagsStand ((writes.filter fun w => w.1 = p).filterMap Prod.snd) sim

theorem foldl_poeRowAct_eq_self_iff {ws : List (ℤ × Option Bool)} {reset : Bool}
    (h : ∀ w ∈ ws, w.2.isNone = reset) (sim : PoeSim) :
    ws.foldl (fun sim w => poeRowAct w.2 sim) sim = sim ↔
      ((∃ w ∈ ws, w.2 = none) → sim.detect = if sim.powerMw ≠ 0 then 3 else 2) ∧
        FlagsStand (ws.filterMap Prod.snd) sim := by
  cases reset with
  | true =>
    -- every row re-arms, and the last of them is as good as all
    have hnone : ∀ w ∈ ws, w.2 = none := fun w hw => Option.isNone_iff_eq_none.mp (h w hw)
    have hfold : ws.foldl (fun sim w => poeRowAct w.2 sim) sim =
        ws.foldl (fun sim _ => resetPoe sim) sim :=
      List.foldl_ext _ _ _ fun sim w hw => by rw [hnone w hw]; rfl
    have hover : ∀ (w v : ℤ × Option Bool) (sim : PoeSim), resetPoe (resetPoe sim) = resetPoe sim :=
      fun _ _ _ => rfl
    have hreset : resetPoe sim = sim ↔ sim.detect = if sim.powerMw ≠ 0 then 3 else 2 :=
      ⟨fun h => (congrArg PoeSim.detect h).symm, fun h => by rw [resetPoe, ← h]⟩
    have hflags : ws.filterMap Prod.snd = [] := List.filterMap_eq_nil_iff.mpr hnone
    have hstand : FlagsStand [] sim := by
      intro on hon
      cases hon
    rw [hfold, RunUntil.foldl_overwrite_eq_self_iff hover, hflags, and_iff_left hstand, hreset]
    constructor
    · rintro hlast ⟨w, hw, -⟩
      obtain ⟨v, hv⟩ := List.getLast?_isSome.mpr (List.ne_nil_of_mem hw) |> Option.isSome_iff_exists.mp
      exact hlast v hv
    · intro hall w hw
      exact hall ⟨w, List.mem_of_getLast? hw, hnone w (List.mem_of_getLast? hw)⟩
  | false =>
    have hsome : ¬ ∃ w ∈ ws, w.2 = none := by
      rintro ⟨w, hw, hnone⟩
      exact absurd (h w hw) (by rw [hnone]; decide)
    have hfold : (ws.filterMap Prod.snd).foldl (fun sim on => setPoeAdmin on sim) sim =
        ws.foldl (fun sim w => poeRowAct w.2 sim) sim := by
      rw [List.foldl_filterMap]
      refine List.foldl_ext _ _ _ fun sim w hw => ?_
      cases hflag : w.2 with
      | none => exact absurd ⟨w, hw, hflag⟩ hsome
      | some on => rfl
    rw [← hfold, foldl_setPoeAdmin_eq_self_iff]
    exact (and_iff_right fun h => absurd h hsome).symm

theorem fst_applyPoeRows_eq_self_iff {unitRequired : Bool} {rows : List Text} :
    (applyPoeRows form unitRequired ports rows s).1 = s ↔
      s.PoePortsStand (poeRowsWrites form unitRequired ports rows) := by
  have hstate : (applyPoeRows form unitRequired ports rows s).1 = s ↔
      (poeRowsWrites form unitRequired ports rows).foldl
        (fun d w => d.modify w.1 (poeRowAct w.2)) s.poe = s.poe := by
    rw [applyPoeRows_eq]
    exact ⟨fun h => congrArg VirtualSwitchState.poe h, fun h => by rw [h]⟩
  rw [hstate, RunUntil.foldl_modify_eq_self_iff, PoePortsStand]
  refine forall_congr' fun p => forall_congr' fun sim => imp_congr_right fun _ => ?_
  have hmem : (∃ w ∈ (poeRowsWrites form unitRequired ports rows).filter (fun w => w.1 = p),
      w.2 = none) ↔ (p, none) ∈ poeRowsWrites form unitRequired ports rows := by
    simp only [List.mem_filter, decide_eq_true_eq]
    constructor
    · rintro ⟨⟨q, flag⟩, ⟨hw, rfl⟩, rfl⟩
      exact hw
    · intro hw
      exact ⟨(p, none), ⟨hw, rfl⟩, rfl⟩
  rw [← hmem]
  exact foldl_poeRowAct_eq_self_iff
    (fun w hw => isNone_of_mem_poeRowsWrites (List.mem_of_mem_filter hw)) sim

end VirtualSwitchState

/-! ## §3 The sections of a body -/

/-- One element of a write body, in the section that it stands in. -/
inductive WcdStep
  | vlan (action : Text) (el : Xml)
  | membership (el : Xml)
  | member (action : Text) (vid : ℤ) (el : Xml)
  | pvid (iface : Xml)
  | poe (iface : Xml)
  | deviceName (sec : Xml)
  | standard (entry : Xml)

/-- A VLAN of a membership section is looked up, and its members are written one by one. -/
def membershipSteps (action : Text) (el : Xml) : List WcdStep :=
  .membership el ::
    ((membershipVlan el).map fun vid => (vlanMembers el).map (.member action vid)).getD []

/-- The tags of the sections that have a handler. -/
def handledTags : List String :=
  ["VLANList", "VLANMembershipList", "VLANInterfaceList", "PoEPSEInterfaceList", "DeviceBasicInfo",
    "Standard802_3List"]

/-- The elements of a section, in order. -/
def sectionSteps (sec : Xml) : List WcdStep :=
  if sec.hasTag "VLANList" then (sec.findAll "VLAN").map (.vlan (sectionAction sec))
  else if sec.hasTag "VLANMembershipList" then
    (sec.findAll "VLAN").flatMap (membershipSteps (sectionAction sec))
  else if sec.hasTag "VLANInterfaceList" then (sec.findAll "Interface").map .pvid
  else if sec.hasTag "PoEPSEInterfaceList" then (sec.findAll "Interface").map .poe
  else if sec.hasTag "DeviceBasicInfo" then [.deviceName sec]
  else if sec.hasTag "Standard802_3List" then (sec.findAll "Entry").map .standard
  else []

/-- `int(vid_text)` of a VLAN that is written. -/
def vlanNumber (el : Xml) : ℤ := ((intOfDigits (fieldText el "VLANID")).getD 0 : ℕ)

namespace WcdStep

/-- The answer that an element stops the loop with, on a switch with the VLANs `ids`. -/
def check (ids : Finset ℤ) : WcdStep → Option WcdReply
  | .vlan _ el =>
    if isDigitText (fieldText el "VLANID") then
      if (intOfDigits (fieldText el "VLANID")).isSome then none else some .raised
    else some (.status 2)
  | .membership el =>
    match membershipVlan el with
    | none => some .raised
    | some vid => if vid ∈ ids then none else some (.status 2)
  | .pvid iface =>
    match ifacePort iface with
    | none => some .raised
    | some none => none
    | some (some _) =>
      if isDigitText (fieldText iface "PVID") ∧ intOfDigits (fieldText iface "PVID") = none then
        some .raised
      else none
  | .member _ _ el | .poe el | .standard el => if (ifacePort el).isSome then none else some .raised
  | .deviceName _ => none

/-- The VLANs behind an element. -/
def idsAfter (ids : Finset ℤ) : WcdStep → Finset ℤ
  | .vlan action el =>
    if action = "delete".toList then ids.erase (vlanNumber el) else insert (vlanNumber el) ids
  | _ => ids

end WcdStep

/-- What an element does to a VLAN. -/
inductive VlanWrite
  | drop
  | name (t : Text)
  | member (action : Text) (el : Xml)

/-- A `VLANMember` whose interface can be read is written to the VLAN. -/
def VlanSim.withMember (action : Text) (el : Xml) (vlan : VlanSim) : VlanSim :=
  (VirtualSwitchState.applyVlanMember action vlan el).getD vlan

/-- What is there of the VLAN afterwards. -/
def VlanWrite.act : VlanWrite → Option VlanSim → Option VlanSim
  | .drop, _ => none
  | .name t, vlan => some ((vlan.map fun vlan => { vlan with name := t }).getD { name := t })
  | .member action el, vlan => vlan.map (VlanSim.withMember action el)

/-- The VLAN table afterwards. -/
def writeVlan (vlans : PyDict ℤ VlanSim) (w : ℤ × VlanWrite) : PyDict ℤ VlanSim :=
  match w.2 with
  | .drop => vlans.pop w.1
  | .name t =>
    if w.1 ∈ vlans then vlans.modify w.1 fun vlan => { vlan with name := t }
    else vlans.set w.1 { name := t }
  | .member action el => vlans.modify w.1 (VlanSim.withMember action el)

namespace WcdStep

/-- The VLAN that an element writes, and what it does to it. -/
def vlanWrite : WcdStep → Option (ℤ × VlanWrite)
  | .vlan action el => some (vlanNumber el,
      if action = "delete".toList then .drop else .name (fieldText el "VLANName"))
  | .member action vid el => some (vid, .member action el)
  | _ => none

/-- The port whose PVID an element sets. -/
def pvidWrite : WcdStep → Option (ℤ × ℤ)
  | .pvid iface => (ifacePort iface).join.bind fun port =>
      if isDigitText (fieldText iface "PVID") then
        (intOfDigits (fieldText iface "PVID")).map fun vid : ℕ => (port, (vid : ℤ))
      else none
  | _ => none

/-- The port whose PoE an element turns on or off. -/
def poeWrite : WcdStep → Option (ℤ × Bool)
  | .poe iface => (ifacePort iface).join.bind fun port =>
      let admin := fieldText iface "adminEnable"
      if admin = ['1'] ∨ admin = ['2'] then some (port, decide (admin = ['1'])) else none
  | _ => none

/-- The port that an entry configures. -/
def entryWrite : WcdStep → Option (ℤ × Xml)
  | .standard entry => (ifacePort entry).join.map fun port => (port, entry)
  | _ => none

/-- The name that an element gives the device. -/
def nameWrite : WcdStep → Option Text
  | .deviceName sec => (sec.find "deviceName").map fun el => strip el.ownText
  | _ => none

end WcdStep

/-- What a PoE element leaves on its port. -/
def setWcdPoe (on : Bool) (sim : PoeSim) : PoeSim :=
  { sim with
    admin := on
    detect := if on then 2 else 1 }

namespace VirtualSwitchState

variable {s : VirtualSwitchState}

/-- What an element does that the loop does not stop at. -/
def stepEffect (s : VirtualSwitchState) (step : WcdStep) : VirtualSwitchState :=
  { s with
    vlans := (step.vlanWrite.map (writeVlan s.vlans)).getD s.vlans
    pvids := (step.pvidWrite.map fun w => s.pvids.set w.1 w.2).getD s.pvids
    poe := (step.poeWrite.map fun w => s.poe.modify w.1 (setWcdPoe w.2)).getD s.poe
    ports := (step.entryWrite.map fun w => s.ports.modify w.1 (applyStandardEntry w.2)).getD s.ports
    hostname := step.nameWrite.getD s.hostname }

/-- The loop over the elements of a body. -/
def runSteps (steps : List WcdStep) (s : VirtualSwitchState) :
    VirtualSwitchState × Option WcdReply :=
  RunUntil.run (fun s step => step.check s.vlanIds) stepEffect steps s

theorem runSteps_cons {step : WcdStep} {steps : List WcdStep} (h : step.check s.vlanIds = none) :
    runSteps (step :: steps) s = runSteps steps (s.stepEffect step) := by
  rw [runSteps, RunUntil.run, h]
  rfl

theorem runSteps_cons_stop {step : WcdStep} {steps : List WcdStep} {r : WcdReply}
    (h : step.check s.vlanIds = some r) : runSteps (step :: steps) s = (s, some r) := by
  rw [runSteps, RunUntil.run, h]

theorem applyVlanList_eq (action : Text) (els : List Xml) (s : VirtualSwitchState) :
    applyVlanList action els s = ((runSteps (els.map (.vlan action)) s).1,
      (runSteps (els.map (.vlan action)) s).2.getD (.status 0)) := by
  induction els generalizing s with
  | nil => rfl
  | cons el els ih =>
    have hcheck : ∀ ids, WcdStep.check ids (.vlan action el) =
        if isDigitText (fieldText el "VLANID") then
          if (intOfDigits (fieldText el "VLANID")).isSome then none else some .raised
        else some (.status 2) := fun _ => rfl
    rw [applyVlanList, List.map_cons]
    dsimp only
    cases hdigits : isDigitText (fieldText el "VLANID") with
    | false =>
      rw [runSteps_cons_stop ((hcheck _).trans (by rw [hdigits, if_neg Bool.false_ne_true]))]
      rfl
    | true =>
      rw [hdigits, if_pos rfl] at hcheck
      rw [Bool.not_true, if_neg Bool.false_ne_true]
      cases hint : intOfDigits (fieldText el "VLANID") with
      | none =>
        rw [runSteps_cons_stop ((hcheck _).trans (by rw [hint]; rfl))]
        rfl
      | some n =>
        have hnumber : vlanNumber el = n := by rw [vlanNumber, hint, Option.getD_some]
        rw [runSteps_cons ((hcheck _).trans (by rw [hint]; rfl))]
        dsimp only
        by_cases hdelete : action = "delete".toList
        · have heffect : s.stepEffect (.vlan action el) =
              { s with vlans := s.vlans.pop (n : ℤ) } := by
            rw [stepEffect, WcdStep.vlanWrite, if_pos hdelete, hnumber]
            rfl
          rw [if_pos hdelete, ← heffect]
          exact ih _
        · have heffect : s.stepEffect (.vlan action el) = { s with
              vlans := writeVlan s.vlans ((n : ℤ), .name (fieldText el "VLANName")) } := by
            rw [stepEffect, WcdStep.vlanWrite, if_neg hdelete, hnumber]
            rfl
          rw [if_neg hdelete]
          exact (congrArg (applyVlanList action els) heffect.symm).trans (ih _)

/-- A loop over elements each of which is a step. -/
theorem runSteps_map {step : Xml → WcdStep} {f : VirtualSwitchState → Xml → Option VirtualSwitchState}
    (hf : ∀ s x, f s x = if (step x).check s.vlanIds = none then some (s.stepEffect (step x)) else none)
    (hcheck : ∀ ids x r, (step x).check ids = some r → r = .raised) (els : List Xml)
    (s : VirtualSwitchState) : runSteps (els.map step) s =
      ((forEach f els s).1, if (forEach f els s).2 then none else some .raised) := by
  induction els generalizing s with
  | nil => rfl
  | cons el els ih =>
    rw [List.map_cons, forEach, hf]
    cases hstep : (step el).check s.vlanIds with
    | none =>
      rw [runSteps_cons hstep, if_pos rfl]
      exact ih _
    | some r =>
      rw [runSteps_cons_stop hstep, hcheck _ _ _ hstep]
      rfl

/-- The members of a VLAN that is there are written to it one by one. -/
theorem runSteps_members (action : Text) (els : List Xml) {s : VirtualSwitchState} {vid : ℤ}
    {vlan : VlanSim} (hvlan : s.vlans.get? vid = some vlan) :
    runSteps (els.map (.member action vid)) s =
      ({ s with vlans := s.vlans.set vid (forEach (applyVlanMember action) els vlan).1 },
        if (forEach (applyVlanMember action) els vlan).2 then none else some .raised) := by
  induction els generalizing s vlan with
  | nil =>
    rw [forEach, PyDict.set_get?_self hvlan]
    rfl
  | cons el els ih =>
    have hcheck : ∀ ids, WcdStep.check ids (.member action vid el) =
        if (ifacePort el).isSome then none else some .raised := fun _ => rfl
    have hsome : (applyVlanMember action vlan el).isSome = (ifacePort el).isSome := by
      rw [applyVlanMember, Option.isSome_map]
    rw [List.map_cons, forEach]
    cases hmember : applyVlanMember action vlan el with
    | none =>
      rw [hmember] at hsome
      rw [runSteps_cons_stop ((hcheck _).trans (by rw [← hsome]; rfl)), PyDict.set_get?_self hvlan]
      rfl
    | some vlan' =>
      rw [hmember] at hsome
      have hset : s.vlans.modify vid (VlanSim.withMember action el) = s.vlans.set vid vlan' := by
        rw [PyDict.set_eq_modify (PyDict.mem_iff.mpr ⟨vlan, hvlan⟩), PyDict.modify_eq_modify_iff]
        intro a ha
        rw [hvlan] at ha
        cases ha
        rw [VlanSim.withMember, hmember, Option.getD_some]
      have heffect : s.stepEffect (.member action vid el) =
          { s with vlans := s.vlans.set vid vlan' } :=
        congrArg (fun vlans => { s with vlans := vlans }) hset
      have hget : (s.vlans.set vid vlan').get? vid = some vlan' := by
        rw [PyDict.get?_set, if_pos rfl]
      rw [runSteps_cons ((hcheck _).trans (by rw [← hsome]; rfl)), heffect]
      refine (@ih { s with vlans := s.vlans.set vid vlan' } vlan' hget).trans ?_
      dsimp only
      rw [PyDict.set_set]

theorem applyVlanMembershipList_eq (action : Text) (els : List Xml) (s : VirtualSwitchState) :
    applyVlanMembershipList action els s = ((runSteps (els.flatMap (membershipSteps action)) s).1,
      (runSteps (els.flatMap (membershipSteps action)) s).2.getD (.status 0)) := by
  induction els generalizing s with
  | nil => rfl
  | cons el els ih =>
    have hcheck : ∀ ids, WcdStep.check ids (.membership el) =
        match membershipVlan el with
        | none => some .raised
        | some vid => if vid ∈ ids then none else some (.status 2) := fun _ => rfl
    rw [applyVlanMembershipList, List.flatMap_cons, membershipSteps, List.cons_append]
    cases hvid : membershipVlan el with
    | none =>
      rw [runSteps_cons_stop ((hcheck _).trans (by rw [hvid]))]
      rfl
    | some vid =>
      rw [hvid] at hcheck
      dsimp only at hcheck ⊢
      cases hvlan : s.vlans.get? vid with
      | none =>
        have hmem : vid ∉ s.vlanIds := by
          rw [mem_vlanIds]
          exact PyDict.not_mem_iff.mpr hvlan
        rw [runSteps_cons_stop ((hcheck _).trans (if_neg hmem))]
        rfl
      | some vlan =>
        have hmem : vid ∈ s.vlanIds := by
          rw [mem_vlanIds]
          exact PyDict.mem_iff.mpr ⟨vlan, hvlan⟩
        have happend := RunUntil.run_append (fun s step => WcdStep.check s.vlanIds step) stepEffect
          ((vlanMembers el).map (.member action vid)) (els.flatMap (membershipSteps action)) s
        have hmembers := runSteps_members action (vlanMembers el) hvlan
        have hsame : s.stepEffect (.membership el) = s := rfl
        rw [runSteps_cons ((hcheck _).trans (if_pos hmem)), hsame, Option.map_some, Option.getD_some]
        rw [← runSteps, ← runSteps, ← runSteps, hmembers] at happend
        rw [happend]
        dsimp only
        cases hend : forEach (applyVlanMember action) (vlanMembers el) vlan with
        | mk vlan' finished =>
          cases finished with
          | false => rfl
          | true => exact ih _

theorem applyPvid_eq (s : VirtualSwitchState) (iface : Xml) : s.applyPvid iface =
    if (WcdStep.pvid iface).check s.vlanIds = none then some (s.stepEffect (.pvid iface))
    else none := by
  have hcheck : (WcdStep.pvid iface).check s.vlanIds = match ifacePort iface with
    | none => some .raised
    | some none => none
    | some (some _) =>
      if isDigitText (fieldText iface "PVID") ∧ intOfDigits (fieldText iface "PVID") = none then
        some .raised
      else none := rfl
  have hwrite : WcdStep.pvidWrite (.pvid iface) = (ifacePort iface).join.bind fun port =>
      if isDigitText (fieldText iface "PVID") then
        (intOfDigits (fieldText iface "PVID")).map fun vid : ℕ => (port, (vid : ℤ))
      else none := rfl
  unfold applyPvid stepEffect
  rw [hwrite, hcheck]
  cases ifacePort iface with
  | none => rfl
  | some port =>
    cases port with
    | none => rfl
    | some port =>
      dsimp only [Option.join_some, Option.bind_some]
      by_cases hdigits : isDigitText (fieldText iface "PVID") = true
      · cases intOfDigits (fieldText iface "PVID") with
        | none => simp [hdigits]
        | some vid => simp [hdigits, WcdStep.vlanWrite, WcdStep.poeWrite, WcdStep.entryWrite,
            WcdStep.nameWrite]
      · simp [hdigits, WcdStep.vlanWrite, WcdStep.poeWrite, WcdStep.entryWrite, WcdStep.nameWrite]

theorem applyPoeInterface_eq (s : VirtualSwitchState) (iface : Xml) : s.applyPoeInterface iface =
    if (WcdStep.poe iface).check s.vlanIds = none then some (s.stepEffect (.poe iface))
    else none := by
  have hcheck : (WcdStep.poe iface).check s.vlanIds =
      if (ifacePort iface).isSome then none else some .raised := rfl
  have hwrite : WcdStep.poeWrite (.poe iface) = (ifacePort iface).join.bind fun port =>
      if fieldText iface "adminEnable" = ['1'] ∨ fieldText iface "adminEnable" = ['2'] then
        some (port, decide (fieldText iface "adminEnable" = ['1']))
      else none := rfl
  have hcode : ∀ sim : PoeSim, { sim with
      admin := decide (fieldText iface "adminEnable" = ['1'])
      detect := if fieldText iface "adminEnable" = ['1'] then 2 else 1 } =
      setWcdPoe (decide (fieldText iface "adminEnable" = ['1'])) sim := by
    intro sim
    simp only [setWcdPoe, decide_eq_true_eq]
  unfold applyPoeInterface stepEffect
  rw [hwrite, hcheck]
  cases ifacePort iface with
  | none => rfl
  | some port =>
    cases port with
    | none => rfl
    | some port =>
      dsimp only [Option.join_some, Option.bind_some, Option.map_some]
      rw [funext hcode, Option.isSome_some, if_pos rfl, if_pos rfl]
      split_ifs <;> rfl

theorem applyDeviceName_eq (s : VirtualSwitchState) (sec : Xml) :
    s.applyDeviceName sec = s.stepEffect (.deviceName sec) := by
  have hwrite : WcdStep.nameWrite (.deviceName sec) =
      (sec.find "deviceName").map fun el => strip el.ownText := rfl
  unfold applyDeviceName stepEffect
  rw [hwrite]
  cases sec.find "deviceName" <;> rfl

theorem applyStandard_eq (s : VirtualSwitchState) (entry : Xml) : s.applyStandard entry =
    if (WcdStep.standard entry).check s.vlanIds = none then some (s.stepEffect (.standard entry))
    else none := by
  have hcheck : (WcdStep.standard entry).check s.vlanIds =
      if (ifacePort entry).isSome then none else some .raised := rfl
  have hwrite : WcdStep.entryWrite (.standard entry) =
      (ifacePort entry).join.map fun port => (port, entry) := rfl
  unfold applyStandard stepEffect
  rw [hwrite, hcheck]
  cases ifacePort entry with
  | none => rfl
  | some port => cases port <;> rfl

/-- An element whose interface is all that may go wrong stops the loop only by raising. -/
theorem raised_of_ifacePort {el : Xml} {r : WcdReply}
    (h : (if (ifacePort el).isSome then none else some WcdReply.raised) = some r) : r = .raised := by
  split_ifs at h
  exact (Option.some.inj h).symm

theorem raised_of_pvid {ids : Finset ℤ} {iface : Xml} {r : WcdReply}
    (h : (WcdStep.pvid iface).check ids = some r) : r = .raised := by
  rw [WcdStep.check] at h
  split at h
  · exact (Option.some.inj h).symm
  · cases h
  · split_ifs at h
    exact (Option.some.inj h).symm

/-- A section whose elements stop only by raising. -/
theorem runSteps_section {step : Xml → WcdStep}
    {f : VirtualSwitchState → Xml → Option VirtualSwitchState}
    (hf : ∀ s x, f s x = if (step x).check s.vlanIds = none then some (s.stepEffect (step x)) else none)
    (hcheck : ∀ ids x r, (step x).check ids = some r → r = .raised) (els : List Xml)
    (s : VirtualSwitchState) :
    (match forEach f els s with
      | (s', false) => some (s', WcdReply.raised)
      | (s', true) => some (s', .status 0)) =
      some ((runSteps (els.map step) s).1, (runSteps (els.map step) s).2.getD (.status 0)) := by
  rw [runSteps_map hf hcheck]
  cases forEach f els s with
  | mk s' finished => cases finished <;> rfl

/-- A section is applied element by element. -/
theorem applySection_eq (s : VirtualSwitchState) (sec : Xml) :
    s.applySection sec = if (handledTags.any fun tag => sec.hasTag tag) then
      some ((runSteps (sectionSteps sec) s).1, (runSteps (sectionSteps sec) s).2.getD (.status 0))
    else none := by
  unfold applySection sectionSteps handledTags
  simp only [List.any_cons, List.any_nil, Bool.or_false]
  by_cases h1 : sec.hasTag "VLANList" = true
  · simp only [h1, if_true, Bool.true_or, applyVlanList_eq]
  by_cases h2 : sec.hasTag "VLANMembershipList" = true
  · simp only [h1, h2, if_true, Bool.true_or, Bool.or_true, Bool.false_eq_true, if_false,
      applyVlanMembershipList_eq]
  by_cases h3 : sec.hasTag "VLANInterfaceList" = true
  · simp only [h1, h2, h3, if_true, Bool.true_or, Bool.or_true, Bool.false_eq_true, if_false]
    exact runSteps_section applyPvid_eq (fun _ _ _ => raised_of_pvid) _ s
  by_cases h4 : sec.hasTag "PoEPSEInterfaceList" = true
  · simp only [h1, h2, h3, h4, if_true, Bool.true_or, Bool.or_true, Bool.false_eq_true, if_false]
    exact runSteps_section applyPoeInterface_eq (fun _ _ _ => raised_of_ifacePort) _ s
  by_cases h5 : sec.hasTag "DeviceBasicInfo" = true
  · simp only [h1, h2, h3, h4, h5, if_true, Bool.true_or, Bool.or_true, Bool.false_eq_true,
      if_false, applyDeviceName_eq]
    rfl
  by_cases h6 : sec.hasTag "Standard802_3List" = true
  · simp only [h1, h2, h3, h4, h5, h6, if_true, Bool.or_true, Bool.false_eq_true, if_false]
    exact runSteps_section applyStandard_eq (fun _ _ _ => raised_of_ifacePort) _ s
  · simp only [h1, h2, h3, h4, h5, h6, if_false, Bool.or_false, Bool.false_eq_true]

/-- Has the section a handler? -/
def isHandled (sec : Xml) : Bool := handledTags.any fun tag => sec.hasTag tag

theorem sectionSteps_of_not_isHandled {sec : Xml} (h : isHandled sec = false) :
    sectionSteps sec = [] := by
  simp only [isHandled, handledTags, List.any_cons, List.any_nil, Bool.or_false,
    Bool.or_eq_false_iff] at h
  obtain ⟨h1, h2, h3, h4, h5, h6⟩ := h
  simp only [sectionSteps, h1, h2, h3, h4, h5, h6, Bool.false_eq_true, if_false]

/-- An element is answered with status 2, or its handler raises. -/
theorem answer_of_check {ids : Finset ℤ} {step : WcdStep} {r : WcdReply}
    (h : step.check ids = some r) : r = .raised ∨ r = .status 2 := by
  cases step with
  | vlan action el =>
    rw [WcdStep.check] at h
    split_ifs at h
    · exact .inl (Option.some.inj h).symm
    · exact .inr (Option.some.inj h).symm
  | membership el =>
    rw [WcdStep.check] at h
    split at h
    · exact .inl (Option.some.inj h).symm
    · split_ifs at h
      exact .inr (Option.some.inj h).symm
  | pvid iface => exact .inl (raised_of_pvid h)
  | poe el | standard el | member _ _ el => exact .inl (raised_of_ifacePort h)
  | deviceName _ => cases h

/-- The loop over the sections is the loop over all their elements. -/
theorem applySections_eq (handled : Bool) (secs : List Xml) (s : VirtualSwitchState) :
    applySections handled secs s = ((runSteps (secs.flatMap sectionSteps) s).1,
      (runSteps (secs.flatMap sectionSteps) s).2.getD
        (.status (if handled || secs.any isHandled then 0 else 2))) := by
  induction secs generalizing handled s with
  | nil => simp [applySections, runSteps, RunUntil.run]
  | cons sec secs ih =>
    rw [List.flatMap_cons, List.any_cons]
    cases hsec : isHandled sec with
    | false =>
      have hnone : s.applySection sec = none := by
        rw [applySection_eq]
        exact if_neg (Bool.eq_false_iff.mp hsec)
      rw [sectionSteps_of_not_isHandled hsec, List.nil_append, Bool.false_or, ← ih]
      cases sec with
      | text t => rfl
      | elem tag attrs children =>
        rw [applySections, hnone]
        rintro t ⟨⟩
    | true =>
      have hsome : s.applySection sec = some ((runSteps (sectionSteps sec) s).1,
          (runSteps (sectionSteps sec) s).2.getD (.status 0)) := by
        rw [applySection_eq]
        exact if_pos hsec
      have happend := RunUntil.run_append (fun s step => WcdStep.check s.vlanIds step) stepEffect
        (sectionSteps sec) (secs.flatMap sectionSteps) s
      cases sec with
      | text t => cases hsec
      | elem tag attrs children =>
        rw [applySections, hsome]
        · rw [Bool.true_or, Bool.or_true, if_pos rfl]
          cases hstop : (runSteps (sectionSteps (.elem tag attrs children)) s).2 with
          | none =>
            have hrun : runSteps (sectionSteps (.elem tag attrs children) ++
                secs.flatMap sectionSteps) s = runSteps (secs.flatMap sectionSteps)
                  (runSteps (sectionSteps (.elem tag attrs children)) s).1 :=
              happend.trans (if_neg (by rw [← runSteps, hstop]; decide))
            rw [hrun]
            exact ih true _
          | some r =>
            have hrun : runSteps (sectionSteps (.elem tag attrs children) ++
                secs.flatMap sectionSteps) s = runSteps (sectionSteps (.elem tag attrs children)) s :=
              happend.trans (if_pos (by rw [← runSteps, hstop]; rfl))
            obtain ⟨s', step, -, hr⟩ := RunUntil.exists_check_of_run hstop
            rw [hrun, hstop]
            rcases answer_of_check hr with rfl | rfl <;> rfl
        · rintro t ⟨⟩

/-- Every table gets the writes that are its own. -/
theorem foldl_stepEffect (steps : List WcdStep) (s : VirtualSwitchState) :
    steps.foldl stepEffect s = { s with
      vlans := (steps.filterMap WcdStep.vlanWrite).foldl writeVlan s.vlans
      pvids := (steps.filterMap WcdStep.pvidWrite).foldl (fun d w => d.set w.1 w.2) s.pvids
      poe := (steps.filterMap WcdStep.poeWrite).foldl (fun d w => d.modify w.1 (setWcdPoe w.2)) s.poe
      ports := (steps.filterMap WcdStep.entryWrite).foldl
        (fun d w => d.modify w.1 (applyStandardEntry w.2)) s.ports
      hostname := (steps.filterMap WcdStep.nameWrite).foldl (fun _ name => name) s.hostname } := by
  induction steps generalizing s with
  | nil => rfl
  | cons step steps ih =>
    rw [List.foldl_cons, ih, stepEffect]
    simp only [List.filterMap_cons]
    cases step.vlanWrite <;> cases step.pvidWrite <;> cases step.poeWrite <;>
      cases step.entryWrite <;> cases step.nameWrite <;> rfl

/-- The VLANs behind the elements that are applied. -/
theorem vlanIds_stepEffect (s : VirtualSwitchState) (step : WcdStep)
    (h : step.check s.vlanIds = none) : (s.stepEffect step).vlanIds = step.idsAfter s.vlanIds := by
  ext v
  rw [mem_vlanIds]
  cases step with
  | vlan action el =>
    rw [WcdStep.idsAfter]
    show v ∈ writeVlan s.vlans _ ↔ _
    by_cases hdelete : action = "delete".toList
    · rw [if_pos hdelete, if_pos hdelete]
      simp [writeVlan]
    · rw [if_neg hdelete, if_neg hdelete, Finset.mem_insert, mem_vlanIds]
      show v ∈ (if _ ∈ s.vlans then _ else _) ↔ _
      split_ifs with hmem
      · rw [PyDict.mem_modify]
        exact ⟨.inr, fun hv => hv.elim (fun heq => heq ▸ hmem) id⟩
      · exact PyDict.mem_set
  | member action vid el =>
    have hids : WcdStep.idsAfter s.vlanIds (.member action vid el) = s.vlanIds := rfl
    rw [hids, mem_vlanIds]
    show v ∈ s.vlans.modify vid (VlanSim.withMember action el) ↔ _
    exact PyDict.mem_modify
  | membership _ | pvid _ | poe _ | deviceName _ | standard _ => exact mem_vlanIds.symm

/-- The elements of a body in front of the one that it is refused at. -/
def stepsApplied (steps : List WcdStep) (s : VirtualSwitchState) : List WcdStep :=
  RunUntil.applied WcdStep.check WcdStep.idsAfter steps s.vlanIds

/-- The answer that a body is refused with at one of its elements. -/
def stepsRefusal (steps : List WcdStep) (s : VirtualSwitchState) : Option WcdReply :=
  RunUntil.refusal WcdStep.check WcdStep.idsAfter steps s.vlanIds

theorem runSteps_eq (steps : List WcdStep) (s : VirtualSwitchState) :
    runSteps steps s = ((stepsApplied steps s).foldl stepEffect s, stepsRefusal steps s) :=
  RunUntil.run_eq vlanIds (fun _ _ => rfl) vlanIds_stepEffect steps s

/-- The states are equal as Python compares them: the order of a dictionary does not count. -/
def EqualTo (s s' : VirtualSwitchState) : Prop :=
  (∀ v, s'.vlans.get? v = s.vlans.get? v) ∧ (∀ p, s'.pvids.get? p = s.pvids.get? p) ∧
    s' = { s with vlans := s'.vlans, pvids := s'.pvids }

theorem EqualTo.refl (s : VirtualSwitchState) : s.EqualTo s := ⟨fun _ => rfl, fun _ => rfl, rfl⟩

/-- What the elements write is what was there: the last name, the last PVID of each port and the
last flag of each PoE port with its code, and, for each VLAN and each configured port, all that
they do to it. -/
structure StepsStand (s : VirtualSwitchState) (steps : List WcdStep) : Prop where
  hostname : ∀ name, (steps.filterMap WcdStep.nameWrite).getLast? = some name → name = s.hostname
  pvids : ∀ p v, RunUntil.lastFor (steps.filterMap WcdStep.pvidWrite) p = some v →
    s.pvids.get? p = some v
  poe : ∀ p sim on, s.poe.get? p = some sim →
    RunUntil.lastFor (steps.filterMap WcdStep.poeWrite) p = some on →
      sim.admin = on ∧ sim.detect = if on then 2 else 1
  ports : ∀ p sim, s.ports.get? p = some sim →
    ((steps.filterMap WcdStep.entryWrite).filter fun w => w.1 = p).foldl
      (fun sim w => applyStandardEntry w.2 sim) sim = sim
  vlans : ∀ v, ((steps.filterMap WcdStep.vlanWrite).filter fun w => w.1 = v).foldl
    (fun vlan w => w.2.act vlan) (s.vlans.get? v) = s.vlans.get? v

theorem get?_writeVlan (vlans : PyDict ℤ VlanSim) (w : ℤ × VlanWrite) (v : ℤ) :
    (writeVlan vlans w).get? v = if v = w.1 then w.2.act (vlans.get? v) else vlans.get? v := by
  obtain ⟨u, write⟩ := w
  cases write with
  | drop =>
    show (vlans.pop u).get? v = _
    rw [PyDict.get?_pop]
    rfl
  | name t =>
    show (if u ∈ vlans then _ else _ : PyDict ℤ VlanSim).get? v = _
    split_ifs with hmem hv hv
    · obtain ⟨vlan, hvlan⟩ := PyDict.mem_iff.mp hmem
      rw [PyDict.get?_modify, if_pos hv, hv, hvlan]
      rfl
    · rw [PyDict.get?_modify, if_neg hv]
    · rw [PyDict.get?_set, if_pos hv, hv, PyDict.not_mem_iff.mp hmem]
      rfl
    · rw [PyDict.get?_set, if_neg hv]
  | member action el =>
    show (vlans.modify u (VlanSim.withMember action el)).get? v = _
    rw [PyDict.get?_modify]
    split_ifs with hv
    · rw [hv]
      rfl
    · rfl

/-- **Elements that are applied** leave the state exactly where what they write was there. -/
theorem equalTo_foldl_stepEffect_iff {steps : List WcdStep} :
    s.EqualTo (steps.foldl stepEffect s) ↔ s.StepsStand steps := by
  have hset : ∀ (on : Bool) (sim : PoeSim),
      setWcdPoe on sim = sim ↔ sim.admin = on ∧ sim.detect = if on then 2 else 1 := by
    intro on sim
    refine ⟨fun h => ⟨(congrArg PoeSim.admin h).symm, (congrArg PoeSim.detect h).symm⟩, ?_⟩
    rintro ⟨hadmin, hdetect⟩
    rw [setWcdPoe, ← hdetect, ← hadmin]
  have hpoe : (steps.filterMap WcdStep.poeWrite).foldl (fun d w => d.modify w.1 (setWcdPoe w.2))
      s.poe = s.poe ↔ ∀ p sim on, s.poe.get? p = some sim →
        RunUntil.lastFor (steps.filterMap WcdStep.poeWrite) p = some on →
          sim.admin = on ∧ sim.detect = if on then 2 else 1 := by
    have hover : ∀ (w v : Bool) (sim : PoeSim),
        setWcdPoe w (setWcdPoe v sim) = setWcdPoe w sim := fun _ _ _ => rfl
    simp only [← hset]
    exact RunUntil.foldl_modify_overwrite_eq_self_iff hover
  have hname := @RunUntil.foldl_overwrite_eq_self_iff Text Text (fun name _ => name)
    (fun _ _ _ => rfl) (steps.filterMap WcdStep.nameWrite) s.hostname
  have hports := @RunUntil.foldl_modify_eq_self_iff ℤ PortSim Xml _ applyStandardEntry
    (steps.filterMap WcdStep.entryWrite) s.ports
  have hvlans : ∀ v, ((steps.filterMap WcdStep.vlanWrite).foldl writeVlan s.vlans).get? v =
      ((steps.filterMap WcdStep.vlanWrite).filter fun w => w.1 = v).foldl
        (fun vlan w => w.2.act vlan) (s.vlans.get? v) :=
    RunUntil.get?_foldl_of_local get?_writeVlan _ s.vlans
  rw [foldl_stepEffect]
  constructor
  · rintro ⟨hv, hp, hrest⟩
    exact ⟨hname.mp (congrArg hostname hrest),
      fun p => RunUntil.get?_foldl_set_eq_self_iff.mp (hp p), hpoe.mp (congrArg poe hrest),
      hports.mp (congrArg ports hrest), fun v => (hvlans v).symm.trans (hv v)⟩
  · intro h
    refine ⟨fun v => (hvlans v).trans (h.vlans v),
      fun p => RunUntil.get?_foldl_set_eq_self_iff.mpr (h.pvids p), ?_⟩
    dsimp only
    rw [hpoe.mpr h.poe, hports.mpr h.ports, hname.mpr h.hostname]

end VirtualSwitchState

/-! ## §4 When a refused request has changed nothing -/

/-- The answer says that the form is refused. -/
def WebReply.isRefusal : WebReply → Bool
  | .refused errMsg => errMsg ≠ []
  | .accepted | .raised => false

/-- The answer is a status code that is not 0. -/
def WcdReply.isRefusal : WcdReply → Bool
  | .status code => code ≠ 0
  | .raised => false

/-- A write request of the FASTPATH XUI pages or of the GoAhead UI. -/
inductive WebWrite
  | portAdmin (form : Form) (checkbox : Text) (ports : List ℤ)
  | poe (form : Form) (checkbox : Text) (unitRequired : Bool)
  | mgmtIp (fields : XuiMgmtIpFields) (form : Form)
  | xml (body : Text)

/-- The elements of a body; `none` where it is answered before they are looked at. -/
def bodySteps (body : Text) : Option (List WcdStep) :=
  if PyRe.occurs "<!DOCTYPE".toList body || PyRe.occurs "<!ENTITY".toList body then none
  else (Xml.parseDocument body).bind fun root =>
    match ((root.findAll "SSLCryptoCertificateImportList").flatMap (Xml.findAll "Entry")).head? with
    | some _ => none
    | none => some (root.contents.flatMap sectionSteps)

namespace VirtualSwitchState

variable {s : VirtualSwitchState}

/-- The state a request leaves, and whether it is refused. -/
def applyWeb (s : VirtualSwitchState) : WebWrite → VirtualSwitchState × Bool
  | .portAdmin form checkbox ports =>
    ((s.applyPortAdmin form checkbox ports).1, (s.applyPortAdmin form checkbox ports).2.isRefusal)
  | .poe form checkbox unitRequired =>
    ((s.applyPoe form checkbox unitRequired).1, (s.applyPoe form checkbox unitRequired).2.isRefusal)
  | .mgmtIp fields form => ((s.applyMgmtIp fields form).1, (s.applyMgmtIp fields form).2.isRefusal)
  | .xml body => ((s.applyXml body).1, (s.applyXml body).2.isRefusal)

/-- A request that is refused at one of its rows or elements has written in front of it only what
was there. -/
def RefusesCleanly (s : VirtualSwitchState) : WebWrite → Prop
  | .portAdmin form checkbox ports => isApply form = true →
    ∀ r, portRowsRefusal form ports (checkedRows form checkbox) = some r → r.isRefusal = true →
      s.PortFlagsStand (portRowsWrites form ports (checkedRows form checkbox))
  | .poe form checkbox unitRequired => isApply form = true →
    ∀ r, poeRowsRefusal form unitRequired (PySet.sorted s.poe.keys.toFinset)
        (checkedRows form checkbox) = some r → r.isRefusal = true →
      s.PoePortsStand (poeRowsWrites form unitRequired (PySet.sorted s.poe.keys.toFinset)
        (checkedRows form checkbox))
  | .mgmtIp _ _ => True
  | .xml body => ∀ steps, bodySteps body = some steps →
    ∀ r, s.stepsRefusal steps = some r → r.isRefusal = true → s.StepsStand (s.stepsApplied steps)

theorem equalTo_iff_eq {s' : VirtualSwitchState} (hvlans : s'.vlans = s.vlans)
    (hpvids : s'.pvids = s.pvids) : s.EqualTo s' ↔ s' = s := by
  constructor
  · rintro ⟨-, -, h⟩
    rw [h, hvlans, hpvids]
  · rintro rfl
    exact EqualTo.refl s'

/-- The answer of a loop is a refusal where the loop stops with one. -/
theorem imp_isRefusal_getD_iff {o : Option WebReply} {q : Prop} :
    ((o.getD .accepted).isRefusal = true → q) ↔ ∀ r, o = some r → r.isRefusal = true → q := by
  cases o with
  | none => simp [WebReply.isRefusal]
  | some r => simp

theorem applyPortAdmin_cleanly_iff (form : Form) (checkbox : Text) (ports : List ℤ) :
    ((s.applyWeb (.portAdmin form checkbox ports)).2 = true →
      s.EqualTo (s.applyWeb (.portAdmin form checkbox ports)).1) ↔
        s.RefusesCleanly (.portAdmin form checkbox ports) := by
  rw [applyWeb, RefusesCleanly, applyPortAdmin]
  by_cases happly : isApply form = true
  · have hequal : s.EqualTo (applyPortAdminRows form ports (checkedRows form checkbox) s).1 ↔
        s.PortFlagsStand (portRowsWrites form ports (checkedRows form checkbox)) := by
      rw [← fst_applyPortAdminRows_eq_self_iff]
      refine equalTo_iff_eq ?_ ?_ <;> rw [applyPortAdminRows_eq]
    have hreply : (applyPortAdminRows form ports (checkedRows form checkbox) s).2 =
        (portRowsRefusal form ports (checkedRows form checkbox)).getD .accepted := by
      rw [applyPortAdminRows_eq]
    rw [if_pos happly, hequal, hreply, imp_isRefusal_getD_iff]
    exact ⟨fun h _ => h, fun h => h happly⟩
  · rw [if_neg happly]
    exact ⟨fun _ h => absurd h happly, fun _ _ => EqualTo.refl s⟩

theorem applyPoe_cleanly_iff (form : Form) (checkbox : Text) (unitRequired : Bool) :
    ((s.applyWeb (.poe form checkbox unitRequired)).2 = true →
      s.EqualTo (s.applyWeb (.poe form checkbox unitRequired)).1) ↔
        s.RefusesCleanly (.poe form checkbox unitRequired) := by
  rw [applyWeb, RefusesCleanly, applyPoe]
  by_cases happly : isApply form = true
  · have hequal : s.EqualTo (applyPoeRows form unitRequired (PySet.sorted s.poe.keys.toFinset)
        (checkedRows form checkbox) s).1 ↔ s.PoePortsStand (poeRowsWrites form unitRequired
          (PySet.sorted s.poe.keys.toFinset) (checkedRows form checkbox)) := by
      rw [← fst_applyPoeRows_eq_self_iff]
      refine equalTo_iff_eq ?_ ?_ <;> rw [applyPoeRows_eq]
    have hreply : (applyPoeRows form unitRequired (PySet.sorted s.poe.keys.toFinset)
        (checkedRows form checkbox) s).2 = (poeRowsRefusal form unitRequired
          (PySet.sorted s.poe.keys.toFinset) (checkedRows form checkbox)).getD .accepted := by
      rw [applyPoeRows_eq]
    rw [if_pos happly, hequal, hreply, imp_isRefusal_getD_iff]
    exact ⟨fun h _ => h, fun h => h happly⟩
  · rw [if_neg happly]
    exact ⟨fun _ h => absurd h happly, fun _ _ => EqualTo.refl s⟩

/-- The addresses are all checked before any of them is set. -/
theorem applyMgmtIp_cleanly (fields : XuiMgmtIpFields) (form : Form)
    (h : (s.applyMgmtIp fields form).2.isRefusal = true) :
    (s.applyMgmtIp fields form).1 = s := by
  unfold applyMgmtIp at h ⊢
  by_cases happly : (!isApply form) = true
  · rw [if_pos happly]
  · rw [if_neg happly] at h ⊢
    dsimp only at h ⊢
    split at h
    · rfl
    · split at h <;> cases h

theorem imp_isRefusal_getD_status_iff {o : Option WcdReply} {code : ℕ} {q : Prop}
    (hq : code ≠ 0 → q) : ((o.getD (.status code)).isRefusal = true → q) ↔
      ∀ r, o = some r → r.isRefusal = true → q := by
  cases o with
  | none => simpa [WcdReply.isRefusal] using hq
  | some r => simp

theorem applyXml_cleanly_iff (body : Text) :
    ((s.applyWeb (.xml body)).2 = true → s.EqualTo (s.applyWeb (.xml body)).1) ↔
      s.RefusesCleanly (.xml body) := by
  rw [applyWeb, RefusesCleanly]
  by_cases hdtd : (PyRe.occurs "<!DOCTYPE".toList body || PyRe.occurs "<!ENTITY".toList body) = true
  · have hsteps : bodySteps body = none := if_pos hdtd
    rw [applyXml, if_pos hdtd, hsteps]
    refine ⟨fun _ steps h => ?_, fun _ _ => EqualTo.refl s⟩
    cases h
  have hsteps : bodySteps body = (Xml.parseDocument body).bind fun root =>
      match ((root.findAll "SSLCryptoCertificateImportList").flatMap (Xml.findAll "Entry")).head? with
      | some _ => none
      | none => some (root.contents.flatMap sectionSteps) := if_neg hdtd
  rw [applyXml, if_neg hdtd, hsteps]
  cases Xml.parseDocument body with
  | none =>
    refine ⟨fun _ steps h => ?_, fun _ _ => EqualTo.refl s⟩
    cases h
  | some root =>
    dsimp only [Option.bind_some]
    cases ((root.findAll "SSLCryptoCertificateImportList").flatMap (Xml.findAll "Entry")).head? with
    | some entry =>
      refine ⟨fun _ steps h => ?_, fun _ _ => EqualTo.refl s⟩
      cases h
    | none =>
      dsimp only
      rw [applySections_eq, runSteps_eq, equalTo_foldl_stepEffect_iff, imp_isRefusal_getD_status_iff]
      · constructor
        · intro h steps hsteps
          cases hsteps
          exact h
        · intro h
          exact h _ rfl
      · -- no section has a handler, so there is no element
        intro hcode
        have hnone : root.contents.any isHandled = false := by
          by_contra hany
          rw [Bool.not_eq_false] at hany
          exact hcode (by rw [hany]; rfl)
        have hsteps : root.contents.flatMap sectionSteps = [] := by
          refine List.flatMap_eq_nil_iff.mpr fun sec hsec => sectionSteps_of_not_isHandled ?_
          exact Bool.eq_false_iff.mpr fun h => Bool.eq_false_iff.mp hnone (List.any_eq_true.mpr ⟨sec, hsec, h⟩)
        rw [hsteps]
        exact equalTo_foldl_stepEffect_iff.mp (EqualTo.refl s)

end VirtualSwitchState

/-- Two ports, both enabled. -/
def twoPortState : VirtualSwitchState where
  modelKey := .gsm7252ps
  ports := .ofList [(1, { name := "1/0/1".toList, admin := true, link := true, speed := 1000 }),
    (2, { name := "1/0/2".toList, admin := true, link := true, speed := 1000 })]

/-- The first port is turned off, and the value for the second is misspelt. -/
def misspeltForm : Form := .ofList [("submit_flag".toList, ['8']),
  ("1.0.gecb5".toList, "on".toList), ("1.0.v_1_2_6".toList, "Disable".toList),
  ("1.1.gecb5".toList, "on".toList), ("1.1.v_1_2_6".toList, "Enabled".toList)]

end NetgearSwitch.Virtual
