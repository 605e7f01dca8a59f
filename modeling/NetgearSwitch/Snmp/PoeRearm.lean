import NetgearSwitch.Lib.Polling
import NetgearSwitch.Snmp.Write

/-!
# Re-arming PoE over SNMP

`parse_poe`, the reads of a port's PoE and link state, and `SnmpWriter._poe_rearm` with its two
callers.  A port is switched off, looked at until it is off, switched on again and looked at until
it has come back.  The clock is the number of rounds it grants each of the two loops.

§1 reading · §2 re-arming · §3 what is raised · §4 the writes of a re-arm
-/

namespace NetgearSwitch.Snmp

open PyText Script

/-! ## §1 Reading -/

/-- `DETECT_MAP.get(code, PoEDetect.UNKNOWN)`. -/
def poeDetect : ℤ → PoEDetect
  | 1 => .disabled
  | 2 => .searching
  | 3 => .delivering
  | 4 => .fault
  | _ => .unknown

/-- The admin and detect columns of one port, as far as they have been read. -/
abbrev PoeColumns := Option ℤ × Option ℤ

/-- One row of the status walks of `parse_poe`.  The numbers are parts of an OID. -/
def poeStep (cols : PyDict (ℤ × ℤ) PoeColumns) (row : SnmpRow) :
    Except LibError (PyDict (ℤ × ℤ) PoeColumns) :=
  match (suffix pethPsePortTable row.oid).map (·.splitOn '.') with
  | some [column, group, port] => do
    let column ← orRaise .valueError (spelledInt column)
    if column ≠ 3 ∧ column ≠ 6 then .ok cols
    else match spelledInt group, spelledInt port, row.value.toInt with
      | some group, some port, some n =>
        let read := (cols.get? (group, port)).getD (none, none)
        .ok (cols.set (group, port) (if column = 3 then (some n, read.2) else (read.1, some n)))
      | _, _, _ => .error .snmp
  | _ => .ok cols

/-- One row of the vendor power walk; a malformed one is skipped. -/
def powerStep (mw : PyDict ℤ ℤ) (row : SnmpRow) : PyDict ℤ ℤ :=
  match (row.oid.splitOn '.').getLast?.bind spelledInt, row.value.toInt with
  | some port, some n => mw.set port n
  | _, _ => mw

/-- The status of one port; a missing column is drift. -/
def poeEntry (mw : PyDict ℤ ℤ) (e : (ℤ × ℤ) × PoeColumns) : Except LibError PoEStatus := do
  let admin ← orRaise .snmp e.2.1
  let detect ← orRaise .snmp e.2.2
  .ok
    { port := e.1.2
      adminEnabled := admin = 1
      detect := poeDetect detect
      powerMw := mw.get? e.1.2 }

/-- `parse_poe`. -/
def parsePoe (status power : List SnmpRow) : Except LibError (List PoEStatus) := do
  let cols ← status.foldlM poeStep ∅
  let sorted := cols.items.insertionSort fun a b =>
    a.1.1 < b.1.1 ∨ a.1.1 = b.1.1 ∧ a.1.2 ≤ b.1.2
  sorted.mapM (poeEntry (power.foldl powerStep ∅))

namespace SnmpReader

/-- The power walk of a model with a vendor subtree. -/
def walkPoePower (model : SwitchModel) : SnmpScript (List SnmpRow) :=
  match vendorOids model with
  | some vendor => request (.walk vendor.poePowerMw)
  | none => pure []

/-- `get_poe`. -/
def getPoe (model : SwitchModel) : SnmpScript (List PoEStatus) := do
  ensure (model.poePortCount ≠ 0) .unsupportedCapability
  let power ← walkPoePower model
  let admin ← request (.walk pethPsePortAdmin)
  let detect ← request (.walk pethPsePortDetect)
  done (parsePoe (admin ++ detect) power)

/-- `get_ports`. -/
def getPorts : SnmpScript (List PortStatus) := do
  let admin ← request (.walk ifAdminStatus)
  let oper ← request (.walk ifOperStatus)
  let speed ← request (.walk ifHighSpeed)
  let names ← request (.walk ifName)
  let aliases ← request (.walk ifAlias)
  let ifTypes ← request (.walk ifType)
  let duplex ← request (.walk dot3StatsDuplexStatus)
  let pause ← request (.walk dot3PauseOperMode)
  done (parsePortStatus admin oper speed names aliases ifTypes duplex pause)

end SnmpReader

/-! ## §2 Re-arming -/

/-- `_poe_is_off`. -/
def poeIsOff (status : Option PoEStatus) (portUp : Bool) : Bool :=
  status.any (fun s => s.detect = .disabled || s.detect = .searching) && !portUp

/-- `_poe_recovered`; what the port did before does not matter. -/
def poeRecovered (_before status : Option PoEStatus) : Bool :=
  status.any fun s => s.detect = .delivering || s.detect = .searching

/-- The SET of a port's PoE admin state. -/
def poeAdminVarbind (port : ℤ) (on : Bool) : SetVarbind :=
  ⟨instanceOid (pethPsePortTable ++ [3, 1]) port, .int (if on then 1 else 2)⟩

namespace SnmpWriter

variable (w : SnmpWriter)

/-- `_poe_status`. -/
def poeStatus (port : ℤ) : SnmpScript (Option PoEStatus) := do
  let rows ← SnmpReader.getPoe w.model
  pure (rows.find? (·.port = port))

/-- `_port_up`. -/
def portUp (port : ℤ) : SnmpScript Bool := do
  let rows ← SnmpReader.getPorts
  pure ((rows.find? (·.port = port)).any (·.linkUp))

/-- `_poe_is_off(self._poe_status(port), self._port_up(port))`. -/
def looksOff (port : ℤ) : SnmpScript Bool := do
  let status ← w.poeStatus port
  let up ← portUp port
  pure (poeIsOff status up)

/-- The timeout of a loop, whose report takes one more look at the port. -/
def timedOut (port : ℤ) : SnmpScript Unit := do
  let _ ← w.poeStatus port
  raise .writeVerification

/-- The look and the off write in front of the first loop. -/
def switchOff (port : ℤ) : SnmpScript (Option PoEStatus) := do
  let before ← w.poeStatus port
  setMany [poeAdminVarbind port false]
  pure before

/-- `_poe_rearm`. -/
def poeRearm (port : ℤ) (offTries onTries : ℕ)
    (recovered : Option PoEStatus → Option PoEStatus → Bool) : SnmpScript Unit := do
  let before ← w.switchOff port
  pollUntil (w.looksOff port) id (w.timedOut port) offTries
  setMany [poeAdminVarbind port true]
  pollUntil (w.poeStatus port) (recovered before) (w.timedOut port) onTries

def cyclePoe (port : ℤ) (force : Bool) (offTries onTries : ℕ) : SnmpScript Unit := do
  w.guard port force
  w.poeRearm port offTries onTries poeCycleComplete

def clearPoeFault (port : ℤ) (force : Bool) (offTries onTries : ℕ) : SnmpScript Unit := do
  w.guard port force
  w.poeRearm port offTries onTries poeRecovered

end SnmpWriter

/-! ## §3 What is raised -/

/-- The client raises no `WriteVerificationError`: that is the writer's own. -/
def ClientErrors {δ : Type} (m : Machine δ SnmpRequest SnmpReply) : Prop :=
  ∀ d q, (m d q).2 ≠ .error .writeVerification

theorem poeStep_ne_error (cols : PyDict (ℤ × ℤ) PoeColumns) (row : SnmpRow) :
    poeStep cols row ≠ .error .writeVerification := by
  unfold poeStep
  split
  · refine bind_ne_error ?_ fun column => ?_
    · cases spelledInt _ <;> simp [orRaise]
    · split
      · simp
      · split <;> simp
  · simp

theorem poeEntry_ne_error (mw : PyDict ℤ ℤ) (e : (ℤ × ℤ) × PoeColumns) :
    poeEntry mw e ≠ .error .writeVerification := by
  refine bind_ne_error ?_ fun _ => bind_ne_error ?_ fun _ h => nomatch h
  · cases e.2.1 <;> exact fun h => nomatch h
  · cases e.2.2 <;> exact fun h => nomatch h

theorem parsePoe_ne_error (status power : List SnmpRow) :
    parsePoe status power ≠ .error .writeVerification :=
  bind_ne_error (foldlM_ne_error poeStep_ne_error _ _) fun _ =>
    mapM_ne_error (poeEntry_ne_error _) _

section Raised

variable {δ : Type} {m : Machine δ SnmpRequest SnmpReply}

theorem avoids_request (h : ClientErrors m) (q : SnmpRequest) :
    Avoids m .writeVerification (request q) := fun d => h d q

theorem avoids_setMany (h : ClientErrors m) (varbinds : List SetVarbind) :
    Avoids m .writeVerification (setMany varbinds) :=
  avoids_bind (avoids_request h _) fun _ => avoids_done fun h => nomatch h

theorem avoids_getPoe (h : ClientErrors m) (model : SwitchModel) :
    Avoids m .writeVerification (SnmpReader.getPoe model) := by
  refine avoids_bind (avoids_done ?_) fun _ => avoids_bind ?_ fun power => ?_
  · split_ifs <;> exact fun h => nomatch h
  · unfold SnmpReader.walkPoePower
    split
    · exact avoids_request h _
    · exact avoids_done fun h => nomatch h
  · refine avoids_bind (avoids_request h _) fun admin => ?_
    exact avoids_bind (avoids_request h _) fun detect => avoids_done (parsePoe_ne_error _ _)

namespace SnmpWriter

variable (w : SnmpWriter)

theorem avoids_poeStatus (h : ClientErrors m) (port : ℤ) :
    Avoids m .writeVerification (w.poeStatus port) :=
  avoids_bind (avoids_getPoe h _) fun _ => avoids_done fun h => nomatch h

theorem avoids_switchOff (h : ClientErrors m) (port : ℤ) :
    Avoids m .writeVerification (w.switchOff port) :=
  avoids_bind (w.avoids_poeStatus h port) fun _ =>
    avoids_bind (avoids_setMany h _) fun _ => avoids_done fun h => nomatch h

end SnmpWriter

end Raised

/-! ## §4 The writes of a re-arm -/

/-- The PoE admin state that a request gives `port`, if it is such a write. -/
def poeAdminOf (port : ℤ) : SnmpRequest → Option Bool
  | .set [vb] =>
    if vb = poeAdminVarbind port true then some true
    else if vb = poeAdminVarbind port false then some false
    else none
  | _ => none

/-- The last PoE admin state a run has given `port`. -/
def lastPoeAdmin {δ α : Type} (port : ℤ) (o : Outcome δ SnmpRequest SnmpReply LibError α) :
    Option Bool := (o.sent.filterMap fun x => poeAdminOf port x.1).getLast?

theorem poeAdminOf_poeAdminVarbind (port : ℤ) (on : Bool) :
    poeAdminOf port (.set [poeAdminVarbind port on]) = some on := by
  cases on with
  | true => exact if_pos rfl
  | false => exact (if_neg (by simp [poeAdminVarbind])).trans (if_pos rfl)

section Writes

variable (port : ℤ)

theorem asks_request_walk (base : Oid) :
    (request (.walk base)).Asks fun q => poeAdminOf port q = none :=
  asks_bind (asks_call rfl) fun _ => asks_done _

theorem asks_getPoe (model : SwitchModel) :
    (SnmpReader.getPoe model).Asks fun q => poeAdminOf port q = none := by
  refine asks_bind (asks_done _) fun _ => asks_bind ?_ fun power => ?_
  · unfold SnmpReader.walkPoePower
    split
    · exact asks_request_walk port _
    · exact asks_done _
  · exact asks_bind (asks_request_walk port _) fun _ => asks_bind (asks_request_walk port _) fun _ =>
      asks_done _

theorem asks_getPorts : SnmpReader.getPorts.Asks fun q => poeAdminOf port q = none := by
  refine asks_bind (asks_request_walk port _) fun _ => asks_bind (asks_request_walk port _) fun _ => ?_
  refine asks_bind (asks_request_walk port _) fun _ => asks_bind (asks_request_walk port _) fun _ => ?_
  refine asks_bind (asks_request_walk port _) fun _ => asks_bind (asks_request_walk port _) fun _ => ?_
  exact asks_bind (asks_request_walk port _) fun _ => asks_bind (asks_request_walk port _) fun _ =>
    asks_done _

namespace SnmpWriter

variable (w : SnmpWriter)

theorem asks_poeStatus : (w.poeStatus port).Asks fun q => poeAdminOf port q = none :=
  asks_bind (asks_getPoe port _) fun _ => asks_done _

theorem asks_looksOff : (w.looksOff port).Asks fun q => poeAdminOf port q = none :=
  asks_bind (w.asks_poeStatus port) fun _ =>
    asks_bind (asks_bind (asks_getPorts port) fun _ => asks_done _) fun _ => asks_done _

theorem asks_timedOut : (w.timedOut port).Asks fun q => poeAdminOf port q = none :=
  asks_bind (w.asks_poeStatus port) fun _ => asks_done _

end SnmpWriter

variable {port}

variable {δ : Type} {m : Machine δ SnmpRequest SnmpReply} {d : δ}

theorem sent_setMany (varbinds : List SetVarbind) :
    ((setMany varbinds).run m d).sent = [(.set varbinds, (m d (.set varbinds)).2)] := by
  have hrequest : ((request (.set varbinds)).run m d).sent =
      [(.set varbinds, (m d (.set varbinds)).2)] := rfl
  unfold setMany
  cases h : ((request (.set varbinds)).run m d).result with
  | error e => rw [run_bind_error h, hrequest]
  | ok rows => rw [run_bind_ok h, hrequest, run_pure, List.append_nil]

namespace SnmpWriter

variable (w : SnmpWriter)

/-- What went well up to the off write has written the off state. -/
theorem poeAdmin_switchOff {before : Option PoEStatus}
    (h : ((w.switchOff port).run m d).result = .ok before) :
    ((w.switchOff port).run m d).sent.filterMap (fun x => poeAdminOf port x.1) = [false] := by
  cases hstatus : ((w.poeStatus port).run m d).result with
  | error e =>
    rw [switchOff, run_bind_error hstatus] at h
    cases h
  | ok status =>
    have hreads := (w.asks_poeStatus port).filterMap_sent m d
    rw [switchOff, run_bind_ok hstatus] at h ⊢
    generalize ((w.poeStatus port).run m d).device = d' at h ⊢
    cases hset : ((setMany [poeAdminVarbind port false]).run m d').result with
    | error e =>
      rw [run_bind_error hset] at h
      cases h
    | ok u =>
      rw [run_bind_ok hset, sent_setMany, run_pure]
      simp only [List.filterMap_append, hreads, List.filterMap_cons, List.filterMap_nil,
        poeAdminOf_poeAdminVarbind, List.nil_append, List.append_nil]

/-- Before the first deadline a look at the port, with every look up to it answered, shows the
port off. -/
def TurnsOff (m : Machine δ SnmpRequest SnmpReply) (d : δ) (port : ℤ) (offTries : ℕ) : Prop :=
  let off := ((w.switchOff port).run m d).device
  ∃ i ≤ offTries, (∃ seen, lookAt m (w.looksOff port) i off = .ok seen ∧ id seen = true) ∧
    ∀ j < i, ∃ seen, lookAt m (w.looksOff port) j off = .ok seen

theorem timedOut_ne_ok (port : ℤ) (d : δ) : ((w.timedOut port).run m d).result ≠ .ok () := by
  intro h
  cases hstatus : ((w.poeStatus port).run m d).result with
  | error e =>
    rw [timedOut, run_bind_error hstatus] at h
    cases h
  | ok status =>
    rw [timedOut, run_bind_ok hstatus] at h
    cases h

/-- A re-arm that returns or fails its verification leaves the port enabled exactly where the port
was seen off in time. -/
theorem lastPoeAdmin_poeRearm (hm : ClientErrors m) {offTries onTries : ℕ}
    {recovered : Option PoEStatus → Option PoEStatus → Bool}
    (hend : ((w.poeRearm port offTries onTries recovered).run m d).result = .ok () ∨
      ((w.poeRearm port offTries onTries recovered).run m d).result =
        .error .writeVerification) :
    lastPoeAdmin port ((w.poeRearm port offTries onTries recovered).run m d) = some true ↔
      w.TurnsOff m d port offTries := by
  unfold poeRearm at hend ⊢
  cases hoff : ((w.switchOff port).run m d).result with
  | error e =>
    rw [run_bind_error hoff] at hend
    rcases hend with h | h
    · cases h
    · cases h
      exact absurd hoff (w.avoids_switchOff hm port d)
  | ok before =>
    have hfirst := w.poeAdmin_switchOff hoff
    have hturns : w.TurnsOff m d port offTries ↔
        ((pollUntil (w.looksOff port) id (w.timedOut port) offTries).run m
          ((w.switchOff port).run m d).device).result = .ok () :=
      (pollUntil_ok_iff (w.timedOut_ne_ok port)).symm
    rw [run_bind_ok hoff] at hend ⊢
    rw [hturns]
    generalize ((w.switchOff port).run m d).device = off at hend ⊢
    have hlooks := (asks_pollUntil id (w.asks_looksOff port) (w.asks_timedOut port)
      offTries).filterMap_sent m off
    cases hloop : ((pollUntil (w.looksOff port) id (w.timedOut port) offTries).run m off).result with
    | error e =>
      -- nothing has been written since the port was switched off
      rw [run_bind_error hloop, lastPoeAdmin, List.filterMap_append, hfirst, hlooks]
      simp
    | ok u =>
      rw [run_bind_ok hloop] at hend ⊢
      generalize ((pollUntil (w.looksOff port) id (w.timedOut port) offTries).run m off).device = d'
        at hend ⊢
      cases hset : ((setMany [poeAdminVarbind port true]).run m d').result with
      | error e =>
        rw [run_bind_error hset] at hend
        rcases hend with h | h
        · cases h
        · cases h
          exact absurd hset (avoids_setMany hm _ d')
      | ok u =>
        have hpolls := (asks_pollUntil (recovered before) (w.asks_poeStatus port)
          (w.asks_timedOut port) onTries).filterMap_sent m
            ((setMany [poeAdminVarbind port true]).run m d').device
        rw [run_bind_ok hset, lastPoeAdmin, List.filterMap_append, List.filterMap_append,
          List.filterMap_append, hfirst, hlooks, hpolls, sent_setMany]
        simp [poeAdminOf_poeAdminVarbind]

end SnmpWriter

end Writes

end NetgearSwitch.Snmp
