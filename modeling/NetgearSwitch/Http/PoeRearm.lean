import NetgearSwitch.Http.Endpoints
import NetgearSwitch.Http.GoAhead
import NetgearSwitch.Http.Session
import NetgearSwitch.Lib.Polling

/-!
# Re-arming PoE over the GoAhead UI

`parse_goahead_poe`, the one `POST wcd` of a PoE admin state, and `HttpWriter._goahead_poe_rearm`
with its two callers.  The off write and the on write are read back each before the port is looked
at until it has come back; the clock is the number of rounds it grants that loop.

§1 reading · §2 writing · §3 what is raised · §4 the writes of a re-arm
-/

namespace NetgearSwitch.Http

open PyText Script

/-- What is done with an HTTP session. -/
abbrev HttpScript := Script Call (Except LibError Text) LibError

/-- A call on the session, whose exception is raised. -/
def sessionCall (c : Call) : HttpScript Text := do
  let answer ← call c
  done answer

theorem run_sessionCall {δ : Type} {m : Machine δ Call (Except LibError Text)} (c : Call) (d : δ) :
    (sessionCall c).run m d = ⟨(m d c).2, (m d c).1, [(c, (m d c).2)]⟩ := rfl

theorem asks_sessionCall {φ : Call → Prop} {c : Call} (h : φ c) : (sessionCall c).Asks φ :=
  asks_bind (asks_call h) fun _ => asks_done _

/-- What goes out behind a call. -/
theorem sent_sessionCall_bind {δ α : Type} {m : Machine δ Call (Except LibError Text)} {d : δ}
    {c : Call} {f : Text → HttpScript α} {φ : Call → Prop} (hf : ∀ html, (f html).Asks φ) :
    ∃ post, ((sessionCall c >>= f).run m d).sent = (c, (m d c).2) :: post ∧ ∀ y ∈ post, φ y.1 := by
  have hrest : (done (m d c).2 >>= f : HttpScript α).Asks φ := asks_done_bind fun html _ => hf html
  exact ⟨((done (m d c).2 >>= f : HttpScript α).run m (m d c).1).sent, rfl, hrest.sent m (m d c).1⟩

/-! ## §1 Reading -/

/-- `_GOAHEAD_POE_DETECT.get(code, PoEDetect.UNKNOWN)`. -/
def goaheadPoeDetect (code : Text) : PoEDetect :=
  if code = ['1'] then .disabled
  else if code = ['2'] then .searching
  else if code = ['3'] then .delivering
  else if code = ['4'] ∨ code = ['6'] then .fault
  else .unknown

/-- The status in one `Interface`, if it is a physical port. -/
def goaheadPoeEntry (iface : Xml) : Option PoEStatus :=
  (goaheadPortNum (gtext iface "interfaceName")).map fun port =>
    { port := port
      adminEnabled := gtext iface "adminEnable" = ['1']
      detect := goaheadPoeDetect (gtext iface "detectionStatus")
      powerMw := searchInt (gtext iface "outputPower") }

/-- `parse_goahead_poe`. -/
def parseGoaheadPoe (body : Text) : Except LibError (List PoEStatus) := do
  let sec ← goaheadSection body "PoEPSEInterfaceList"
  let out := (sec.findAll "Interface").filterMap goaheadPoeEntry
  if out = [] then .error .httpUnexpectedPage else .ok out

/-- The writer of a model whose UI is the XML API. -/
structure GoAheadWriter where
  spec : HttpModelSpec
  isXmlApi : spec.isXmlApiDialect = true
  protectedPorts : Finset ℤ := ∅

namespace GoAheadWriter

variable (w : GoAheadWriter)

/-- `_parse_poe` of the status page. -/
def getPoe : HttpScript (List PoEStatus) := do
  let path ← done (orRaise .unsupportedCapability w.spec.poeStatusPath)
  let page ← sessionCall (.getPage path)
  done (parseGoaheadPoe page)

/-- `_poe_status`. -/
def poeStatus (port : ℤ) : HttpScript (Option PoEStatus) := do
  let rows ← w.getPoe
  pure (rows.find? (·.port = port))

/-- `_poe_admin`. -/
def poeAdmin (port : ℤ) : HttpScript Bool := do
  let rows ← w.getPoe
  pure ((rows.find? (·.port = port)).any (·.adminEnabled))

end GoAheadWriter

/-! ## §2 Writing -/

/-- The XML declaration of a write body. -/
def xmlDeclaration : Text := "<?xml version='1.0' encoding='utf-8'?>".toList

/-- `write_body`; `_render` escapes the quotes too. -/
def writeBody (obj action : String) (children : List Xml) : Text :=
  xmlDeclaration ++
    Xml.render true (Xml.node "DeviceConfiguration"
      [.elem obj.toList [("action".toList, action.toList)] children])

/-- `port_interface_name`. -/
def portInterfaceName (port : ℤ) : Text := 'g' :: intText port

/-- `poe_admin_body`. -/
def poeAdminBody (portName : Text) (enabled : Bool) : Text :=
  writeBody "PoEPSEInterfaceList" "set" [Xml.node "Interface"
    [Xml.leaf "interfaceName" portName, Xml.leaf "interfaceType" ['1'],
      Xml.leaf "adminEnable" (if enabled then ['1'] else ['2'])]]

/-- `_UPLOAD_STATUS_RE`. -/
def statusCode (text : Text) : Option Text :=
  PyRe.search (PyRe.lit "<statusCode>" <|
    PyRe.many1 isDecimal fun ds => PyRe.lit "</statusCode>" fun _ => some ds) text

/-- `_check_goahead_status`. -/
def checkGoaheadStatus (text : Text) : Except LibError Unit :=
  match statusCode text with
  | none => .error .http
  | some code => if code = ['0'] then .ok () else .error .http

namespace GoAheadWriter

variable (w : GoAheadWriter)

/-- `_guard`. -/
def guard (port : ℤ) (force : Bool) : HttpScript Unit :=
  ensure (¬ (port ∈ w.protectedPorts ∧ ¬ force)) .protectedPort

/-- `_goahead_write`. -/
def goaheadWrite (body : Text) : HttpScript Unit := do
  let path ← done (orRaise .unsupportedCapability w.spec.xmlWritePath)
  let text ← sessionCall (.postXml path body)
  done (checkGoaheadStatus text)

/-- The write of `_goahead_poe_admin`, with the look in front of it. -/
def writePoeAdmin (port : ℤ) (on : Bool) : HttpScript Unit := do
  let _ ← w.poeAdmin port
  w.goaheadWrite (poeAdminBody (portInterfaceName port) on)

/-- `_goahead_poe_admin`. -/
def goaheadPoeAdmin (port : ℤ) (on : Bool) : HttpScript Unit := do
  w.writePoeAdmin port on
  let after ← w.poeAdmin port
  ensure (after = on) .writeVerification

/-- The timeout of the loop, whose report takes one more look at the port. -/
def timedOut (port : ℤ) : HttpScript Unit := do
  let _ ← w.poeStatus port
  raise .writeVerification

/-- `_goahead_poe_rearm`. -/
def goaheadPoeRearm (port : ℤ) (tries : ℕ) : HttpScript Unit := do
  let before ← w.poeStatus port
  w.goaheadPoeAdmin port false
  w.goaheadPoeAdmin port true
  pollUntil (w.poeStatus port) (poeCycleComplete before) (w.timedOut port) tries

def cyclePoe (port : ℤ) (force : Bool) (tries : ℕ) : HttpScript Unit := do
  w.guard port force
  w.goaheadPoeRearm port tries

/-- The same re-arm: the UI has no control that clears a fault. -/
def clearPoeFault (port : ℤ) (force : Bool) (tries : ℕ) : HttpScript Unit :=
  w.cyclePoe port force tries

end GoAheadWriter

/-! ## §3 What is raised -/

/-- The session raises no `WriteVerificationError`: that is the writer's own. -/
def SessionErrors {δ : Type} (m : Machine δ Call (Except LibError Text)) : Prop :=
  ∀ d c, (m d c).2 ≠ .error .writeVerification

theorem orRaise_ne_error {α : Type} {e e' : LibError} (h : e ≠ e') (o : Option α) :
    orRaise e o ≠ .error e' := by
  cases o with
  | none =>
    rintro ⟨⟩
    exact h rfl
  | some a => exact fun h => nomatch h

theorem goaheadDataBlock_ne_error (body : Text) :
    goaheadDataBlock body ≠ .error .writeVerification := by
  unfold goaheadDataBlock
  dsimp only
  split
  · split
    · exact fun h => nomatch h
    · exact orRaise_ne_error (by decide) _
  · exact fun h => nomatch h

theorem parseGoaheadPoe_ne_error (body : Text) :
    parseGoaheadPoe body ≠ .error .writeVerification := by
  refine bind_ne_error (bind_ne_error (goaheadDataBlock_ne_error body) fun _ =>
    orRaise_ne_error (by decide) _) fun sec => ?_
  dsimp only
  split <;> exact fun h => nomatch h

theorem checkGoaheadStatus_ne_error (text : Text) :
    checkGoaheadStatus text ≠ .error .writeVerification := by
  unfold checkGoaheadStatus
  split
  · exact fun h => nomatch h
  · split_ifs <;> exact fun h => nomatch h

section Raised

variable {δ : Type} {m : Machine δ Call (Except LibError Text)}

theorem avoids_sessionCall (h : SessionErrors m) (c : Call) :
    Avoids m .writeVerification (sessionCall c) := fun d => h d c

namespace GoAheadWriter

variable (w : GoAheadWriter)

theorem avoids_getPoe (h : SessionErrors m) : Avoids m .writeVerification w.getPoe :=
  avoids_bind (avoids_done (orRaise_ne_error (by decide) _)) fun _ =>
    avoids_bind (avoids_sessionCall h _) fun _ => avoids_done (parseGoaheadPoe_ne_error _)

theorem avoids_poeStatus (h : SessionErrors m) (port : ℤ) :
    Avoids m .writeVerification (w.poeStatus port) :=
  avoids_bind (w.avoids_getPoe h) fun _ => avoids_done fun h => nomatch h

theorem avoids_poeAdmin (h : SessionErrors m) (port : ℤ) :
    Avoids m .writeVerification (w.poeAdmin port) :=
  avoids_bind (w.avoids_getPoe h) fun _ => avoids_done fun h => nomatch h

theorem avoids_writePoeAdmin (h : SessionErrors m) (port : ℤ) (on : Bool) :
    Avoids m .writeVerification (w.writePoeAdmin port on) := by
  refine avoids_bind (w.avoids_poeAdmin h port) fun _ => ?_
  exact avoids_bind (avoids_done (orRaise_ne_error (by decide) _)) fun _ =>
    avoids_bind (avoids_sessionCall h _) fun _ => avoids_done (checkGoaheadStatus_ne_error _)

end GoAheadWriter

end Raised

/-! ## §4 The writes of a re-arm -/

theorem poeAdminBody_inj (portName : Text) :
    poeAdminBody portName true ≠ poeAdminBody portName false := by
  intro h
  have hbody := List.append_cancel_left h
  simp [Xml.node, Xml.leaf, Xml.render, Xml.renderAll, Xml.escape, Xml.escapeChar] at hbody

/-- The PoE admin state that a call gives `port`, if it is such a write. -/
def poeAdminOf (port : ℤ) : Call → Option Bool
  | .postXml _ body =>
    if body = poeAdminBody (portInterfaceName port) true then some true
    else if body = poeAdminBody (portInterfaceName port) false then some false
    else none
  | _ => none

/-- The last PoE admin state a run has given `port`. -/
def lastPoeAdmin {δ α : Type} (port : ℤ)
    (o : Script.Outcome δ Call (Except LibError Text) LibError α) : Option Bool :=
  (o.sent.filterMap fun x => poeAdminOf port x.1).getLast?

theorem poeAdminOf_poeAdminBody (port : ℤ) (path : Text) (on : Bool) :
    poeAdminOf port (.postXml path (poeAdminBody (portInterfaceName port) on)) = some on := by
  cases on with
  | true => exact if_pos rfl
  | false => exact (if_neg (poeAdminBody_inj _).symm).trans (if_pos rfl)

section Writes

variable (port : ℤ)

theorem asks_getPage (path : Text) :
    (sessionCall (.getPage path)).Asks fun c => poeAdminOf port c = none :=
  asks_bind (asks_call rfl) fun _ => asks_done _

namespace GoAheadWriter

variable (w : GoAheadWriter)

theorem asks_getPoe : w.getPoe.Asks fun c => poeAdminOf port c = none :=
  asks_bind (asks_done _) fun _ => asks_bind (asks_getPage port _) fun _ => asks_done _

theorem asks_poeStatus : (w.poeStatus port).Asks fun c => poeAdminOf port c = none :=
  asks_bind (w.asks_getPoe port) fun _ => asks_done _

theorem asks_poeAdmin : (w.poeAdmin port).Asks fun c => poeAdminOf port c = none :=
  asks_bind (w.asks_getPoe port) fun _ => asks_done _

theorem asks_timedOut : (w.timedOut port).Asks fun c => poeAdminOf port c = none :=
  asks_bind (w.asks_poeStatus port) fun _ => asks_done _

variable {port}

variable {δ : Type} {m : Machine δ Call (Except LibError Text)} {d : δ}

/-- A write that ends well has sent its body, once. -/
theorem sent_goaheadWrite {body : Text} (h : ((w.goaheadWrite body).run m d).result = .ok ()) :
    ∃ path answer, ((w.goaheadWrite body).run m d).sent = [(.postXml path body, answer)] := by
  unfold goaheadWrite at h ⊢
  cases hpath : w.spec.xmlWritePath with
  | none =>
    rw [hpath] at h
    cases h
  | some path =>
    rw [hpath] at h
    rw [orRaise_some, run_bind_ok rfl] at h ⊢
    cases hcall : ((sessionCall (.postXml path body)).run m d).result with
    | error e =>
      rw [run_done, run_bind_error hcall] at h
      cases h
    | ok text =>
      rw [run_done, run_bind_ok hcall]
      exact ⟨path, (m d (.postXml path body)).2, rfl⟩

theorem poeAdmin_writePoeAdmin {on : Bool}
    (h : ((w.writePoeAdmin port on).run m d).result = .ok ()) :
    ((w.writePoeAdmin port on).run m d).sent.filterMap (fun x => poeAdminOf port x.1) = [on] := by
  cases hadmin : ((w.poeAdmin port).run m d).result with
  | error e =>
    rw [writePoeAdmin, run_bind_error hadmin] at h
    cases h
  | ok was =>
    have hreads := (w.asks_poeAdmin port).filterMap_sent m d
    rw [writePoeAdmin, run_bind_ok hadmin] at h ⊢
    obtain ⟨path, answer, hsent⟩ := w.sent_goaheadWrite h
    rw [List.filterMap_append, hreads, hsent, List.filterMap_cons, poeAdminOf_poeAdminBody]
    rfl

/-- A write of the admin state with its read-back: it fails before the read-back is judged, or the
state is written and read back, or it is written and something else is read. -/
theorem goaheadPoeAdmin_cases (hm : SessionErrors m) (port : ℤ) (on : Bool) (d : δ) :
    (∃ e ≠ .writeVerification, ((w.goaheadPoeAdmin port on).run m d).result = .error e) ∨
      ((w.goaheadPoeAdmin port on).run m d).sent.filterMap (fun x => poeAdminOf port x.1) = [on] ∧
        ∃ after, ((w.poeAdmin port).run m ((w.writePoeAdmin port on).run m d).device).result =
            .ok after ∧
          ((w.goaheadPoeAdmin port on).run m d).result =
            if after = on then .ok () else .error .writeVerification := by
  unfold goaheadPoeAdmin
  cases hwrite : ((w.writePoeAdmin port on).run m d).result with
  | error e =>
    left
    refine ⟨e, ?_, by rw [run_bind_error hwrite]⟩
    rintro rfl
    exact w.avoids_writePoeAdmin hm port on d hwrite
  | ok u =>
    have hwrites := w.poeAdmin_writePoeAdmin hwrite
    rw [run_bind_ok hwrite]
    generalize ((w.writePoeAdmin port on).run m d).device = d'
    have hreads := (w.asks_poeAdmin port).filterMap_sent m d'
    cases hafter : ((w.poeAdmin port).run m d').result with
    | error e =>
      left
      refine ⟨e, ?_, by rw [run_bind_error hafter]⟩
      rintro rfl
      exact w.avoids_poeAdmin hm port d' hafter
    | ok after =>
      right
      rw [run_bind_ok hafter]
      refine ⟨?_, after, rfl, ?_⟩
      · rw [List.filterMap_append, List.filterMap_append, hwrites, hreads]
        rfl
      · rfl

/-- The page read after the off write shows the port disabled. -/
def ReadsOff (m : Machine δ Call (Except LibError Text)) (d : δ) (port : ℤ) : Prop :=
  let off := ((w.writePoeAdmin port false).run m ((w.poeStatus port).run m d).device).device
  ((w.poeAdmin port).run m off).result = .ok false

/-- A re-arm that returns or fails a verification leaves the port enabled exactly where the off
write read back. -/
theorem lastPoeAdmin_goaheadPoeRearm (hm : SessionErrors m) {tries : ℕ}
    (hend : ((w.goaheadPoeRearm port tries).run m d).result = .ok () ∨
      ((w.goaheadPoeRearm port tries).run m d).result = .error .writeVerification) :
    lastPoeAdmin port ((w.goaheadPoeRearm port tries).run m d) = some true ↔
      w.ReadsOff m d port := by
  have hreads : w.ReadsOff m d port ↔ ((w.poeAdmin port).run m ((w.writePoeAdmin port false).run m
      ((w.poeStatus port).run m d).device).device).result = .ok false := Iff.rfl
  rw [hreads]
  unfold goaheadPoeRearm at hend ⊢
  have hstatus := (w.asks_poeStatus port).filterMap_sent m d
  cases hbefore : ((w.poeStatus port).run m d).result with
  | error e =>
    rw [run_bind_error hbefore] at hend
    rcases hend with h | h
    · cases h
    · cases h
      exact absurd hbefore (w.avoids_poeStatus hm port d)
  | ok before =>
    rw [run_bind_ok hbefore] at hend ⊢
    generalize ((w.poeStatus port).run m d).device = d₁ at hend ⊢
    rcases w.goaheadPoeAdmin_cases hm port false d₁ with
      ⟨e, he, hoff⟩ | ⟨hwrites, after, hafter, hoff⟩
    · rw [run_bind_error hoff] at hend
      rcases hend with h | h
      · cases h
      · cases h
        exact absurd rfl he
    · rw [hafter]
      cases after with
      | true =>
        rw [if_neg (by decide)] at hoff
        rw [run_bind_error hoff, lastPoeAdmin, List.filterMap_append, hstatus, hwrites]
        simp
      | false =>
        rw [if_pos rfl] at hoff
        rw [run_bind_ok hoff] at hend ⊢
        generalize ((w.goaheadPoeAdmin port false).run m d₁).device = d₂ at hend ⊢
        rcases w.goaheadPoeAdmin_cases hm port true d₂ with
          ⟨e, he, hon⟩ | ⟨hwrites', after, -, hon⟩
        · rw [run_bind_error hon] at hend
          rcases hend with h | h
          · cases h
          · cases h
            exact absurd rfl he
        · -- from here on nothing but reads follows
          cases after with
          | false =>
            rw [if_neg (by decide)] at hon
            rw [run_bind_error hon, lastPoeAdmin]
            simp [hstatus, hwrites, hwrites']
          | true =>
            rw [if_pos rfl] at hon
            have hpolls := (asks_pollUntil (poeCycleComplete before) (w.asks_poeStatus port)
              (w.asks_timedOut port) tries).filterMap_sent m
                ((w.goaheadPoeAdmin port true).run m d₂).device
            rw [run_bind_ok hon, lastPoeAdmin]
            simp [hstatus, hwrites, hwrites', hpolls]

end GoAheadWriter

end Writes

end NetgearSwitch.Http
