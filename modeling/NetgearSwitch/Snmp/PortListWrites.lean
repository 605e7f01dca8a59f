import NetgearSwitch.Snmp.Agent

/-!
# PortList writes against a device

`SnmpWriter.set_vlan_membership` run on an agent: which SETs it sends, when they carry the
device's own octets with only the port's bit changed, and which bit a port number below 1
reaches.

§1 the SETs of a run · §2 only the port's bit · §3 any port
-/

namespace NetgearSwitch.Snmp

open PyText Virtual Script

/-! ## §1 The SETs of a run -/

/-- A request that changes nothing. -/
def SnmpRequest.IsRead : SnmpRequest → Prop
  | .set _ => False
  | _ => True

/-- The varbinds of the SETs among what was sent. -/
def setsOf (sent : List (SnmpRequest × SnmpReply)) : List SetVarbind :=
  sent.flatMap fun x => match x.1 with
    | .set varbinds => varbinds
    | _ => []

theorem setsOf_append (xs ys : List (SnmpRequest × SnmpReply)) :
    setsOf (xs ++ ys) = setsOf xs ++ setsOf ys := List.flatMap_append

section Runs

variable {δ α β : Type} {m : Machine δ SnmpRequest SnmpReply} {d d' : δ} {p : SnmpScript α}
  {f : α → SnmpScript β}

theorem setsOf_of_asks (hp : p.Asks SnmpRequest.IsRead) : setsOf (p.run m d).sent = [] := by
  rw [setsOf, List.flatMap_eq_nil_iff]
  intro x hx
  have hread := hp.sent m d x hx
  revert hread
  cases x.1 with
  | set varbinds => exact False.elim
  | walk base => exact fun _ => rfl
  | get base index => exact fun _ => rfl

/-- After a part that only reads, the SETs are those of the rest. -/
theorem setsOf_bind {a : α} (hp : p.Asks SnmpRequest.IsRead) (hends : Ends m p d (.ok a) d') :
    setsOf ((p >>= f).run m d).sent = setsOf ((f a).run m d').sent := by
  rw [hends.sent_bind, setsOf_append, setsOf_of_asks hp, List.nil_append]

theorem setsOf_bind_error {e : LibError} (hp : p.Asks SnmpRequest.IsRead)
    (hends : Ends m p d (.error e) d') : setsOf ((p >>= f).run m d).sent = [] := by
  rw [hends.sent_bind_error, setsOf_of_asks hp]

theorem asks_walk (base : Oid) : (request (.walk base)).Asks SnmpRequest.IsRead :=
  asks_bind (asks_call trivial) fun _ => asks_done _

theorem asks_get (base : Oid) (index : ℤ) : (request (.get base index)).Asks SnmpRequest.IsRead :=
  asks_bind (asks_call trivial) fun _ => asks_done _

theorem asks_getVlans : SnmpReader.getVlans.Asks SnmpRequest.IsRead := by
  unfold SnmpReader.getVlans
  iterate 6
    apply asks_bind (asks_walk _)
    intro _
  exact asks_done _

theorem asks_vlan (v : ℤ) : (SnmpWriter.vlan v).Asks SnmpRequest.IsRead :=
  asks_bind asks_getVlans fun _ => asks_done _

theorem asks_physical : SnmpWriter.physical.Asks SnmpRequest.IsRead :=
  asks_bind (asks_walk _) fun _ => asks_done _

theorem asks_rawBitmap (base : Oid) (v : ℤ) :
    (SnmpWriter.rawBitmap base v).Asks SnmpRequest.IsRead :=
  asks_bind (asks_walk _) fun _ => asks_done _

theorem asks_switchportMode (port : ℤ) :
    (SnmpWriter.switchportMode port).Asks SnmpRequest.IsRead :=
  asks_bind (asks_get _ _) fun _ => asks_done _

theorem asks_switchportVlanBitmap (base : Oid) (port : ℤ) :
    (SnmpWriter.switchportVlanBitmap base port).Asks SnmpRequest.IsRead :=
  asks_bind (asks_get _ _) fun _ => asks_done _

theorem asks_ensure {c : Prop} [Decidable c] {e : LibError} {φ : SnmpRequest → Prop} :
    (ensure c e : SnmpScript Unit).Asks φ := asks_done _

theorem asks_guard (w : SnmpWriter) (port : ℤ) (force : Bool) :
    (w.guard port force).Asks SnmpRequest.IsRead := asks_done _

theorem asks_verifyPortLists (v : ℤ) (lists : Bytes × Bytes) :
    (SnmpWriter.verifyPortLists v lists).Asks SnmpRequest.IsRead := by
  apply asks_bind (asks_vlan v)
  intro after
  apply asks_bind asks_physical
  intro keep
  apply asks_bind (asks_done _)
  intro after
  apply asks_bind asks_ensure
  intro _
  exact asks_ensure

end Runs

/-- The two PortLists of a VLAN. -/
inductive PortListColumn
  | egress
  | untagged
  deriving DecidableEq

namespace PortListColumn

def oid : PortListColumn → Oid
  | .egress => dot1qVlanStaticEgress
  | .untagged => dot1qVlanStaticUntagged

/-- Does `mode` set the port's bit in this list? -/
def present (mode : VlanMode) : PortListColumn → Bool
  | .egress => inEgress mode
  | .untagged => inUntagged mode

/-- The ports the reader takes the list to hold. -/
def decoded (info : VLANInfo) : PortListColumn → Finset ℤ
  | .egress => info.memberPorts
  | .untagged => info.untaggedPorts

def pick {α : Type} (lists : α × α) : PortListColumn → α
  | .egress => lists.1
  | .untagged => lists.2

end PortListColumn

/-- The SET of one list of a VLAN. -/
def listVarbind (v : ℤ) (lists : Bytes × Bytes) (c : PortListColumn) : SetVarbind :=
  ⟨instanceOid c.oid v, .bytes (c.pick lists)⟩

namespace SnmpWriter

variable (w : SnmpWriter)

/-- The writer gets as far as reading the VLAN it is asked about, which is `before`. -/
def Proceeds (t : Transport) (mib : Mib) (v port : ℤ) (force : Bool) (before : VLANInfo) : Prop :=
  ¬ (port ∈ w.protectedPorts ∧ ¬ force) ∧
    ∃ vlans, mib.vlans t = .ok vlans ∧ vlans.find? (·.vlanId = v) = some before

/-- The octets `c` is edited from: the agent's own where one of them is not printable. -/
def start (mib : Mib) (v : ℤ) (before : VLANInfo) (c : PortListColumn) : Option Bytes :=
  startOctets ((mib.octets c.oid v).filter fun raw => decide (Binary raw)) (c.decoded before)

/-- The lists the writer sends. -/
def listsFor (mib : Mib) (v port : ℤ) (mode : VlanMode) (before : VLANInfo) :
    Option (Bytes × Bytes) :=
  w.newPortLists before port mode
    ((mib.octets dot1qVlanStaticEgress v).filter fun raw => decide (Binary raw))
    ((mib.octets dot1qVlanStaticUntagged v).filter fun raw => decide (Binary raw))

end SnmpWriter

section Membership

variable {δ : Type} {a : Agent δ} {t : Transport} {d : δ} {w : SnmpWriter} {v port : ℤ}
  {mode : VlanMode} {force : Bool} {before : VLANInfo} {lists : Bytes × Bytes}

/-- A write whose SETs were accepted goes on; after one refused nothing more is sent. -/
theorem setsOf_setMany {β : Type} (varbinds : List SetVarbind) (f : Unit → SnmpScript β) :
    setsOf ((setMany varbinds >>= f).run (a.machine t) d).sent =
      varbinds ++ match (a.write d varbinds).2 with
        | .ok _ => setsOf ((f ()).run (a.machine t) (a.write d varbinds).1).sent
        | .error _ => [] := by
  have hask : (setMany varbinds >>= f) = Script.ask (.set varbinds) fun answer =>
      ((done answer : SnmpScript (List SnmpRow)).bind fun _ => done (.ok ())).bind f := rfl
  have hmachine : a.machine t d (.set varbinds) =
      ((a.write d varbinds).1, (a.write d varbinds).2.map fun _ => []) := rfl
  rw [hask, run, hmachine]
  cases (a.write d varbinds).2 with
  | error e => rfl
  | ok u => rfl

theorem setsOf_setMany_of_asks {β : Type} (varbinds : List SetVarbind) {f : Unit → SnmpScript β}
    (hf : (f ()).Asks SnmpRequest.IsRead) :
    setsOf ((setMany varbinds >>= f).run (a.machine t) d).sent = varbinds := by
  rw [setsOf_setMany, setsOf_of_asks hf]
  split <;> exact List.append_nil _

/-- Both lists are sent, the untagged one only to an agent that has not refused the other. -/
theorem mem_setsOf_sendPortLists :
    (∀ vb ∈ setsOf ((w.sendPortLists v lists >>= fun _ =>
        SnmpWriter.verifyPortLists v lists).run (a.machine t) d).sent,
      ∃ c, vb = listVarbind v lists c) ∧
    ((∀ d varbinds, (a.write d varbinds).2 = .ok ()) → ∀ c, listVarbind v lists c ∈
      setsOf ((w.sendPortLists v lists >>= fun _ =>
        SnmpWriter.verifyPortLists v lists).run (a.machine t) d).sent) := by
  have hegress : SnmpWriter.egressVarbind v lists.1 = listVarbind v lists .egress := rfl
  have huntagged : SnmpWriter.untaggedVarbind v lists.2 = listVarbind v lists .untagged := rfl
  unfold SnmpWriter.sendPortLists
  rw [hegress, huntagged]
  split_ifs
  · rw [bind_assoc, setsOf_setMany]
    constructor
    · intro vb hvb
      rcases List.mem_append.mp hvb with hvb | hvb
      · exact ⟨.egress, List.mem_singleton.mp hvb⟩
      · cases hanswer : (a.write d [listVarbind v lists .egress]).2 with
        | error e =>
          rw [hanswer] at hvb
          cases hvb
        | ok u =>
          rw [hanswer, setsOf_setMany_of_asks _ (asks_verifyPortLists v lists)] at hvb
          exact ⟨.untagged, List.mem_singleton.mp hvb⟩
    · intro haccept c
      rw [haccept, setsOf_setMany_of_asks _ (asks_verifyPortLists v lists)]
      cases c with
      | egress => exact List.mem_append_left _ (List.mem_singleton.mpr rfl)
      | untagged => exact List.mem_append_right _ (List.mem_singleton.mpr rfl)
  · rw [setsOf_setMany_of_asks _ (asks_verifyPortLists v lists)]
    constructor
    · intro vb hvb
      rcases List.mem_pair.mp hvb with hvb | hvb
      · exact ⟨.egress, hvb⟩
      · exact ⟨.untagged, hvb⟩
    · intro _ c
      cases c with
      | egress => exact List.mem_cons_self
      | untagged => exact List.mem_cons_of_mem _ List.mem_cons_self

/-- What a write that does not get as far as the VLAN comes to. -/
theorem setVlanMembership_refused (mode : VlanMode)
    (hrefused : ∀ before, ¬ w.Proceeds t (a.mib d) v port force before) :
    ∃ e, Ends (a.machine t) (w.setVlanMembership v port mode force) d (.error e) d ∧
      setsOf ((w.setVlanMembership v port mode force).run (a.machine t) d).sent = [] := by
  unfold SnmpWriter.setVlanMembership
  by_cases hguard : ¬ (port ∈ w.protectedPorts ∧ ¬ force)
  · have hguard' : Ends (a.machine t) (w.guard port force) d (.ok ()) d := ends_ensure hguard _
    rw [setsOf_bind (asks_guard w port force) hguard']
    cases hvlans : (a.mib d).vlans t with
    | error e =>
      have hread : Ends (a.machine t) SnmpReader.getVlans d (.error e) d := by
        rw [← hvlans]
        exact ends_getVlans a t d
      exact ⟨e, hguard'.bind hread.bind_error, setsOf_bind_error asks_getVlans hread⟩
    | ok vlans =>
      have hread : Ends (a.machine t) SnmpReader.getVlans d (.ok vlans) d := by
        rw [← hvlans]
        exact ends_getVlans a t d
      have hnone : vlans.find? (·.vlanId = v) = none := by
        cases hfind : vlans.find? (·.vlanId = v) with
        | none => rfl
        | some before => exact absurd ⟨hguard, vlans, hvlans, hfind⟩ (hrefused before)
      have hbefore : Ends (a.machine t)
          (done (orRaise .snmp (vlans.find? (·.vlanId = v))) : SnmpScript VLANInfo) d
          (.error .snmp) d := by
        rw [hnone]
        exact ends_done _
      refine ⟨.snmp, hguard'.bind (hread.bind hbefore.bind_error), ?_⟩
      rw [setsOf_bind asks_getVlans hread]
      exact setsOf_bind_error (asks_done _) hbefore
  · have hguard' : Ends (a.machine t) (w.guard port force) d (.error .protectedPort) d := by
      rw [SnmpWriter.guard, ensure_of_neg hguard]
      exact ends_done _
    exact ⟨.protectedPort, hguard'.bind_error, setsOf_bind_error (asks_guard w port force) hguard'⟩

/-- Once the VLAN is read, the write is what its dialect does. -/
theorem setVlanMembership_proceeds (mode : VlanMode) (h : w.Proceeds t (a.mib d) v port force before) :
    ∃ vlans, setsOf ((w.setVlanMembership v port mode force).run (a.machine t) d).sent =
      setsOf ((if w.model.snmpVlanWrite = .fastpathSwitchport then
          SnmpWriter.setVlanSwitchport v port mode vlans
        else w.setVlanQbridge v port mode before).run (a.machine t) d).sent ∧
      ∀ {r d'}, Ends (a.machine t) (if w.model.snmpVlanWrite = .fastpathSwitchport then
          SnmpWriter.setVlanSwitchport v port mode vlans
        else w.setVlanQbridge v port mode before) d r d' →
        Ends (a.machine t) (w.setVlanMembership v port mode force) d r d' := by
  obtain ⟨hguard, vlans, hvlans, hfind⟩ := h
  have hguard' : Ends (a.machine t) (w.guard port force) d (.ok ()) d := ends_ensure hguard _
  have hread : Ends (a.machine t) SnmpReader.getVlans d (.ok vlans) d := by
    rw [← hvlans]
    exact ends_getVlans a t d
  have hbefore : Ends (a.machine t)
      (done (orRaise .snmp (vlans.find? (·.vlanId = v))) : SnmpScript VLANInfo) d
      (.ok before) d := by
    rw [hfind]
    exact ends_done _
  refine ⟨vlans, ?_, fun hends => hguard'.bind (hread.bind (hbefore.bind hends))⟩
  unfold SnmpWriter.setVlanMembership
  rw [setsOf_bind (asks_guard w port force) hguard', setsOf_bind asks_getVlans hread,
    setsOf_bind (asks_done _) hbefore]

/-- The static columns of a MIB whose VLANs read. -/
theorem vlanBitmapMap_of_vlans {mib : Mib} {vlans : List VLANInfo} (h : mib.vlans t = .ok vlans)
    (c : PortListColumn) : ∃ column, vlanBitmapMap (mib.rows t c.oid) c.oid = .ok column := by
  unfold Mib.vlans parseVlans at h
  obtain ⟨physical, -, h⟩ := bind_eq_ok.mp h
  obtain ⟨name, -, h⟩ := bind_eq_ok.mp h
  obtain ⟨egress, hegress, h⟩ := bind_eq_ok.mp h
  obtain ⟨untagged, huntagged, -⟩ := bind_eq_ok.mp h
  cases c with
  | egress => exact ⟨egress, hegress⟩
  | untagged => exact ⟨untagged, huntagged⟩

/-- The Q-BRIDGE dialect reads the raw lists and sends what it makes of them. -/
theorem setVlanQbridge_reads (mode : VlanMode) (h : w.Proceeds t (a.mib d) v port force before) :
    setsOf ((w.setVlanQbridge v port mode before).run (a.machine t) d).sent =
      setsOf (((done (orRaise .indexError (w.listsFor (a.mib d) v port mode before)) :
        SnmpScript (Bytes × Bytes)) >>= fun lists => w.sendPortLists v lists >>= fun _ =>
          SnmpWriter.verifyPortLists v lists).run (a.machine t) d).sent ∧
      ∀ {r d'}, Ends (a.machine t) ((done (orRaise .indexError
          (w.listsFor (a.mib d) v port mode before)) :
        SnmpScript (Bytes × Bytes)) >>= fun lists => w.sendPortLists v lists >>= fun _ =>
          SnmpWriter.verifyPortLists v lists) d r d' →
        Ends (a.machine t) (w.setVlanQbridge v port mode before) d r d' := by
  obtain ⟨-, vlans, hvlans, -⟩ := h
  have hraw : ∀ c : PortListColumn, Ends (a.machine t) (SnmpWriter.rawBitmap c.oid v) d
      (.ok (((a.mib d).octets c.oid v).filter fun raw => decide (Binary raw))) d := by
    intro c
    obtain ⟨column, hcolumn⟩ := vlanBitmapMap_of_vlans hvlans c
    have hne : c.oid ≠ [] := by cases c <;> exact List.cons_ne_nil _ _
    rw [← Mib.findSome?_octetsOf hne v hcolumn]
    exact ends_rawBitmap a t d _ _
  refine ⟨?_, fun hends => (hraw .egress).bind ((hraw .untagged).bind hends)⟩
  unfold SnmpWriter.setVlanQbridge
  exact (setsOf_bind (asks_rawBitmap _ _) (hraw .egress)).trans
    (setsOf_bind (asks_rawBitmap _ _) (hraw .untagged))

/-- A request that writes no PortList. -/
def SnmpRequest.SparesPortLists : SnmpRequest → Prop
  | .set varbinds => ∀ vb ∈ varbinds, ∀ (c : PortListColumn) (v : ℤ), vb.oid ≠ instanceOid c.oid v
  | _ => True

theorem SnmpRequest.IsRead.sparesPortLists {q : SnmpRequest} (h : q.IsRead) :
    q.SparesPortLists := by
  cases q with
  | set varbinds => exact False.elim h
  | walk base => trivial
  | get base index => trivial

theorem sparesPortLists_plan {currentMode : Option ℤ} {allowed : Bytes}
    {tagged untagged existing : Finset ℤ} {plan : SwitchportPlan}
    (h : planSwitchportMembership v port mode currentMode allowed tagged untagged existing =
      .ok plan) : ∀ vb ∈ plan.varbinds, ∀ (c : PortListColumn) (u : ℤ),
        vb.oid ≠ instanceOid c.oid u := by
  have hapart : ∀ (rest : Oid) (c : PortListColumn) (u : ℤ),
      (1 :: 3 :: 6 :: 1 :: 4 :: rest) ≠ instanceOid c.oid u := by
    intro rest c u
    cases c <;> simp [instanceOid, PortListColumn.oid, dot1qVlanStaticEgress,
      dot1qVlanStaticUntagged]
  unfold planSwitchportMembership at h
  obtain ⟨untaggedVlan, -, h⟩ := bind_eq_ok.mp h
  intro vb hvb c u
  split_ifs at h
  · obtain ⟨octets, -, h⟩ := bind_eq_ok.mp h
    cases h
    simp only [List.mem_cons, List.not_mem_nil, or_false] at hvb
    rcases hvb with rfl | rfl | rfl <;> exact hapart _ c u
  · cases h
    simp only [List.mem_cons, List.not_mem_nil, or_false] at hvb
    rcases hvb with rfl | rfl <;> exact hapart _ c u

theorem asks_sendEach : ∀ {varbinds : List SetVarbind},
    (∀ vb ∈ varbinds, ∀ (c : PortListColumn) (u : ℤ), vb.oid ≠ instanceOid c.oid u) →
      (SnmpWriter.sendEach varbinds).Asks SnmpRequest.SparesPortLists
  | [], _ => asks_done _
  | vb :: rest, h => by
    have hset : (setMany [vb]).Asks SnmpRequest.SparesPortLists := by
      have hcall : (call (.set [vb]) : SnmpScript SnmpReply).Asks SnmpRequest.SparesPortLists :=
        asks_call (List.forall_mem_singleton.mpr (h vb List.mem_cons_self))
      exact asks_bind (asks_bind hcall fun _ => asks_done _) fun _ => asks_done _
    apply asks_bind hset
    intro _
    exact asks_sendEach fun vb' hvb' => h vb' (List.mem_cons_of_mem _ hvb')

/-- The switchport dialect writes no PortList. -/
theorem asks_setVlanSwitchport (vlans : List VLANInfo) :
    (SnmpWriter.setVlanSwitchport v port mode vlans).Asks SnmpRequest.SparesPortLists := by
  have hreads : ∀ {α : Type} {p : SnmpScript α}, p.Asks SnmpRequest.IsRead →
      p.Asks SnmpRequest.SparesPortLists :=
    fun hp => hp.imp fun q hq => hq.sparesPortLists
  apply asks_bind (hreads (asks_switchportMode port))
  intro currentMode
  apply asks_bind (hreads (asks_switchportVlanBitmap _ port))
  intro allowed
  apply asks_done_bind
  intro plan hplan
  apply asks_bind (asks_sendEach (sparesPortLists_plan hplan))
  intro _
  apply asks_bind (hreads asks_getVlans)
  intro after
  split_ifs
  · exact asks_done _
  · apply asks_bind (hreads (asks_vlan v))
    intro _
    exact asks_done _

/-- The ports the reader finds are numbers of a list. -/
theorem pos_of_vlans {mib : Mib} {vlans : List VLANInfo} (h : mib.vlans t = .ok vlans)
    {info : VLANInfo} (hinfo : info ∈ vlans) (c : PortListColumn) :
    ∀ p ∈ c.decoded info, 1 ≤ p := by
  have hports := (wellRead_of_parseVlans h info hinfo).pos
  cases c with
  | egress => exact hports.1
  | untagged => exact hports.2

end Membership

/-! ## §2 Only the port's bit -/

namespace SnmpWriter

variable (w : SnmpWriter) (t : Transport) (mib : Mib) (v port : ℤ) (mode : VlanMode)
  (before : VLANInfo) (c : PortListColumn)

/-- The ports `c` is edited from. -/
def startPorts : Finset ℤ :=
  ((mib.octets c.oid v).filter fun raw => decide (Binary raw)).elim (c.decoded before)
    Bitmap.numbers

/-- The width the edited list gets where no port needs more. -/
def editedWidth : ℕ :=
  targetWidth ((start mib v before c).getD []).length (vlanBitmapWidth w.model)

variable {w t mib v port mode before}

theorem exists_start {force : Bool} (h : w.Proceeds t mib v port force before) :
    ∃ octets, start mib v before c = some octets ∧
      Bitmap.numbers octets = startPorts mib v before c := by
  obtain ⟨-, vlans, hvlans, hfind⟩ := h
  have hpos := pos_of_vlans hvlans (List.mem_of_find?_eq_some hfind) c
  unfold start startPorts startOctets
  cases (mib.octets c.oid v).filter fun raw => decide (Binary raw) with
  | some raw => exact ⟨raw, rfl, rfl⟩
  | none =>
    have hsorted : ∀ p ∈ PySet.sorted (c.decoded before), 1 ≤ p :=
      fun p hp => hpos p (PySet.mem_sorted.mp hp)
    obtain ⟨octets, hoctets, -, hnum⟩ := Bitmap.encodeNumbers_spec 8 hsorted
    rw [PySet.toFinset_sorted] at hnum
    exact ⟨octets, hoctets, hnum⟩

/-- The lists sent, column by column. -/
theorem listsFor_eq_some {lists : Bytes × Bytes} :
    w.listsFor mib v port mode before = some lists ↔ ∀ c : PortListColumn, ∃ octets,
      start mib v before c = some octets ∧
        setPortBit octets port (c.present mode) (vlanBitmapWidth w.model) = some (c.pick lists) := by
  have hunfold : w.listsFor mib v port mode before =
      (start mib v before .egress).bind fun egress =>
        (start mib v before .untagged).bind fun untagged =>
          (setPortBit egress port (inEgress mode) (vlanBitmapWidth w.model)).bind fun newEgress =>
            (setPortBit untagged port (inUntagged mode) (vlanBitmapWidth w.model)).bind
              fun newUntagged => some (newEgress, newUntagged) := rfl
  rw [hunfold]
  simp only [Option.bind_eq_some_iff]
  constructor
  · rintro ⟨egress, hegress, untagged, huntagged, newEgress, hnewEgress, newUntagged,
      hnewUntagged, hlists⟩ c
    cases hlists
    cases c with
    | egress => exact ⟨egress, hegress, hnewEgress⟩
    | untagged => exact ⟨untagged, huntagged, hnewUntagged⟩
  · intro h
    obtain ⟨egress, hegress, hnewEgress⟩ := h .egress
    obtain ⟨untagged, huntagged, hnewUntagged⟩ := h .untagged
    exact ⟨egress, hegress, untagged, huntagged, lists.1, hnewEgress, lists.2, hnewUntagged, rfl⟩

/-- The lists cannot be built exactly where a bit to set would land before its list. -/
theorem listsFor_eq_none_iff {force : Bool} (h : w.Proceeds t mib v port force before) :
    w.listsFor mib v port mode before = none ↔ ∃ c : PortListColumn, c.present mode = true ∧
      landing port (w.editedWidth mib v before c) ≤ 0 := by
  have hnew : ∀ c : PortListColumn, ∃ octets, start mib v before c = some octets ∧
      (c.present mode = true ∧ landing port (w.editedWidth mib v before c) ≤ 0 ∧
          setPortBit octets port (c.present mode) (vlanBitmapWidth w.model) = none ∨
        ¬ (c.present mode = true ∧ landing port (w.editedWidth mib v before c) ≤ 0) ∧
          ∃ new, setPortBit octets port (c.present mode) (vlanBitmapWidth w.model) = some new) := by
    intro c
    obtain ⟨octets, hstart, -⟩ := exists_start c h
    have hwidth : w.editedWidth mib v before c =
        targetWidth octets.length (vlanBitmapWidth w.model) := by
      rw [editedWidth, hstart, Option.getD_some]
    refine ⟨octets, hstart, ?_⟩
    rw [hwidth]
    cases c.present mode with
    | true =>
      rcases setPortBit_present octets port (vlanBitmapWidth w.model) with ⟨hlow, hnone⟩ | ⟨new, hnew, hland, -⟩
      · exact Or.inl ⟨rfl, hlow, hnone⟩
      · exact Or.inr ⟨fun hnot => absurd hnot.2 (by omega), new, hnew⟩
    | false =>
      obtain ⟨new, hnew, -⟩ := setPortBit_absent octets port (vlanBitmapWidth w.model)
      exact Or.inr ⟨fun hnot => absurd hnot.1 (by decide), new, hnew⟩
  constructor
  · intro hnone
    by_contra hland
    have hall : ∀ c : PortListColumn, ∃ octets, start mib v before c = some octets ∧
        ∃ new, setPortBit octets port (c.present mode) (vlanBitmapWidth w.model) = some new := by
      intro c
      obtain ⟨octets, hstart, ⟨hpresent, hlow, -⟩ | ⟨-, hsome⟩⟩ := hnew c
      · exact absurd ⟨c, hpresent, hlow⟩ hland
      · exact ⟨octets, hstart, hsome⟩
    obtain ⟨egress, hegress, newEgress, hnewEgress⟩ := hall .egress
    obtain ⟨untagged, huntagged, newUntagged, hnewUntagged⟩ := hall .untagged
    have hsome : w.listsFor mib v port mode before = some (newEgress, newUntagged) := by
      rw [listsFor_eq_some]
      intro c
      cases c with
      | egress => exact ⟨egress, hegress, hnewEgress⟩
      | untagged => exact ⟨untagged, huntagged, hnewUntagged⟩
    rw [hsome] at hnone
    cases hnone
  · rintro ⟨c, hland⟩
    cases hlists : w.listsFor mib v port mode before with
    | none => rfl
    | some lists =>
      obtain ⟨octets, hstart, hsome⟩ := listsFor_eq_some.mp hlists c
      obtain ⟨octets', hstart', ⟨-, -, hnone⟩ | ⟨hnot, -⟩⟩ := hnew c
      · rw [hstart] at hstart'
        cases hstart'
        rw [hsome] at hnone
        cases hnone
      · exact absurd hland hnot

/-- What the SETs of a write can be, and what they are where every SET is accepted. -/
theorem setsOf_setVlanMembership (mode : VlanMode) {δ : Type} {a : Agent δ} {d : δ} {force : Bool}
    (hmodel : w.model.snmpVlanWrite ≠ .fastpathSwitchport)
    (h : w.Proceeds t (a.mib d) v port force before) :
    (∀ vb ∈ setsOf ((w.setVlanMembership v port mode force).run (a.machine t) d).sent,
      ∃ lists, w.listsFor (a.mib d) v port mode before = some lists ∧
        ∃ c, vb = listVarbind v lists c) ∧
    (∀ lists, w.listsFor (a.mib d) v port mode before = some lists →
      (∀ d varbinds, (a.write d varbinds).2 = .ok ()) → ∀ c, listVarbind v lists c ∈
        setsOf ((w.setVlanMembership v port mode force).run (a.machine t) d).sent) ∧
    (w.listsFor (a.mib d) v port mode before = none →
      Ends (a.machine t) (w.setVlanMembership v port mode force) d (.error .indexError) d ∧
        setsOf ((w.setVlanMembership v port mode force).run (a.machine t) d).sent = []) := by
  obtain ⟨vlans, hsets, hends⟩ := setVlanMembership_proceeds mode h
  rw [if_neg hmodel] at hsets
  have hreads := setVlanQbridge_reads mode h
  rw [hsets, hreads.1]
  cases hlists : w.listsFor (a.mib d) v port mode before with
  | none =>
    have herror : Ends (a.machine t) (done (.error .indexError) : SnmpScript (Bytes × Bytes)) d
        (.error .indexError) d := ends_done _
    have hnil := setsOf_bind_error (f := fun lists => w.sendPortLists v lists >>= fun _ =>
      verifyPortLists v lists) (asks_done _) herror
    refine ⟨?_, fun lists h => (nomatch h), fun _ => ⟨?_, hnil⟩⟩
    · intro vb hvb
      rw [orRaise_none, hnil] at hvb
      cases hvb
    · apply hends
      rw [if_neg hmodel]
      apply hreads.2
      rw [hlists]
      exact herror.bind_error
  | some lists =>
    have hok : Ends (a.machine t) (done (.ok lists) : SnmpScript (Bytes × Bytes)) d
        (.ok lists) d := ends_done _
    have hsend := setsOf_bind (f := fun lists => w.sendPortLists v lists >>= fun _ =>
      verifyPortLists v lists) (asks_done _) hok
    rw [orRaise_some, hsend]
    refine ⟨?_, ?_, fun h => (nomatch h)⟩
    · intro vb hvb
      obtain ⟨c, hc⟩ := mem_setsOf_sendPortLists.1 vb hvb
      exact ⟨lists, rfl, c, hc⟩
    · intro lists' hlists' haccept c
      cases hlists'
      exact mem_setsOf_sendPortLists.2 haccept c

/-- The switchport dialect sends no PortList. -/
theorem oid_of_switchport {δ : Type} {a : Agent δ} {d : δ} {force : Bool}
    (hmodel : w.model.snmpVlanWrite = .fastpathSwitchport)
    (h : w.Proceeds t (a.mib d) v port force before) {vb : SetVarbind}
    (hvb : vb ∈ setsOf ((w.setVlanMembership v port mode force).run (a.machine t) d).sent)
    (c : PortListColumn) (u : ℤ) : vb.oid ≠ instanceOid c.oid u := by
  obtain ⟨vlans, hsets, -⟩ := setVlanMembership_proceeds mode h
  rw [hsets, if_pos hmodel] at hvb
  obtain ⟨x, hx, hvb⟩ := List.mem_flatMap.mp hvb
  have hspares := (asks_setVlanSwitchport vlans).sent (a.machine t) d x hx
  obtain ⟨q, answer⟩ := x
  cases q with
  | set varbinds => exact hspares vb hvb c u
  | walk base => cases hvb
  | get base index => cases hvb

theorem eq_of_oid {c c' : PortListColumn} {u : ℤ}
    (h : instanceOid c'.oid u = instanceOid c.oid u) : c' = c := by
  cases c <;> cases c' <;>
    simp_all [instanceOid, PortListColumn.oid, dot1qVlanStaticEgress, dot1qVlanStaticUntagged]

/-- The octets `new` are `raw` with only `port`'s bit changed, zero-extended at most. -/
def OnlyPortEdited (port : ℤ) (present : Bool) (raw new : Bytes) : Prop :=
  raw.length ≤ new.length ∧
    Bitmap.numbers new =
      if present then insert port (Bitmap.numbers raw) else (Bitmap.numbers raw).erase port

variable (w t mib v port mode before)

/-- Whatever an agent that holds `mib` answers to the SETs, those of the VLAN's two lists carry
the agent's octets with only the port's bit changed; and a port's allowed-VLAN octets are read
as they are. -/
def KeepsDeviceOctets (force : Bool) : Prop :=
  (∀ (δ : Type) (a : Agent δ) (d : δ), a.mib d = mib →
    ∀ vb ∈ setsOf ((w.setVlanMembership v port mode force).run (a.machine t) d).sent,
      ∀ (c : PortListColumn) (raw : Bytes), mib.octets c.oid v = some raw →
        vb.oid = instanceOid c.oid v →
          ∃ new, vb.value = .bytes new ∧ OnlyPortEdited port (c.present mode) raw new) ∧
  ∀ (δ : Type) (a : Agent δ) (d : δ), a.mib d = mib →
    ∀ raw, mib.octets fastpathSwitchportAllowedVlans port = some raw →
      ((switchportVlanBitmap fastpathSwitchportAllowedVlans port).run (a.machine t) d).result =
        .ok raw

variable {w t mib v port mode before}

/-- A list held by the agent: what becomes of it. -/
theorem onlyPortEdited_iff {force : Bool} (hport : 1 ≤ port ∧ port ≤ w.model.portCount)
    (h : w.Proceeds t mib v port force before) {lists : Bytes × Bytes}
    (hlists : w.listsFor mib v port mode before = some lists) {raw : Bytes}
    (hraw : mib.octets c.oid v = some raw) :
    OnlyPortEdited port (c.present mode) raw (c.pick lists) ↔
      Binary raw ∨ (c.decoded before).erase port = (Bitmap.numbers raw).erase port ∧
        raw.length ≤ w.editedWidth mib v before c := by
  obtain ⟨octets, hstart, hnum⟩ := exists_start c h
  obtain ⟨octets', hstart', hnew⟩ := listsFor_eq_some.mp hlists c
  rw [hstart] at hstart'
  cases hstart'
  have hwidth : port ≤ 8 * (targetWidth octets.length (vlanBitmapWidth w.model) : ℤ) := by
    have := (le_targetWidth octets.length (vlanBitmapWidth w.model)).2
    unfold vlanBitmapWidth at this ⊢
    omega
  obtain ⟨new, hnew', hlen, hnumNew⟩ := setPortBit_of_fits (c.present mode)
    hport.1 hwidth
  rw [hnew] at hnew'
  cases hnew'
  have hedited : w.editedWidth mib v before c =
      targetWidth octets.length (vlanBitmapWidth w.model) := by
    rw [editedWidth, hstart, Option.getD_some]
  have hbits : (if c.present mode then insert port (Bitmap.numbers octets)
        else (Bitmap.numbers octets).erase port) =
      (if c.present mode then insert port (Bitmap.numbers raw)
        else (Bitmap.numbers raw).erase port) ↔
      (Bitmap.numbers octets).erase port = (Bitmap.numbers raw).erase port := by
    cases c.present mode with
    | true =>
      simp only [if_true]
      constructor
      · intro h
        rw [← Finset.erase_insert_eq_erase, h, Finset.erase_insert_eq_erase]
      · intro h
        ext q
        have hq := congrArg (q ∈ ·) h
        simp only [Finset.mem_erase, Finset.mem_insert, eq_iff_iff] at hq ⊢
        tauto
    | false => exact Iff.rfl
  rw [OnlyPortEdited, hlen, hnumNew, hbits, ← hedited, hnum]
  by_cases hbinary : Binary raw
  · have hown : (mib.octets c.oid v).filter (fun raw => decide (Binary raw)) = some raw := by
      rw [hraw]
      exact if_pos (decide_eq_true hbinary)
    have hoctets : octets = raw := by
      unfold start startOctets at hstart
      rw [hown] at hstart
      exact (Option.some.inj hstart).symm
    refine iff_of_true ⟨?_, ?_⟩ (Or.inl hbinary)
    · rw [hedited, hoctets]
      exact (le_targetWidth _ _).1
    · rw [startPorts, hown]
      rfl
  · have hown : (mib.octets c.oid v).filter (fun raw => decide (Binary raw)) = none := by
      rw [hraw]
      exact if_neg (by simpa using hbinary)
    have hports : startPorts mib v before c = c.decoded before := by
      rw [startPorts, hown]
      rfl
    rw [hports, and_comm, or_iff_right hbinary]

/-- The row of octets the agent holds. -/
theorem row_of_octets {column : Oid} {index : ℤ} {raw : Bytes}
    (h : mib.octets column index = some raw) :
    mib.row t column index = .ok [t.row ⟨instanceOid column index, .octetString raw⟩] := by
  unfold Mib.octets at h
  unfold Mib.row
  split_ifs at h ⊢ with hneg
  obtain ⟨vb, hmem, hvb⟩ := List.exists_of_findSome?_eq_some h
  have hoid : vb.oid = instanceOid column index := by
    by_contra hne
    rw [if_neg hne] at hvb
    cases hvb
  rw [if_pos hoid] at hvb
  have hfind : mib.varbinds.find? (·.oid = instanceOid column index) = some vb := by
    cases hfound : mib.varbinds.find? (·.oid = instanceOid column index) with
    | none => exact absurd hoid (by simpa using List.find?_eq_none.mp hfound vb hmem)
    | some vb' =>
      have hoid' : vb'.oid = instanceOid column index := by
        simpa using List.find?_some hfound
      rw [List.inj_on_of_nodup_map mib.nodup (List.mem_of_find?_eq_some hfound) hmem
        (hoid'.trans hoid.symm)]
  have hvalue : vb = ⟨instanceOid column index, .octetString raw⟩ := by
    obtain ⟨oid, value⟩ := vb
    cases value with
    | octetString b =>
      cases hvb
      cases hoid
      rfl
    | _ => cases hvb
  rw [hfind, orRaise_some, ← hvalue]
  rfl

/-- A switchport VLAN list is read as it is where one of its octets is not printable. -/
theorem result_switchportVlanBitmap_iff {δ : Type} {a : Agent δ} {d : δ} {column : Oid}
    {raw : Bytes} (h : (a.mib d).octets column port = some raw) :
    ((switchportVlanBitmap column port).run (a.machine t) d).result = .ok raw ↔ Binary raw := by
  have hget : Ends (a.machine t) (request (.get column port)) d
      (.ok [t.row ⟨instanceOid column port, .octetString raw⟩]) d := by
    apply ends_request
    show (d, (a.mib d).row t column port) = _
    rw [row_of_octets h]
  have hends : Ends (a.machine t) (switchportVlanBitmap column port) d
      (.ok (([t.row ⟨instanceOid column port, .octetString raw⟩].findSome? rowBytes).getD
        (List.replicate switchportVlanBitmapBytes 0))) d := hget.bind (ends_done _)
  rw [hends.1]
  by_cases hbinary : Binary raw
  · refine iff_of_true ?_ hbinary
    have hvalue : (t.row ⟨instanceOid column port, .octetString raw⟩).value = .bytes raw :=
      Transport.row_value_eq_bytes.mpr ⟨rfl, hbinary⟩
    simp [rowBytes, hvalue]
  · refine iff_of_false ?_ hbinary
    intro hok
    have hnone : [t.row ⟨instanceOid column port, .octetString raw⟩].findSome? rowBytes = none := by
      rw [List.findSome?_eq_none_iff]
      intro row hrow
      rw [List.mem_singleton.mp hrow, rowBytes]
      split
      next b hb =>
        obtain ⟨hb', hb''⟩ := Transport.row_value_eq_bytes.mp hb
        cases hb'
        exact absurd hb'' hbinary
      next => rfl
    rw [hnone, Option.getD_none] at hok
    apply hbinary
    rw [← Except.ok.inj hok]
    exact ⟨0, List.mem_replicate.mpr ⟨by decide, rfl⟩, by decide⟩

/-- An agent that takes every SET and changes nothing. -/
def keepingAgent : Agent Mib where
  mib := id
  write mib _ := (mib, .ok ())

/-- A port from 1 on can always be written. -/
theorem exists_listsFor (mode : VlanMode) {force : Bool} (hport : 1 ≤ port)
    (h : w.Proceeds t mib v port force before) :
    ∃ lists, w.listsFor mib v port mode before = some lists := by
  rw [← Option.isSome_iff_exists, Option.isSome_iff_ne_none, Ne, listsFor_eq_none_iff h]
  rintro ⟨c, -, hland⟩
  rw [landing, if_pos hport] at hland
  omega

/-- What intact octets say of the lists an agent holds. -/
theorem faithful_of_keepsDeviceOctets {force : Bool} (hport : 1 ≤ port ∧ port ≤ w.model.portCount)
    (hkeeps : w.KeepsDeviceOctets t mib v port mode force)
    (h : w.Proceeds t mib v port force before)
    (hmodel : w.model.snmpVlanWrite ≠ .fastpathSwitchport) {raw : Bytes}
    (hraw : mib.octets c.oid v = some raw) :
    Binary raw ∨ (c.decoded before).erase port = (Bitmap.numbers raw).erase port ∧
      raw.length ≤ w.editedWidth mib v before c := by
  obtain ⟨lists, hlists⟩ := exists_listsFor mode hport.1 h
  have hsent := (setsOf_setVlanMembership mode (a := keepingAgent) (d := mib) hmodel
    h).2.1 lists hlists (fun _ _ => rfl) c
  obtain ⟨new, hnew, hedited⟩ := hkeeps.1 Mib keepingAgent mib rfl _ hsent c raw hraw rfl
  cases hnew
  exact (onlyPortEdited_iff c hport h hlists hraw).mp hedited

/-- The octets reach the wire intact exactly where, for each list the agent holds, one of its
octets is not printable, or the physical ports the reader finds are all it holds beside the
port; and where the allowed-VLAN list, if held, has an octet that is not printable. -/
theorem setVlanMembership_keepsDeviceOctets_iff (w : SnmpWriter) (t : Transport) (mib : Mib)
    (v port : ℤ) (mode : VlanMode) (force : Bool)
    (hport : 1 ≤ port ∧ port ≤ w.model.portCount) :
    w.KeepsDeviceOctets t mib v port mode force ↔
      (∀ before, w.Proceeds t mib v port force before →
        w.model.snmpVlanWrite ≠ .fastpathSwitchport →
        ∀ (c : PortListColumn) (raw : Bytes), mib.octets c.oid v = some raw →
          Binary raw ∨ (c.decoded before).erase port = (Bitmap.numbers raw).erase port ∧
            raw.length ≤ w.editedWidth mib v before c) ∧
      ∀ raw, mib.octets fastpathSwitchportAllowedVlans port = some raw → Binary raw := by
  constructor
  · intro hkeeps
    refine ⟨fun before h hmodel c raw hraw =>
      faithful_of_keepsDeviceOctets c hport hkeeps h hmodel hraw, ?_⟩
    intro raw hraw
    exact (result_switchportVlanBitmap_iff (a := keepingAgent) (d := mib) hraw).mp
      (hkeeps.2 Mib keepingAgent mib rfl raw hraw)
  · rintro ⟨hlists, hallowed⟩
    refine ⟨?_, ?_⟩
    · intro δ a d hmib vb hvb c raw hraw hoid
      subst hmib
      by_cases hproceeds : ∃ before, w.Proceeds t (a.mib d) v port force before
      · obtain ⟨before, hproceeds⟩ := hproceeds
        by_cases hmodel : w.model.snmpVlanWrite = .fastpathSwitchport
        · exact absurd hoid (oid_of_switchport hmodel hproceeds hvb c v)
        · obtain ⟨lists, hsent, c', rfl⟩ := (setsOf_setVlanMembership mode hmodel hproceeds).1 vb hvb
          have hc : c' = c := eq_of_oid hoid
          subst hc
          exact ⟨c'.pick lists, rfl, (onlyPortEdited_iff c' hport hproceeds hsent hraw).mpr
            (hlists before hproceeds hmodel c' raw hraw)⟩
      · obtain ⟨e, -, hnil⟩ := setVlanMembership_refused mode
          fun before hbefore => hproceeds ⟨before, hbefore⟩
        rw [hnil] at hvb
        cases hvb
    · intro δ a d hmib raw hraw
      subst hmib
      exact (result_switchportVlanBitmap_iff hraw).mpr (hallowed raw hraw)

def gs728Writer : SnmpWriter where
  modelKey := .gs728tpp
  hasSnmp := by decide

/-- Ports 1 and 3 and the LAG 35, and VLAN 5 with the given lists. -/
def labMib (egress untagged : Bytes) : Mib where
  varbinds :=
    [⟨ifType ++ [1], .int .integer32 6⟩, ⟨ifType ++ [3], .int .integer32 6⟩,
      ⟨ifType ++ [35], .int .integer32 161⟩,
      ⟨dot1qVlanStaticName ++ [5], .octetString "lab".toUTF8.toList⟩,
      ⟨dot1qVlanStaticEgress ++ [5], .octetString egress⟩,
      ⟨dot1qVlanStaticUntagged ++ [5], .octetString untagged⟩]
  nodup := by
    show [ifType ++ [1], ifType ++ [3], ifType ++ [35], dot1qVlanStaticName ++ [5],
      dot1qVlanStaticEgress ++ [5], dot1qVlanStaticUntagged ++ [5]].Nodup
    decide

/-- Port 3 and LAG ports in a list of printable octets. -/
def printableList : Bytes := [0x20, 0x20, 0x20, 0x20, 0x20]

/-- Port 3 and LAG 35 in a list that is not printable. -/
def binaryList : Bytes := [0x20, 0, 0, 0, 0x20, 0, 0, 0]

theorem vlans_labMib :
    (labMib printableList []).vlans .pysnmp = .ok [⟨5, some "lab".toList, {3}, {3}, ∅⟩] ∧
      (labMib binaryList binaryList).vlans .netsnmp = .ok [⟨5, some "lab".toList, {3}, ∅, {3}⟩] := by
  decide +kernel

theorem proceeds_labMib_printable (port : ℤ) : gs728Writer.Proceeds .pysnmp
    (labMib printableList []) 5 port false ⟨5, some "lab".toList, {3}, {3}, ∅⟩ :=
  ⟨by simp [gs728Writer], _, vlans_labMib.1, by decide⟩

theorem setVlanMembership_keepsDeviceOctets_binaryList :
    gs728Writer.KeepsDeviceOctets .netsnmp (labMib binaryList binaryList) 5 1 .tagged false := by
  apply (setVlanMembership_keepsDeviceOctets_iff gs728Writer .netsnmp _ 5 1 .tagged false
    (by decide)).mpr
  refine ⟨?_, ?_⟩
  · intro before _ _ c raw hraw
    left
    have hlist : (labMib binaryList binaryList).octets c.oid 5 = some binaryList := by
      cases c <;> rfl
    rw [hlist] at hraw
    rw [← Option.some.inj hraw]
    decide
  · intro raw hraw
    cases hraw

/-- The LAG bits of a printable list are lost. -/
theorem setVlanMembership_drops_printableList :
    ¬ gs728Writer.KeepsDeviceOctets .pysnmp (labMib printableList []) 5 1 .tagged false := by
  intro hkeeps
  have hraw : (labMib printableList []).octets PortListColumn.egress.oid 5 = some printableList :=
    rfl
  rcases faithful_of_keepsDeviceOctets .egress (by decide) hkeeps
    (proceeds_labMib_printable 1) (by decide) hraw with hbinary | ⟨hports, -⟩
  · exact absurd hbinary (by decide)
  · have hlag : (35 : ℤ) ∈ (Bitmap.numbers printableList).erase 1 := by decide
    rw [← hports] at hlag
    exact absurd hlag (by decide)

end SnmpWriter

/-! ## §3 Any port -/

namespace SnmpWriter

variable (w : SnmpWriter) (t : Transport) (mib : Mib) (v port : ℤ) (mode : VlanMode)
  (before : VLANInfo) (c : PortListColumn)

/-- A write to any integer port raises before it sends a SET, or changes no other bit of the
lists the agent holds. -/
def SparesOtherBits (force : Bool) : Prop :=
  ∀ (δ : Type) (a : Agent δ) (d : δ), a.mib d = mib →
    (∃ e, ((w.setVlanMembership v port mode force).run (a.machine t) d).result = .error e ∧
      setsOf ((w.setVlanMembership v port mode force).run (a.machine t) d).sent = []) ∨
    ∀ vb ∈ setsOf ((w.setVlanMembership v port mode force).run (a.machine t) d).sent,
      ∀ (c : PortListColumn) (raw : Bytes), mib.octets c.oid v = some raw →
        vb.oid = instanceOid c.oid v → ∃ new, vb.value = .bytes new ∧
          (Bitmap.numbers new).erase port = (Bitmap.numbers raw).erase port

/-- One of the octets is not printable, or the physical ports the reader finds are all the list
holds beside the port; and a bit to be set below 1, which lands as far back from the list's end, is
one the list has. -/
def Spared (raw : Bytes) : Prop :=
  if port < 1 ∧ c.present mode = true then
    if Binary raw then port + 8 * w.editedWidth mib v before c ∈ Bitmap.numbers raw
    else insert (port + 8 * w.editedWidth mib v before c : ℤ) (c.decoded before) =
      Bitmap.numbers raw
  else Binary raw ∨ (c.decoded before).erase port = (Bitmap.numbers raw).erase port

variable {w t mib v port mode before}

theorem not_mem_numbers {raw : Bytes} (hport : port < 1) : port ∉ Bitmap.numbers raw := fun h => by
  have := (Bitmap.le_of_mem_numbers h).1
  omega

/-- The list the write starts from is the agent's own exactly where it is spared. -/
theorem spared_iff_start {raw : Bytes} (hraw : mib.octets c.oid v = some raw) :
    w.Spared mib v port mode before c raw ↔
      if port < 1 ∧ c.present mode = true then
        insert (port + 8 * w.editedWidth mib v before c : ℤ) (startPorts mib v before c) =
          Bitmap.numbers raw
      else (startPorts mib v before c).erase port = (Bitmap.numbers raw).erase port := by
  unfold Spared startPorts
  rw [hraw]
  by_cases hbinary : Binary raw
  · rw [Option.filter_some_pos (by simpa using hbinary), if_pos hbinary,
      or_iff_left_of_imp fun _ => hbinary]
    split_ifs
    · exact Finset.insert_eq_self.symm
    · exact iff_of_true hbinary rfl
  · rw [Option.filter_some_neg (by simpa using hbinary), if_neg hbinary, or_iff_right hbinary]
    rfl

theorem spared_iff {force : Bool} (h : w.Proceeds t mib v port force before)
    {lists : Bytes × Bytes} (hlists : w.listsFor mib v port mode before = some lists)
    {raw : Bytes} (hraw : mib.octets c.oid v = some raw) :
    (Bitmap.numbers (c.pick lists)).erase port = (Bitmap.numbers raw).erase port ↔
      w.Spared mib v port mode before c raw := by
  obtain ⟨octets, hstart, hnum⟩ := exists_start c h
  obtain ⟨octets', hstart', hnew⟩ := listsFor_eq_some.mp hlists c
  rw [hstart] at hstart'
  cases hstart'
  have hwidth : w.editedWidth mib v before c =
      targetWidth octets.length (vlanBitmapWidth w.model) := by
    rw [editedWidth, hstart, Option.getD_some]
  rw [spared_iff_start c hraw, ← hnum, hwidth]
  cases hpresent : c.present mode with
  | false =>
    obtain ⟨new, hnew', hnumNew⟩ := setPortBit_absent octets port (vlanBitmapWidth w.model)
    rw [hpresent, hnew'] at hnew
    cases hnew
    rw [if_neg (by simp), hnumNew, Finset.erase_idem]
  | true =>
    rw [hpresent] at hnew
    rcases setPortBit_present octets port (vlanBitmapWidth w.model) with ⟨-, hnone⟩ | ⟨new, hnew', hland, hnumNew⟩
    · rw [hnone] at hnew
      cases hnew
    · rw [hnew'] at hnew
      cases hnew
      rw [hnumNew]
      by_cases hport : 1 ≤ port
      · rw [landing, if_pos hport, if_neg (by omega), Finset.erase_insert_eq_erase]
      · rw [landing, if_neg hport] at hland ⊢
        have hne : port ∉ insert (port + 8 * (targetWidth octets.length
            (vlanBitmapWidth w.model) : ℤ)) (Bitmap.numbers octets) := by
          intro hmem
          rcases Finset.mem_insert.mp hmem with heq | hmem
          · omega
          · exact not_mem_numbers (by omega) hmem
        rw [if_pos ⟨by omega, rfl⟩, Finset.erase_eq_of_notMem hne,
          Finset.erase_eq_of_notMem (not_mem_numbers (by omega))]

/-- What a write that spares the other bits says of the lists an agent holds. -/
theorem spared_of_sparesOtherBits {force : Bool} (hspares : w.SparesOtherBits t mib v port mode force)
    (h : w.Proceeds t mib v port force before)
    (hmodel : w.model.snmpVlanWrite ≠ .fastpathSwitchport) {lists : Bytes × Bytes}
    (hlists : w.listsFor mib v port mode before = some lists) {raw : Bytes}
    (hraw : mib.octets c.oid v = some raw) : w.Spared mib v port mode before c raw := by
  have hsent := (setsOf_setVlanMembership mode (a := keepingAgent) (d := mib) hmodel
    h).2.1 lists hlists (fun _ _ => rfl) c
  rcases hspares Mib keepingAgent mib rfl with ⟨e, -, hnil⟩ | hbits
  · rw [hnil] at hsent
    cases hsent
  · obtain ⟨new, hnew, hedited⟩ := hbits _ hsent c raw hraw rfl
    cases hnew
    exact (spared_iff c h hlists hraw).mp hedited

/-- The other bits are safe exactly where the write is refused, a bit to set would land before
its list, or every list held is spared. -/
theorem setVlanMembership_sparesOtherBits_iff (w : SnmpWriter) (t : Transport) (mib : Mib)
    (v port : ℤ) (mode : VlanMode) (force : Bool)
    (hmodel : w.model.snmpVlanWrite = .qbridge) :
    w.SparesOtherBits t mib v port mode force ↔
      ∀ before, w.Proceeds t mib v port force before →
        (∃ c : PortListColumn, c.present mode = true ∧
          landing port (w.editedWidth mib v before c) ≤ 0) ∨
        ∀ (c : PortListColumn) (raw : Bytes), mib.octets c.oid v = some raw →
          w.Spared mib v port mode before c raw := by
  have hdialect : w.model.snmpVlanWrite ≠ .fastpathSwitchport := by
    rw [hmodel]
    decide
  constructor
  · intro hspares before h
    cases hlists : w.listsFor mib v port mode before with
    | none => exact Or.inl ((listsFor_eq_none_iff h).mp hlists)
    | some lists =>
      exact Or.inr fun c raw hraw => spared_of_sparesOtherBits c hspares h hdialect hlists hraw
  · intro hcond δ a d hmib
    subst hmib
    by_cases hproceeds : ∃ before, w.Proceeds t (a.mib d) v port force before
    · obtain ⟨before, h⟩ := hproceeds
      obtain ⟨hsets, -, hnone⟩ := setsOf_setVlanMembership mode hdialect h
      rcases hcond before h with hland | hspared
      · obtain ⟨hends, hnil⟩ := hnone ((listsFor_eq_none_iff h).mpr hland)
        exact Or.inl ⟨_, hends.1, hnil⟩
      · right
        intro vb hvb c raw hraw hoid
        obtain ⟨lists, hlists, c', rfl⟩ := hsets vb hvb
        have hc : c' = c := eq_of_oid hoid
        subst hc
        exact ⟨_, rfl, (spared_iff c' h hlists hraw).mpr (hspared c' raw hraw)⟩
    · obtain ⟨e, hends, hnil⟩ := setVlanMembership_refused mode
        fun before hbefore => hproceeds ⟨before, hbefore⟩
      exact Or.inl ⟨e, hends.1, hnil⟩

/-- Tagging a port sets its bit alone; so does tagging a port below 1 whose bit lands on one that
is set. -/
theorem setVlanMembership_sparesOtherBits_tagged :
    gs728Writer.SparesOtherBits .netsnmp (labMib binaryList binaryList) 5 1 .tagged false ∧
    gs728Writer.SparesOtherBits .netsnmp (labMib binaryList binaryList) 5 (-29) .tagged false := by
  have hlist : ∀ (c : PortListColumn) (raw : Bytes),
      (labMib binaryList binaryList).octets c.oid 5 = some raw → raw = binaryList := by
    intro c raw hraw
    have hown : (labMib binaryList binaryList).octets c.oid 5 = some binaryList := by
      cases c <;> rfl
    exact (Option.some.inj (hown.symm.trans hraw)).symm
  have hbinary : Binary binaryList := by decide
  constructor
  · apply (setVlanMembership_sparesOtherBits_iff gs728Writer .netsnmp _ 5 1 .tagged false rfl).mpr
    intro before _
    right
    intro c raw hraw
    obtain rfl := hlist c raw hraw
    unfold Spared
    rw [if_neg fun hlow => absurd hlow.1 (by decide)]
    exact Or.inl hbinary
  · apply (setVlanMembership_sparesOtherBits_iff gs728Writer .netsnmp _ 5 (-29) .tagged false
      rfl).mpr
    intro before _
    right
    intro c raw hraw
    obtain rfl := hlist c raw hraw
    have hwidth : gs728Writer.editedWidth (labMib binaryList binaryList) 5 before c = 8 := by
      unfold editedWidth start startOctets
      rw [hraw, Option.filter_some_pos (by simpa using hbinary)]
      show targetWidth binaryList.length (vlanBitmapWidth gs728Writer.model) = 8
      decide
    unfold Spared
    rw [hwidth]
    cases c with
    | egress =>
      rw [if_pos (by decide), if_pos hbinary]
      decide
    | untagged =>
      rw [if_neg (by decide)]
      exact Or.inl hbinary

/-- Port 0 sets the last bit of the list. -/
theorem setVlanMembership_portZero :
    ¬ gs728Writer.SparesOtherBits .netsnmp (labMib binaryList binaryList) 5 0 .tagged false := by
  intro hspares
  have h : gs728Writer.Proceeds .netsnmp (labMib binaryList binaryList) 5 0 false
      ⟨5, some "lab".toList, {3}, ∅, {3}⟩ :=
    ⟨by simp [gs728Writer], _, vlans_labMib.2, by decide⟩
  have hraw : (labMib binaryList binaryList).octets PortListColumn.egress.oid 5 =
      some binaryList := rfl
  cases hlists : gs728Writer.listsFor (labMib binaryList binaryList) 5 0 .tagged
      ⟨5, some "lab".toList, {3}, ∅, {3}⟩ with
  | none =>
    obtain ⟨c, hpresent, hland⟩ := (listsFor_eq_none_iff h).mp hlists
    cases c with
    | egress => exact absurd hland (by decide)
    | untagged => exact absurd hpresent (by decide)
  | some lists =>
    have hspared := spared_of_sparesOtherBits .egress hspares h (by decide) hlists hraw
    unfold Spared at hspared
    rw [if_pos (by decide), if_pos (by decide)] at hspared
    exact absurd hspared (by decide)

end SnmpWriter

end NetgearSwitch.Snmp
