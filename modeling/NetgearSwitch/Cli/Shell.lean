import NetgearSwitch.Cli.Writer
import NetgearSwitch.Lib.PyCodec

/-!
# Command lines on the wire

`ShellDriver` of `transport/cli/session.py` turns a command into the bytes it sends before it
reads anything: the text, encoded as latin-1, and a CR LF; or, for `reload`, the text with the
answer to its confirmation behind it.  A command reaches the device as one command line exactly
when its text is latin-1 without CR or LF.

The writer splices the texts it is given into its commands as they are.
-/

namespace NetgearSwitch.Cli

open PyText Script CliModelSpec

/-! ## §1 Bytes -/

/-- What `ShellDriver` sends for a call, `none` where the text has no latin-1 bytes:
`_write_line`, and the `prestuff` write of `run_write_memory`. -/
def wire : CliCall → Option Bytes
  | .run command => PyCodec.latin1Encode (command ++ "\r\n".toList)
  | .writeMemory command prestuff =>
    PyCodec.latin1Encode (command ++ (if prestuff then "\ry\r" else "\r\n").toList)

/-- The call is sent, as one command line: one terminator, at the end. -/
def SentAsLine (q : CliCall) : Prop :=
  ∃ body : Bytes, wire q = some (body ++ [13, 10]) ∧ ∀ x ∈ body, x ≠ 13 ∧ x ≠ 10

/-- A latin-1 text without CR or LF. -/
def LineSafe (t : Text) : Prop := ∀ c ∈ t, c.toNat < 256 ∧ c ≠ '\r' ∧ c ≠ '\n'

instance : DecidablePred LineSafe := fun t =>
  inferInstanceAs (Decidable (∀ c ∈ t, c.toNat < 256 ∧ c ≠ '\r' ∧ c ≠ '\n'))

theorem ofNat_toNat_eq {c d : Char} (hc : c.toNat < 256) (hd : d.toNat < 256) :
    UInt8.ofNat c.toNat = UInt8.ofNat d.toNat ↔ c = d := by
  constructor
  · intro h
    have hnat := congrArg UInt8.toNat h
    rw [UInt8.toNat_ofNat', UInt8.toNat_ofNat', Nat.mod_eq_of_lt hc, Nat.mod_eq_of_lt hd] at hnat
    exact Char.ext (UInt32.toNat_inj.mp hnat)
  · rintro rfl
    rfl

theorem sentAsLine_run {command : Text} : SentAsLine (.run command) ↔ LineSafe command := by
  have hend : ("\r\n".toList.map fun c => UInt8.ofNat c.toNat) = [13, 10] := by decide
  constructor
  · rintro ⟨body, hwire, hbody⟩
    obtain ⟨hbelow, hbytes⟩ := PyCodec.latin1Encode_eq_some.mp hwire
    rw [List.map_append, hend] at hbytes
    have heq : body = command.map fun c => UInt8.ofNat c.toNat := List.append_cancel_right hbytes
    intro c hc
    have hlt := hbelow c (List.mem_append_left _ hc)
    have hx := hbody (UInt8.ofNat c.toNat) (heq ▸ List.mem_map_of_mem hc)
    refine ⟨hlt, ?_, ?_⟩
    · rintro rfl
      exact hx.1 rfl
    · rintro rfl
      exact hx.2 rfl
  · intro h
    refine ⟨command.map fun c => UInt8.ofNat c.toNat, ?_, ?_⟩
    · apply PyCodec.latin1Encode_eq_some.mpr
      constructor
      · intro c hc
        rcases List.mem_append.mp hc with hc | hc
        · exact (h c hc).1
        · exact (show ∀ c ∈ "\r\n".toList, c.toNat < 256 by decide) c hc
      · rw [List.map_append, hend]
    · intro x hx
      obtain ⟨c, hc, rfl⟩ := List.mem_map.mp hx
      obtain ⟨hlt, hcr, hlf⟩ := h c hc
      exact ⟨fun heq => hcr ((ofNat_toNat_eq hlt (by decide)).mp heq),
        fun heq => hlf ((ofNat_toNat_eq hlt (by decide)).mp heq)⟩

/-- A pre-stuffed confirmation makes a second line of it. -/
theorem not_sentAsLine_prestuffed (command : Text) : ¬SentAsLine (.writeMemory command true) := by
  rintro ⟨body, hwire, _⟩
  obtain ⟨_, hbytes⟩ := PyCodec.latin1Encode_eq_some.mp hwire
  have hlast := congrArg List.getLast? hbytes
  have hend : ("\ry\r".toList.map fun c => UInt8.ofNat c.toNat) = [13, 121, 13] := by decide
  rw [if_pos rfl, List.map_append, hend] at hlast
  simp at hlast

@[simp] theorem lineSafe_append {a b : Text} : LineSafe (a ++ b) ↔ LineSafe a ∧ LineSafe b :=
  List.forall_mem_append

theorem lineSafe_intText (n : ℤ) : LineSafe (intText n) := by
  intro c hc
  have hdigit : ∀ d : Char, isDigit d = true → d.toNat < 256 ∧ d ≠ '\r' ∧ d ≠ '\n' := by
    intro d hd
    simp only [isDigit, Bool.and_eq_true, decide_eq_true_eq] at hd
    have hle : d.toNat ≤ '9'.toNat := hd.2
    refine ⟨Nat.lt_of_le_of_lt hle (by decide), ?_, ?_⟩
    · rintro rfl
      exact absurd hd.1 (by decide)
    · rintro rfl
      exact absurd hd.1 (by decide)
  rcases mem_intText hc with rfl | hc
  · decide
  · exact hdigit c hc

/-! ## §2 The writer's commands -/

namespace CliWriter

variable {w : CliWriter} {key : ModelKey}

theorem lineSafe_iface {spec : CliModelSpec} (h : cliSpec key = some spec) (port : ℤ) :
    LineSafe (spec.iface port) := by
  unfold CliModelSpec.iface
  cases key <;> cases h
  all_goals
    first
      | exact lineSafe_append.mpr ⟨by decide, lineSafe_intText port⟩
      | (refine lineSafe_append.mpr ⟨?_, lineSafe_intText port⟩
         split_ifs <;> decide)

theorem lineSafe_showCmds {spec : CliModelSpec} (h : cliSpec key = some spec) :
    LineSafe spec.vlanBriefCmd ∧ LineSafe spec.pvidCmd ∧ LineSafe spec.poeCmd ∧
      LineSafe spec.networkCmd := by
  cases key <;> cases h <;> decide

theorem lineSafe_generalMode {spec : CliModelSpec} (h : cliSpec key = some spec) :
    ∀ c ∈ spec.switchportGeneralCmd.toList, LineSafe c := by
  cases key <;> cases h <;> decide

theorem lineSafe_readCommand (h : cliSpec key = some w.spec) {c : Text} (hc : w.ReadCommand c) :
    LineSafe c := by
  obtain ⟨hbrief, hpvid, hpoe, hnetwork⟩ := lineSafe_showCmds h
  cases hc with
  | vlanBrief => exact hbrief
  | vlanDetail v => exact lineSafe_append.mpr ⟨by decide, lineSafe_intText v⟩
  | pvid => exact hpvid
  | portStatus => decide
  | poe => exact hpoe
  | network => exact hnetwork
  | logging => decide
  | loggingHosts => decide
  | hosts => decide
  | portDescription port => exact lineSafe_append.mpr ⟨by decide, lineSafe_iface h port⟩

/-- The commands an operation splices the texts it is given into. -/
def spliced (w : CliWriter) : CliOperation → List Text
  | .createVlan v name => [vlanName v name]
  | .setPortDescription _ description _ => [portDescription description]
  | .setHostname name => [hostnameConfig name]
  | .setMgmtIp address netmask gateway _ =>
    (w.spec.mgmtIp address netmask gateway).1 ++ (w.spec.mgmtIp address netmask gateway).2
  | .addSyslogCollector host port severity => (loggingHostAdd host port severity).toList
  | _ => []

theorem lineSafe_onInterface (h : cliSpec key = some w.spec) (port : ℤ) {body : List Text}
    (hbody : ∀ c ∈ body, LineSafe c) :
    ∀ c ∈ [configureCmd, w.spec.interface port] ++ body ++ [exitCmd], LineSafe c := by
  rw [List.forall_mem_append, List.forall_mem_append, List.forall_mem_singleton]
  refine ⟨⟨?_, hbody⟩, by decide⟩
  rw [List.forall_mem_cons, List.forall_mem_singleton]
  exact ⟨by decide, lineSafe_append.mpr ⟨by decide, lineSafe_iface h port⟩⟩

theorem lineSafe_membershipBody (h : cliSpec key = some w.spec) (v : ℤ) (mode : VlanMode) :
    ∀ c ∈ w.membershipBody v mode, LineSafe c := by
  have hparticipation : ∀ included, LineSafe (vlanParticipation v included) := by
    intro included
    refine lineSafe_append.mpr ⟨?_, lineSafe_intText v⟩
    cases included <;> decide
  have htagging : ∀ tagged, LineSafe (vlanTagging v tagged) := by
    intro tagged
    refine lineSafe_append.mpr ⟨?_, lineSafe_intText v⟩
    cases tagged <;> decide
  have hgeneral : ∀ c ∈ w.generalMode, LineSafe c := lineSafe_generalMode h
  cases mode with
  | untagged =>
    rw [membershipBody, List.forall_mem_append, List.forall_mem_cons, List.forall_mem_singleton]
    exact ⟨hgeneral, hparticipation true, htagging false⟩
  | tagged =>
    rw [membershipBody, List.forall_mem_append, List.forall_mem_cons, List.forall_mem_singleton]
    exact ⟨hgeneral, hparticipation true, htagging true⟩
  | excluded =>
    rw [membershipBody, List.forall_mem_append, List.forall_mem_singleton]
    exact ⟨hgeneral, hparticipation false⟩

theorem lineSafe_portSpeed (speed : PortSpeed) : LineSafe (portSpeed speed) := by
  cases speed with
  | auto => decide
  | forced mbps fullDuplex =>
    have hrate : LineSafe (fastpathRate mbps) := by
      unfold fastpathRate
      split_ifs
      · exact lineSafe_append.mpr ⟨lineSafe_intText _, by decide⟩
      · exact lineSafe_intText mbps
    have hduplex : LineSafe (if fullDuplex then "full" else "half").toList := by
      cases fullDuplex <;> decide
    exact lineSafe_append.mpr ⟨lineSafe_append.mpr ⟨lineSafe_append.mpr
      ⟨lineSafe_append.mpr ⟨by decide, hrate⟩, by decide⟩, hduplex⟩, by decide⟩

/-- An operation's commands are lines as soon as those it splices a text into are. -/
theorem lineSafe_mayChange (h : cliSpec key = some w.spec) {op : CliOperation}
    (hspliced : ∀ c ∈ w.spliced op, LineSafe c) {c : Text} (hc : w.MayChange op c) :
    LineSafe c := by
  have hbetween : ∀ {enter body : List Text}, (∀ c ∈ enter, LineSafe c) →
      (∀ c ∈ body, LineSafe c) → ∀ c ∈ enter ++ body ++ [exitCmd], LineSafe c := by
    intro enter body henter hbody
    rw [List.forall_mem_append, List.forall_mem_append, List.forall_mem_singleton]
    exact ⟨⟨henter, hbody⟩, by decide⟩
  have hnumber : ∀ {stem : Text}, LineSafe stem → ∀ n : ℤ, ∀ c ∈ [stem ++ intText n], LineSafe c := by
    intro stem hstem n
    rw [List.forall_mem_singleton]
    exact lineSafe_append.mpr ⟨hstem, lineSafe_intText n⟩
  rcases hc with hc | ⟨host, index, rfl, rfl⟩
  · cases op with
    | createVlan v name =>
      have hcreate := hnumber (show LineSafe "vlan ".toList by decide) v
      exact @hbetween [vlanDatabaseCmd] [vlanCreate v, vlanName v name] (by decide)
        (List.forall_mem_cons.mpr ⟨List.forall_mem_singleton.mp hcreate, hspliced⟩) c hc
    | deleteVlan v force =>
      exact @hbetween [vlanDatabaseCmd] [vlanDelete v] (by decide)
        (hnumber (by decide) v) c hc
    | setVlanMembership v port mode force =>
      exact lineSafe_onInterface h port (lineSafe_membershipBody h v mode) c hc
    | setPortDescription port description force =>
      exact lineSafe_onInterface h port hspliced c hc
    | setPortSpeed port speed force =>
      exact lineSafe_onInterface h port
        (List.forall_mem_singleton.mpr (lineSafe_portSpeed speed)) c hc
    | setFlowControl port enabled force =>
      refine lineSafe_onInterface h port (List.forall_mem_singleton.mpr ?_) c hc
      cases enabled <;> decide
    | setPvid port v force =>
      refine lineSafe_onInterface h port (List.forall_mem_append.mpr ⟨?_, ?_⟩) c hc
      · exact lineSafe_generalMode h
      · exact hnumber (by decide) v
    | setPoe port on force tries =>
      refine lineSafe_onInterface h port (List.forall_mem_singleton.mpr ?_) c hc
      cases on <;> decide
    | cyclePoe port force tries =>
      exact lineSafe_onInterface h port (List.forall_mem_singleton.mpr (by decide)) c hc
    | clearPoeFault port force tries =>
      exact lineSafe_onInterface h port (List.forall_mem_singleton.mpr (by decide)) c hc
    | setPortEnabled port enabled force =>
      refine lineSafe_onInterface h port (List.forall_mem_singleton.mpr ?_) c hc
      cases enabled <;> decide
    | setHostname name => exact @hbetween [configureCmd] [hostnameConfig name] (by decide) hspliced c hc
    | setMgmtIp address netmask gateway force =>
      obtain ⟨hexec, hconfig⟩ := List.forall_mem_append.mp hspliced
      exact hbetween (List.forall_mem_append.mpr ⟨hexec, by decide⟩) hconfig c hc
    | reboot force => cases hc
    | setSyslogEnabled enabled =>
      refine @hbetween [configureCmd] [loggingSyslog enabled] (by decide)
        (List.forall_mem_singleton.mpr ?_) c hc
      cases enabled <;> decide
    | addSyslogCollector host port severity =>
      exact @hbetween [configureCmd] _ (by decide) hspliced c hc
    | removeSyslogCollector host => exact @hbetween [configureCmd] [] (by decide) (by decide) c hc
  · exact lineSafe_append.mpr ⟨by decide, lineSafe_intText index⟩

/-! ## §3 Integrity -/

/-- Whatever the device answers: every call of the operation is sent as one command line, and
where a command with one of its texts in it cannot be, nothing is sent at all. -/
def Integrity (w : CliWriter) (op : CliOperation) : Prop :=
  ∀ (δ : Type) (m : Machine δ CliCall (Except LibError Text)) (d : δ),
    (∀ x ∈ ((w.perform op).run m d).sent, SentAsLine x.1) ∧
    ((∃ c ∈ w.spliced op, ¬SentAsLine (.run c)) → ((w.perform op).run m d).sent = [])

/-- The call is refused on the spot. -/
def Refused (w : CliWriter) : CliOperation → Prop
  | .setPortDescription port _ force => port ∈ w.protectedPorts ∧ force = false
  | .setHostname name => strip name = []
  | .setMgmtIp _ _ _ force => force = false
  | .reboot force => force = false
  | _ => False

/-- The texts that end up in a command have no CR, no LF and nothing beyond latin-1. -/
def TextsSafe : CliOperation → Prop
  | .createVlan _ name => LineSafe name
  | .setPortDescription _ description _ => LineSafe description
  | .setHostname name => LineSafe name
  | .setMgmtIp address netmask gateway _ => LineSafe address ∧ LineSafe netmask ∧ LineSafe gateway
  | .addSyslogCollector host _ severity => LineSafe host ∨ syslogSeverityWord severity = none
  | _ => True

theorem lineSafe_portDescription {description : Text} :
    LineSafe (portDescription description) ↔ LineSafe description := by
  unfold portDescription
  split_ifs with h
  · rw [h]
    exact iff_of_true (by decide) (by decide)
  · rw [lineSafe_append, lineSafe_append]
    constructor
    · rintro ⟨⟨_, hdescription⟩, _⟩
      exact hdescription
    · intro hdescription
      exact ⟨⟨by decide, hdescription⟩, by decide⟩

theorem lineSafe_loggingHostAdd {host word : Text} {port severity : ℤ}
    (hword : syslogSeverityWord severity = some word) :
    (∀ c ∈ (loggingHostAdd host port severity).toList, LineSafe c) ↔ LineSafe host := by
  have hkind : LineSafe (addressKind host) := by
    unfold addressKind
    split
    · exact lineSafe_append.mpr ⟨by decide, lineSafe_intText (Int.ofNat _)⟩
    · decide
  have hlist : ∀ e ∈ ([(0, "emergency"), (1, "alert"), (2, "critical"), (3, "error"),
      (4, "warning"), (5, "notice"), (6, "info"), (7, "debug")] : List (ℤ × String)),
      LineSafe e.2.toList := by
    decide
  have hsafe : LineSafe word := by
    obtain ⟨e, he, heq⟩ := List.exists_of_findSome?_eq_some hword
    split_ifs at heq
    cases heq
    exact hlist e he
  rw [loggingHostAdd, hword, Option.map_some, Option.toList_some, List.forall_mem_singleton]
  simp only [lineSafe_append]
  constructor
  · rintro ⟨⟨⟨⟨⟨⟨⟨_, hhost⟩, _⟩, _⟩, _⟩, _⟩, _⟩, _⟩
    exact hhost
  · intro hhost
    exact ⟨⟨⟨⟨⟨⟨⟨by decide, hhost⟩, by decide⟩, hkind⟩, by decide⟩,
      lineSafe_intText port⟩, by decide⟩, hsafe⟩

theorem lineSafe_spliced {op : CliOperation} :
    (∀ c ∈ w.spliced op, LineSafe c) ↔ TextsSafe op := by
  cases op with
  | createVlan v name =>
    rw [spliced, List.forall_mem_singleton]
    show LineSafe ("vlan name ".toList ++ intText v ++ [' '] ++ name) ↔ LineSafe name
    rw [lineSafe_append]
    constructor
    · rintro ⟨_, hname⟩
      exact hname
    · intro hname
      exact ⟨lineSafe_append.mpr ⟨lineSafe_append.mpr ⟨by decide, lineSafe_intText v⟩, by decide⟩,
        hname⟩
  | setPortDescription port description force =>
    rw [spliced, List.forall_mem_singleton]
    exact lineSafe_portDescription
  | setHostname name =>
    rw [spliced, List.forall_mem_singleton]
    show LineSafe ("hostname ".toList ++ name) ↔ LineSafe name
    rw [lineSafe_append]
    exact and_iff_right (by decide)
  | setMgmtIp address netmask gateway force =>
    rw [spliced, CliModelSpec.mgmtIp, TextsSafe]
    split_ifs
    · rw [List.nil_append, List.forall_mem_cons, List.forall_mem_singleton]
      simp only [lineSafe_append]
      constructor
      · rintro ⟨⟨⟨⟨_, haddress⟩, _⟩, hnetmask⟩, _, hgateway⟩
        exact ⟨haddress, hnetmask, hgateway⟩
      · rintro ⟨haddress, hnetmask, hgateway⟩
        exact ⟨⟨⟨⟨by decide, haddress⟩, by decide⟩, hnetmask⟩, by decide, hgateway⟩
    · rw [List.append_nil, List.forall_mem_singleton]
      simp only [lineSafe_append]
      constructor
      · rintro ⟨⟨⟨⟨⟨_, haddress⟩, _⟩, hnetmask⟩, _⟩, hgateway⟩
        exact ⟨haddress, hnetmask, hgateway⟩
      · rintro ⟨haddress, hnetmask, hgateway⟩
        exact ⟨⟨⟨⟨⟨by decide, haddress⟩, by decide⟩, hnetmask⟩, by decide⟩, hgateway⟩
  | addSyslogCollector host port severity =>
    cases hword : syslogSeverityWord severity with
    | none =>
      rw [spliced, loggingHostAdd, hword]
      exact iff_of_true (fun c hc => nomatch hc) (Or.inr hword)
    | some word =>
      rw [spliced, lineSafe_loggingHostAdd hword, TextsSafe, hword]
      simp
  | _ => exact iff_of_true (by simp [spliced]) trivial

/-- A refused call sends nothing. -/
theorem sent_of_refused {op : CliOperation} (h : w.Refused op) {δ : Type}
    (m : Machine δ CliCall (Except LibError Text)) (d : δ) :
    ((w.perform op).run m d).sent = [] := by
  cases op with
  | setPortDescription port description force =>
    obtain ⟨hport, rfl⟩ := h
    have hguard : w.guardPort port false = raise .protectedPort :=
      ensure_of_neg (by simp [hport]) _
    rw [perform, setPortDescription, hguard]
    rfl
  | setHostname name =>
    have hblank : (ensure (strip name ≠ []) .valueError : CliScript Unit) = raise .valueError :=
      ensure_of_neg (not_not.mpr (show strip name = [] from h)) _
    rw [perform, setHostname, hblank]
    rfl
  | setMgmtIp address netmask gateway force =>
    cases (show force = false from h)
    rfl
  | reboot force =>
    cases (show force = false from h)
    rfl
  | _ => cases h

/-- An operation that is not refused and splices texts looks at the switch first. -/
theorem sent_ne_nil {op : CliOperation} (hrefused : ¬w.Refused op) (hspliced : w.spliced op ≠ [])
    {δ : Type} (m : Machine δ CliCall (Except LibError Text)) (d : δ) :
    ((w.perform op).run m d).sent ≠ [] := by
  cases op with
  | createVlan v name => exact sent_ask_ne_nil _ _
  | setPortDescription port description force =>
    have hguard : w.guardPort port force = pure () := by
      apply ensure_of_pos
      by_contra hno
      rw [not_or, not_not] at hno
      exact hrefused ⟨hno.1, Bool.eq_false_iff.mpr hno.2⟩
    rw [perform, setPortDescription, hguard]
    exact sent_ask_ne_nil _ _
  | setHostname name =>
    have hblank : (ensure (strip name ≠ []) .valueError : CliScript Unit) = pure () :=
      ensure_of_pos (show strip name ≠ [] from hrefused) _
    rw [perform, setHostname, hblank]
    exact sent_ask_ne_nil _ _
  | setMgmtIp address netmask gateway force =>
    have hforce : force = true := by
      cases force
      · exact absurd rfl hrefused
      · rfl
    rw [hforce]
    exact sent_ask_ne_nil _ _
  | addSyslogCollector host port severity => exact sent_ask_ne_nil _ _
  | _ => exact absurd rfl hspliced

/-- A device that takes every command without a word. -/
def idle : Machine Unit CliCall (Except LibError Text) := fun _ _ => ((), .ok [])

/-- **Command integrity**, exactly: an operation keeps its commands to one line each if and only
if it is refused on the spot, or the texts it splices are safe and it is not a reboot, whose
confirmation goes out behind the command. -/
theorem integrity_iff (h : cliSpec key = some w.spec) (op : CliOperation) :
    w.Integrity op ↔ w.Refused op ∨ (TextsSafe op ∧ op ≠ .reboot true) := by
  constructor
  · intro hintegrity
    by_cases hrefused : w.Refused op
    · exact Or.inl hrefused
    obtain ⟨hlines, hnothing⟩ := hintegrity Unit idle ()
    refine Or.inr ⟨?_, ?_⟩
    · by_contra hunsafe
      rw [← lineSafe_spliced (w := w)] at hunsafe
      push Not at hunsafe
      obtain ⟨c, hc, hunsafe⟩ := hunsafe
      exact sent_ne_nil hrefused (List.ne_nil_of_mem hc) idle ()
        (hnothing ⟨c, hc, fun hsent => hunsafe (sentAsLine_run.mp hsent)⟩)
    · rintro rfl
      exact not_sentAsLine_prestuffed reloadCmd (hlines _ List.mem_cons_self)
  · rintro (hrefused | ⟨hsafe, hreboot⟩) δ m d
    · rw [sent_of_refused hrefused]
      exact ⟨fun x hx => (nomatch hx), fun _ => rfl⟩
    · have hspliced := (lineSafe_spliced (w := w)).mpr hsafe
      constructor
      · apply Asks.sent
        apply (asks_perform op).imp
        rintro q (⟨c, rfl, hc⟩ | ⟨c, rfl, hc⟩ | ⟨rfl, _⟩)
        · exact sentAsLine_run.mpr (lineSafe_readCommand h hc)
        · exact sentAsLine_run.mpr (lineSafe_mayChange h hspliced hc)
        · exact absurd rfl hreboot
      · rintro ⟨c, hc, hunsafe⟩
        exact absurd (sentAsLine_run.mpr (hspliced c hc)) hunsafe

theorem integrity_iff_createVlan :
    bareWriter.Integrity (.createVlan 7 "lab".toList) ∧
    ¬bareWriter.Integrity (.setPortDescription 3 "eth0\r".toList false) := by
  have hspec : cliSpec .gsm7252ps = some bareWriter.spec := rfl
  constructor
  · exact (integrity_iff hspec _).mpr
      (Or.inr ⟨show LineSafe "lab".toList by decide, by decide⟩)
  · intro hintegrity
    rcases (integrity_iff hspec _).mp hintegrity with ⟨hport, _⟩ | ⟨hsafe, _⟩
    · cases hport
    · exact absurd (show LineSafe "eth0\r".toList from hsafe) (by decide)

/-- A VLAN name with a line break in it. -/
def brokenName : Text := "lab\r\nno vlan 5".toList

/-- The name is handed to the session as it is, and the driver's bytes for it are two command
lines, the second of which deletes VLAN 5. -/
theorem createVlan_brokenName :
    (.run (vlanName 7 brokenName), .ok []) ∈
      ((bareWriter.perform (.createVlan 7 brokenName)).run idle ()).sent ∧
    wire (.run (vlanName 7 brokenName)) =
      PyCodec.latin1Encode "vlan name 7 lab\r\nno vlan 5\r\n".toList ∧
    ¬bareWriter.Integrity (.createVlan 7 brokenName) := by
  have hmem : (.run (vlanName 7 brokenName), .ok []) ∈
      ((bareWriter.perform (.createVlan 7 brokenName)).run idle ()).sent := by
    decide +kernel
  refine ⟨hmem, by decide +kernel, ?_⟩
  intro hintegrity
  have hline := sentAsLine_run.mp ((hintegrity Unit idle ()).1 _ hmem)
  exact absurd hline (by decide +kernel)

end CliWriter

end NetgearSwitch.Cli
