import NetgearSwitch.Cli.Writer
import NetgearSwitch.Virtual.CliFace

/-!
# Command modes under the writer

The writer's session on the CLI face: a command either leaves the mode stack alone, or it enters
a mode exactly when it answers nothing.  `_in_mode` therefore pops as many levels as it pushed,
whichever command is refused, and every operation ends in the mode it started in.

The texts of the `show` pages that the face model leaves out are a parameter, `render`.
-/

namespace NetgearSwitch.Virtual

open PyText Cli Script CliModelSpec

namespace VirtualCliFace

/-! ## §1 The face as a session -/

/-- The text a command answers, or what it raises. -/
def replyText (render : VirtualSwitchState → Text → Text) (f : VirtualCliFace) (command : Text) :
    Except LibError Text :=
  match (f.run command).2 with
  | .text t => .ok t
  | .page => .ok (render f.state (strip command))
  | .raised => .error .valueError

/-- The session of the face.  `run_write_memory` only counts what it was asked for. -/
def answer (render : VirtualSwitchState → Text → Text) :
    Machine VirtualCliFace CliCall (Except LibError Text)
  | f, .run command => ((f.run command).1, f.replyText render command)
  | f, .writeMemory _ _ => (f, .ok [])

/-! ## §2 Commands and the mode stack -/

/-- The commands, of no argument, that enter or leave a mode. -/
def modeTexts : List Text :=
  ["exit", "end", "vlan database", "config", "configure", "config terminal",
    "configure terminal"].map String.toList

/-- A command that is none of the mode changes. -/
def Steady (command : Text) : Prop :=
  strip command ∉ modeTexts ∧
    ∀ name, ConfigCommand.ofText (strip command) ≠ some (.interface name)

theorem modes_globalCommand (f : VirtualCliFace) {command : ConfigCommand}
    (h : ∀ name, command ≠ .interface name) : (f.globalCommand command).1.modes = f.modes := by
  cases command with
  | hostname name => rfl
  | loggingSyslog on => rfl
  | loggingHostAdd address port word =>
    simp only [globalCommand]
    split <;> rfl
  | loggingHostNegation => rfl
  | loggingHostRemove index =>
    simp only [globalCommand]
    split <;> rfl
  | interface name => exact absurd rfl (h name)
  | ipManagementAddress address netmask =>
    simp only [globalCommand]
    split_ifs <;> rfl
  | ipDefaultGateway gateway =>
    simp only [globalCommand]
    split_ifs <;> rfl

theorem modes_configCommand {f f' : VirtualCliFace} {c reply : Text}
    (h : f.configCommand c = some (f', reply)) (hc : c ∉ modeTexts)
    (hname : ∀ name, ConfigCommand.ofText c ≠ some (.interface name)) : f'.modes = f.modes := by
  simp only [modeTexts, List.map_cons, List.map_nil, List.mem_cons, List.not_mem_nil, or_false,
    not_or] at hc
  obtain ⟨hexit, hend, hdatabase, hconfig⟩ := hc
  unfold configCommand at h
  rw [if_neg hexit, if_neg hend, if_neg hdatabase, if_neg (by simpa only [not_or] using hconfig)] at h
  split at h
  · split at h
    · cases h
      rfl
    · cases h
      rfl
  · split at h
    · obtain ⟨command, _, heq⟩ := Option.map_eq_some_iff.mp h
      cases heq
      rfl
    · obtain ⟨command, hcommand, heq⟩ := Option.map_eq_some_iff.mp h
      have hmodes := modes_globalCommand f (fun name hn => hname name (hn ▸ hcommand))
      rw [heq] at hmodes
      exact hmodes
    · obtain ⟨command, _, heq⟩ := Option.map_eq_some_iff.mp h
      cases heq
      rfl
    · cases h

theorem modes_showCommand (f : VirtualCliFace) (c : Text) :
    (f.showCommand c).1.modes = f.modes := by
  unfold showCommand
  split
  · rfl
  · split_ifs
    · rfl
    · rfl
    · rfl
    · rfl
    · split
      · split_ifs
        · split <;> rfl
        · rfl
      · split_ifs <;> rfl
      · rfl

/-- A steady command leaves the mode stack alone, in every mode. -/
theorem modes_run (f : VirtualCliFace) {command : Text} (h : Steady command) :
    (f.run command).1.modes = f.modes := by
  unfold run
  dsimp only
  split_ifs
  · rfl
  · rfl
  · split
    · next f' reply hconfig => exact modes_configCommand hconfig h.1 h.2
    · split
      · rfl
      · exact modes_showCommand f _

/-! ## §3 Telling commands apart by how they begin -/

/-- No text that begins so is a mode change. -/
def isStem (stem : Text) : Bool :=
  (stem.head?.all fun c => !isSpace c) && (stem.getLast?.any fun c => !isSpace c) &&
    ("interface ".toList :: modeTexts).all fun m => !stem.isPrefixOf m && !m.isPrefixOf stem

theorem strip_append {stem : Text} (rest : Text)
    (hhead : ∀ c, stem.head? = some c → isSpace c = false)
    (hlast : ∃ c, stem.getLast? = some c ∧ isSpace c = false) :
    ∃ tail, strip (stem ++ rest) = stem ++ tail := by
  obtain ⟨c, hc, hspace⟩ := hlast
  have hne : stem ≠ [] := by
    rintro rfl
    cases hc
  have hfront : (stem ++ rest).dropWhile isSpace = stem ++ rest := by
    cases stem with
    | nil => exact absurd rfl hne
    | cons d ds => simp [hhead d rfl]
  have hback : (stem.reverse).dropWhile isSpace = stem.reverse := by
    have hd : stem.reverse.head? = some c := by rw [List.head?_reverse, hc]
    cases hrev : stem.reverse with
    | nil => simp
    | cons d ds =>
      rw [hrev] at hd
      cases hd
      simp [hspace]
  rw [strip, hfront, List.reverse_append, List.dropWhile_append]
  split_ifs
  · exact ⟨[], by rw [hback, List.reverse_reverse, List.append_nil]⟩
  · exact ⟨((rest.reverse).dropWhile isSpace).reverse, by
      rw [List.reverse_append, List.reverse_reverse]⟩

theorem append_ne_of_not_prefix {stem m : Text} (tail : Text) (h : stem.isPrefixOf m = false) :
    stem ++ tail ≠ m := by
  rintro rfl
  rw [List.isPrefixOf_iff_prefix.mpr (List.prefix_append stem tail)] at h
  cases h

/-- An `interface` command begins with the word. -/
theorem eq_of_ofText_interface {c name : Text}
    (h : ConfigCommand.ofText c = some (.interface name)) : c = "interface ".toList ++ name := by
  unfold ConfigCommand.ofText ConfigCommand.ofTextWith at h
  split at h
  · cases h
  · split at h
    · next command hcommand =>
      cases h
      unfold loggingHostArgument at hcommand
      split at hcommand
      · split at hcommand
        · split at hcommand
          · obtain ⟨n, _, hn⟩ := Option.map_eq_some_iff.mp hcommand
            cases hn
          · cases hcommand
        · cases hcommand
      · cases hcommand
    · split at h
      · cases h
      · split at h
        · next a b hwords =>
          split_ifs at h with hlog hiface
          · cases h
          · cases h
            have hjoin : [' '].intercalate (c.splitOn ' ') = c := List.intercalate_splitOn ' '
            rw [← words, hwords, hiface.1] at hjoin
            rw [← hjoin]
            simp [List.intercalate]
        · split_ifs at h <;> cases h
        · split_ifs at h
          obtain ⟨n, _, hn⟩ := Option.map_eq_some_iff.mp h
          cases hn
        · split_ifs at h
          cases h
        · cases h

/-- A stem without the blank behind it. -/
def bare (stem : Text) : Text := if stem.getLast? = some ' ' then stem.dropLast else stem

theorem eq_bare_append (stem : Text) : ∃ gap, stem = bare stem ++ gap := by
  unfold bare
  split_ifs with h
  · exact ⟨[' '], (List.dropLast_append_getLast? ' ' h).symm⟩
  · exact ⟨[], (List.append_nil stem).symm⟩

/-- A command is told from the mode changes by what it begins with. -/
theorem steady_of_stem (stem rest : Text) (h : isStem (bare stem) = true) :
    Steady (stem ++ rest) := by
  simp only [isStem, Bool.and_eq_true, List.all_eq_true, List.mem_cons, Bool.not_eq_true',
    Option.all_eq_true, Option.any_eq_true] at h
  obtain ⟨⟨hhead, hlast⟩, happart⟩ := h
  obtain ⟨gap, hgap⟩ := eq_bare_append stem
  obtain ⟨tail, htail⟩ := strip_append (gap ++ rest) hhead hlast
  rw [← List.append_assoc, ← hgap] at htail
  rw [Steady, htail]
  constructor
  · intro hmem
    exact append_ne_of_not_prefix tail (happart _ (Or.inr hmem)).1 rfl
  · intro name hname
    have heq := eq_of_ofText_interface hname
    obtain ⟨hle, hge⟩ := happart "interface ".toList (Or.inl rfl)
    rcases List.prefix_or_prefix_of_prefix (List.prefix_append (bare stem) tail)
      (heq ▸ List.prefix_append "interface ".toList name) with hpre | hpre
    · rw [List.isPrefixOf_iff_prefix.mpr hpre] at hle
      cases hle
    · rw [List.isPrefixOf_iff_prefix.mpr hpre] at hge
      cases hge

theorem steady_of_isStem {c : Text} (h : isStem (bare c) = true) : Steady c := by
  rw [← List.append_nil c]
  exact steady_of_stem c [] h

/-- `vlan <id>` is not `vlan database`. -/
theorem steady_vlanCreate (v : ℤ) : Steady (vlanCreate v) := by
  have hstrip : strip (vlanCreate v) = "vlan ".toList ++ intText v := by
    apply strip_of_ends
    · intro c hc
      cases hc
      rfl
    · intro c hc
      rw [vlanCreate, List.getLast?_append_of_ne_nil _ (intText_ne_nil v)] at hc
      exact isSpace_intText v c (List.mem_of_getLast? hc)
  rw [Steady, hstrip]
  constructor
  · intro hmem
    have honly : ∀ m ∈ modeTexts, m.head? = some 'v' → m = "vlan database".toList := by
      decide
    have hdatabase := honly _ hmem rfl
    have hd : 'd' ∈ "vlan ".toList ++ intText v := by
      rw [hdatabase]
      decide
    rcases List.mem_append.mp hd with hd | hd
    · exact absurd hd (by decide)
    · rcases mem_intText hd with hd | hd
      · exact absurd hd (by decide)
      · exact absurd hd (by decide)
  · intro name hname
    have heq := congrArg List.head? (eq_of_ofText_interface hname)
    have hhead : some 'v' = some 'i' := heq
    exact absurd hhead (by decide)

/-! ## §4 Commands that enter a mode -/

/-- The model has a command line. -/
def HasCli (f : VirtualCliFace) : Prop := (cliSpec f.state.modelKey).isSome

/-- In whatever mode it is given, the command is refused with a text, or it answers nothing and
enters a mode. -/
def Enters (command : Text) : Prop :=
  ∀ f : VirtualCliFace, f.HasCli →
    (∃ t, (f.run command).2 = .text t ∧ strip t ≠ [] ∧ (f.run command).1.modes = f.modes) ∨
    ((f.run command).2 = .text [] ∧ ∃ m, (f.run command).1.modes = m :: f.modes)

/-- A command that is no set-up command goes to the modes first. -/
theorem run_eq (f : VirtualCliFace) {c : Text} (hstrip : strip c = c) (hsetup : isSetup c = false)
    (hno : c ≠ "no ip http secure-server".toList) (hip : c ≠ "ip http secure-server".toList) :
    f.run c = (match f.configCommand c with
      | some (f', reply) => (f', .text reply)
      | none =>
        match f.overlongReply? c with
        | some reply => (f, reply)
        | none => f.showCommand c) := by
  unfold run
  dsimp only
  rw [hstrip]
  exact (if_neg (by rw [hsetup]; decide)).trans (if_neg (not_or.mpr ⟨hno, hip⟩))

theorem strip_invalid : strip invalid ≠ [] := by decide

theorem strip_commandNotFound : strip commandNotFound ≠ [] := by decide

theorem enters_vlanDatabase : Enters vlanDatabaseCmd := by
  intro f _
  rw [run_eq f (by decide) (by decide) (by decide) (by decide)]
  unfold configCommand
  rw [if_neg (by decide), if_neg (by decide), if_pos (by rfl)]
  rcases hmode : f.modes.head? with _ | m
  · exact Or.inr ⟨rfl, _, rfl⟩
  · cases m with
    | vlanDb => exact Or.inl ⟨invalid, rfl, strip_invalid, rfl⟩
    | config => exact Or.inr ⟨rfl, _, rfl⟩
    | interface => exact Or.inl ⟨invalid, rfl, strip_invalid, rfl⟩

theorem enters_configure : Enters configureCmd := by
  intro f _
  rw [run_eq f (by decide) (by decide) (by decide) (by decide)]
  unfold configCommand
  rw [if_neg (by decide), if_neg (by decide), if_neg (by decide), if_pos (by decide)]
  rcases hmode : f.modes.head? with _ | m
  · exact Or.inr ⟨rfl, _, rfl⟩
  · exact Or.inl ⟨invalid, rfl, strip_invalid, rfl⟩

section Interface

/-- A word of no blank and no quote. -/
def IsName (name : Text) : Prop := name ≠ [] ∧ ∀ c ∈ name, isSpace c = false ∧ c ≠ '"'

variable {name : Text}

theorem words_interface (h : IsName name) :
    words ("interface ".toList ++ name) = ["interface".toList, name] := by
  have hblank : ' ' ∉ name := fun hmem => absurd (h.2 ' ' hmem).1 (by decide)
  have hsplit := List.splitOn_append_cons_self_of_not_mem
    (show ' ' ∉ "interface".toList by decide) name
  rw [List.splitOn_eq_singleton hblank] at hsplit
  exact hsplit

/-- What begins with `interface` is no other command. -/
theorem interface_ne (name m : Text) (h : m.head? ≠ some 'i') : "interface ".toList ++ name ≠ m := by
  rintro rfl
  exact h rfl

theorem ofText_interface (h : IsName name) (number : Text → Option ℤ) :
    ConfigCommand.ofTextWith number ("interface ".toList ++ name) = some (.interface name) := by
  have hhostname : hostnameArgument ("interface ".toList ++ name) = none := by
    unfold hostnameArgument
    dsimp only
    rw [if_pos (Or.inl (by
      intro htake
      have hhead : some 'i' = some 'h' := congrArg List.head? htake
      exact absurd hhead (by decide)))]
  have hquote : '"' ∉ "interface ".toList ++ name := by
    intro hmem
    rcases List.mem_append.mp hmem with hmem | hmem
    · exact absurd hmem (by decide)
    · exact (h.2 _ hmem).2 rfl
  have hlogging : loggingHostArgument number ("interface ".toList ++ name) = none := by
    rw [loggingHostArgument, List.splitOn_eq_singleton hquote]
  have hnegation : isLoggingHostNegation ("interface ".toList ++ name) = false := by
    unfold isLoggingHostNegation
    dsimp only
    rw [Bool.and_eq_false_imp]
    intro htake
    have hhead : some 'i' = some 'n' := congrArg List.head? (of_decide_eq_true htake)
    exact absurd hhead (by decide)
  have htoken : isToken name = true := by
    simp only [isToken, Bool.and_eq_true, Bool.not_eq_true', List.isEmpty_eq_false_iff,
      List.all_eq_true]
    exact ⟨h.1, fun c hc => (h.2 c hc).1⟩
  rw [ConfigCommand.ofTextWith, hhostname, hlogging, hnegation, words_interface h]
  dsimp only
  rw [if_neg (by decide), if_neg fun hword => absurd hword.1 (by decide),
    if_pos ⟨rfl, htoken⟩]

/-- No other mode has the command. -/
theorem ofText_interface_elsewhere (h : IsName name) (number : Text → Option ℤ) :
    VlanDbCommand.ofTextWith number ("interface ".toList ++ name) = none ∧
      InterfaceCommand.ofTextWith number ("interface ".toList ++ name) = none := by
  have hquoted : quotedDescription ("interface ".toList ++ name) = none := by
    unfold quotedDescription
    dsimp only
    rw [if_neg]
    rintro ⟨htake, _⟩
    have hhead : some 'i' = some 'd' := congrArg List.head? htake
    exact absurd hhead (by decide)
  constructor
  · rw [VlanDbCommand.ofTextWith, words_interface h]
    rfl
  · rw [InterfaceCommand.ofTextWith, hquoted, words_interface h]
    rfl

theorem showCmds_head {key : ModelKey} {spec : CliModelSpec} (h : cliSpec key = some spec) :
    ∀ c ∈ [spec.vlanBriefCmd, spec.pvidCmd, spec.poeCmd] ++ pageCmds spec, c.head? = some 's' := by
  cases key <;> cases h <;> decide

/-- The `show` dispatch does not know the command. -/
theorem showCommand_interface {f : VirtualCliFace} (hcli : f.HasCli) (h : IsName name) :
    f.showCommand ("interface ".toList ++ name) = (f, .text commandNotFound) := by
  obtain ⟨spec, hspec⟩ := Option.isSome_iff_exists.mp hcli
  have hne : ∀ c ∈ [spec.vlanBriefCmd, spec.pvidCmd, spec.poeCmd] ++ pageCmds spec,
      "interface ".toList ++ name ≠ c := by
    intro c hc
    apply interface_ne
    rw [showCmds_head hspec c hc]
    decide
  unfold showCommand
  rw [hspec, words_interface h]
  dsimp only
  rw [if_neg (hne _ (by simp)), if_neg (hne _ (by simp)), if_neg (hne _ (by simp)),
    if_neg fun hpage => hne _ (List.mem_append_right _ hpage) rfl]

theorem enters_interfaceName (h : IsName name) : Enters ("interface ".toList ++ name) := by
  intro f hcli
  have hstrip : strip ("interface ".toList ++ name) = "interface ".toList ++ name := by
    apply strip_of_ends
    · intro c hc
      cases hc
      rfl
    · intro c hc
      rw [List.getLast?_append_of_ne_nil _ h.1] at hc
      exact (h.2 c (List.mem_of_getLast? hc)).1
  have hsetup : isSetup ("interface ".toList ++ name) = false := by
    rw [isSetup, words_interface h, decide_eq_false (interface_ne _ _ (by decide)),
      decide_eq_false (interface_ne _ _ (by decide))]
    rfl
  have hconfig : f.configCommand ("interface ".toList ++ name) =
      if f.modes.head? = some .config then some (f.globalCommand (.interface name)) else none := by
    unfold configCommand
    have hconfigure : ¬("interface ".toList ++ name = "config".toList ∨
        "interface ".toList ++ name = "configure".toList ∨
        "interface ".toList ++ name = "config terminal".toList ∨
        "interface ".toList ++ name = "configure terminal".toList) := by
      rintro (heq | heq | heq | heq)
      all_goals exact interface_ne _ _ (by decide) heq
    have hparms : networkParms ("interface ".toList ++ name) = none := by
      rw [networkParms, words_interface h]
    rw [if_neg (interface_ne _ _ (by decide)), if_neg (interface_ne _ _ (by decide)),
      if_neg (interface_ne _ _ (by decide)), if_neg hconfigure, hparms]
    dsimp only
    split
    · next hmode =>
      rw [VlanDbCommand.ofText, (ofText_interface_elsewhere h _).1, hmode]
      rfl
    · next hmode =>
      rw [ConfigCommand.ofText, ofText_interface h, hmode]
      rfl
    · next hmode _ =>
      rw [InterfaceCommand.ofText, (ofText_interface_elsewhere h _).2, hmode]
      rfl
    · next _ hmode _ =>
      rw [if_neg]
      intro hconfig
      exact hmode hconfig
  have hoverlong : f.modes.head? ≠ some .config →
      f.overlongReply? ("interface ".toList ++ name) = none := by
    intro hmode
    unfold overlongReply?
    split
    · rw [(ofText_interface_elsewhere h _).1]
      rfl
    · next hconfig => exact absurd hconfig hmode
    · rw [(ofText_interface_elsewhere h _).2]
      rfl
    · rfl
  rw [run_eq f hstrip hsetup (interface_ne _ _ (by decide)) (by
    intro heq
    have hlen := congrArg (fun t : Text => t.getD 1 'x') heq
    exact absurd (show 'n' = 'p' from hlen) (by decide)), hconfig]
  split_ifs with hmode
  · cases hport : f.state.portForIface name with
    | none =>
      refine Or.inl ⟨invalid, ?_, strip_invalid, ?_⟩
      · simp only [globalCommand, hport]
      · simp only [globalCommand, hport]
    | some port =>
      refine Or.inr ⟨?_, .interface, ?_⟩
      · simp only [globalCommand, hport, accepted]
      · simp only [globalCommand, hport]
  · refine Or.inl ⟨commandNotFound, ?_, strip_commandNotFound, ?_⟩
    · dsimp only
      rw [hoverlong hmode, showCommand_interface hcli h]
    · dsimp only
      rw [hoverlong hmode, showCommand_interface hcli h]

end Interface

/-! ## §5 Entering and leaving -/

section InMode

open CliWriter

variable {render : VirtualSwitchState → Text → Text} {ms : List CliMode} {f : VirtualCliFace}

/-- In the modes `ms`, on a model with a command line. -/
def AtModes (ms : List CliMode) (f : VirtualCliFace) : Prop := f.modes = ms ∧ f.HasCli

/-- A call that leaves the mode stack alone. -/
def SteadyCall : CliCall → Prop
  | .run command => Steady command
  | .writeMemory _ _ => True

theorem hasCli_run (h : f.HasCli) (command : Text) : (f.run command).1.HasCli := by
  rw [HasCli, modelKey_run]
  exact h

theorem atModes_answer {q : CliCall} (hq : SteadyCall q) (h : AtModes ms f) :
    AtModes ms (answer render f q).1 := by
  cases q with
  | run command => exact ⟨(modes_run f hq).trans h.1, hasCli_run h.2 command⟩
  | writeMemory command prestuff => exact h

theorem keeps_of_steady {α : Type} {p : CliScript α} (hp : p.Asks SteadyCall) :
    Keeps (answer render) (AtModes ms) p :=
  keeps_of_asks hp fun _ _ hq h => atModes_answer hq h

theorem run_sessionRun (f : VirtualCliFace) (c : Text) :
    (sessionRun c).run (answer render) f =
      ⟨f.replyText render c, (f.run c).1, [(.run c, f.replyText render c)]⟩ :=
  rfl

theorem run_runCommand (f : VirtualCliFace) (c : Text) :
    (runCommand c).run (answer render) f =
      ⟨f.replyText render c >>= fun t =>
          if strip t = [] then .ok () else .error LibError.cliCommand,
        (f.run c).1, [(.run c, f.replyText render c)]⟩ := by
  rw [runCommand, run_bind, run_sessionRun]
  cases f.replyText render c with
  | ok t => rfl
  | error e => rfl

/-- A command that enters a mode is taken for one exactly where it did. -/
theorem run_enters (render : VirtualSwitchState → Text → Text) {c : Text} (hc : Enters c)
    (h : AtModes ms f) :
    (((runCommand c).run (answer render) f).result = .ok () ∧
      ∃ m, AtModes (m :: ms) ((runCommand c).run (answer render) f).device) ∨
    (((runCommand c).run (answer render) f).result = .error .cliCommand ∧
      AtModes ms ((runCommand c).run (answer render) f).device) := by
  rw [run_runCommand]
  have hcli := hasCli_run h.2 c
  rcases hc f h.2 with ⟨t, hreply, hblank, hmodes⟩ | ⟨hreply, m, hmodes⟩
  · refine Or.inr ⟨?_, hmodes.trans h.1, hcli⟩
    rw [replyText, hreply]
    show (if strip t = [] then Except.ok () else .error LibError.cliCommand) = _
    exact if_neg hblank
  · refine Or.inl ⟨?_, m, ?_, hcli⟩
    · rw [replyText, hreply]
      rfl
    · rw [hmodes, h.1]

/-- `descend` reports the number of modes it has entered. -/
theorem descend_entered (render : VirtualSwitchState → Text → Text) {enter body : List Text}
    (henter : ∀ c ∈ enter, Enters c)
    (hbody : ∀ c ∈ body, Steady c) (k : ℕ) (h : AtModes ms f) :
    ∃ r pushed,
      ((descend body k enter).run (answer render) f).result = .ok (k + pushed.length, r) ∧
      AtModes (pushed ++ ms) ((descend body k enter).run (answer render) f).device := by
  induction enter generalizing k ms f with
  | nil =>
    have hkeep : AtModes ms ((runAll body).run (answer render) f).device :=
      keeps_of_steady (asks_runAll hbody) f h
    rw [descend, run_bind_ok (congrArg Outcome.result (run_attempt (runAll body))), run_attempt]
    exact ⟨_, [], rfl, hkeep⟩
  | cons c cs ih =>
    obtain ⟨hc, hcs⟩ := List.forall_mem_cons.mp henter
    rw [descend, run_bind_ok (congrArg Outcome.result (run_attempt (runCommand c))), run_attempt]
    dsimp only
    rcases run_enters render hc h with ⟨hok, m, hm⟩ | ⟨herror, hm⟩
    · rw [hok]
      obtain ⟨r, pushed, hresult, hmodes⟩ := ih hcs (k + 1) hm
      refine ⟨r, pushed ++ [m], ?_, ?_⟩
      · rw [hresult, List.length_append, List.length_singleton, Nat.add_assoc,
          Nat.add_comm 1 pushed.length]
      · rw [List.append_assoc]
        exact hmodes
    · rw [herror]
      exact ⟨_, [], rfl, hm⟩

theorem modes_exit (f : VirtualCliFace) : (f.run exitCmd).1.modes = f.modes.tail := by
  rw [run_eq f (by decide) (by decide) (by decide) (by decide)]
  unfold configCommand
  rw [if_pos (by rfl)]
  cases hmodes : f.modes with
  | nil => exact hmodes
  | cons m ms => rfl

/-- `exit` is accepted in every mode. -/
theorem replyText_exit (f : VirtualCliFace) : f.replyText render exitCmd = .ok accepted := by
  rw [replyText, run_eq f (by decide) (by decide) (by decide) (by decide)]
  unfold configCommand
  rw [if_pos (by rfl)]
  cases f.modes with
  | nil => rfl
  | cons m ms => rfl

/-- `unwind` leaves the innermost modes. -/
theorem unwind_modes {pushed : List CliMode} (h : AtModes (pushed ++ ms) f) :
    AtModes ms ((unwind pushed.length).run (answer render) f).device := by
  induction pushed generalizing f with
  | nil => exact h
  | cons m pushed ih =>
    have hexit : ((sessionRun exitCmd).run (answer render) f).result = .ok accepted := by
      rw [run_sessionRun]
      exact replyText_exit f
    rw [List.length_cons, unwind, run_bind_ok hexit, run_sessionRun]
    apply ih
    refine ⟨?_, hasCli_run h.2 exitCmd⟩
    show (f.run exitCmd).1.modes = pushed ++ ms
    rw [modes_exit, h.1]
    rfl

/-- `_in_mode` ends in the modes it started in. -/
theorem keeps_inMode {enter body : List Text} (henter : ∀ c ∈ enter, Enters c)
    (hbody : ∀ c ∈ body, Steady c) : Keeps (answer render) (AtModes ms) (inMode enter body) := by
  intro f h
  obtain ⟨r, pushed, hresult, hmodes⟩ := descend_entered render henter hbody 0 h
  rw [inMode, run_bind_ok hresult]
  dsimp only
  rw [device_bind_done, Nat.zero_add]
  exact unwind_modes hmodes

end InMode

/-! ## §6 The operations -/

section Operations

open CliWriter

variable {w : CliWriter} {key : ModelKey} {render : VirtualSwitchState → Text → Text}
  {ms : List CliMode} {α β : Type}

theorem steady_showCmds {spec : CliModelSpec} (h : cliSpec key = some spec) :
    Steady spec.vlanBriefCmd ∧ Steady spec.pvidCmd ∧ Steady spec.poeCmd ∧
      Steady spec.networkCmd := by
  cases key <;> cases h
  all_goals
    refine ⟨?_, ?_, ?_, ?_⟩
    all_goals exact steady_of_isStem (by decide)

theorem isName_append_intText {stem : Text} (h : ∀ c ∈ stem, isSpace c = false ∧ c ≠ '"')
    (n : ℤ) : IsName (stem ++ intText n) := by
  constructor
  · simp [intText_ne_nil n]
  · intro c hc
    rcases List.mem_append.mp hc with hc | hc
    · exact h c hc
    · refine ⟨isSpace_intText n c hc, ?_⟩
      rintro rfl
      exact absurd (mem_intText hc) (by decide)

/-- Every interface name the writer addresses a port by is a word. -/
theorem isName_iface {spec : CliModelSpec} (h : cliSpec key = some spec) (port : ℤ) :
    IsName (spec.iface port) := by
  unfold CliModelSpec.iface
  cases key <;> cases h
  all_goals
    first
      | exact isName_append_intText (by decide) port
      | (apply isName_append_intText
         split_ifs <;> decide)

theorem enters_onInterface (h : cliSpec key = some w.spec) (port : ℤ) :
    ∀ c ∈ [configureCmd, w.spec.interface port], Enters c := by
  intro c hc
  simp only [List.mem_cons, List.not_mem_nil, or_false] at hc
  rcases hc with rfl | rfl
  · exact enters_configure
  · exact enters_interfaceName (isName_iface h port)

theorem steady_generalMode {spec : CliModelSpec} (h : cliSpec key = some spec) :
    ∀ c ∈ spec.switchportGeneralCmd.toList, Steady c := by
  intro c hc
  have hsome : spec.switchportGeneralCmd = some c := Option.mem_toList.mp hc
  cases key <;> cases h <;> cases hsome
  all_goals exact steady_of_isStem (by decide)

theorem steady_of_readCommand (h : cliSpec key = some w.spec) {c : Text} (hc : w.ReadCommand c) :
    Steady c := by
  obtain ⟨hbrief, hpvid, hpoe, hnetwork⟩ := steady_showCmds h
  cases hc with
  | vlanBrief => exact hbrief
  | vlanDetail v => exact steady_of_stem _ _ (by decide)
  | pvid => exact hpvid
  | portStatus => exact steady_of_isStem (by decide)
  | poe => exact hpoe
  | network => exact hnetwork
  | logging => exact steady_of_isStem (by decide)
  | loggingHosts => exact steady_of_isStem (by decide)
  | hosts => exact steady_of_isStem (by decide)
  | portDescription port => exact steady_of_stem _ _ (by decide)

/-- What only reads stays in its mode. -/
theorem keeps_of_reads (h : cliSpec key = some w.spec) {p : CliScript α} (hp : p.Asks w.IsRead) :
    Keeps (answer render) (AtModes ms) p := by
  apply keeps_of_steady
  apply hp.imp
  rintro _ ⟨c, rfl, hc⟩
  exact steady_of_readCommand h hc

/-! ### What the operations keep -/

/-- Go on from a look at the switch. -/
theorem keeps_after (h : cliSpec key = some w.spec) {p : CliScript α} {f : α → CliScript β}
    (hp : p.Asks w.IsRead) (hf : ∀ a, Keeps (answer render) (AtModes ms) (f a)) :
    Keeps (answer render) (AtModes ms) (p >>= f) :=
  keeps_bind (keeps_of_reads h hp) hf

/-- A change inside a mode before a last look at the switch. -/
theorem keeps_change (h : cliSpec key = some w.spec) {enter body : List Text}
    (henter : ∀ c ∈ enter, Enters c) (hbody : ∀ c ∈ body, Steady c) {f : Unit → CliScript β}
    (hf : ∀ a, (f a).Asks w.IsRead) :
    Keeps (answer render) (AtModes ms) (inMode enter body >>= f) :=
  keeps_bind (keeps_inMode henter hbody) fun a => keeps_of_reads h (hf a)

theorem steady_vlanName (v : ℤ) (name : Text) : Steady (vlanName v name) := by
  show Steady ("vlan name ".toList ++ intText v ++ [' '] ++ name)
  rw [List.append_assoc, List.append_assoc]
  exact steady_of_stem _ _ (by decide)

theorem steady_portSpeed_forced (mbps : ℤ) (fullDuplex : Bool) :
    Steady (portSpeed (.forced mbps fullDuplex)) := by
  show Steady ("speed ".toList ++ fastpathRate mbps ++ [' '] ++
    (if fullDuplex then "full" else "half").toList ++ "-duplex".toList)
  rw [List.append_assoc, List.append_assoc, List.append_assoc]
  exact steady_of_stem _ _ (by decide)

theorem steady_membershipBody (h : cliSpec key = some w.spec) (v : ℤ) (mode : VlanMode) :
    ∀ c ∈ w.membershipBody v mode, Steady c := by
  have hparticipation : ∀ included, Steady (vlanParticipation v included) := by
    intro included
    show Steady ("vlan participation ".toList ++ (if included then "include" else "exclude").toList
      ++ [' '] ++ intText v)
    rw [List.append_assoc, List.append_assoc]
    exact steady_of_stem "vlan participation ".toList _ (by decide)
  have htagging : ∀ tagged, Steady (vlanTagging v tagged) := by
    intro tagged
    cases tagged
    · exact steady_of_stem "no vlan tagging ".toList _ (by decide)
    · exact steady_of_stem "vlan tagging ".toList _ (by decide)
  intro c hc
  cases mode
  all_goals
    rcases List.mem_append.mp hc with hc | hc
    · exact steady_generalMode h c hc
    simp only [List.mem_cons, List.not_mem_nil, or_false] at hc
  · rcases hc with rfl | rfl
    · exact hparticipation true
    · exact htagging false
  · rcases hc with rfl | rfl
    · exact hparticipation true
    · exact htagging true
  · rw [hc]
    exact hparticipation false

theorem steady_mgmtIp (spec : CliModelSpec) (address netmask gateway : Text) :
    (∀ c ∈ (spec.mgmtIp address netmask gateway).1, Steady c) ∧
      ∀ c ∈ (spec.mgmtIp address netmask gateway).2, Steady c := by
  unfold CliModelSpec.mgmtIp
  split_ifs
  · constructor
    · intro c hc
      cases hc
    · intro c hc
      simp only [List.mem_cons, List.not_mem_nil, or_false] at hc
      rcases hc with rfl | rfl
      · rw [List.append_assoc, List.append_assoc]
        exact steady_of_stem _ _ (by decide)
      · exact steady_of_stem _ _ (by decide)
  · constructor
    · intro c hc
      rw [List.mem_singleton.mp hc, List.append_assoc, List.append_assoc, List.append_assoc,
        List.append_assoc]
      exact steady_of_stem _ _ (by decide)
    · intro c hc
      cases hc

theorem keeps_poeReset (h : cliSpec key = some w.spec) (port : ℤ) (tries : ℕ)
    (recovered : Option PoEStatus → Bool) :
    Keeps (answer render) (AtModes ms) (w.poeReset port tries recovered) := by
  apply keeps_after h (asks_done _)
  intro _
  apply keeps_after h (asks_poeStatus port)
  intro _
  apply keeps_change h (enters_onInterface h port)
  · intro c hc
    rw [List.mem_singleton.mp hc]
    exact steady_of_isStem (by decide)
  · intro _
    apply asks_pollUntil _ (asks_poeStatus port)
    exact asks_bind (asks_poeStatus port) fun _ => asks_done _

theorem keeps_createVlan (h : cliSpec key = some w.spec) (v : ℤ) (name : Text) :
    Keeps (answer render) (AtModes ms) (w.createVlan v name) := by
  apply keeps_after h (asks_vlan v)
  intro _
  apply keeps_change h (List.forall_mem_singleton.mpr enters_vlanDatabase)
  · intro c hc
    simp only [List.mem_cons, List.not_mem_nil, or_false] at hc
    rcases hc with rfl | rfl
    · exact steady_vlanCreate v
    · exact steady_vlanName v name
  · intro _
    exact asks_bind (asks_vlan v) fun _ => asks_done _

theorem keeps_deleteVlan (h : cliSpec key = some w.spec) (v : ℤ) (force : Bool) :
    Keeps (answer render) (AtModes ms) (w.deleteVlan v force) := by
  apply keeps_after h (asks_vlan v)
  intro _
  apply keeps_after h (asks_done _)
  intro _
  apply keeps_after h (asks_done _)
  intro _
  apply keeps_change h (List.forall_mem_singleton.mpr enters_vlanDatabase)
  · intro c hc
    rw [List.mem_singleton.mp hc]
    exact steady_of_stem _ _ (by decide)
  · intro _
    exact asks_bind (asks_vlan v) fun _ => asks_done _

theorem keeps_setVlanMembership (h : cliSpec key = some w.spec)
    (v port : ℤ) (mode : VlanMode) (force : Bool) :
    Keeps (answer render) (AtModes ms) (w.setVlanMembership v port mode force) := by
  apply keeps_after h (asks_done _)
  intro _
  apply keeps_after h (asks_vlan v)
  intro _
  apply keeps_after h (asks_done _)
  intro _
  apply keeps_change h (enters_onInterface h port) (steady_membershipBody h v mode)
  intro _
  exact asks_bind (asks_vlan v) fun _ => asks_done _

theorem keeps_setPortDescription (h : cliSpec key = some w.spec)
    (port : ℤ) (description : Text) (force : Bool) :
    Keeps (answer render) (AtModes ms) (w.setPortDescription port description force) := by
  apply keeps_after h (asks_done _)
  intro _
  apply keeps_after h (asks_described port)
  intro _
  apply keeps_change h (enters_onInterface h port)
  · intro c hc
    rw [List.mem_singleton.mp hc, portDescription]
    split_ifs
    · exact steady_of_isStem (by decide)
    · rw [List.append_assoc]
      exact steady_of_stem _ _ (by decide)
  · intro _
    exact asks_bind (asks_described port) fun _ => asks_done _

theorem keeps_setPortSpeed (h : cliSpec key = some w.spec)
    (port : ℤ) (speed : PortSpeed) (force : Bool) :
    Keeps (answer render) (AtModes ms) (w.setPortSpeed port speed force) := by
  apply keeps_after h (asks_done _)
  intro _
  apply keeps_after h (asks_done _)
  intro _
  apply keeps_after h (asks_requirePort port)
  intro _
  apply keeps_change h (enters_onInterface h port)
  · intro c hc
    rw [List.mem_singleton.mp hc]
    cases speed with
    | auto => exact steady_of_isStem (by decide)
    | forced mbps fullDuplex => exact steady_portSpeed_forced mbps fullDuplex
  · intro _
    exact asks_bind (asks_requirePort port) fun _ => asks_done _

theorem keeps_setFlowControl (h : cliSpec key = some w.spec) (port : ℤ) (enabled force : Bool) :
    Keeps (answer render) (AtModes ms) (w.setFlowControl port enabled force) := by
  apply keeps_after h (asks_done _)
  intro _
  apply keeps_after h (asks_requirePort port)
  intro _
  apply keeps_change h (enters_onInterface h port)
  · intro c hc
    rw [List.mem_singleton.mp hc]
    cases enabled <;> exact steady_of_isStem (by decide)
  · intro _
    exact asks_bind (asks_requirePort port) fun _ => asks_done _

theorem keeps_setPvid (h : cliSpec key = some w.spec) (port v : ℤ) (force : Bool) :
    Keeps (answer render) (AtModes ms) (w.setPvid port v force) := by
  apply keeps_after h (asks_done _)
  intro _
  apply keeps_after h asks_getVlans
  intro _
  apply keeps_after h (asks_done _)
  intro _
  apply keeps_after h asks_getPvids
  intro _
  apply keeps_change h (enters_onInterface h port)
  · intro c hc
    rcases List.mem_append.mp hc with hc | hc
    · exact steady_generalMode h c hc
    · rw [List.mem_singleton.mp hc]
      exact steady_of_stem _ _ (by decide)
  · intro _
    exact asks_bind asks_getPvids fun _ => asks_done _

theorem keeps_setPoe (h : cliSpec key = some w.spec) (port : ℤ) (on force : Bool) (tries : ℕ) :
    Keeps (answer render) (AtModes ms) (w.setPoe port on force tries) := by
  apply keeps_after h (asks_done _)
  intro _
  apply keeps_after h (asks_done _)
  intro _
  apply keeps_after h (asks_poeStatus port)
  intro _
  apply keeps_change h (enters_onInterface h port)
  · intro c hc
    rw [List.mem_singleton.mp hc]
    cases on <;> exact steady_of_isStem (by decide)
  · intro _
    exact asks_pollUntil _ (asks_poeStatus port) (asks_done _) tries

theorem keeps_setPortEnabled (h : cliSpec key = some w.spec) (port : ℤ) (enabled force : Bool) :
    Keeps (answer render) (AtModes ms) (w.setPortEnabled port enabled force) := by
  apply keeps_after h (asks_done _)
  intro _
  apply keeps_after h (asks_portStatus port)
  intro _
  apply keeps_change h (enters_onInterface h port)
  · intro c hc
    rw [List.mem_singleton.mp hc]
    cases enabled <;> exact steady_of_isStem (by decide)
  · intro _
    exact asks_bind (asks_portStatus port) fun _ => asks_done _

theorem keeps_setHostname (h : cliSpec key = some w.spec) (name : Text) :
    Keeps (answer render) (AtModes ms) (w.setHostname name) := by
  apply keeps_after h (asks_done _)
  intro _
  apply keeps_after h asks_getHostname
  intro _
  apply keeps_change h (List.forall_mem_singleton.mpr enters_configure)
  · intro c hc
    rw [List.mem_singleton.mp hc]
    exact steady_of_stem _ _ (by decide)
  · intro _
    exact asks_bind asks_getHostname fun _ => asks_done _

theorem keeps_setMgmtIp (h : cliSpec key = some w.spec)
    (address netmask gateway : Text) (force : Bool) :
    Keeps (answer render) (AtModes ms) (w.setMgmtIp address netmask gateway force) := by
  obtain ⟨hexec, hconfig⟩ := steady_mgmtIp w.spec address netmask gateway
  apply keeps_after h (asks_done _)
  intro _
  apply keeps_after h asks_getMgmtIp
  intro _
  apply keeps_bind (keeps_of_steady (asks_runAll hexec))
  intro _
  have hlast : ∀ _ : Unit, (do
      let after ← w.getMgmtIp
      ensure (after.address = some address ∧ after.netmask = some netmask ∧
        after.gateway = some gateway) .writeVerification : CliScript Unit).Asks w.IsRead :=
    fun _ => asks_bind asks_getMgmtIp fun _ => asks_done _
  dsimp only
  split_ifs
  · exact keeps_of_reads h (hlast ())
  · exact keeps_change h (List.forall_mem_singleton.mpr enters_configure) hconfig hlast

theorem keeps_reboot (h : cliSpec key = some w.spec) (force : Bool) :
    Keeps (answer render) (AtModes ms) (CliWriter.reboot force) := by
  apply keeps_after h (asks_done _)
  intro _
  apply keeps_bind (keeps_of_steady (asks_call (show SteadyCall (.writeMemory _ _) from trivial)))
  intro answer
  cases answer with
  | ok _ => exact keeps_done _
  | error e => exact keeps_done _

theorem keeps_setSyslogEnabled (h : cliSpec key = some w.spec) (enabled : Bool) :
    Keeps (answer render) (AtModes ms) (w.setSyslogEnabled enabled) := by
  apply keeps_after h asks_getSyslog
  intro _
  apply keeps_change h (List.forall_mem_singleton.mpr enters_configure)
  · intro c hc
    rw [List.mem_singleton.mp hc]
    cases enabled <;> exact steady_of_isStem (by decide)
  · intro _
    exact asks_bind asks_getSyslog fun _ => asks_done _

theorem keeps_addSyslogCollector (h : cliSpec key = some w.spec) (host : Text) (port severity : ℤ) :
    Keeps (answer render) (AtModes ms) (w.addSyslogCollector host port severity) := by
  apply keeps_after h asks_getSyslog
  intro _
  apply keeps_after h (asks_done _)
  intro _
  cases hcommand : loggingHostAdd host port severity with
  | none => exact keeps_done _
  | some command =>
    apply keeps_change h (List.forall_mem_singleton.mpr enters_configure)
    · intro c hc
      rw [List.mem_singleton.mp hc]
      obtain ⟨word, _, rfl⟩ := Option.map_eq_some_iff.mp hcommand
      simp only [List.append_assoc]
      exact steady_of_stem _ _ (by decide)
    · intro _
      exact asks_bind asks_getSyslog fun _ => asks_done _

theorem keeps_removeSyslogCollector (h : cliSpec key = some w.spec) (host : Text) :
    Keeps (answer render) (AtModes ms) (w.removeSyslogCollector host) := by
  apply keeps_after h asks_getSyslog
  intro _
  apply keeps_after h (asks_done _)
  intro _
  apply keeps_after h (asks_done _)
  intro _
  apply keeps_change h (List.forall_mem_singleton.mpr enters_configure)
  · intro c hc
    rw [List.mem_singleton.mp hc]
    exact steady_of_stem _ _ (by decide)
  · intro _
    exact asks_bind asks_getSyslog fun _ => asks_done _

/-- Every operation ends in the modes it started in. -/
theorem keeps_perform (h : cliSpec key = some w.spec) (op : CliOperation) :
    Keeps (answer render) (AtModes ms) (w.perform op) := by
  cases op with
  | createVlan v name => exact keeps_createVlan h v name
  | deleteVlan v force => exact keeps_deleteVlan h v force
  | setVlanMembership v port mode force => exact keeps_setVlanMembership h v port mode force
  | setPortDescription port description force =>
    exact keeps_setPortDescription h port description force
  | setPortSpeed port speed force => exact keeps_setPortSpeed h port speed force
  | setFlowControl port enabled force => exact keeps_setFlowControl h port enabled force
  | setPvid port v force => exact keeps_setPvid h port v force
  | setPoe port on force tries => exact keeps_setPoe h port on force tries
  | cyclePoe port force tries =>
    apply keeps_after h (asks_done _)
    intro _
    exact keeps_poeReset h port tries _
  | clearPoeFault port force tries =>
    apply keeps_after h (asks_done _)
    intro _
    exact keeps_poeReset h port tries _
  | setPortEnabled port enabled force => exact keeps_setPortEnabled h port enabled force
  | setHostname name => exact keeps_setHostname h name
  | setMgmtIp address netmask gateway force => exact keeps_setMgmtIp h address netmask gateway force
  | reboot force => exact keeps_reboot h force
  | setSyslogEnabled enabled => exact keeps_setSyslogEnabled h enabled
  | addSyslogCollector host port severity => exact keeps_addSyslogCollector h host port severity
  | removeSyslogCollector host => exact keeps_removeSyslogCollector h host

/-- **Mode discipline.**  On the CLI of any model, an operation that starts in EXEC mode ends in
EXEC mode, whatever it returns or raises and whichever command was refused. -/
theorem exec_of_perform {f : VirtualCliFace} (hmodel : cliSpec f.state.modelKey = some w.spec)
    (op : CliOperation) (hexec : f.modes = []) :
    ((w.perform op).run (answer render) f).device.modes = [] := by
  have hcli : f.HasCli := by
    rw [HasCli, hmodel]
    rfl
  exact (keeps_perform hmodel op f ⟨hexec, hcli⟩).1

/-- A GSM7252PS with nothing but VLAN 1. -/
def bareState : VirtualSwitchState where
  modelKey := .gsm7252ps
  vlans := .ofList [(1, { name := "default".toList })]

/-- A name with a blank in it is refused inside the VLAN database, which is left again. -/
theorem exec_of_perform_refusedName :
    ((bareWriter.perform (.createVlan 7 "lab room".toList)).run (answer fun _ _ => [])
      { state := bareState }).result = .error .cliCommand ∧
    ((bareWriter.perform (.createVlan 7 "lab room".toList)).run (answer fun _ _ => [])
      { state := bareState }).device.modes = [] := by
  constructor
  · decide +kernel
  · exact exec_of_perform rfl _ rfl

end Operations

end VirtualCliFace

end NetgearSwitch.Virtual
