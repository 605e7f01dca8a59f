import NetgearSwitch.Virtual.CliModes

/-!
# Runs of the CLI writer on the face

What the building blocks of the writer's operations come to on the CLI face: a read answers a
page, a sequence of commands is taken one by one up to the first that is refused, and `_in_mode`
leaves the modes it has entered either way.
-/

namespace NetgearSwitch.Virtual

open PyText Cli Script CliModelSpec CliWriter

namespace VirtualCliFace

/-! ## §1 Sequences of commands -/

/-- Each command in turn is accepted, and they lead from the first face to the last. -/
inductive Accepts : List Text → VirtualCliFace → VirtualCliFace → Prop
  | nil (f : VirtualCliFace) : Accepts [] f f
  | cons {c : Text} {cs : List Text} {f f' f'' : VirtualCliFace}
      (head : f.run c = (f', .text accepted)) (tail : Accepts cs f' f'') : Accepts (c :: cs) f f''

/-- What `exit`, given so many times, leads to. -/
def leave : ℕ → VirtualCliFace → VirtualCliFace
  | 0, f => f
  | n + 1, f => leave n (f.run exitCmd).1

section Runs

variable {render : VirtualSwitchState → Text → Text} {f f' f'' : VirtualCliFace} {c : Text}

theorem ends_page (h : f.run c = (f', .page)) :
    Ends (answer render) (sessionRun c) f (.ok (render f.state (strip c))) f' := by
  rw [Ends, run_sessionRun, replyText, h]
  exact ⟨rfl, rfl⟩

theorem ends_accepted (h : f.run c = (f', .text accepted)) :
    Ends (answer render) (runCommand c) f (.ok ()) f' := by
  rw [Ends, run_runCommand, replyText, h]
  exact ⟨rfl, rfl⟩

theorem ends_runAll {cs : List Text} (h : Accepts cs f f') :
    Ends (answer render) (runAll cs) f (.ok ()) f' := by
  induction h with
  | nil f => exact ends_done _
  | cons head tail ih => exact (ends_accepted head).bind ih

theorem ends_attempt {α : Type} {p : CliScript α} {r : Except LibError α}
    (h : Ends (answer render) p f r f') :
    Ends (answer render) (p.attempt : CliScript (Except LibError α)) f (.ok r) f' := by
  obtain ⟨rfl, rfl⟩ := h
  rw [Ends, run_attempt]
  exact ⟨rfl, rfl⟩

theorem ends_unwind (n : ℕ) (f : VirtualCliFace) :
    Ends (answer render) (unwind n) f (.ok ()) (leave n f) := by
  induction n generalizing f with
  | zero => exact ends_done _
  | succ n ih =>
    have hexit : Ends (answer render) (sessionRun exitCmd) f (.ok accepted) (f.run exitCmd).1 :=
      ⟨replyText_exit f, rfl⟩
    exact hexit.bind (ih _)

theorem ends_descend {enter body : List Text} {r : Except LibError Unit} (k : ℕ)
    (henter : Accepts enter f f') (hbody : Ends (answer render) (runAll body) f' r f'') :
    Ends (answer render) (descend body k enter) f (.ok (k + enter.length, r)) f'' := by
  induction henter generalizing k with
  | nil f => exact (ends_attempt hbody).bind (ends_done _)
  | @cons c cs f f' f'' head tail ih =>
    have hrest := ih (k + 1) hbody
    rw [Nat.add_right_comm, Nat.add_assoc] at hrest
    exact (ends_attempt (ends_accepted head)).bind hrest

/-- `_in_mode`, once its modes are entered. -/
theorem ends_inMode {enter body : List Text} {r : Except LibError Unit}
    (henter : Accepts enter f f') (hbody : Ends (answer render) (runAll body) f' r f'') :
    Ends (answer render) (inMode enter body) f r (leave enter.length f'') := by
  have hdescend := ends_descend 0 henter hbody
  rw [Nat.zero_add] at hdescend
  exact hdescend.bind ((ends_unwind _ _).bind (ends_done r))

end Runs

/-! ## §2 Reading a command -/

/-- Words without blanks, joined by single blanks, are split again. -/
theorem words_joinText {ws : List Text} (hne : ws ≠ []) (h : ∀ w ∈ ws, ' ' ∉ w) :
    words (joinText [' '] ws) = ws := List.splitOn_intercalate ' ' h hne

theorem blank_not_mem_intText (n : ℤ) : ' ' ∉ intText n := by
  intro hblank
  exact absurd (isSpace_intText n ' ' hblank) (by decide)

theorem number?_intText {n : ℤ} (h : 0 ≤ n) (hprint : Printable n) :
    number? (intText n) = some n := by
  obtain ⟨m, rfl⟩ := Int.eq_ofNat_of_zero_le h
  have hread : intOfDecimals (natText m) = some m := intOfDecimals_natText hprint
  rw [number?, intText_natCast, if_pos (isNumber_natText m), hread]
  rfl

/-- A text that ends in a number and starts with no blank has nothing to strip. -/
theorem strip_append_intText {stem : Text} (n : ℤ)
    (hhead : ∀ c, (stem ++ intText n).head? = some c → isSpace c = false) :
    strip (stem ++ intText n) = stem ++ intText n := by
  have hlast : (stem ++ intText n).getLast? = (intText n).getLast? :=
    List.getLast?_append_of_ne_nil _ (intText_ne_nil n)
  refine strip_of_ends hhead ?_
  intro c hc
  rw [hlast] at hc
  exact isSpace_intText _ c (List.mem_of_getLast? hc)

/-- In EXEC mode, what is no mode change and sets no address goes to the `show` pages. -/
theorem configCommand_exec {f : VirtualCliFace} {c : Text} (hexec : f.modes = [])
    (hmode : c ∉ modeTexts) (hparms : networkParms c = none) : f.configCommand c = none := by
  simp only [modeTexts, List.map_cons, List.map_nil, List.mem_cons, List.not_mem_nil, or_false,
    not_or] at hmode
  obtain ⟨hexit, hend, hdatabase, hconfig⟩ := hmode
  unfold configCommand
  rw [if_neg hexit, if_neg hend, if_neg hdatabase, if_neg (by simpa only [not_or] using hconfig),
    hparms, hexec]
  rfl

theorem run_configure {f : VirtualCliFace} (hexec : f.modes = []) :
    f.run configureCmd = ({ f with modes := [.config] }, .text accepted) := by
  rw [run_eq f (by decide) (by decide) (by decide) (by decide)]
  unfold configCommand
  rw [if_neg (by decide), if_neg (by decide), if_neg (by decide), if_pos (by decide), hexec]
  rfl

/-- In EXEC mode there is no number to be too long. -/
theorem overlongReply?_exec {f : VirtualCliFace} (hexec : f.modes = []) (c : Text) :
    f.overlongReply? c = none := by
  unfold overlongReply?
  rw [hexec]
  rfl

/-- A command of interface mode acts on the selected port. -/
theorem run_interface {f : VirtualCliFace} {c : Text} {port : ℤ} {command : InterfaceCommand}
    (hmode : f.modes.head? = some .interface) (hport : f.ifacePort = some port)
    (hc : strip c = c ∧ isSetup c = false ∧ c ≠ "no ip http secure-server".toList ∧
      c ≠ "ip http secure-server".toList ∧ c ∉ modeTexts ∧ networkParms c = none)
    (hcommand : InterfaceCommand.ofText c = some command) :
    f.run c = ({ f with state := (f.state.interfaceCommand port command).1 },
      .text (f.state.interfaceCommand port command).2) := by
  obtain ⟨hstrip, hsetup, hno, hip, htexts, hparms⟩ := hc
  simp only [modeTexts, List.map_cons, List.map_nil, List.mem_cons, List.not_mem_nil, or_false,
    not_or] at htexts
  obtain ⟨hexit, hend, hdatabase, hconfig⟩ := htexts
  rw [run_eq f hstrip hsetup hno hip]
  unfold configCommand
  rw [if_neg hexit, if_neg hend, if_neg hdatabase, if_neg (by simpa only [not_or] using hconfig),
    hparms, hmode, hport, hcommand]
  rfl

/-- `exit` from a mode that was entered from EXEC mode. -/
theorem run_exit {f : VirtualCliFace} {m : CliMode} (hmodes : f.modes = [m]) :
    f.run exitCmd = ({ f with
      modes := []
      ifacePort := none }, .text accepted) := by
  rw [run_eq f (by decide) (by decide) (by decide) (by decide)]
  unfold configCommand
  rw [if_pos (by rfl), hmodes]
  rfl

end VirtualCliFace

end NetgearSwitch.Virtual
