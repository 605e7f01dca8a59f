import NetgearSwitch.Cli.ShellDriver

/-!
# The SCP copy

What `run_scp_copy` makes of the text a shell delivers.  The text falls into turns: a turn ends with
the chunk that completes a question, which the driver answers.  The driver keeps the text of the
turn on hand; it looks for failures, questions, a success and the prompt in that text alone, in
this order, each time a chunk has come in.

A prompt ends the copy whether or not a success was told, and a failure that stands on both sides
of an answered question is in no turn.  §6 says that these are the only ways in which a copy is
taken for done that was not told to be.

§1 turns · §2 what is on hand · §3 steps of the loop · §4 runs of the loop · §5 what is on hand of
turns · §6 when a copy is taken for done
-/

namespace NetgearSwitch.Cli

open PyText PyCodec Script

namespace ShellDriver

/-! ## §1 Turns -/

/-- The text asks a question. -/
def asks (b : Text) : Bool := found scpTofuRe b || found scpPasswordRe b || found scpConfirmRe b

/-- The chunks are some turns, each of which asks a question with its last chunk and not before,
and a last turn, which asks nothing. -/
structure Turns (cs : List Bytes) (ts : List (List Bytes)) (last : List Bytes) : Prop where
  whole : cs = ts.flatten ++ last
  asked : ∀ t ∈ ts, asks (heard t) = true ∧ asks (heard t.dropLast) = false
  quiet : asks (heard last) = false

/-- Behind these chunks the shell stands at its prompt. -/
def AtPrompt (cs : List Bytes) : Prop :=
  ∃ ts last, Turns cs ts last ∧ found promptRe (heard last) = true

/-- A turn tells of a failure. -/
def TellsFailure (cs : List Bytes) : Prop :=
  ∃ ts last, Turns cs ts last ∧ ∃ t ∈ ts ++ [last], found scpFailureRe (heard t) = true

/-- A turn tells of a success, before the chunk that asks. -/
def TellsSuccess (cs : List Bytes) : Prop :=
  ∃ ts last, Turns cs ts last ∧
    ∃ t ∈ ts.map List.dropLast ++ [last], found scpSuccessRe (heard t) = true

/-- The chunks end with the question for the password. -/
def AsksPassword (cs : List Bytes) : Prop :=
  ∃ ts t, Turns cs (ts ++ [t]) [] ∧ found scpTofuRe (heard t) = false ∧
    found scpPasswordRe (heard t) = true

private theorem open_matched : PyRe.Open matched := fun _ _ _ => rfl

theorem open_scpSuccessRe : PyRe.Open scpSuccessRe :=
  PyRe.open_alt (PyRe.open_litI _ open_matched)
    (PyRe.open_alt (PyRe.open_litI _ open_matched) (PyRe.open_litI _ open_matched))

theorem open_scpFailureRe : PyRe.Open scpFailureRe :=
  PyRe.open_alt (PyRe.open_litI _ open_matched) <| PyRe.open_alt (PyRe.open_litI _ open_matched) <|
    PyRe.open_alt
      (PyRe.open_lit _ <| PyRe.open_many fun _ => PyRe.open_litI _ open_matched)
      (PyRe.open_litI _ open_matched)

/-- A question is asked by every text that has it in it. -/
theorem asks_of_isInfix {s t : Text} (hst : s <:+: t) (h : asks s = true) : asks t = true := by
  have htofu : PyRe.Open scpTofuRe :=
    PyRe.open_alt (PyRe.open_litI _ open_matched) <|
      PyRe.open_alt (PyRe.open_litI _ open_matched) <|
        PyRe.open_litI _ <| PyRe.open_many fun _ => PyRe.open_lit _ <|
          PyRe.open_many fun _ => PyRe.open_litI _ open_matched
  have hpassword : PyRe.Open scpPasswordRe :=
    PyRe.open_one fun _ => PyRe.open_lit _ open_matched
  have hconfirm : PyRe.Open scpConfirmRe :=
    PyRe.open_lit _ <| PyRe.open_many fun _ => PyRe.open_lit _ <|
      PyRe.open_many fun _ => PyRe.open_lit _ open_matched
  simp only [asks, Bool.or_eq_true] at h ⊢
  rcases h with (h | h) | h
  · exact Or.inl (Or.inl (PyRe.isSome_search_infix htofu hst h))
  · exact Or.inl (Or.inr (PyRe.isSome_search_infix hpassword hst h))
  · exact Or.inr (PyRe.isSome_search_infix hconfirm hst h)

theorem asks_eq_false_of_isInfix {s t : Text} (hst : s <:+: t) (h : asks t = false) :
    asks s = false := by
  by_contra hs
  rw [asks_of_isInfix hst (Bool.eq_true_of_not_eq_false hs)] at h
  cases h

theorem heard_isPrefix {ds cs : List Bytes} (h : ds <+: cs) : heard ds <+: heard cs := by
  obtain ⟨rest, rfl⟩ := h
  rw [heard_append]
  exact List.prefix_append _ _

theorem heard_concat (ds : List Bytes) (d : Bytes) :
    heard (ds ++ [d]) = heard ds ++ latin1Decode d := by
  rw [heard_append, heard_cons, heard_nil, List.append_nil]

section Turns

variable {cs ds last : List Bytes} {ts : List (List Bytes)} {d : Bytes}

theorem turns_nil : Turns [] [] [] := ⟨rfl, nofun, by decide⟩

/-- A chunk that completes a question ends the turn. -/
theorem Turns.concat_asked (h : Turns cs ts last) (hd : asks (heard (last ++ [d])) = true) :
    Turns (cs ++ [d]) (ts ++ [last ++ [d]]) [] := by
  refine ⟨by simp [h.whole], ?_, by decide⟩
  intro t ht
  rcases List.mem_append.mp ht with ht | ht
  · exact h.asked t ht
  · rw [List.mem_singleton.mp ht, List.dropLast_concat]
    exact ⟨hd, h.quiet⟩

/-- Any other chunk goes on with it. -/
theorem Turns.concat_quiet (h : Turns cs ts last) (hd : asks (heard (last ++ [d])) = false) :
    Turns (cs ++ [d]) ts (last ++ [d]) :=
  ⟨by rw [h.whole, List.append_assoc], h.asked, hd⟩

/-- Every stream falls into turns. -/
theorem exists_turns (cs : List Bytes) : ∃ ts last, Turns cs ts last := by
  induction cs using List.reverseRecOn with
  | nil => exact ⟨[], [], turns_nil⟩
  | append_singleton cs d ih =>
    obtain ⟨ts, last, h⟩ := ih
    rcases Bool.eq_false_or_eq_true (asks (heard (last ++ [d]))) with hd | hd
    · exact ⟨_, _, h.concat_asked hd⟩
    · exact ⟨_, _, h.concat_quiet hd⟩

/-- What comes later adds turns, and may go on with the last one. -/
theorem Turns.extend (h : Turns cs ts last) (rest : List Bytes) :
    ∃ ts' last', Turns (cs ++ rest) (ts ++ ts') last' ∧ ∃ t ∈ ts' ++ [last'], last <+: t := by
  induction rest generalizing cs ts last with
  | nil =>
    rw [List.append_nil]
    exact ⟨[], last, by rwa [List.append_nil], last, by simp, List.prefix_rfl⟩
  | cons d rest ih =>
    rw [List.append_cons cs d rest]
    rcases Bool.eq_false_or_eq_true (asks (heard (last ++ [d]))) with hd | hd
    · obtain ⟨ts', last', hturns, -⟩ := ih (h.concat_asked hd)
      rw [List.append_assoc ts] at hturns
      exact ⟨_, last', hturns, last ++ [d], by simp, List.prefix_append _ _⟩
    · obtain ⟨ts', last', hturns, t, ht, hpre⟩ := ih (h.concat_quiet hd)
      exact ⟨ts', last', hturns, t, ht, (List.prefix_append _ _).trans hpre⟩

/-- A part of a turn, cut off behind a chunk, is the last turn of what is heard by then. -/
theorem Turns.upTo (h : Turns cs ts last) {t p : List Bytes} (ht : t ∈ ts ++ [last])
    (hp : p ++ [d] <+: t) : ∃ ds us, ds ++ [d] <+: cs ∧ Turns ds us p := by
  rcases List.mem_append.mp ht with ht | ht
  · obtain ⟨us, vs, rfl⟩ := List.append_of_mem ht
    obtain ⟨q, rfl⟩ := hp
    refine ⟨us.flatten ++ p, us, ⟨q ++ (vs.flatten ++ last), ?_⟩, rfl, ?_, ?_⟩
    · simp [h.whole]
    · exact fun u hu => h.asked u (List.mem_append_left _ hu)
    · have hquiet := (h.asked _ ht).2
      have hpre : p <+: (p ++ [d] ++ q).dropLast := by
        rw [List.append_assoc, List.dropLast_append_of_ne_nil (by simp)]
        exact List.prefix_append _ _
      exact asks_eq_false_of_isInfix (heard_isPrefix hpre).isInfix hquiet
  · obtain rfl := List.mem_singleton.mp ht
    obtain ⟨q, rfl⟩ := hp
    refine ⟨ts.flatten ++ p, ts, ⟨q, ?_⟩, rfl, h.asked, ?_⟩
    · simp [h.whole]
    · have hpre : p <+: p ++ [d] ++ q := ⟨[d] ++ q, by rw [List.append_assoc]⟩
      exact asks_eq_false_of_isInfix (heard_isPrefix hpre).isInfix h.quiet

end Turns

/-! ## §2 What is on hand -/

/-- What stays on hand of a text just read: nothing, if it asked. -/
def keep (b : Text) : Text := if asks b then [] else b

/-- The text on hand after some chunks, of `buf` before. -/
def onHand (buf : Text) : List Bytes → Text
  | [] => buf
  | c :: cs => onHand (keep (buf ++ latin1Decode c)) cs

/-- Whether a success was on hand, after the text was read. -/
def tells (told : Bool) (b : Text) : Bool := told || (!asks b && found scpSuccessRe b)

/-- Whether a success was ever on hand. -/
def toldBy (told : Bool) (buf : Text) : List Bytes → Bool
  | [] => told
  | c :: cs => toldBy (tells told (buf ++ latin1Decode c)) (keep (buf ++ latin1Decode c)) cs

/-- The driver reads on behind this text. -/
def GoesOn (b : Text) : Prop :=
  found scpFailureRe b = false ∧ (asks b = true ∨ found promptRe b = false)

/-- The driver reads on behind each of these chunks. -/
def ReadsOn (buf : Text) : List Bytes → Prop
  | [] => True
  | c :: cs => GoesOn (buf ++ latin1Decode c) ∧ ReadsOn (keep (buf ++ latin1Decode c)) cs

/-- The text asks for the password, and for nothing that comes first. -/
def NeedsPassword (b : Text) : Prop :=
  found scpFailureRe b = false ∧ found scpTofuRe b = false ∧ found scpPasswordRe b = true

/-- The text has the driver see a prompt. -/
def ShowsPrompt (b : Text) : Prop :=
  found scpFailureRe b = false ∧ asks b = false ∧ found promptRe b = true

/-- Nothing in the text on hand is left to be seen. -/
structure Settled (told : Bool) (b : Text) : Prop where
  failure : found scpFailureRe b = false
  question : asks b = false
  prompt : found promptRe b = false
  success : found scpSuccessRe b = true → told = true

theorem settled_nil (told : Bool) : Settled told [] := by
  refine ⟨by decide, by decide, by decide, ?_⟩
  intro h
  exact absurd h (by decide)

theorem settled_keep (told : Bool) {b : Text} (h : GoesOn b) : Settled (tells told b) (keep b) := by
  by_cases hasks : asks b = true
  · rw [keep, if_pos hasks]
    exact settled_nil _
  · have hfalse : asks b = false := Bool.eq_false_of_not_eq_true hasks
    rw [keep, if_neg hasks]
    refine ⟨h.1, hfalse, h.2.resolve_left hasks, ?_⟩
    intro hsuccess
    rw [tells, hfalse, hsuccess, Bool.not_false, Bool.and_true, Bool.or_true]

theorem keep_suffix (b : Text) : keep b <:+ b := by
  unfold keep
  split_ifs
  · exact List.nil_suffix
  · exact List.suffix_rfl

/-- A success that was on hand stands in the whole text. -/
theorem found_of_toldBy {cs : List Bytes} {told : Bool} {buf : Text}
    (h : toldBy told buf cs = true) : told = true ∨ found scpSuccessRe (buf ++ heard cs) = true := by
  induction cs generalizing told buf with
  | nil => exact Or.inl h
  | cons c cs ih =>
    rw [heard_cons, ← List.append_assoc]
    rcases ih h with htold | hfound
    · rw [tells, Bool.or_eq_true, Bool.and_eq_true] at htold
      rcases htold with htold | ⟨_, hfound⟩
      · exact Or.inl htold
      · exact Or.inr (PyRe.isSome_search_infix open_scpSuccessRe (List.prefix_append _ _).isInfix hfound)
    · refine Or.inr (PyRe.isSome_search_infix open_scpSuccessRe ?_ hfound)
      obtain ⟨front, hfront⟩ := keep_suffix (buf ++ latin1Decode c)
      exact ⟨front, [], by rw [List.append_nil, ← List.append_assoc, hfront]⟩

/-! ## §3 Steps of the loop -/

section Loop

variable {password transcript buf : Text} {told : Bool} {reads : ℕ} {c : Bytes} {cs : List Bytes}
  {r : Except LibError Text} {d' : Shell}

/-- The answer to a question leaves the stream as it is. -/
theorem ends_answer {text : Text} (h : Latin1 text) (cs : List Bytes) :
    Ends shell (writeLine text) ⟨cs, []⟩ (.ok ()) ⟨cs, []⟩ := by
  have hsend : Ends shell (writeLine text) ⟨cs, []⟩ (.ok ()) ⟨cs ++ [], []⟩ :=
    ends_writeLine h ⟨cs, []⟩
  rwa [List.append_nil] at hsend

/-- A chunk the driver reads on behind. -/
theorem ends_goesOn (hb : GoesOn (buf ++ latin1Decode c)) (hc : c ≠ [])
    (hpassword : NeedsPassword (buf ++ latin1Decode c) → Latin1 password)
    (hrest : Ends shell (scpLoop password (transcript ++ latin1Decode c)
      (keep (buf ++ latin1Decode c)) (tells told (buf ++ latin1Decode c)) reads) ⟨cs, []⟩ r d') :
    Ends shell (scpLoop password transcript buf told (reads + 1)) ⟨c :: cs, []⟩ r d' := by
  obtain ⟨hfailure, hgoes⟩ := hb
  refine (ends_recv c cs []).bind ?_
  dsimp only
  rw [if_neg (by simp [hfailure])]
  by_cases hasks : asks (buf ++ latin1Decode c) = true
  · have htells : tells told (buf ++ latin1Decode c) = told := by
      rw [tells, hasks, Bool.not_true, Bool.false_and, Bool.or_false]
    rw [keep, if_pos hasks, htells] at hrest
    by_cases htofu : found scpTofuRe (buf ++ latin1Decode c) = true
    · rw [if_pos htofu]
      exact (ends_answer (by decide) cs).bind hrest
    · rw [if_neg htofu]
      by_cases hpass : found scpPasswordRe (buf ++ latin1Decode c) = true
      · rw [if_pos hpass]
        have hlatin1 := hpassword ⟨hfailure, Bool.eq_false_of_not_eq_true htofu, hpass⟩
        exact (ends_answer hlatin1 cs).bind hrest
      · have hconfirm : found scpConfirmRe (buf ++ latin1Decode c) = true := by
          simpa [asks, htofu, hpass] using hasks
        rw [if_neg hpass, if_pos hconfirm]
        have hkey : Ends shell (call (.send [121]) : ShellScript Bytes) ⟨cs, []⟩ (.ok [])
            ⟨cs, []⟩ := ends_call (by simp [shell])
        exact hkey.bind hrest
  · have hprompt := hgoes.resolve_left hasks
    have htells : tells told (buf ++ latin1Decode c) =
        (told || found scpSuccessRe (buf ++ latin1Decode c)) := by
      rw [tells, Bool.eq_false_of_not_eq_true hasks, Bool.not_false, Bool.true_and]
    rw [keep, if_neg hasks, htells] at hrest
    simp only [asks, Bool.or_eq_true, not_or] at hasks
    rw [if_neg hasks.1.1, if_neg hasks.1.2, if_neg hasks.2, if_neg (by simp [hprompt]), if_neg hc]
    exact hrest

/-- A chunk that has the driver see the prompt. -/
theorem ends_showsPrompt (h : ShowsPrompt (buf ++ latin1Decode c)) :
    Ends shell (scpLoop password transcript buf told (reads + 1)) ⟨c :: cs, []⟩
      (.ok (transcript ++ latin1Decode c)) ⟨cs, []⟩ := by
  obtain ⟨hfailure, hasks, hprompt⟩ := h
  simp only [asks, Bool.or_eq_false_iff] at hasks
  refine (ends_recv c cs []).bind ?_
  dsimp only
  rw [if_neg (by simp [hfailure]), if_neg (by simp [hasks.1.1]), if_neg (by simp [hasks.1.2]),
    if_neg (by simp [hasks.2]), if_pos hprompt]
  exact ends_done _

/-- A chunk that tells of a failure. -/
theorem ends_failure (h : found scpFailureRe (buf ++ latin1Decode c) = true) :
    Ends shell (scpLoop password transcript buf told (reads + 1)) ⟨c :: cs, []⟩
      (.error .cliTransport) ⟨cs, []⟩ := by
  refine (ends_recv c cs []).bind ?_
  dsimp only
  rw [if_pos h]
  exact ends_done _

/-- A chunk that asks for a password the channel cannot carry. -/
theorem ends_unencodable (h : NeedsPassword (buf ++ latin1Decode c)) (hlatin1 : ¬Latin1 password) :
    Ends shell (scpLoop password transcript buf told (reads + 1)) ⟨c :: cs, []⟩
      (.error .unicodeError) ⟨cs, []⟩ := by
  obtain ⟨hfailure, htofu, hpassword⟩ := h
  refine (ends_recv c cs []).bind ?_
  dsimp only
  rw [if_neg (by simp [hfailure]), if_neg (by simp [htofu]), if_pos hpassword]
  exact (ends_writeLine_unencodable hlatin1 _).bind_error

/-- No read is left. -/
theorem ends_scpLoop_zero (d : Shell) :
    Ends shell (scpLoop password transcript buf told 0) d
      (if told then .ok transcript else .error .cliTransport) d := by
  rw [scpLoop]
  split_ifs
  · exact ends_done _
  · exact ends_done _

/-- The end of the stream. -/
theorem ends_over (h : Settled told buf) (reads : ℕ) :
    Ends shell (scpLoop password transcript buf told reads) ⟨[], []⟩
      (if told then .ok transcript else .error .cliTransport) ⟨[], []⟩ := by
  cases reads with
  | zero => exact ends_scpLoop_zero _
  | succ reads =>
    have hquiet := h.question
    simp only [asks, Bool.or_eq_false_iff] at hquiet
    have hsuccess : (told || found scpSuccessRe buf) = told := by
      rcases Bool.eq_false_or_eq_true (found scpSuccessRe buf) with hs | hs
      · rw [h.success hs, Bool.true_or]
      · rw [hs, Bool.or_false]
    refine (ends_recv_nil []).bind ?_
    dsimp only
    rw [show latin1Decode [] = [] from rfl, List.append_nil, List.append_nil,
      if_neg (by simp [h.failure]), if_neg (by simp [hquiet.1.1]), if_neg (by simp [hquiet.1.2]),
      if_neg (by simp [hquiet.2]), if_neg (by simp [h.prompt]), if_pos rfl, hsuccess]
    split_ifs
    · exact ends_done _
    · exact ends_done _

end Loop

/-! ## §4 Runs of the loop -/

section Runs

variable {password transcript buf : Text} {told : Bool} {cs rest : List Bytes}
  {r : Except LibError Text} {d' : Shell}

/-- Chunks the driver reads on behind, one after the other. -/
theorem ends_readsOn (hread : ReadsOn buf cs) (hchunks : ∀ c ∈ cs, c ≠ [])
    (hpassword : ∀ ds d, ds ++ [d] <+: cs → NeedsPassword (onHand buf ds ++ latin1Decode d) →
      Latin1 password) (reads : ℕ)
    (hrest : Ends shell (scpLoop password (transcript ++ heard cs) (onHand buf cs)
      (toldBy told buf cs) reads) ⟨rest, []⟩ r d') :
    Ends shell (scpLoop password transcript buf told (cs.length + reads)) ⟨cs ++ rest, []⟩ r d' := by
  induction cs generalizing transcript buf told with
  | nil =>
    rw [heard_nil, List.append_nil] at hrest
    rw [List.length_nil, Nat.zero_add]
    exact hrest
  | cons c cs ih =>
    obtain ⟨hgoes, htail⟩ := hread
    obtain ⟨hc, hcs⟩ := List.forall_mem_cons.mp hchunks
    rw [heard_cons, ← List.append_assoc] at hrest
    rw [List.length_cons, Nat.add_right_comm, List.cons_append]
    refine ends_goesOn hgoes hc (hpassword [] c ⟨cs, rfl⟩) (ih htail hcs ?_ hrest)
    intro ds d hds
    exact hpassword (c :: ds) d (List.cons_prefix_cons.mpr ⟨rfl, hds⟩)

/-- Either the driver stops behind some chunk, or it reads them all. -/
theorem stops_or_readsOn (cs : List Bytes) (buf : Text) (reads : ℕ) :
    (∃ ds d, ds ++ [d] <+: cs ∧ ds.length < reads ∧ ReadsOn buf ds ∧
      ¬GoesOn (onHand buf ds ++ latin1Decode d)) ∨ ReadsOn buf (cs.take reads) := by
  induction cs generalizing buf reads with
  | nil => exact Or.inr (by rw [List.take_nil]; trivial)
  | cons c cs ih =>
    cases reads with
    | zero => exact Or.inr trivial
    | succ reads =>
      by_cases hgoes : GoesOn (buf ++ latin1Decode c)
      · rcases ih (keep (buf ++ latin1Decode c)) reads with ⟨ds, d, hds, hlen, hread, hstop⟩ | hread
        · refine Or.inl ⟨c :: ds, d, List.cons_prefix_cons.mpr ⟨rfl, hds⟩, ?_, ⟨hgoes, hread⟩, hstop⟩
          exact Nat.succ_lt_succ hlen
        · exact Or.inr ⟨hgoes, hread⟩
      · exact Or.inl ⟨[], c, ⟨cs, rfl⟩, Nat.succ_pos _, trivial, hgoes⟩

/-- A password that is asked for and cannot be sent. -/
theorem exists_ends_unencodable (hlatin1 : ¬Latin1 password) {ds : List Bytes} {d : Bytes}
    (hchunks : ∀ c ∈ cs, c ≠ []) (hds : ds ++ [d] <+: cs) {reads : ℕ} (hlen : ds.length < reads)
    (hread : ReadsOn buf ds) (hneeds : NeedsPassword (onHand buf ds ++ latin1Decode d)) :
    ∃ d', Ends shell (scpLoop password transcript buf told reads) ⟨cs, []⟩
      (.error .unicodeError) d' := by
  obtain ⟨reads, rfl⟩ : ∃ n, reads = n + 1 := Nat.exists_eq_add_of_lt (Nat.zero_lt_of_lt hlen) |>.imp
    fun n hn => by omega
  induction ds generalizing cs buf transcript told reads with
  | nil =>
    obtain ⟨rest, rfl⟩ := hds
    exact ⟨_, ends_unencodable hneeds hlatin1⟩
  | cons c ds ih =>
    obtain ⟨rest, rfl⟩ := hds
    obtain ⟨hgoes, htail⟩ := hread
    by_cases hfirst : NeedsPassword (buf ++ latin1Decode c)
    · exact ⟨_, ends_unencodable hfirst hlatin1⟩
    · obtain ⟨reads, rfl⟩ : ∃ n, reads = n + 1 := Nat.exists_eq_add_of_le' (by
        rw [List.length_cons] at hlen
        omega)
      obtain ⟨hc, hcs⟩ := List.forall_mem_cons.mp hchunks
      have hnext : ∃ d', Ends shell (scpLoop password (transcript ++ latin1Decode c)
          (keep (buf ++ latin1Decode c)) (tells told (buf ++ latin1Decode c)) (reads + 1))
            ⟨ds ++ [d] ++ rest, []⟩ (.error .unicodeError) d' :=
        ih hcs (List.prefix_append _ _) htail hneeds reads (Nat.lt_of_succ_lt_succ hlen)
      obtain ⟨d', hends⟩ := hnext
      exact ⟨d', ends_goesOn hgoes hc (fun h => absurd h hfirst) hends⟩

end Runs

/-- The driver comes to look at a text, having read `ds` and `d`. -/
def ComesTo (chunks ds : List Bytes) (d : Bytes) : Prop :=
  ds ++ [d] <+: chunks ∧ ds.length < maxReads ∧ ReadsOn [] ds

/-- The copy is taken for done behind these chunks: at a prompt, or at the end of the stream or
of the reads with a success told. -/
def TakenForDone (chunks cs : List Bytes) : Prop :=
  (∃ ds d, cs = ds ++ [d] ∧ ComesTo chunks ds d ∧ ShowsPrompt (onHand [] ds ++ latin1Decode d)) ∨
    (cs = chunks.take maxReads ∧ ReadsOn [] cs ∧ toldBy false [] cs = true)

/-- A failure was told, but never on hand: it stands on both sides of an answered question. -/
def Torn (cs : List Bytes) : Prop :=
  found scpFailureRe (heard cs) = true ∧
    ∀ ds d, ds ++ [d] <+: cs → found scpFailureRe (onHand [] ds ++ latin1Decode d) = false

/-- A copy that returns has been told to be done and not to have failed, in the transcript it
returns; any other copy fails as a transport does. -/
def Honest (command password : Text) (chunks : List Bytes) : Prop :=
  match ((runScpCopy command password).run shell { pending := chunks }).result with
  | .ok transcript => (∃ cs, cs <+: chunks ∧ transcript = heard cs) ∧
      found scpSuccessRe transcript = true ∧ found scpFailureRe transcript = false
  | .error e => e = .cliTransport

/-- What an honest copy takes, in the terms of the loop. -/
structure LoopTold (command password : Text) (chunks : List Bytes) : Prop where
  command : Latin1 command
  password : ∀ ds d, ComesTo chunks ds d → NeedsPassword (onHand [] ds ++ latin1Decode d) →
    Latin1 password
  /-- No prompt before a success. -/
  success : ∀ ds d, ComesTo chunks ds d → ShowsPrompt (onHand [] ds ++ latin1Decode d) →
    found scpSuccessRe (heard (ds ++ [d])) = true
  /-- No failure around an answered question. -/
  failure : ∀ cs, TakenForDone chunks cs → ¬Torn cs

theorem readsOn_of_prefix {buf : Text} {ds cs : List Bytes} (hds : ds <+: cs)
    (h : ReadsOn buf cs) : ReadsOn buf ds := by
  induction ds generalizing buf cs with
  | nil => trivial
  | cons d ds ih =>
    obtain ⟨rest, rfl⟩ := hds
    exact ⟨h.1, ih (List.prefix_append _ _) h.2⟩

/-- Behind each chunk of those read on behind, the driver goes on. -/
theorem goesOn_of_readsOn {buf : Text} {ds cs : List Bytes} {d : Bytes} (hds : ds ++ [d] <+: cs)
    (h : ReadsOn buf cs) : GoesOn (onHand buf ds ++ latin1Decode d) := by
  induction ds generalizing buf cs with
  | nil =>
    obtain ⟨rest, rfl⟩ := hds
    exact h.1
  | cons c ds ih =>
    obtain ⟨rest, rfl⟩ := hds
    exact ih (List.prefix_append _ _) h.2

theorem settled_of_readsOn {told : Bool} {buf : Text} {cs : List Bytes} (h : ReadsOn buf cs)
    (hbuf : Settled told buf) : Settled (toldBy told buf cs) (onHand buf cs) := by
  induction cs generalizing told buf with
  | nil => exact hbuf
  | cons c cs ih => exact ih h.2 (settled_keep told h.1)

section Copy

variable {command password : Text} {chunks ds cs : List Bytes} {d : Bytes}

/-- The password can be sent wherever it is asked for. -/
def Answerable (password : Text) (chunks : List Bytes) : Prop :=
  ∀ ds d, ComesTo chunks ds d → NeedsPassword (onHand [] ds ++ latin1Decode d) → Latin1 password

theorem ends_runScpCopy (hcommand : Latin1 command) {r : Except LibError Text} {d' : Shell}
    (h : Ends shell (scpLoop password [] [] false maxReads) ⟨chunks, []⟩ r d') :
    Ends shell (runScpCopy command password) { pending := chunks } r d' :=
  (ends_answer hcommand chunks).bind h

/-- The loop, up to a chunk it comes to look behind. -/
theorem ends_comesTo (hchunks : ∀ c ∈ chunks, c ≠ []) (hpassword : Answerable password chunks)
    (hcomes : ComesTo chunks ds d) {r : Except LibError Text}
    (h : ∀ reads rest, ∃ d', Ends shell (scpLoop password (heard ds) (onHand [] ds)
      (toldBy false [] ds) (reads + 1)) ⟨d :: rest, []⟩ r d') :
    ∃ d', Ends shell (scpLoop password [] [] false maxReads) ⟨chunks, []⟩ r d' := by
  obtain ⟨⟨rest, rfl⟩, hlen, hread⟩ := hcomes
  obtain ⟨reads, hreads⟩ : ∃ n, maxReads = ds.length + (n + 1) :=
    ⟨maxReads - ds.length - 1, by omega⟩
  obtain ⟨d', hends⟩ := h reads rest
  refine ⟨d', ?_⟩
  rw [hreads, List.append_assoc]
  refine ends_readsOn hread (fun c hc => hchunks c (by simp [hc])) ?_ (reads + 1) hends
  intro us u hus hneeds
  refine hpassword us u ⟨hus.trans (by simp), ?_, ?_⟩ hneeds
  · have hle := hus.length_le
    rw [List.length_append, List.length_singleton] at hle
    omega
  · exact readsOn_of_prefix ((List.prefix_append _ _).trans hus) hread

theorem exists_ends_showsPrompt (hcommand : Latin1 command) (hchunks : ∀ c ∈ chunks, c ≠ [])
    (hpassword : Answerable password chunks) (hcomes : ComesTo chunks ds d)
    (hprompt : ShowsPrompt (onHand [] ds ++ latin1Decode d)) :
    ∃ d', Ends shell (runScpCopy command password) { pending := chunks }
      (.ok (heard (ds ++ [d]))) d' := by
  rw [heard_concat]
  obtain ⟨d', hends⟩ := ends_comesTo hchunks hpassword hcomes fun reads rest =>
    ⟨_, ends_showsPrompt hprompt⟩
  exact ⟨d', ends_runScpCopy hcommand hends⟩

/-- The copy, where the driver reads on behind every chunk. -/
theorem exists_ends_all (hcommand : Latin1 command) (hchunks : ∀ c ∈ chunks, c ≠ [])
    (hpassword : Answerable password chunks) (hread : ReadsOn [] (chunks.take maxReads)) :
    ∃ d', Ends shell (runScpCopy command password) { pending := chunks }
      (if toldBy false [] (chunks.take maxReads) then .ok (heard (chunks.take maxReads))
        else .error .cliTransport) d' := by
  have hsent : ∀ us u, us ++ [u] <+: chunks.take maxReads →
      NeedsPassword (onHand [] us ++ latin1Decode u) → Latin1 password := by
    intro us u hus hneeds
    refine hpassword us u ⟨hus.trans (List.take_prefix _ _), ?_, ?_⟩ hneeds
    · have hle := hus.length_le
      rw [List.length_append, List.length_singleton, List.length_take] at hle
      omega
    · exact readsOn_of_prefix ((List.prefix_append _ _).trans hus) hread
  have hne : ∀ c ∈ chunks.take maxReads, c ≠ [] := fun c hc => hchunks c (List.mem_of_mem_take hc)
  by_cases hlen : chunks.length ≤ maxReads
  · -- the stream ends first
    obtain ⟨reads, hreads⟩ : ∃ n, maxReads = chunks.length + n := Nat.exists_eq_add_of_le hlen
    rw [List.take_of_length_le hlen] at hread hsent hne ⊢
    have hover := @ends_over password (heard chunks) _ _
      (settled_of_readsOn hread (settled_nil false)) reads
    have hends := @ends_readsOn password [] [] false _ [] _ _ hread hne hsent reads hover
    rw [← hreads, List.append_nil] at hends
    exact ⟨_, ends_runScpCopy hcommand hends⟩
  · have htake : (chunks.take maxReads).length = maxReads := by
      rw [List.length_take]
      omega
    have hends := @ends_readsOn password [] [] false _ (chunks.drop maxReads) _ _ hread hne hsent 0
      (ends_scpLoop_zero _)
    rw [htake, Nat.add_zero, List.take_append_drop] at hends
    exact ⟨_, ends_runScpCopy hcommand hends⟩

/-- The loop is honest where nothing it comes to misleads it. -/
theorem honest_iff_loopTold (hchunks : ∀ c ∈ chunks, c ≠ []) :
    Honest command password chunks ↔ LoopTold command password chunks := by
  constructor
  · intro h
    unfold Honest at h
    have hcommand : Latin1 command := by
      by_contra hlatin1
      have hends : Ends shell (runScpCopy command password) { pending := chunks }
          (.error .unicodeError) _ := (ends_writeLine_unencodable hlatin1 _).bind_error
      rw [hends.1] at h
      cases h
    have hpassword : Answerable password chunks := by
      intro ds d ⟨hds, hlen, hread⟩ hneeds
      by_contra hlatin1
      obtain ⟨d', hends⟩ := exists_ends_unencodable hlatin1 hchunks hds hlen hread hneeds
      rw [(ends_runScpCopy hcommand hends).1] at h
      cases h
    refine ⟨hcommand, hpassword, ?_, ?_⟩
    · intro ds d hcomes hprompt
      obtain ⟨d', hends⟩ := exists_ends_showsPrompt hcommand hchunks hpassword hcomes hprompt
      rw [hends.1] at h
      exact h.2.1
    · rintro cs (⟨ds, d, rfl, hcomes, hprompt⟩ | ⟨rfl, hread, htold⟩) ⟨htorn, _⟩
      · obtain ⟨d', hends⟩ := exists_ends_showsPrompt hcommand hchunks hpassword hcomes hprompt
        rw [hends.1] at h
        rw [h.2.2] at htorn
        cases htorn
      · obtain ⟨d', hends⟩ := exists_ends_all hcommand hchunks hpassword hread
        rw [hends.1, if_pos htold] at h
        rw [h.2.2] at htorn
        cases htorn
  · intro h
    have hpassword : Answerable password chunks := h.password
    -- what was never on hand was not told at all
    have hunsaid : ∀ cs, TakenForDone chunks cs →
        (∀ ds d, ds ++ [d] <+: cs → found scpFailureRe (onHand [] ds ++ latin1Decode d) = false) →
          found scpFailureRe (heard cs) = false := by
      intro cs hdone hquiet
      by_contra hfound
      exact h.failure cs hdone ⟨Bool.eq_true_of_not_eq_false hfound, hquiet⟩
    unfold Honest
    rcases stops_or_readsOn chunks [] maxReads with ⟨ds, d, hds, hlen, hread, hstop⟩ | hread
    · have hcomes : ComesTo chunks ds d := ⟨hds, hlen, hread⟩
      by_cases hfailure : found scpFailureRe (onHand [] ds ++ latin1Decode d) = true
      · obtain ⟨d', hends⟩ := ends_comesTo hchunks hpassword hcomes fun reads rest =>
          ⟨_, ends_failure hfailure⟩
        rw [(ends_runScpCopy h.command hends).1]
      · have hquiet := Bool.eq_false_of_not_eq_true hfailure
        have hprompt : ShowsPrompt (onHand [] ds ++ latin1Decode d) := by
          simp only [GoesOn, hquiet, true_and, not_or, Bool.not_eq_true, Bool.not_eq_false] at hstop
          exact ⟨hquiet, hstop.1, hstop.2⟩
        obtain ⟨d', hends⟩ := exists_ends_showsPrompt h.command hchunks hpassword hcomes hprompt
        rw [hends.1]
        refine ⟨⟨_, hds, rfl⟩, h.success ds d hcomes hprompt, ?_⟩
        refine hunsaid _ (Or.inl ⟨ds, d, rfl, hcomes, hprompt⟩) ?_
        intro us u hus
        rcases List.prefix_concat_iff.mp hus with heq | hus
        · obtain ⟨rfl, hlast⟩ := List.append_inj' heq rfl
          cases hlast
          exact hquiet
        · exact (goesOn_of_readsOn hus hread).1
    · obtain ⟨d', hends⟩ := exists_ends_all h.command hchunks hpassword hread
      rw [hends.1]
      by_cases htold : toldBy false [] (chunks.take maxReads) = true
      · rw [if_pos htold]
        refine ⟨⟨_, List.take_prefix _ _, rfl⟩, ?_, ?_⟩
        · have hsuccess := found_of_toldBy htold
          rw [List.nil_append] at hsuccess
          exact hsuccess.resolve_left Bool.false_ne_true
        · exact hunsaid _ (Or.inr ⟨rfl, hread, htold⟩) fun us u hus => (goesOn_of_readsOn hus hread).1
      · rw [if_neg htold]

end Copy

/-! ## §5 What is on hand of turns -/

theorem onHand_append (buf : Text) (cs ds : List Bytes) :
    onHand buf (cs ++ ds) = onHand (onHand buf cs) ds := by
  induction cs generalizing buf with
  | nil => rfl
  | cons c cs ih => exact ih _

theorem onHand_quiet {buf : Text} {cs : List Bytes} (h : asks (buf ++ heard cs) = false) :
    onHand buf cs = buf ++ heard cs := by
  induction cs generalizing buf with
  | nil => exact (List.append_nil buf).symm
  | cons c cs ih =>
    rw [heard_cons, ← List.append_assoc] at h ⊢
    have hc : asks (buf ++ latin1Decode c) = false :=
      asks_eq_false_of_isInfix (List.prefix_append _ _).isInfix h
    rw [onHand, keep, if_neg (by rw [hc]; exact Bool.false_ne_true)]
    exact ih h

section OnHand

variable {cs ds last : List Bytes} {ts : List (List Bytes)} {d : Bytes}

/-- A turn that has asked leaves nothing. -/
theorem onHand_asked {t : List Bytes} (h : asks (heard t) = true)
    (hbefore : asks (heard t.dropLast) = false) : onHand [] t = [] := by
  obtain rfl | ⟨p, c, rfl⟩ := List.eq_nil_or_concat' t
  · rfl
  · rw [List.dropLast_concat] at hbefore
    rw [heard_concat] at h
    rw [onHand_append, @onHand_quiet [] p hbefore]
    show keep (heard p ++ latin1Decode c) = []
    rw [keep, if_pos h]

/-- The text on hand is that of the last turn. -/
theorem onHand_of_turns (h : Turns cs ts last) : onHand [] cs = heard last := by
  have hts : onHand [] ts.flatten = [] := by
    have hasked := h.asked
    clear h
    induction ts with
    | nil => rfl
    | cons t ts ih =>
      obtain ⟨⟨ht, hbefore⟩, hts⟩ := List.forall_mem_cons.mp hasked
      rw [List.flatten_cons, onHand_append, onHand_asked ht hbefore]
      exact ih hts
  rw [h.whole, onHand_append, hts]
  exact onHand_quiet h.quiet

/-- The driver comes to see a failure exactly where a turn tells of one. -/
theorem tellsFailure_iff : TellsFailure cs ↔
    ∃ ds d, ds ++ [d] <+: cs ∧ found scpFailureRe (onHand [] ds ++ latin1Decode d) = true := by
  constructor
  · rintro ⟨ts, last, h, t, ht, hfailure⟩
    obtain rfl | ⟨p, d, rfl⟩ := List.eq_nil_or_concat' t
    · cases hfailure
    · obtain ⟨ds, us, hds, hturns⟩ := h.upTo ht List.prefix_rfl
      refine ⟨ds, d, hds, ?_⟩
      rw [onHand_of_turns hturns, ← heard_concat]
      exact hfailure
  · rintro ⟨ds, d, ⟨rest, rfl⟩, hfailure⟩
    obtain ⟨us, p, hturns⟩ := exists_turns ds
    rw [onHand_of_turns hturns, ← heard_concat] at hfailure
    rcases Bool.eq_false_or_eq_true (asks (heard (p ++ [d]))) with hd | hd
    · obtain ⟨ts', last', h, -⟩ := (hturns.concat_asked hd).extend rest
      exact ⟨_, _, h, p ++ [d], by simp, hfailure⟩
    · obtain ⟨ts', last', h, t, ht, hpre⟩ := (hturns.concat_quiet hd).extend rest
      refine ⟨_, _, h, t, ?_, PyRe.isSome_search_infix open_scpFailureRe
        (heard_isPrefix hpre).isInfix hfailure⟩
      rw [List.append_assoc]
      exact List.mem_append_right _ ht

theorem toldBy_iff {told : Bool} {buf : Text} : toldBy told buf cs = true ↔ told = true ∨
    ∃ ds d, ds ++ [d] <+: cs ∧ asks (onHand buf ds ++ latin1Decode d) = false ∧
      found scpSuccessRe (onHand buf ds ++ latin1Decode d) = true := by
  induction cs generalizing told buf with
  | nil => simp [toldBy]
  | cons c cs ih =>
    rw [toldBy, ih, tells, Bool.or_eq_true, Bool.and_eq_true, Bool.not_eq_true', or_assoc]
    refine or_congr Iff.rfl ?_
    constructor
    · rintro (hc | ⟨ds, d, hds, hd⟩)
      · exact ⟨[], c, ⟨cs, rfl⟩, hc⟩
      · exact ⟨c :: ds, d, List.cons_prefix_cons.mpr ⟨rfl, hds⟩, hd⟩
    · rintro ⟨ds, d, hds, hd⟩
      cases ds with
      | nil =>
        obtain ⟨rfl, -⟩ := List.cons_prefix_cons.mp hds
        exact Or.inl hd
      | cons e ds =>
        obtain ⟨rfl, htail⟩ := List.cons_prefix_cons.mp hds
        exact Or.inr ⟨ds, d, htail, hd⟩

/-- The driver takes a success for told exactly where a turn tells of one before it asks. -/
theorem tellsSuccess_iff : TellsSuccess cs ↔ toldBy false [] cs = true := by
  rw [toldBy_iff, or_iff_right Bool.false_ne_true]
  constructor
  · rintro ⟨ts, last, h, p, hp, hsuccess⟩
    -- the part of a turn in front of its question
    obtain ⟨t, ht, hpre, hquiet⟩ : ∃ t ∈ ts ++ [last], p <+: t ∧ asks (heard p) = false := by
      rcases List.mem_append.mp hp with hp | hp
      · obtain ⟨t, ht, rfl⟩ := List.mem_map.mp hp
        exact ⟨t, List.mem_append_left _ ht, List.dropLast_prefix t, (h.asked t ht).2⟩
      · rw [List.mem_singleton.mp hp]
        exact ⟨last, by simp, List.prefix_rfl, h.quiet⟩
    obtain rfl | ⟨p, d, rfl⟩ := List.eq_nil_or_concat' p
    · cases hsuccess
    · obtain ⟨ds, us, hds, hturns⟩ := h.upTo ht hpre
      rw [heard_concat] at hquiet hsuccess
      exact ⟨ds, d, hds, by rwa [onHand_of_turns hturns], by rwa [onHand_of_turns hturns]⟩
  · rintro ⟨ds, d, ⟨rest, rfl⟩, hquiet, hsuccess⟩
    obtain ⟨us, p, hturns⟩ := exists_turns ds
    rw [onHand_of_turns hturns, ← heard_concat] at hquiet hsuccess
    obtain ⟨ts', last', h, t, ht, hpre⟩ := (hturns.concat_quiet hquiet).extend rest
    have hfound : ∀ q, p ++ [d] <+: q → found scpSuccessRe (heard q) = true := fun q hq =>
      PyRe.isSome_search_infix open_scpSuccessRe (heard_isPrefix hq).isInfix hsuccess
    refine ⟨_, _, h, ?_⟩
    rcases List.mem_append.mp ht with ht | ht
    · -- the turn asks and its front does not, so the front is no more than what comes before
      have hasked := (h.asked t (List.mem_append_right _ ht)).1
      obtain rfl | ⟨q, e, rfl⟩ := List.eq_nil_or_concat' t
      · cases hasked
      rcases List.prefix_concat_iff.mp hpre with heq | hq
      · rw [heq, hasked] at hquiet
        cases hquiet
      · refine ⟨q, List.mem_append_left _ (List.mem_map.mpr ⟨q ++ [e], ?_, List.dropLast_concat⟩),
          hfound q hq⟩
        exact List.mem_append_right _ ht
    · rw [List.mem_singleton.mp ht] at hpre
      exact ⟨last', by simp, hfound _ hpre⟩

theorem atPrompt_iff : AtPrompt cs ↔ found promptRe (onHand [] cs) = true := by
  constructor
  · rintro ⟨ts, last, h, hprompt⟩
    rwa [onHand_of_turns h]
  · intro hprompt
    obtain ⟨ts, last, h⟩ := exists_turns cs
    exact ⟨ts, last, h, by rwa [← onHand_of_turns h]⟩

theorem not_atPrompt_nil : ¬AtPrompt [] := by
  rw [atPrompt_iff]
  exact Bool.false_ne_true

/-- Behind a chunk that asks, the shell is not at its prompt. -/
theorem atPrompt_concat : AtPrompt (ds ++ [d]) ↔ asks (onHand [] ds ++ latin1Decode d) = false ∧
    found promptRe (onHand [] ds ++ latin1Decode d) = true := by
  have hkeep : onHand [] (ds ++ [d]) = keep (onHand [] ds ++ latin1Decode d) := onHand_append _ _ _
  rw [atPrompt_iff, hkeep, keep]
  split_ifs with hasks
  · rw [hasks]
    exact ⟨fun h => absurd h Bool.false_ne_true, fun h => absurd h.1.symm Bool.false_ne_true⟩
  · rw [Bool.eq_false_of_not_eq_true hasks]
    exact (and_iff_right rfl).symm

/-- The driver reads on as long as no turn tells of a failure and no prompt is shown. -/
theorem readsOn_iff : ReadsOn [] cs ↔ ¬TellsFailure cs ∧ ∀ ds, ds <+: cs → ¬AtPrompt ds := by
  have hsteps : ∀ {buf : Text} {cs : List Bytes}, (∀ ds d, ds ++ [d] <+: cs →
      GoesOn (onHand buf ds ++ latin1Decode d)) → ReadsOn buf cs := by
    intro buf cs h
    induction cs generalizing buf with
    | nil => trivial
    | cons c cs ih =>
      refine ⟨h [] c ⟨cs, rfl⟩, ih fun ds d hds => ?_⟩
      exact h (c :: ds) d (List.cons_prefix_cons.mpr ⟨rfl, hds⟩)
  constructor
  · intro h
    constructor
    · rw [tellsFailure_iff]
      rintro ⟨ds, d, hds, hfailure⟩
      rw [(goesOn_of_readsOn hds h).1] at hfailure
      cases hfailure
    · intro ds hds
      obtain rfl | ⟨us, u, rfl⟩ := List.eq_nil_or_concat' ds
      · exact not_atPrompt_nil
      · rw [atPrompt_concat]
        rintro ⟨hquiet, hprompt⟩
        rcases (goesOn_of_readsOn hds h).2 with hasks | hno
        · rw [hasks] at hquiet
          cases hquiet
        · rw [hno] at hprompt
          cases hprompt
  · rintro ⟨hfailure, hprompt⟩
    refine hsteps fun ds d hds => ⟨?_, ?_⟩
    · by_contra hfound
      exact hfailure (tellsFailure_iff.mpr ⟨ds, d, hds, Bool.eq_true_of_not_eq_false hfound⟩)
    · rw [or_iff_not_imp_left]
      intro hasks
      by_contra hfound
      exact hprompt _ hds (atPrompt_concat.mpr
        ⟨Bool.eq_false_of_not_eq_true hasks, Bool.eq_true_of_not_eq_false hfound⟩)

end OnHand

/-! ## §6 When a copy is taken for done -/

/-- What is said up to the first prompt; or all that is read, where a success is told and no prompt
is shown. -/
def EndsCopy (chunks cs : List Bytes) : Prop :=
  (cs <+: chunks.take maxReads ∧ AtPrompt cs ∧ ∀ ds, ds <+: cs → AtPrompt ds → ds = cs) ∨
    (cs = chunks.take maxReads ∧ TellsSuccess cs ∧ ∀ ds, ds <+: cs → ¬AtPrompt ds)

/-- What an honest copy takes of the texts and of the stream. -/
structure WellTold (command password : Text) (chunks : List Bytes) : Prop where
  command : Latin1 command
  /-- The password can be sent, if it is asked for before a failure is told and a prompt shown. -/
  password : ∀ cs, cs <+: chunks.take maxReads → AsksPassword cs →
    Latin1 password ∨ TellsFailure cs ∨ ∃ ds, ds <+: cs ∧ AtPrompt ds
  /-- No prompt before an outcome. -/
  outcome : ∀ cs, cs <+: chunks.take maxReads → AtPrompt cs →
    found scpSuccessRe (heard cs) = true ∨ TellsFailure cs
  /-- No failure on both sides of a question. -/
  failure : ∀ cs, EndsCopy chunks cs → found scpFailureRe (heard cs) = true → TellsFailure cs

section Copy

variable {command password : Text} {chunks ds cs : List Bytes} {d : Bytes}

theorem comesTo_iff : ComesTo chunks ds d ↔ ds ++ [d] <+: chunks.take maxReads ∧ ¬TellsFailure ds ∧
    ∀ us, us <+: ds → ¬AtPrompt us := by
  rw [ComesTo, readsOn_iff, List.prefix_take_iff, List.length_append, List.length_singleton,
    and_assoc]
  exact Iff.rfl

/-- What is told stays told. -/
theorem TellsFailure.of_isPrefix (h : TellsFailure ds) (hds : ds <+: cs) : TellsFailure cs := by
  rw [tellsFailure_iff] at h ⊢
  obtain ⟨us, u, hus, hfound⟩ := h
  exact ⟨us, u, hus.trans hds, hfound⟩

/-- The shortest stretch that ends at a prompt. -/
theorem exists_first_prompt (h : AtPrompt cs) :
    ∃ ds d, ds ++ [d] <+: cs ∧ AtPrompt (ds ++ [d]) ∧ ∀ us, us <+: ds → ¬AtPrompt us := by
  induction hlen : cs.length using Nat.strong_induction_on generalizing cs with
  | _ n ih =>
    obtain rfl | ⟨ds, d, rfl⟩ := List.eq_nil_or_concat' cs
    · exact absurd h not_atPrompt_nil
    by_cases hbefore : ∃ us, us <+: ds ∧ AtPrompt us
    · obtain ⟨us, hus, hprompt⟩ := hbefore
      have hshort : us.length < n := by
        have hle := hus.length_le
        rw [← hlen, List.length_append, List.length_singleton]
        omega
      obtain ⟨vs, v, hvs, hfirst⟩ := ih us.length hshort hprompt rfl
      exact ⟨vs, v, hvs.trans (hus.trans (List.prefix_append _ _)), hfirst⟩
    · exact ⟨ds, d, List.prefix_rfl, h, fun us hus hprompt => hbefore ⟨us, hus, hprompt⟩⟩

/-- The question for the password, as the driver comes to see it. -/
theorem needsPassword_iff : NeedsPassword (onHand [] ds ++ latin1Decode d) ↔
    AsksPassword (ds ++ [d]) ∧ found scpFailureRe (onHand [] ds ++ latin1Decode d) = false := by
  obtain ⟨ts, p, h⟩ := exists_turns ds
  constructor
  · rintro ⟨hfailure, htofu, hpassword⟩
    refine ⟨?_, hfailure⟩
    rw [onHand_of_turns h, ← heard_concat] at htofu hpassword
    have hasks : asks (heard (p ++ [d])) = true := by
      rw [asks, hpassword, Bool.or_true, Bool.true_or]
    exact ⟨ts, p ++ [d], h.concat_asked hasks, htofu, hpassword⟩
  · rintro ⟨⟨us, t, hturns, htofu, hpassword⟩, hfailure⟩
    obtain rfl | ⟨p', c, rfl⟩ := List.eq_nil_or_concat' t
    · cases hpassword
    obtain ⟨hasked, hbefore⟩ := hturns.asked (p' ++ [c]) (by simp)
    rw [List.dropLast_concat] at hbefore
    have hwhole : ds ++ [d] = us.flatten ++ p' ++ [c] := by
      rw [hturns.whole]
      simp
    obtain ⟨hds, hd⟩ := List.append_inj' hwhole rfl
    obtain rfl := (List.cons.inj hd).1
    have hfront : Turns ds us p' :=
      ⟨hds, fun u hu => hturns.asked u (List.mem_append_left _ hu), hbefore⟩
    have htext : heard (p' ++ [d]) = onHand [] ds ++ latin1Decode d := by
      rw [onHand_of_turns hfront, heard_concat]
    rw [htext] at htofu hpassword
    exact ⟨hfailure, htofu, hpassword⟩

/-- The prompt, as the driver comes to see it. -/
theorem showsPrompt_iff : ShowsPrompt (onHand [] ds ++ latin1Decode d) ↔
    AtPrompt (ds ++ [d]) ∧ found scpFailureRe (onHand [] ds ++ latin1Decode d) = false := by
  rw [atPrompt_concat, ShowsPrompt]
  exact and_comm

/-- A failure seen by the driver behind `d` was told by then. -/
theorem tellsFailure_concat : TellsFailure (ds ++ [d]) ↔
    TellsFailure ds ∨ found scpFailureRe (onHand [] ds ++ latin1Decode d) = true := by
  constructor
  · rw [tellsFailure_iff, tellsFailure_iff]
    rintro ⟨us, u, hus, hfailure⟩
    rcases List.prefix_concat_iff.mp hus with heq | hus
    · obtain ⟨rfl, hlast⟩ := List.append_inj' heq rfl
      obtain rfl := (List.cons.inj hlast).1
      exact Or.inr hfailure
    · exact Or.inl ⟨us, u, hus, hfailure⟩
  · rintro (h | h)
    · exact h.of_isPrefix (List.prefix_append _ _)
    · exact tellsFailure_iff.mpr ⟨ds, d, List.prefix_rfl, h⟩

/-- The loop is misled by nothing exactly where the stream is well told. -/
theorem loopTold_iff : LoopTold command password chunks ↔ WellTold command password chunks := by
  constructor
  · intro h
    refine ⟨h.command, ?_, ?_, ?_⟩
    · intro cs hcs hasks
      rw [or_iff_not_imp_right, not_or, not_exists]
      rintro ⟨hfailure, hprompt⟩
      obtain rfl | ⟨ds, d, rfl⟩ := List.eq_nil_or_concat' cs
      · obtain ⟨ts, t, hturns, -, hpassword⟩ := hasks
        have ht : ts.flatten = [] ∧ t = [] := by simpa using hturns.whole
        rw [ht.2] at hpassword
        cases hpassword
      · rw [tellsFailure_concat, not_or] at hfailure
        refine h.password ds d (comesTo_iff.mpr ⟨hcs, hfailure.1, ?_⟩) ?_
        · exact fun us hus hat => hprompt us ⟨hus.trans (List.prefix_append _ _), hat⟩
        · exact needsPassword_iff.mpr ⟨hasks, Bool.eq_false_of_not_eq_true hfailure.2⟩
    · intro cs hcs hat
      rw [or_iff_not_imp_right]
      intro hfailure
      obtain ⟨ds, d, hds, hfirst, hbefore⟩ := exists_first_prompt hat
      have hquiet : ¬TellsFailure (ds ++ [d]) := fun htells => hfailure (htells.of_isPrefix hds)
      rw [tellsFailure_concat, not_or] at hquiet
      have hsuccess := h.success ds d (comesTo_iff.mpr ⟨hds.trans hcs, hquiet.1, hbefore⟩)
        (showsPrompt_iff.mpr ⟨hfirst, Bool.eq_false_of_not_eq_true hquiet.2⟩)
      exact PyRe.isSome_search_infix open_scpSuccessRe (heard_isPrefix hds).isInfix hsuccess
    · intro cs hends hfound
      by_contra hfailure
      refine h.failure cs ?_ ⟨hfound, ?_⟩
      · rcases hends with ⟨hcs, hat, hfirst⟩ | ⟨rfl, hsuccess, hprompt⟩
        · obtain ⟨ds, d, hds, hconcat, hbefore⟩ := exists_first_prompt hat
          obtain rfl := hfirst _ hds hconcat
          rw [tellsFailure_concat, not_or] at hfailure
          exact Or.inl ⟨ds, d, rfl, comesTo_iff.mpr ⟨hcs, hfailure.1, hbefore⟩,
            showsPrompt_iff.mpr ⟨hat, Bool.eq_false_of_not_eq_true hfailure.2⟩⟩
        · exact Or.inr ⟨rfl, readsOn_iff.mpr ⟨hfailure, hprompt⟩, tellsSuccess_iff.mp hsuccess⟩
      · intro ds d hds
        by_contra hd
        exact hfailure (tellsFailure_iff.mpr ⟨ds, d, hds, Bool.eq_true_of_not_eq_false hd⟩)
  · intro h
    refine ⟨h.command, ?_, ?_, ?_⟩
    · intro ds d hcomes hneeds
      obtain ⟨hds, hquiet, hbefore⟩ := comesTo_iff.mp hcomes
      obtain ⟨hasks, hfailure⟩ := needsPassword_iff.mp hneeds
      rcases h.password _ hds hasks with hlatin1 | htells | ⟨us, hus, hat⟩
      · exact hlatin1
      · rcases tellsFailure_concat.mp htells with htells | htells
        · exact absurd htells hquiet
        · rw [hfailure] at htells
          cases htells
      · rcases List.prefix_concat_iff.mp hus with rfl | hus
        · -- a question is no prompt
          obtain ⟨hno, -⟩ := atPrompt_concat.mp hat
          rw [asks, hneeds.2.2, Bool.or_true, Bool.true_or] at hno
          cases hno
        · exact absurd hat (hbefore us hus)
    · intro ds d hcomes hshows
      obtain ⟨hds, hquiet, -⟩ := comesTo_iff.mp hcomes
      obtain ⟨hat, hfailure⟩ := showsPrompt_iff.mp hshows
      rcases h.outcome _ hds hat with hsuccess | htells
      · exact hsuccess
      · rcases tellsFailure_concat.mp htells with htells | htells
        · exact absurd htells hquiet
        · rw [hfailure] at htells
          cases htells
    · rintro cs hdone ⟨hfound, hunseen⟩
      have hends : EndsCopy chunks cs := by
        rcases hdone with ⟨ds, d, rfl, hcomes, hshows⟩ | ⟨rfl, hread, htold⟩
        · obtain ⟨hds, -, hbefore⟩ := comesTo_iff.mp hcomes
          refine Or.inl ⟨hds, (showsPrompt_iff.mp hshows).1, ?_⟩
          intro us hus hat
          exact (List.prefix_concat_iff.mp hus).resolve_right fun hus => hbefore us hus hat
        · exact Or.inr ⟨rfl, tellsSuccess_iff.mpr htold, (readsOn_iff.mp hread).2⟩
      obtain ⟨ds, d, hds, hfailure⟩ := tellsFailure_iff.mp (h.failure cs hends hfound)
      rw [hunseen ds d hds] at hfailure
      cases hfailure

/-- **When a copy is honest.**  Every copy that returns was told to be done, and none that failed
returns, exactly where the texts can be sent, the stream shows no prompt before an outcome, and no
failure stands on both sides of an answered question. -/
theorem honest_iff (hchunks : ∀ c ∈ chunks, c ≠ []) :
    Honest command password chunks ↔ WellTold command password chunks := by
  rw [honest_iff_loopTold hchunks, loopTold_iff]

/-- The bytes of a text. -/
private def bytesOf (t : String) : Bytes := t.toList.map fun c => UInt8.ofNat c.toNat

/-- A copy with its password asked for, told to be done before the prompt. -/
theorem honest_iff_passwordAsked :
    Honest "copy scp://lab/cert".toList "secret".toList
        [bytesOf "Remote Password:", bytesOf "\r\nTransfer completed successfully.\r\n(SW) #"] ↔
      WellTold "copy scp://lab/cert".toList "secret".toList
        [bytesOf "Remote Password:", bytesOf "\r\nTransfer completed successfully.\r\n(SW) #"] :=
  honest_iff (by decide)

/-- A switch that goes back to its prompt without a word is taken to have copied; so is one that
has said that the transfer failed, half of it before the question it goes on behind. -/
theorem not_honest_bareCopy :
    (((runScpCopy "copy scp://lab/cert".toList "secret".toList).run shell
        { pending := [bytesOf "copy scp://lab/cert\r\n(SW) #"] }).result =
      .ok "copy scp://lab/cert\r\n(SW) #".toList ∧
      ¬Honest "copy scp://lab/cert".toList "secret".toList [bytesOf "copy scp://lab/cert\r\n(SW) #"]) ∧
    ((runScpCopy "copy scp://lab/cert".toList "secret".toList).run shell
        { pending := [bytesOf "Password: transfer", bytesOf " failed\r\n(SW) #"] }).result =
      .ok "Password: transfer failed\r\n(SW) #".toList := by
  have hrun : ((runScpCopy "copy scp://lab/cert".toList "secret".toList).run shell
        { pending := [bytesOf "copy scp://lab/cert\r\n(SW) #"] }).result =
      .ok "copy scp://lab/cert\r\n(SW) #".toList ∧
      found scpSuccessRe "copy scp://lab/cert\r\n(SW) #".toList = false ∧
      ((runScpCopy "copy scp://lab/cert".toList "secret".toList).run shell
        { pending := [bytesOf "Password: transfer", bytesOf " failed\r\n(SW) #"] }).result =
      .ok "Password: transfer failed\r\n(SW) #".toList := by
    decide +kernel
  refine ⟨⟨hrun.1, ?_⟩, hrun.2.2⟩
  intro h
  unfold Honest at h
  rw [hrun.1] at h
  have hsuccess := h.2.1
  rw [hrun.2.1] at hsuccess
  cases hsuccess

end Copy

end ShellDriver

end NetgearSwitch.Cli
