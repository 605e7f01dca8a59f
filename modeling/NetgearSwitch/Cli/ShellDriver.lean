import NetgearSwitch.Cli.Shell

/-!
# The shell driver

`ShellDriver` of `transport/cli/session.py`: it sends a command over a channel and reads chunks
until what it has read ends in a prompt.  A chunk may end anywhere, so a text that only looks
like a prompt ends a read where a chunk happens to end with it.

Every pattern is the one of the source, piece by piece.  A channel is a machine that takes bytes
or hands out the next chunk; the empty chunk is the end of the stream.

What the shell echoes is told apart from its answer by the lines of an exchange, not by what
`_clean` takes for the echo.

§1 patterns · §2 the driver · §3 a shell that answers · §4 reading one answer · §5 lines ·
§6 one exchange · §7 a session
-/

namespace NetgearSwitch.Cli

open PyText PyCodec Script

namespace ShellDriver

/-! ## §1 Patterns -/

section Patterns

open PyRe

/-- `_PROMPT_RE`: `\\)\\s*(?:\\([^)]*\\)\\s*)?[#>]\\s*$`. -/
def promptRe : Rest Unit :=
  lit ")" <| many isSpace fun _ =>
    opt (fun k => lit "(" <| many (· ≠ ')') fun _ => lit ")" <| many isSpace fun _ => k) <|
      one (fun c => c = '#' || c = '>') fun _ => many isSpace fun _ => atEnd ()

/-- `_PASSWORD_RE`: `[Pp]assword:\\s*$`. -/
def passwordRe : Rest Unit :=
  one (fun c => c = 'P' || c = 'p') fun _ => lit "assword:" <| many isSpace fun _ => atEnd ()

/-- The rest of a pattern that has matched. -/
def matched : Rest Unit := fun _ => some ()

/-- `_SCP_TOFU_RE`: `host key|continue connecting|\\(yes\\s*/\\s*no`. -/
def scpTofuRe : Rest Unit :=
  alt (litI "host key" matched) <| alt (litI "continue connecting" matched) <|
    litI "(yes" <| many isSpace fun _ => lit "/" <| many isSpace fun _ => litI "no" matched

/-- `_SCP_PASSWORD_RE`: `[Pp]assword:`. -/
def scpPasswordRe : Rest Unit :=
  one (fun c => c = 'P' || c = 'p') fun _ => lit "assword:" matched

/-- `_SCP_CONFIRM_RE`: `\\(y\\s*/\\s*n\\)`. -/
def scpConfirmRe : Rest Unit :=
  lit "(y" <| many isSpace fun _ => lit "/" <| many isSpace fun _ => lit "n)" matched

/-- `_SCP_SUCCESS_RE`: `bytes transferred|completed successfully|operation completed`. -/
def scpSuccessRe : Rest Unit :=
  alt (litI "bytes transferred" matched) <| alt (litI "completed successfully" matched) <|
    litI "operation completed" matched

/-- `_SCP_FAILURE_RE`: `transfer failed|failed!|%\\s*error|error during`. -/
def scpFailureRe : Rest Unit :=
  alt (litI "transfer failed" matched) <| alt (litI "failed!" matched) <|
    alt (lit "%" <| many isSpace fun _ => litI "error" matched) <| litI "error during" matched

/-- `search` finds the pattern in the text. -/
def found (m : Rest Unit) (t : Text) : Bool := (search m t).isSome

/-- The end of a prompt. -/
private theorem isSome_promptEnd {s : Text} :
    (one (fun c => c = '#' || c = '>') (fun _ => many isSpace fun _ => atEnd ()) s).isSome = true ↔
      ∃ c v, s = c :: v ∧ (c = '#' ∨ c = '>') ∧ ∀ d ∈ v, isSpace d = true := by
  rw [isSome_one]
  constructor
  · rintro ⟨c, r, rfl, hc, hr⟩
    obtain ⟨v, e, rfl, hv, he⟩ := isSome_many.mp hr
    rw [isSome_atEnd.mp he, List.append_nil]
    exact ⟨c, v, rfl, by simpa using hc, hv⟩
  · rintro ⟨c, v, rfl, hc, hv⟩
    exact ⟨c, v, rfl, by simpa using hc,
      isSome_many.mpr ⟨v, [], (List.append_nil v).symm, hv, isSome_atEnd.mpr rfl⟩⟩

/-- A prompt at the end of a text: a bracket, blanks, `#` or `>`, and blanks.  The second pair of
brackets adds nothing to a search, as it ends in a bracket itself. -/
theorem found_promptRe {t : Text} : found promptRe t = true ↔
    ∃ a w c v, t = a ++ ')' :: w ++ c :: v ∧ (∀ d ∈ w, isSpace d = true) ∧ (c = '#' ∨ c = '>') ∧
      ∀ d ∈ v, isSpace d = true := by
  rw [found, isSome_search]
  constructor
  · rintro ⟨a, b, rfl, hb⟩
    obtain ⟨r, rfl, hr⟩ := isSome_lit.mp hb
    obtain ⟨w, r, rfl, hw, hr⟩ := isSome_many.mp hr
    rcases isSome_opt.mp hr with hgroup | hend
    · obtain ⟨r, rfl, hopen⟩ := isSome_lit.mp hgroup
      obtain ⟨u, r, rfl, _, hclose⟩ := isSome_many.mp hopen
      obtain ⟨r, rfl, hgap⟩ := isSome_lit.mp hclose
      obtain ⟨w', r, rfl, hw', hend⟩ := isSome_many.mp hgap
      obtain ⟨c, v, rfl, hc, hv⟩ := isSome_promptEnd.mp hend
      exact ⟨a ++ ")".toList ++ w ++ "(".toList ++ u, w', c, v, by simp, hw', hc, hv⟩
    · obtain ⟨c, v, rfl, hc, hv⟩ := isSome_promptEnd.mp hend
      exact ⟨a, w, c, v, by simp, hw, hc, hv⟩
  · rintro ⟨a, w, c, v, rfl, hw, hc, hv⟩
    refine ⟨a, ')' :: w ++ c :: v, by simp, isSome_lit.mpr ⟨w ++ c :: v, rfl, ?_⟩⟩
    refine isSome_many.mpr ⟨w, c :: v, rfl, hw, isSome_opt.mpr (Or.inr ?_)⟩
    exact isSome_promptEnd.mpr ⟨c, v, rfl, hc, hv⟩

/-- What ends in a prompt does so behind any other text. -/
theorem found_promptRe_append (a : Text) {t : Text} (h : found promptRe t = true) :
    found promptRe (a ++ t) = true := isSome_search_append a h

end Patterns

/-! ## §2 The driver -/

/-- What is asked of a channel: to send bytes, or for the next chunk. -/
inductive ChannelCall
  | send (b : Bytes)
  | recv
  deriving DecidableEq

abbrev ShellScript := Script ChannelCall Bytes LibError

/-- `_MAX_READS`. -/
def maxReads : ℕ := 10000

/-- `_write_line`. -/
def writeLine (text : Text) : ShellScript Unit := do
  let b ← done (orRaise .unicodeError (wire (.run text)))
  let _ ← call (.send b)
  pure ()

/-- `_read_until`, with so many reads left. -/
def readUntil (allowPassword : Bool) (buf : Text) : ℕ → ShellScript Text
  | 0 => raise .cliTransport
  | reads + 1 => do
    let chunk ← call .recv
    let buf := buf ++ latin1Decode chunk
    if found promptRe buf then pure buf
    else if allowPassword && found passwordRe buf then pure buf
    else if chunk = [] then raise .cliTransport
    else readUntil allowPassword buf reads

/-- `t.replace("\r\n", "\n")` -/
def replaceCrLf : Text → Text
  | [] => []
  | '\r' :: '\n' :: t => '\n' :: replaceCrLf t
  | c :: t => c :: replaceCrLf t

/-- `t.replace("\r\n", "\n").replace("\r", "\n")` -/
def normalize (t : Text) : Text := (replaceCrLf t).map fun c => if c = '\r' then '\n' else c

/-- The lines of a text, as `_clean` cuts it. -/
def shellLines (raw : Text) : List Text := (normalize raw).splitOn '\n'

/-- `t.strip("\n")` -/
def stripNewlines (t : Text) : Text :=
  ((t.dropWhile (· = '\n')).reverse.dropWhile (· = '\n')).reverse

/-- `_clean`: the lines without the echo of the command and without the prompts at the end. -/
def clean (raw command : Text) : Text :=
  let lines := shellLines raw
  let lines :=
    if strip command ≠ [] ∧ lines.head?.any (containsText (strip command)) then lines.tail
    else lines
  stripNewlines (joinText ['\n'] (lines.reverse.dropWhile (found promptRe)).reverse)

/-- `run` -/
def run (command : Text) : ShellScript Text := do
  writeLine command
  let raw ← readUntil false [] maxReads
  pure (clean raw command)

/-- The loop of `run_scp_copy`, with so many reads left. -/
def scpLoop (scpPassword : Text) (transcript buf : Text) (succeeded : Bool) :
    ℕ → ShellScript Text
  | 0 => if succeeded then pure transcript else raise .cliTransport
  | reads + 1 => do
    let chunk ← call .recv
    let transcript := transcript ++ latin1Decode chunk
    let buf := buf ++ latin1Decode chunk
    if found scpFailureRe buf then raise .cliTransport
    else if found scpTofuRe buf then do
      writeLine "yes".toList
      scpLoop scpPassword transcript [] succeeded reads
    else if found scpPasswordRe buf then do
      writeLine scpPassword
      scpLoop scpPassword transcript [] succeeded reads
    else if found scpConfirmRe buf then do
      -- a single key, without a line end
      let _ ← call (.send [121])
      scpLoop scpPassword transcript [] succeeded reads
    else
      let succeeded := succeeded || found scpSuccessRe buf
      if found promptRe buf then pure transcript
      else if chunk = [] then (if succeeded then pure transcript else raise .cliTransport)
      else scpLoop scpPassword transcript buf succeeded reads

/-- `run_scp_copy` -/
def runScpCopy (command scpPassword : Text) : ShellScript Text := do
  writeLine command
  scpLoop scpPassword [] [] false maxReads

/-! ## §3 A shell that answers -/

/-- A shell: the chunks on their way, and the chunks it answers each further write with. -/
structure Shell where
  pending : List Bytes
  replies : List (List Bytes) := []

/-- The channel to a shell.  Nothing on its way is the end of the stream. -/
def shell : Machine Shell ChannelCall Bytes
  | d, .send _ => ({ pending := d.pending ++ d.replies.headD [], replies := d.replies.tail }, [])
  | d, .recv => ({ d with pending := d.pending.tail }, d.pending.headD [])

/-- The text of some chunks. -/
def heard (cs : List Bytes) : Text := latin1Decode cs.flatten

@[simp] theorem heard_nil : heard [] = [] := rfl

theorem heard_append (cs ds : List Bytes) : heard (cs ++ ds) = heard cs ++ heard ds := by
  simp [heard, latin1Decode]

theorem heard_cons (c : Bytes) (cs : List Bytes) : heard (c :: cs) = latin1Decode c ++ heard cs :=
  heard_append [c] cs |>.trans (by simp [heard])

section Channel

variable {d : Shell} {replies : List (List Bytes)} {pending : List Bytes}

theorem ends_recv (c : Bytes) (cs : List Bytes) (replies : List (List Bytes)) :
    Ends shell (call .recv : ShellScript Bytes) ⟨c :: cs, replies⟩ (.ok c) ⟨cs, replies⟩ :=
  ends_call rfl

theorem ends_recv_nil (replies : List (List Bytes)) :
    Ends shell (call .recv : ShellScript Bytes) ⟨[], replies⟩ (.ok []) ⟨[], replies⟩ :=
  ends_call rfl

/-- A text the channel can carry. -/
def Latin1 (t : Text) : Prop := ∀ c ∈ t, c.toNat < 256

instance : DecidablePred Latin1 := fun t => inferInstanceAs (Decidable (∀ c ∈ t, c.toNat < 256))

theorem ends_writeLine {text : Text} (h : Latin1 text) (d : Shell) :
    Ends shell (writeLine text) d (.ok ())
      ⟨d.pending ++ d.replies.headD [], d.replies.tail⟩ := by
  obtain ⟨b, hb⟩ : ∃ b, wire (.run text) = some b := by
    refine ⟨_, latin1Encode_eq_some.mpr ⟨?_, rfl⟩⟩
    intro c hc
    rcases List.mem_append.mp hc with hc | hc
    · exact h c hc
    · exact (show ∀ c ∈ "\r\n".toList, c.toNat < 256 by decide) c hc
  have hencode : Ends shell (done (orRaise .unicodeError (wire (.run text))) : ShellScript Bytes) d
      (.ok b) d := by
    rw [hb]
    exact ends_done _
  have hsend : Ends shell (call (.send b) : ShellScript Bytes) d (.ok [])
      ⟨d.pending ++ d.replies.headD [], d.replies.tail⟩ := ends_call rfl
  exact hencode.bind (hsend.bind (ends_done _))

theorem ends_writeLine_unencodable {text : Text} (h : ¬Latin1 text) (d : Shell) :
    Ends shell (writeLine text) d (.error .unicodeError) d := by
  have hwire : wire (.run text) = none := by
    cases hb : wire (.run text) with
    | none => rfl
    | some b =>
      obtain ⟨hbelow, _⟩ := latin1Encode_eq_some.mp hb
      exact absurd (fun c hc => hbelow c (List.mem_append_left _ hc)) h
  have hencode : Ends shell (done (orRaise .unicodeError (wire (.run text))) : ShellScript Bytes) d
      (.error .unicodeError) d := by
    rw [hwire]
    exact ends_done _
  exact hencode.bind_error

end Channel

/-! ## §4 Reading one answer -/

/-- No chunk before the last ends where the text so far looks like a prompt. -/
def Unbroken (buf : Text) (cs : List Bytes) : Prop :=
  ∀ ds, ds <+: cs → ds ≠ [] → ds ≠ cs → found promptRe (buf ++ heard ds) = false

theorem unbroken_cons {buf : Text} {c c' : Bytes} {cs : List Bytes} :
    Unbroken buf (c :: c' :: cs) ↔
      found promptRe (buf ++ latin1Decode c) = false ∧
        Unbroken (buf ++ latin1Decode c) (c' :: cs) := by
  have hone : heard [c] = latin1Decode c := by simp [heard]
  constructor
  · intro h
    refine ⟨?_, ?_⟩
    · have hfirst := h [c] ⟨c' :: cs, rfl⟩ (List.cons_ne_nil _ _) (by simp)
      rwa [hone] at hfirst
    · intro ds hds hne hall
      have hnext := h (c :: ds) (List.cons_prefix_cons.mpr ⟨rfl, hds⟩) (List.cons_ne_nil _ _)
        fun heq => hall (List.cons.inj heq).2
      rwa [heard_cons, ← List.append_assoc] at hnext
  · rintro ⟨hfirst, hrest⟩ ds hds hne hall
    cases ds with
    | nil => exact absurd rfl hne
    | cons d ds =>
      obtain ⟨rfl, htail⟩ := List.cons_prefix_cons.mp hds
      by_cases hnil : ds = []
      · rwa [hnil, hone]
      · rw [heard_cons, ← List.append_assoc]
        exact hrest ds htail hnil fun heq => hall (heq ▸ rfl)

/-- An answer that ends in a prompt and is not broken before is read to its end. -/
theorem ends_readUntil {cs : List Bytes} (hne : cs ≠ []) (hchunks : ∀ c ∈ cs, c ≠ [])
    (replies : List (List Bytes)) {buf : Text} {reads : ℕ}
    (hprompt : found promptRe (buf ++ heard cs) = true) (hunbroken : Unbroken buf cs)
    (hreads : cs.length ≤ reads) :
    Ends shell (readUntil false buf reads) ⟨cs, replies⟩ (.ok (buf ++ heard cs)) ⟨[], replies⟩ := by
  induction cs generalizing buf reads with
  | nil => exact absurd rfl hne
  | cons c cs ih =>
    obtain ⟨reads, rfl⟩ : ∃ n, reads = n + 1 := Nat.exists_eq_add_of_le' (by
      rw [List.length_cons] at hreads
      omega)
    obtain ⟨hc, hcs⟩ := List.forall_mem_cons.mp hchunks
    rw [heard_cons, ← List.append_assoc] at hprompt ⊢
    refine (ends_recv c cs replies).bind ?_
    dsimp only
    cases cs with
    | nil =>
      rw [heard_nil, List.append_nil] at hprompt ⊢
      rw [if_pos hprompt]
      exact ends_done _
    | cons c' cs =>
      obtain ⟨hfirst, hrest⟩ := unbroken_cons.mp hunbroken
      rw [if_neg (by simp [hfirst]), if_neg (by simp), if_neg hc]
      exact ih (List.cons_ne_nil _ _) hcs hprompt hrest (Nat.le_of_succ_le_succ hreads)

/-- What is read and leaves nothing was not broken. -/
theorem unbroken_of_readUntil {cs : List Bytes} (hchunks : ∀ c ∈ cs, c ≠ [])
    {replies replies' : List (List Bytes)} {buf t : Text} {reads : ℕ}
    (h : Ends shell (readUntil false buf reads) ⟨cs, replies⟩ (.ok t) ⟨[], replies'⟩) :
    Unbroken buf cs ∧ cs.length ≤ reads := by
  induction cs generalizing buf reads with
  | nil =>
    refine ⟨?_, Nat.zero_le _⟩
    intro ds hds hne _
    exact absurd (List.prefix_nil.mp hds) hne
  | cons c cs ih =>
    obtain ⟨hc, hcs⟩ := List.forall_mem_cons.mp hchunks
    cases reads with
    | zero => cases h.1
    | succ reads =>
      have hrest : Ends shell (if found promptRe (buf ++ latin1Decode c) then
          pure (buf ++ latin1Decode c)
        else if false && found passwordRe (buf ++ latin1Decode c) then pure (buf ++ latin1Decode c)
        else if c = [] then raise .cliTransport
        else readUntil false (buf ++ latin1Decode c) reads : ShellScript Text)
          ⟨cs, replies⟩ (.ok t) ⟨[], replies'⟩ := h
      by_cases hfound : found promptRe (buf ++ latin1Decode c) = true
      · -- the read ends here, so this was the last chunk
        rw [if_pos hfound] at hrest
        obtain rfl : cs = [] := congrArg Shell.pending hrest.2
        refine ⟨?_, by simp⟩
        intro ds hds hne hall
        cases ds with
        | nil => exact absurd rfl hne
        | cons d ds =>
          obtain ⟨rfl, htail⟩ := List.cons_prefix_cons.mp hds
          exact absurd (by rw [List.prefix_nil.mp htail]) hall
      · rw [if_neg hfound, if_neg (by simp), if_neg hc] at hrest
        obtain ⟨hunbroken, hreads⟩ := ih hcs hrest
        refine ⟨?_, Nat.succ_le_succ hreads⟩
        cases cs with
        | nil =>
          intro ds hds hne hall
          cases ds with
          | nil => exact absurd rfl hne
          | cons d ds =>
            obtain ⟨rfl, htail⟩ := List.cons_prefix_cons.mp hds
            exact absurd (by rw [List.prefix_nil.mp htail]) hall
        | cons c' cs => exact unbroken_cons.mpr ⟨Bool.eq_false_of_not_eq_true hfound, hunbroken⟩

/-! ## §5 Lines -/

theorem normalize_crLf (t : Text) : normalize ('\r' :: '\n' :: t) = '\n' :: normalize t := rfl

theorem normalize_cons {c : Char} {t : Text} (h : ∀ u, c = '\r' → t = '\n' :: u → False) :
    normalize (c :: t) = (if c = '\r' then '\n' else c) :: normalize t := by
  rw [normalize, replaceCrLf]
  · rfl
  · exact h

/-- A text in which no line ends is left as it is. -/
theorem normalize_eq_self {t : Text} (h : '\n' ∉ normalize t) : normalize t = t := by
  induction t using replaceCrLf.induct with
  | case1 => rfl
  | case2 t ih =>
    rw [normalize_crLf] at h
    exact absurd List.mem_cons_self h
  | case3 c t hother ih =>
    rw [normalize_cons hother] at h ⊢
    obtain ⟨hc, ht⟩ := not_or.mp fun hmem => h (List.mem_cons.mpr hmem)
    rw [ih ht]
    split_ifs at hc ⊢
    · exact absurd rfl hc
    · rfl

/-- Where a text ends without a line end, it is not changed. -/
theorem suffix_of_suffix_normalize {t p : Text} (hp : '\n' ∉ p) (h : p <:+ normalize t) :
    p <:+ t := by
  induction t using replaceCrLf.induct with
  | case1 => exact h
  | case2 t ih =>
    rw [normalize_crLf] at h
    rcases List.suffix_cons_iff.mp h with rfl | h
    · exact absurd List.mem_cons_self hp
    · exact (ih h).trans ⟨['\r', '\n'], rfl⟩
  | case3 c t hother ih =>
    rw [normalize_cons hother] at h
    rcases List.suffix_cons_iff.mp h with rfl | h
    · obtain ⟨hc, ht⟩ := not_or.mp fun hmem => hp (List.mem_cons.mpr hmem)
      rw [normalize_eq_self ht]
      split_ifs at hc ⊢
      · exact absurd rfl hc
      · exact List.suffix_rfl
    · exact (ih h).trans (List.suffix_cons c t)

theorem filter_stripNewlines (t : Text) :
    (stripNewlines t).filter (· ≠ '\n') = t.filter (· ≠ '\n') := by
  have hfront : ∀ u : Text, (u.dropWhile (· = '\n')).filter (· ≠ '\n') = u.filter (· ≠ '\n') := by
    intro u
    induction u with
    | nil => rfl
    | cons c u ih =>
      rw [List.dropWhile_cons]
      split_ifs with hc
      · rw [ih, List.filter_cons_of_neg (by simpa using hc)]
      · rfl
  rw [stripNewlines, List.filter_reverse, hfront, List.filter_reverse, List.reverse_reverse, hfront]

theorem filter_joinText {ls : List Text} (h : ∀ l ∈ ls, '\n' ∉ l) :
    (joinText ['\n'] ls).filter (· ≠ '\n') = ls.flatten := by
  induction ls with
  | nil => rfl
  | cons l ls ih =>
    obtain ⟨hl, hls⟩ := List.forall_mem_cons.mp h
    have hself : l.filter (· ≠ '\n') = l := by
      rw [List.filter_eq_self]
      intro c hc
      rw [decide_eq_true_eq]
      rintro rfl
      exact hl hc
    cases ls with
    | nil => rw [joinText_singleton, hself, List.flatten_cons, List.flatten_nil, List.append_nil]
    | cons l' ls =>
      have hbreak : ['\n'].filter (· ≠ '\n') = [] := rfl
      rw [joinText_cons_cons, List.filter_append, List.filter_append, ih hls, hself, hbreak,
        List.append_nil]
      rfl

/-- Lines in front of a text are lost in the stripping exactly if they are blank. -/
theorem stripNewlines_joinText_append {ls : List Text} (es : List Text)
    (h : ∀ l ∈ es ++ ls, '\n' ∉ l) :
    stripNewlines (joinText ['\n'] (es ++ ls)) = stripNewlines (joinText ['\n'] ls) ↔
      ∀ l ∈ es, l = [] := by
  constructor
  · intro heq
    have hfilter := congrArg (List.filter (· ≠ '\n')) heq
    rw [filter_stripNewlines, filter_stripNewlines, filter_joinText h,
      filter_joinText fun l hl => h l (List.mem_append_right _ hl), List.flatten_append,
      List.append_left_eq_self] at hfilter
    exact List.flatten_eq_nil_iff.mp hfilter
  · intro hblank
    clear h
    induction es with
    | nil => rfl
    | cons e es ih =>
      obtain ⟨rfl, hes⟩ := List.forall_mem_cons.mp hblank
      rw [← ih hes, List.cons_append]
      cases es ++ ls with
      | nil => rfl
      | cons l rest => rw [joinText_cons_cons, List.nil_append, stripNewlines,
          List.singleton_append, List.dropWhile_cons_of_pos (by simp), stripNewlines]

/-! ## §6 One exchange -/

/-- One command and what comes back: the lines of the echo, those of the answer, and one prompt,
delivered in chunks. -/
structure Exchange where
  command : Text
  echo : List Text
  answer : List Text
  prompt : Text
  chunks : List Bytes
  prompted : found promptRe prompt = true
  /-- What comes before the prompt does not end in a prompt itself. -/
  one_prompt : ∀ l, (echo ++ answer).getLast? = some l → found promptRe l = false
  lines : ∀ l ∈ echo ++ answer ++ [prompt], '\n' ∉ l
  nonempty : ∀ c ∈ chunks, c ≠ []
  delivered : normalize (heard chunks) = joinText ['\n'] (echo ++ answer ++ [prompt])

/-- The line has the command in it. -/
def Mentions (command l : Text) : Prop :=
  strip command ≠ [] ∧ containsText (strip command) l = true

instance (command l : Text) : Decidable (Mentions command l) := inferInstanceAs (Decidable (_ ∧ _))

theorem not_mentions_nil (command : Text) : ¬Mentions command [] := by
  rintro ⟨hne, hcontains⟩
  obtain ⟨c, w, hw⟩ := List.exists_cons_of_ne_nil hne
  rw [hw] at hcontains
  cases hcontains

namespace Exchange

variable (x : Exchange)

/-- The answer itself, as a text. -/
def own : Text := stripNewlines (joinText ['\n'] x.answer)

/-- The echo can be told from the answer: it is one line, which has the command in it, with nothing
but blank lines behind; or there is none, and the answer does not begin with such a line. -/
def EchoTold : Prop :=
  (∃ e es, x.echo = e :: es ∧ Mentions x.command e ∧ ∀ l ∈ es, l = []) ∨
    ((∀ l ∈ x.echo, l = []) ∧ ∀ l, (x.echo ++ x.answer).head? = some l → ¬Mentions x.command l)

theorem shellLines_heard : shellLines (heard x.chunks) = x.echo ++ x.answer ++ [x.prompt] := by
  rw [shellLines, x.delivered]
  exact List.splitOn_intercalate '\n' x.lines (by simp)

/-- All of it together ends in the prompt. -/
theorem found_heard : found promptRe (heard x.chunks) = true := by
  have hjoin : x.prompt <:+ joinText ['\n'] (x.echo ++ x.answer ++ [x.prompt]) := by
    cases hanswer : x.echo ++ x.answer with
    | nil =>
      rw [List.nil_append, joinText_singleton]
    | cons l ls =>
      rw [joinText_append _ (List.cons_ne_nil _ _) (List.cons_ne_nil _ _), joinText_singleton]
      exact List.suffix_append _ _
  have hsuffix : x.prompt <:+ heard x.chunks := by
    apply suffix_of_suffix_normalize (x.lines _ (by simp))
    rw [x.delivered]
    exact hjoin
  obtain ⟨a, ha⟩ := hsuffix
  rw [← ha]
  exact found_promptRe_append a x.prompted

/-- Dropping the prompts at the end drops the one. -/
private theorem dropPrompts {ls : List Text} (h : ls <:+ x.echo ++ x.answer) :
    ((ls ++ [x.prompt]).reverse.dropWhile (found promptRe)).reverse = ls := by
  rw [List.reverse_append, List.reverse_singleton, List.singleton_append,
    List.dropWhile_cons_of_pos x.prompted]
  obtain rfl | ⟨front, l, rfl⟩ := List.eq_nil_or_concat' ls
  · rfl
  · have hl : found promptRe l = false := by
      obtain ⟨before, hbefore⟩ := h
      apply x.one_prompt
      rw [← hbefore, ← List.append_assoc, List.getLast?_concat]
    rw [List.reverse_append, List.reverse_singleton, List.singleton_append,
      List.dropWhile_cons_of_neg (by simp [hl]), List.reverse_cons, List.reverse_reverse]

/-- What cleaning leaves of the lines that come before the prompt. -/
theorem clean_heard : clean (heard x.chunks) x.command =
    stripNewlines (joinText ['\n']
      (if ∃ l ∈ (x.echo ++ x.answer).head?, Mentions x.command l then (x.echo ++ x.answer).tail
        else x.echo ++ x.answer)) := by
  unfold clean
  rw [x.shellLines_heard]
  dsimp only
  have hdrop := x.dropPrompts List.suffix_rfl
  have htail := x.dropPrompts (List.tail_suffix (x.echo ++ x.answer))
  generalize x.echo ++ x.answer = ls at hdrop htail
  cases ls with
  | nil =>
    -- the prompt alone, which may have the command in it
    show _ = stripNewlines (joinText ['\n'] (if _ then ([] : List Text) else []))
    rw [ite_self]
    split_ifs
    · rfl
    · exact congrArg (fun ls => stripNewlines (joinText ['\n'] ls)) hdrop
  | cons l ls =>
    have hclean : (strip x.command ≠ [] ∧ (l :: ls ++ [x.prompt]).head?.any
        (containsText (strip x.command)) = true) = Mentions x.command l := rfl
    by_cases hl : Mentions x.command l
    · have hfirst : ∃ l' ∈ (l :: ls).head?, Mentions x.command l' := ⟨l, rfl, hl⟩
      rw [if_pos hfirst, if_pos (hclean.mpr hl)]
      exact congrArg (fun ls => stripNewlines (joinText ['\n'] ls)) htail
    · have hfirst : ¬∃ l' ∈ (l :: ls).head?, Mentions x.command l' := by
        rintro ⟨l', hl', hmentions⟩
        cases hl'
        exact hl hmentions
      rw [if_neg hfirst, if_neg (hclean ▸ hl), hdrop]

/-- Cleaning leaves the answer itself exactly if the echo can be told from it. -/
theorem clean_heard_iff : clean (heard x.chunks) x.command = x.own ↔ x.EchoTold := by
  have hlines : ∀ l ∈ x.echo ++ x.answer, '\n' ∉ l := fun l hl =>
    x.lines l (List.mem_append_left _ hl)
  rw [clean_heard, own, EchoTold]
  split_ifs with hmentions
  · obtain ⟨l, hhead, hl⟩ := hmentions
    cases hecho : x.echo with
    | nil =>
      -- the first line of the answer goes for the echo
      rw [hecho, List.nil_append] at hhead hlines
      obtain ⟨ls, hanswer⟩ : ∃ ls, x.answer = l :: ls := List.head?_eq_some_iff.mp hhead
      rw [List.nil_append]
      constructor
      · intro heq
        rw [hanswer] at heq hlines
        have hblank := (stripNewlines_joinText_append [l] hlines).mp heq.symm l (by simp)
        rw [hblank] at hl
        exact absurd hl (not_mentions_nil _)
      · rintro (⟨e, es, hnone, -⟩ | ⟨-, hno⟩)
        · cases hnone
        · exact absurd hl (hno l hhead)
    | cons e es =>
      rw [hecho] at hhead hlines
      obtain rfl : e = l := by simpa using hhead
      rw [List.cons_append, List.tail_cons, stripNewlines_joinText_append es fun l' hl' =>
        hlines l' (List.mem_cons_of_mem _ hl')]
      constructor
      · exact fun hes => Or.inl ⟨e, es, rfl, hl, hes⟩
      · rintro (⟨e', es', heq, -, hes⟩ | ⟨-, hno⟩)
        · obtain ⟨-, rfl⟩ := List.cons.inj heq
          exact hes
        · exact absurd hl (hno e rfl)
  · rw [stripNewlines_joinText_append x.echo hlines]
    constructor
    · exact fun hblank => Or.inr ⟨hblank, fun l hhead hl => hmentions ⟨l, hhead, hl⟩⟩
    · rintro (⟨e, es, heq, he, -⟩ | ⟨hblank, -⟩)
      · exact absurd ⟨e, by rw [heq]; rfl, he⟩ hmentions
      · exact hblank

/-- The command can be sent, the chunks of the answer do not break it, there are no more of them
than reads, and the echo can be told from the answer. -/
structure Whole : Prop where
  command : Latin1 x.command
  unbroken : Unbroken [] x.chunks
  reads : x.chunks.length ≤ maxReads
  echo : x.EchoTold

end Exchange

/-! ## §7 A session -/

/-- The shell of a session that goes through these exchanges. -/
def sessionOf (xs : List Exchange) : Shell where
  pending := []
  replies := xs.map (·.chunks)

/-- Every command of the session returns its own answer, and leaves nothing of it to be read by
the next one. -/
def Framed : List Exchange → Shell → Prop
  | [], _ => True
  | x :: xs, d => ∃ d', Ends shell (run x.command) d (.ok x.own) d' ∧ d'.pending = [] ∧ Framed xs d'

/-- The read of an answer, on a shell that has nothing else on its way. -/
theorem ends_run_iff (x : Exchange) (xs : List Exchange) {d : Shell} :
    (Ends shell (run x.command) (sessionOf (x :: xs)) (.ok x.own) d ∧ d.pending = []) ↔
      x.Whole ∧ d = sessionOf xs := by
  have hne : x.chunks ≠ [] := by
    intro hnil
    have hfound := x.found_heard
    rw [hnil] at hfound
    cases hfound
  have hsend : Latin1 x.command →
      Ends shell (writeLine x.command) (sessionOf (x :: xs)) (.ok ())
        ⟨x.chunks, xs.map (·.chunks)⟩ :=
    fun hcommand => ends_writeLine hcommand (sessionOf (x :: xs))
  have hread : Unbroken [] x.chunks → x.chunks.length ≤ maxReads →
      Ends shell (readUntil false [] maxReads) ⟨x.chunks, xs.map (·.chunks)⟩
        (.ok (heard x.chunks)) (sessionOf xs) :=
    ends_readUntil hne x.nonempty (xs.map (·.chunks)) x.found_heard
  constructor
  · rintro ⟨hrun, hpending⟩
    have hcommand : Latin1 x.command := by
      by_contra hlatin1
      have hraised : Ends shell (run x.command) (sessionOf (x :: xs)) (.error .unicodeError) _ :=
        (ends_writeLine_unencodable hlatin1 _).bind_error
      cases (hrun.unique hraised).1
    obtain ⟨raw, d', hraw, hclean⟩ := ((hsend hcommand).of_bind hrun).exists_of_bind
    obtain rfl : d' = d := hclean.2
    have hrest : d' = ⟨[], d'.replies⟩ := by rw [← hpending]
    rw [hrest] at hraw
    obtain ⟨hunbroken, hreads⟩ := unbroken_of_readUntil x.nonempty hraw
    obtain ⟨hheard, hdevice⟩ := hraw.unique (hread hunbroken hreads)
    obtain rfl : raw = heard x.chunks := Except.ok.inj hheard
    rw [hrest]
    exact ⟨⟨hcommand, hunbroken, hreads, x.clean_heard_iff.mp (Except.ok.inj hclean.1)⟩, hdevice⟩
  · rintro ⟨⟨hcommand, hunbroken, hreads, hecho⟩, rfl⟩
    refine ⟨?_, rfl⟩
    refine (hsend hcommand).bind ((hread hunbroken hreads).bind ?_)
    rw [x.clean_heard_iff.mpr hecho]
    exact ends_done _

/-- **When a session is framed.**  Every command returns its own answer, and leaves nothing of it
behind, exactly if every command can be sent and no answer is broken by a chunk that ends like a
prompt, or comes in more chunks than the driver reads, or cannot be told from the echo. -/
theorem framed_iff (xs : List Exchange) : Framed xs (sessionOf xs) ↔ ∀ x ∈ xs, x.Whole := by
  induction xs with
  | nil => exact ⟨nofun, fun _ => trivial⟩
  | cons x xs ih =>
    rw [List.forall_mem_cons, ← ih]
    constructor
    · rintro ⟨d, hrun, hpending, hframed⟩
      obtain ⟨hwhole, rfl⟩ := (ends_run_iff x xs).mp ⟨hrun, hpending⟩
      exact ⟨hwhole, hframed⟩
    · rintro ⟨hwhole, hframed⟩
      obtain ⟨hrun, hpending⟩ := (ends_run_iff x xs).mpr ⟨hwhole, rfl⟩
      exact ⟨_, hrun, hpending, hframed⟩

/-- An answer with a bracket and a `#` inside, in one chunk. -/
def wholeAnswer : Exchange where
  command := "show ports".toList
  echo := ["show ports".toList]
  answer := ["Ports (trunk) # 1-4".toList]
  prompt := "(SW) #".toList
  chunks := ["show ports\r\nPorts (trunk) # 1-4\r\n(SW) #".toList.map fun c => UInt8.ofNat c.toNat]
  prompted := by decide
  one_prompt := by decide
  lines := by decide
  nonempty := by decide
  delivered := by decide

/-- The same answer, cut behind the `#`. -/
def tornAnswer : Exchange :=
  { wholeAnswer with
    chunks := ["show ports\r\nPorts (trunk) #", " 1-4\r\n(SW) #"].map fun t =>
      t.toList.map fun c => UInt8.ofNat c.toNat
    nonempty := by decide
    delivered := by decide }

/-- The same bytes from a shell that does not echo, and whose answer begins with the command. -/
def unechoedAnswer : Exchange :=
  { wholeAnswer with
    echo := []
    answer := ["show ports".toList, "Ports (trunk) # 1-4".toList]
    one_prompt := by decide
    lines := by decide
    delivered := by decide }

/-- The cut loses the answer, and leaves its end to be read by the next command. -/
theorem not_framed_tornAnswer :
    tornAnswer.chunks.flatten = wholeAnswer.chunks.flatten ∧
      Framed [wholeAnswer] (sessionOf [wholeAnswer]) ∧
      ((run tornAnswer.command).run shell (sessionOf [tornAnswer])).result = .ok [] ∧
      ((run tornAnswer.command).run shell (sessionOf [tornAnswer])).device.pending ≠ [] ∧
      tornAnswer.own = "Ports (trunk) # 1-4".toList ∧
      ¬Framed [tornAnswer] (sessionOf [tornAnswer]) ∧
      ¬Framed [unechoedAnswer] (sessionOf [unechoedAnswer]) := by
  have hunbroken : Unbroken [] wholeAnswer.chunks := by
    intro ds hds hne hall
    cases ds with
    | nil => exact absurd rfl hne
    | cons d ds =>
      obtain ⟨rfl, htail⟩ := List.cons_prefix_cons.mp hds
      exact absurd (by rw [List.prefix_nil.mp htail]; rfl) hall
  have hecho : wholeAnswer.EchoTold := Or.inl ⟨_, [], rfl, by decide, nofun⟩
  obtain ⟨hrun, hpending⟩ := (ends_run_iff wholeAnswer []).mpr
    ⟨⟨by decide, hunbroken, by decide, hecho⟩, rfl⟩
  have htorn : ((run tornAnswer.command).run shell (sessionOf [tornAnswer])).result = .ok [] ∧
      ((run tornAnswer.command).run shell (sessionOf [tornAnswer])).device.pending ≠ [] := by
    decide +kernel
  refine ⟨by decide, ⟨_, hrun, hpending, trivial⟩, htorn.1, htorn.2, by decide, ?_, ?_⟩
  · rintro ⟨d, ⟨_, hdevice⟩, hempty, _⟩
    rw [hdevice] at htorn
    exact htorn.2 hempty
  · rintro ⟨d, hends, hempty, _⟩
    obtain ⟨hwhole, -⟩ := (ends_run_iff unechoedAnswer []).mp ⟨hends, hempty⟩
    rcases hwhole.echo with ⟨e, es, hnone, -⟩ | ⟨-, hno⟩
    · cases hnone
    · exact hno "show ports".toList rfl (by decide)

end ShellDriver

end NetgearSwitch.Cli
