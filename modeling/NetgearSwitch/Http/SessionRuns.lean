import Mathlib.Data.List.Forall2
import NetgearSwitch.Http.Session

/-!
# What a session sends

Whatever the server answers and whenever it drops the connection or the session: a write goes
out once, a dropped connection is met by the same GET twice at most, and a page that was lost is
asked for after one more login.
-/

namespace NetgearSwitch.Http

open Conversation

variable {J : Type} {α β : Type}

/-- A request, and how it was answered. -/
abbrev Exchange (J : Type) := Sent J × Answer J

def isDropped (e : Exchange J) : Bool := e.2.outcome = .dropped
def isLoginPage (e : Exchange J) : Bool := e.1.purpose = .loginPage
def isRead (e : Exchange J) : Bool := e.1.purpose = .read
def isWrite (e : Exchange J) : Bool := e.1.purpose = .write

/-! ## §1 Retries -/

/-- After `n` retries in a row, a request follows a dropped connection only where it is the same
GET again and the third of its kind at most. -/
def RetriesFrom : ℕ → List (Exchange J) → Prop
  | _, [] => True
  | _, [_] => True
  | n, x :: y :: rest =>
    (isDropped x → isRead x ∧ isRead y ∧ x.1.request.method = .get ∧
      y.1.request = x.1.request ∧ n < 2) ∧
    RetriesFrom (if isDropped x then n + 1 else 0) (y :: rest)

theorem retriesFrom_append {s t : List (Exchange J)} {n : ℕ} (hs : RetriesFrom n s)
    (hlast : ∀ e ∈ s.getLast?, isDropped e = false) (ht : RetriesFrom 0 t)
    (hn : s ≠ [] ∨ n = 0) : RetriesFrom n (s ++ t) := by
  induction s generalizing n with
  | nil =>
    obtain rfl := hn.resolve_left fun h => h rfl
    exact ht
  | cons x s ih =>
    cases s with
    | nil =>
      have hx : isDropped x = false := hlast x rfl
      cases t with
      | nil => trivial
      | cons y t =>
        refine ⟨fun h => ?_, ?_⟩
        · rw [hx] at h
          cases h
        · rw [hx]
          exact ht
    | cons y s =>
      obtain ⟨hxy, hrest⟩ := hs
      refine ⟨hxy, ih hrest ?_ (Or.inl (List.cons_ne_nil y s))⟩
      intro e he
      exact hlast e (by rwa [List.getLast?_cons_cons])

/-- Drops are retried by the rule, and nothing ends well on one. -/
def Retried (r : Except LibError α) (sent : List (Exchange J)) : Prop :=
  RetriesFrom 0 sent ∧ ∀ a, r = .ok a → ∀ e ∈ sent.getLast?, isDropped e = false

theorem retried_nil (r : Except LibError α) : Retried r ([] : List (Exchange J)) :=
  ⟨trivial, fun _ _ e he => by cases he⟩

theorem retried_bind {p : SessionProgram J α} {f : α → SessionProgram J β}
    (hp : p.Always Retried) (hf : ∀ a, (f a).Always Retried) : (p >>= f).Always Retried := by
  refine Program.always_bind hp (fun a _ _ => hf a) ?_ ?_
  · intro e s h
    exact ⟨h.1, fun _ h => by cases h⟩
  · intro a r s t hs ht
    refine ⟨retriesFrom_append hs.1 (hs.2 a rfl) ht.1 (Or.inr rfl), ?_⟩
    intro b hb e he
    rw [List.getLast?_append] at he
    cases ht' : t.getLast? with
    | none =>
      rw [ht'] at he
      exact hs.2 a rfl e he
    | some e' =>
      rw [ht'] at he
      cases he
      exact ht.2 b hb e (by rw [ht']; rfl)

/-! ## §2 What may be sent -/

/-- How many reads, writes and logins. -/
structure Budget where
  reads : ℕ := 0
  writes : ℕ := 0
  logins : ℕ := 0

instance : Add Budget := ⟨fun b b' => ⟨b.reads + b'.reads, b.writes + b'.writes, b.logins + b'.logins⟩⟩

/-- The exchanges keep the rule of retries and a budget. -/
structure Sends (b : Budget) (r : Except LibError α) (sent : List (Exchange J)) : Prop where
  retried : Retried r sent
  reads : sent.countP isRead ≤ b.reads
  writes : sent.countP isWrite ≤ b.writes
  logins : sent.countP isLoginPage ≤ b.logins

/-- A program that keeps a budget in every turn. -/
abbrev Within (b : Budget) (p : SessionProgram J α) : Prop := p.Always (Sends b)

/-- A program that sends nothing. -/
abbrev Silent (p : SessionProgram J α) : Prop := p.Always fun _ sent => sent = []

theorem silent_pure (a : α) : Silent (pure a : SessionProgram J α) := fun _ _ => rfl

theorem silent_raise (e : LibError) : Silent (Program.raise e : SessionProgram J α) :=
  fun _ _ => rfl

theorem silent_ofExcept (x : Except LibError α) :
    Silent (Program.ofExcept x : SessionProgram J α) :=
  fun _ _ => rfl

theorem silent_state : Silent (Program.state : SessionProgram J (Session J)) := fun _ _ => rfl

theorem silent_modify (f : Session J → Session J) :
    Silent (Program.modify f : SessionProgram J Unit) :=
  fun _ _ => rfl

theorem silent_bind {p : SessionProgram J α} {f : α → SessionProgram J β} (hp : Silent p)
    (hf : ∀ a, Silent (f a)) : Silent (p >>= f) :=
  Program.always_bind hp (fun a _ _ => hf a) (fun _ _ h => h) fun _ _ s t hs ht => by
    rw [hs, ht]
    rfl

theorem within_of_silent {p : SessionProgram J α} (h : Silent p) (b : Budget) : Within b p := by
  refine h.imp fun r s hs => ?_
  rw [hs]
  exact ⟨retried_nil r, Nat.zero_le _, Nat.zero_le _, Nat.zero_le _⟩

theorem within_bind {p : SessionProgram J α} {f : α → SessionProgram J β} {b d : Budget}
    (hp : Within b p) (hf : ∀ a, Within d (f a)) : Within (b + d) (p >>= f) := by
  have hretried := retried_bind (hp.imp fun _ _ h => h.retried) fun a =>
    (hf a).imp fun _ _ h => h.retried
  have hreads := Program.always_countP_bind (hp.imp fun _ _ h => h.reads) fun a =>
    (hf a).imp fun _ _ h => h.reads
  have hwrites := Program.always_countP_bind (hp.imp fun _ _ h => h.writes) fun a =>
    (hf a).imp fun _ _ h => h.writes
  have hlogins := Program.always_countP_bind (hp.imp fun _ _ h => h.logins) fun a =>
    (hf a).imp fun _ _ h => h.logins
  exact fun serve c => ⟨hretried serve c, hreads serve c, hwrites serve c, hlogins serve c⟩

theorem Silent.within_bind {p : SessionProgram J α} {f : α → SessionProgram J β} {b : Budget}
    (hp : Silent p) (hf : ∀ a, Within b (f a)) : Within b (p >>= f) := by
  have h := Http.within_bind (within_of_silent hp ⟨0, 0, 0⟩) hf
  have hb : (⟨0, 0, 0⟩ : Budget) + b = b := by
    show Budget.mk (0 + b.reads) (0 + b.writes) (0 + b.logins) = b
    simp only [Nat.zero_add]
  rwa [hb] at h

theorem Within.bind_silent {p : SessionProgram J α} {f : α → SessionProgram J β} {b : Budget}
    (hp : Within b p) (hf : ∀ a, Silent (f a)) : Within b (p >>= f) :=
  Http.within_bind hp fun a => within_of_silent (hf a) ⟨0, 0, 0⟩

/-! ## §3 The parts of a call -/

theorem not_isDropped_of_ok {e : Exchange J} {r : Response}
    (h : e.2.outcome.orHttpError = .ok r) : isDropped e = false := by
  unfold isDropped
  rw [decide_eq_false_iff_not]
  intro hdrop
  rw [hdrop] at h
  cases h

theorem within_sendOrRaise (cfg : SessionConfig) (purpose : Purpose) (request : Request)
    {b : Budget} (hreads : purpose = .read → 1 ≤ b.reads) (hwrites : purpose = .write → 1 ≤ b.writes)
    (hlogins : purpose = .loginPage → 1 ≤ b.logins) :
    Within b (sendOrRaise cfg purpose request : SessionProgram J Response) := by
  intro serve c
  rw [sendOrRaise_apply]
  have hone : ∀ {φ : Exchange J → Bool} {e : Exchange J} {n : ℕ}, (φ e = true → 1 ≤ n) →
      [e].countP φ ≤ n := by
    intro φ e n h
    rw [List.countP_singleton]
    split
    · next he => exact h he
    · exact Nat.zero_le n
  refine ⟨⟨trivial, fun r hr e he => ?_⟩, hone ?_, hone ?_, hone ?_⟩
  · cases he
    exact not_isDropped_of_ok hr
  · exact fun h => hreads (of_decide_eq_true h)
  · exact fun h => hwrites (of_decide_eq_true h)
  · exact fun h => hlogins (of_decide_eq_true h)

/-- What the tries of one attempt send after `n` retries. -/
def AttemptSent (cfg : SessionConfig) (request : Request) (n : ℕ) (r : Except LibError Response)
    (sent : List (Exchange J)) : Prop :=
  (∀ e ∈ sent, isRead e ∧ e.1.request = { request with headers := cfg.refererHeaders }) ∧
  RetriesFrom n sent ∧ ∀ a, r = .ok a → ∀ e ∈ sent.getLast?, isDropped e = false

theorem attemptSent_singleton {cfg : SessionConfig} {request : Request} {n : ℕ}
    (answer : Answer J) (c : Session J) :
    AttemptSent cfg request n answer.outcome.orHttpError [(outgoing cfg .read request c, answer)] := by
  refine ⟨fun e he => ?_, trivial, fun r hr e he => ?_⟩
  · rw [List.mem_singleton.mp he]
    exact ⟨rfl, rfl⟩
  · cases he
    exact not_isDropped_of_ok hr

/-- A drop before the last try starts the tries that are left. -/
theorem attemptSent_cons {cfg : SessionConfig} {request : Request} {n : ℕ}
    {r : Except LibError Response} {sent : List (Exchange J)} {x : Exchange J}
    (hget : request.method = .get) (hx : isRead x)
    (hrequest : x.1.request = { request with headers := cfg.refererHeaders })
    (hdropped : isDropped x = true) (hn : n < 2) (h : AttemptSent cfg request (n + 1) r sent)
    (hsent : ∀ a, r = .ok a → sent ≠ []) : AttemptSent cfg request n r (x :: sent) := by
  obtain ⟨hall, hretries, hlast⟩ := h
  refine ⟨?_, ?_, ?_⟩
  · intro e he
    rcases List.mem_cons.mp he with rfl | he
    · exact ⟨hx, hrequest⟩
    · exact hall e he
  · cases sent with
    | nil => trivial
    | cons y sent =>
      obtain ⟨hy, hyrequest⟩ := hall y List.mem_cons_self
      refine ⟨fun _ => ⟨hx, hy, ?_, hyrequest.trans hrequest.symm, hn⟩, ?_⟩
      · rw [hrequest]
        exact hget
      · rw [if_pos hdropped]
        exact hretries
  · intro a ha e he
    obtain ⟨y, sent, rfl⟩ := List.exists_cons_of_ne_nil (hsent a ha)
    rw [List.getLast?_cons_cons] at he
    exact hlast a ha e he

/-- One attempt: three tries at most. -/
theorem attemptSent_retry (cfg : SessionConfig) (request : Request) (hget : request.method = .get)
    (tries n : ℕ) (hn : n + tries = droppedConnectionRetries + 1) :
    (retryOnDroppedConnection (send cfg .read request) tries : SessionProgram J Response).Always
      fun r s => AttemptSent cfg request n r s ∧ (∀ a, r = .ok a → s ≠ []) ∧ s.length ≤ tries := by
  induction tries generalizing n with
  | zero =>
    intro serve c
    refine ⟨⟨?_, trivial, ?_⟩, ?_, le_rfl⟩
    · exact fun e he => absurd he List.not_mem_nil
    · exact fun _ h => nomatch h
    · exact fun _ h => nomatch h
  | succ tries ih =>
    intro serve c
    have hsend : (send cfg .read request serve c).result =
        .ok (serve [outgoing cfg .read request c]).outcome := rfl
    have hended : ∀ r : Except LibError Response,
        (serve [outgoing cfg .read request c]).outcome.orHttpError = r →
        AttemptSent cfg request n r (send cfg .read request serve c).sent := by
      rintro _ rfl
      exact attemptSent_singleton _ c
    unfold retryOnDroppedConnection
    rw [Program.bind_of_ok hsend]
    cases ha : (serve [outgoing cfg .read request c]).outcome with
    | dropped =>
      have hdropped : isDropped (outgoing cfg .read request c,
          serve [outgoing cfg .read request c]) = true := decide_eq_true ha
      cases tries with
      | zero =>
        exact ⟨hended _ (by rw [ha]; rfl), fun _ _ => List.cons_ne_nil _ _, le_rfl⟩
      | succ tries =>
        have hlt : n < 2 := by
          unfold droppedConnectionRetries at hn
          omega
        obtain ⟨hsent, hne, hlength⟩ := ih (n + 1) (by omega)
          (serve.after (send cfg .read request serve c).sent) (send cfg .read request serve c).client
        exact ⟨attemptSent_cons hget rfl rfl hdropped hlt hsent hne,
          fun _ _ => List.cons_ne_nil _ _, Nat.succ_le_succ hlength⟩
    | response r =>
      exact ⟨hended _ (by rw [ha]; rfl), fun _ _ => List.cons_ne_nil _ _,
        Nat.le_add_left 1 tries⟩
    | transportError =>
      exact ⟨hended _ (by rw [ha]; rfl), fun _ _ => List.cons_ne_nil _ _,
        Nat.le_add_left 1 tries⟩
    | invalidUrl =>
      exact ⟨hended _ (by rw [ha]; rfl), fun _ _ => List.cons_ne_nil _ _,
        Nat.le_add_left 1 tries⟩

theorem within_readAttempt (cfg : SessionConfig) (path : Text)
    (params : Option (PyDict Text Text)) :
    Within ⟨3, 0, 0⟩ (readAttempt cfg path params : SessionProgram J Response) := by
  unfold readAttempt
  refine silent_state.within_bind fun c => ?_
  refine Within.bind_silent ?_ fun r => silent_bind (silent_ofExcept _) fun _ => silent_pure r
  refine (attemptSent_retry cfg _ rfl _ 0 rfl).imp ?_
  rintro r s ⟨⟨hall, hretries, hlast⟩, _, hlength⟩
  have hpurpose : ∀ e ∈ s, e.1.purpose = .read := fun e he => of_decide_eq_true (hall e he).1
  refine ⟨⟨hretries, hlast⟩, List.countP_le_length.trans hlength, ?_, ?_⟩
  · refine Nat.le_zero.mpr (List.countP_eq_zero.mpr fun e he hwrite => ?_)
    rw [isWrite, hpurpose e he] at hwrite
    exact absurd hwrite (by decide)
  · refine Nat.le_zero.mpr (List.countP_eq_zero.mpr fun e he hlogin => ?_)
    rw [isLoginPage, hpurpose e he] at hlogin
    exact absurd hlogin (by decide)

theorem within_writeOnce (cfg : SessionConfig) (request : Session J → Request) :
    Within ⟨0, 1, 0⟩ (writeOnce cfg request) := by
  unfold writeOnce
  refine silent_state.within_bind fun c => ?_
  refine Within.bind_silent ?_ fun r => silent_bind (silent_ofExcept _) fun _ => silent_pure r
  exact within_sendOrRaise cfg _ _ nofun (fun _ => le_rfl) nofun

theorem within_ensureLogin {login : SessionProgram J Unit} {b : Budget} (h : Within b login) :
    Within b (ensureLogin login) := by
  refine silent_state.within_bind fun c => ?_
  split
  · exact within_of_silent (silent_pure ()) b
  · exact h

section Login

variable [CookieJar J]

theorem silent_finishLogin (cfg : SessionConfig) (r : Response) :
    Silent (finishLogin cfg r : SessionProgram J Unit) := by
  unfold finishLogin
  split
  · exact silent_bind (silent_ofExcept _) fun _ => silent_modify _
  · refine silent_bind silent_state fun c => ?_
    exact silent_bind (silent_ofExcept _) fun _ => silent_modify _

/-- One login, which is no read and no write. -/
theorem within_formLogin (cfg : SessionConfig) :
    Within ⟨0, 0, 1⟩ (formLogin cfg : SessionProgram J Unit) := by
  unfold formLogin
  refine within_bind (b := ⟨0, 0, 1⟩) (d := ⟨0, 0, 0⟩) ?_ fun page => ?_
  · exact within_sendOrRaise cfg _ _ nofun nofun fun _ => le_rfl
  refine (silent_ofExcept _).within_bind fun _ => ?_
  refine (silent_ofExcept _).within_bind fun body => ?_
  refine Within.bind_silent ?_ fun r =>
    silent_bind (silent_ofExcept _) fun _ => silent_finishLogin cfg r
  exact within_sendOrRaise cfg _ _ nofun nofun nofun

theorem within_xmlApiHandshake (cfg : SessionConfig) :
    Within ⟨0, 0, 1⟩ (xmlApiHandshake cfg : SessionProgram J Unit) := by
  unfold xmlApiHandshake
  refine within_bind (b := ⟨0, 0, 1⟩) (d := ⟨0, 0, 0⟩) ?_ fun redirect => ?_
  · exact within_sendOrRaise cfg _ _ nofun nofun fun _ => le_rfl
  refine (silent_ofExcept _).within_bind fun sessionPath => ?_
  refine (silent_modify _).within_bind fun _ => ?_
  refine Within.bind_silent (within_sendOrRaise cfg _ _ nofun nofun nofun) fun r => ?_
  refine silent_bind (silent_ofExcept _) fun _ => ?_
  refine silent_bind silent_state fun c => ?_
  exact silent_bind (silent_ofExcept _) fun _ => silent_modify _

/-- The login of either client. -/
def ClientKind.login (cfg : SessionConfig) : ClientKind → SessionProgram J Unit
  | .sync => HttpClient.login cfg
  | .async => AsyncHttpClient.login cfg

theorem within_login (cfg : SessionConfig) (kind : ClientKind) :
    Within ⟨0, 0, 1⟩ (kind.login cfg : SessionProgram J Unit) := by
  cases kind with
  | sync =>
    show Within ⟨0, 0, 1⟩ (HttpClient.login cfg)
    unfold HttpClient.login
    split
    · exact (silent_modify _).within_bind fun _ => within_xmlApiHandshake cfg
    · exact within_formLogin cfg
  | async =>
    show Within ⟨0, 0, 1⟩ (AsyncHttpClient.login cfg)
    unfold AsyncHttpClient.login
    split
    · exact within_xmlApiHandshake cfg
    · exact within_formLogin cfg

/-- What a call does once it is logged in. -/
def Call.body (cfg : SessionConfig) (kind : ClientKind) : Call → SessionProgram J Text
  | .getPage path => do
    let c ← Program.state
    let params := tokenParams cfg.spec c.token
    let r ← readAttempt cfg path params
    match kind with
    | .sync => do
      let lost ← Program.ofExcept (xmlApiSessionLost cfg.spec r.text)
      if lost then HttpClient.readAgain cfg path params else pure r.text
    | .async => pure r.text
  | .postForm path data => do
    let r ← writeOnce cfg (formRequest cfg path data)
    pure r.text
  | .postMultipart path data file => do
    let r ← writeOnce cfg (multipartRequest cfg path data file)
    pure r.text
  | .postXml path body => do
    let r ← writeOnce cfg (xmlRequest cfg path body)
    match kind with
    | .sync => do
      let lost ← Program.ofExcept (xmlApiSessionLost cfg.spec r.text)
      if lost then Program.raise .httpAuth else pure r.text
    | .async => pure r.text

/-- Every call is a login where one is due, and its body. -/
theorem Call.program_eq (cfg : SessionConfig) (kind : ClientKind) (call : Call) :
    (call.program cfg kind : SessionProgram J Text) =
      ensureLogin (kind.login cfg) >>= fun _ => call.body cfg kind := by
  cases kind <;> cases call <;> rfl

/-- The reads of a call, its write, and the login between two reads. -/
def Call.budget : ClientKind → Call → Budget
  | .sync, .getPage _ => ⟨6, 0, 1⟩
  | .async, .getPage _ => ⟨3, 0, 0⟩
  | _, _ => ⟨0, 1, 0⟩

theorem within_body (cfg : SessionConfig) (kind : ClientKind) (call : Call) :
    Within (call.budget kind) (call.body cfg kind : SessionProgram J Text) := by
  cases call with
  | getPage path =>
    refine silent_state.within_bind fun c => ?_
    cases kind with
    | async => exact (within_readAttempt cfg _ _).bind_silent fun r => silent_pure _
    | sync =>
      refine within_bind (b := ⟨3, 0, 0⟩) (d := ⟨3, 0, 1⟩) (within_readAttempt cfg _ _) fun r => ?_
      refine (silent_ofExcept _).within_bind fun lost => ?_
      split
      · refine (silent_modify _).within_bind fun _ => ?_
        refine within_bind (b := ⟨0, 0, 1⟩) (d := ⟨3, 0, 0⟩) (within_login cfg .sync) fun _ => ?_
        refine (within_readAttempt cfg _ _).bind_silent fun r => ?_
        refine silent_bind (silent_ofExcept _) fun lost => ?_
        split
        · exact silent_raise _
        · exact silent_pure _
      · exact within_of_silent (silent_pure _) _
  | postForm path data =>
    cases kind <;> exact (within_writeOnce cfg _).bind_silent fun r => silent_pure _
  | postMultipart path data file =>
    cases kind <;> exact (within_writeOnce cfg _).bind_silent fun r => silent_pure _
  | postXml path body =>
    cases kind with
    | async => exact (within_writeOnce cfg _).bind_silent fun r => silent_pure _
    | sync =>
      refine (within_writeOnce cfg _).bind_silent fun r => ?_
      refine silent_bind (silent_ofExcept _) fun lost => ?_
      split
      · exact silent_raise _
      · exact silent_pure _

/-! ## §4 What a page says of the session -/

/-- The page is no answer of a session that is lost. -/
structure SessionKept (spec : HttpModelSpec) (text : Text) : Prop where
  status : xmlApiSessionLost spec text = .ok false
  page : redirectsToLogin text = false

theorem page_of_validateResponse {r : Response} (h : validateResponse true r = .ok ()) :
    redirectsToLogin r.text = false := by
  unfold validateResponse at h
  split_ifs at h with _ hredirects
  simpa using hredirects

omit [CookieJar J] in
theorem returns_readAttempt (cfg : SessionConfig) (path : Text)
    (params : Option (PyDict Text Text)) :
    (readAttempt cfg path params : SessionProgram J Response).Returns
      fun r => validateResponse true r = .ok () := by
  refine Program.returns_bind (Program.returns_trivial _) fun c _ => ?_
  refine Program.returns_bind (Program.returns_trivial _) fun r _ => ?_
  exact Program.returns_bind (Program.returns_ofExcept _) fun _ hvalid =>
    Program.returns_pure hvalid

/-- A page a synchronous client returns is none of a lost session, with or without a login in
between. -/
theorem returns_body (cfg : SessionConfig) (path : Text) :
    ((Call.getPage path).body cfg .sync : SessionProgram J Text).Returns
      (SessionKept cfg.spec) := by
  refine Program.returns_bind (Program.returns_trivial _) fun c _ => ?_
  refine Program.returns_bind (returns_readAttempt cfg _ _) fun r hvalid => ?_
  refine Program.returns_bind (Program.returns_ofExcept _) fun lost hlost => ?_
  cases lost with
  | false => exact Program.returns_pure ⟨hlost, page_of_validateResponse hvalid⟩
  | true =>
    refine Program.returns_bind (Program.returns_trivial _) fun _ _ => ?_
    refine Program.returns_bind (Program.returns_trivial _) fun _ _ => ?_
    refine Program.returns_bind (returns_readAttempt cfg _ _) fun r hvalid => ?_
    refine Program.returns_bind (Program.returns_ofExcept _) fun lost hlost => ?_
    cases lost with
    | false => exact Program.returns_pure ⟨hlost, page_of_validateResponse hvalid⟩
    | true => exact Program.returns_raise _ _

/-! ## §5 Every call of every run -/

/-- The logins of a call after its first read. -/
def relogins (sent : List (Exchange J)) : ℕ :=
  (sent.dropWhile fun e => !isRead e).countP isLoginPage

omit [CookieJar J] in
theorem relogins_le {p : SessionProgram J α} {f : α → SessionProgram J β} {b b' : Budget}
    (hp : Within b p) (hreads : b.reads = 0) (hf : ∀ a, Within b' (f a)) :
    (p >>= f).Always fun _ sent => relogins sent ≤ b'.logins := by
  have hnone : ∀ {r : Except LibError α} {s : List (Exchange J)}, Sends b r s →
      ∀ e ∈ s, (!isRead e) = true := by
    intro r s hs e he
    have hcount := hs.reads
    rw [hreads, Nat.le_zero, List.countP_eq_zero] at hcount
    simpa using hcount e he
  refine Program.always_bind hp (fun a _ _ => hf a) (fun e s hs => ?_) fun a r s t hs ht => ?_
  · have hdrop : s.dropWhile (fun e => !isRead e) = [] := by
      rw [← List.append_nil s, List.dropWhile_append_of_pos (hnone hs)]
      rfl
    rw [relogins, hdrop]
    exact Nat.zero_le _
  · rw [relogins, List.dropWhile_append_of_pos (hnone hs)]
    exact ((List.dropWhile_sublist _).countP_le).trans ht.logins

/-- What a call may do, whatever the server does. -/
structure NeverDuplicates (cfg : SessionConfig) (kind : ClientKind) (call : Call)
    (t : Turn (Session J) (Sent J) (Answer J) LibError Text) : Prop where
  /-- One write at most, and none of a read. -/
  writes : t.sent.countP isWrite ≤ if call.isRead then 0 else 1
  /-- Only a dropped GET is sent again, twice in a row at most. -/
  retries : RetriesFrom 0 t.sent
  /-- A read logs in again once at most, -/
  relogins : call.isRead → Http.relogins t.sent ≤ 1
  /-- and then returns a page of a session that is kept, or raises; so does every read of the
  synchronous client. -/
  kept : call.isRead → 0 < Http.relogins t.sent ∨ kind = .sync →
    ∀ text, t.result = .ok text → SessionKept cfg.spec text

theorem neverDuplicates_program (cfg : SessionConfig) (kind : ClientKind) (call : Call)
    (serve : Server (Sent J) (Answer J)) (c : Session J) :
    NeverDuplicates cfg kind call (call.program cfg kind serve c) := by
  have hlogin := within_ensureLogin (within_login (J := J) cfg kind)
  have hbody := within_body (J := J) cfg kind call
  have hwithin := within_bind hlogin (fun _ => hbody) serve c
  have hagain := relogins_le hlogin rfl (fun _ => hbody) serve c
  rw [← Call.program_eq] at hwithin hagain
  refine ⟨?_, hwithin.retried.1, ?_, ?_⟩
  · refine hwithin.writes.trans ?_
    cases kind <;> cases call <;> exact Nat.le_refl _
  · intro hread
    refine hagain.trans ?_
    cases call with
    | getPage path =>
      cases kind with
      | sync => exact Nat.le_refl 1
      | async => exact Nat.zero_le 1
    | postForm _ _ => cases hread
    | postMultipart _ _ _ => cases hread
    | postXml _ _ => cases hread
  · intro hread hor text htext
    cases call with
    | getPage path =>
      cases kind with
      | sync =>
        rw [Call.program_eq] at htext
        exact Program.returns_bind (Program.returns_trivial _)
          (fun _ _ => returns_body cfg path) serve c text htext
      | async =>
        rcases hor with hpos | hkind
        · exact absurd (hpos.trans_le hagain) (Nat.lt_irrefl 0)
        · cases hkind
    | postForm _ _ => cases hread
    | postMultipart _ _ _ => cases hread
    | postXml _ _ => cases hread

/-- **Nothing is written twice.**  In every run of calls on either client, against any server and
from any session, each call keeps to what `NeverDuplicates` allows. -/
theorem neverDuplicates_turns (cfg : SessionConfig) (kind : ClientKind)
    (serve : Server (Sent J) (Answer J)) (c : Session J) (calls : List Call) :
    List.Forall₂ (NeverDuplicates cfg kind) calls
      (turns serve c (calls.map (Call.program cfg kind))) := by
  induction calls generalizing serve c with
  | nil => exact List.Forall₂.nil
  | cons call calls ih =>
    exact List.Forall₂.cons (neverDuplicates_program cfg kind call serve c) (ih _ _)

end Login

end NetgearSwitch.Http
