import NetgearSwitch.Http.SessionRuns

/-!
# The two clients side by side

`AsyncHttpClient` is written as the twin of `HttpClient`.  It keeps the cookies of a dead session
when it logs in, and takes the answer of a lost session for a page; where neither comes up the
two send the same requests and come to the same results.
-/

namespace NetgearSwitch.Http

open Conversation

variable {J : Type} [CookieJar J]

/-- What shows of a call: its requests with their cookies, and its result. -/
def observe (t : Turn (Session J) (Sent J) (Answer J) LibError Text) :
    List (Request × J) × Except LibError Text :=
  (t.sent.map fun e => (e.1.request, e.1.cookies), t.result)

/-! ## §1 When a call is the same on both -/

/-- Does the call look at what its answer says of the session? -/
def Call.watched : Call → Bool
  | .getPage _ => true
  | .postXml _ _ => true
  | _ => false

/-- An answer that is taken for a page of the call and says that the session is lost, or carries
a status that is no `int`. -/
def LostAnswer (cfg : SessionConfig) (call : Call) (e : Exchange J) : Prop :=
  call.watched ∧ (isRead e ∨ isWrite e) ∧
    ∃ r, e.2.outcome = .response r ∧ validateResponse call.isRead r = .ok () ∧
      xmlApiSessionLost cfg.spec r.text ≠ .ok false

/-- No login of the XML API over cookies of a dead session, and no answer that says the session
is lost. -/
structure SameSession (cfg : SessionConfig) (serve : Server (Sent J) (Answer J)) (c : Session J)
    (call : Call) : Prop where
  fresh : cfg.spec.scheme = .xmlApi → c.loggedIn = false → dropStale c.cookies = c.cookies
  kept : ∀ e ∈ (call.program cfg .async serve c).sent, ¬ LostAnswer cfg call e

/-! ## §2 Logging in -/

theorem login_eq {cfg : SessionConfig} {serve : Server (Sent J) (Answer J)} {c : Session J}
    (h : cfg.spec.scheme = .xmlApi → c.loggedIn = false → dropStale c.cookies = c.cookies) :
    ensureLogin (ClientKind.login cfg .sync) serve c =
      ensureLogin (ClientKind.login cfg .async) serve c := by
  refine Program.bind_congr rfl fun c' hc => ?_
  obtain rfl : c = c' := Except.ok.inj hc
  cases hlogged : c.loggedIn with
  | true => rfl
  | false =>
    show HttpClient.login cfg serve c = AsyncHttpClient.login cfg serve c
    unfold HttpClient.login AsyncHttpClient.login
    by_cases hscheme : cfg.spec.scheme = .xmlApi
    · rw [if_pos hscheme, if_pos hscheme]
      show xmlApiHandshake cfg serve { c with cookies := dropStale c.cookies } = _
      rw [h hscheme hlogged]
      rfl
    · rw [if_neg hscheme, if_neg hscheme]

omit [CookieJar J] in
theorem ensureLogin_of_not {login : SessionProgram J Unit} {serve : Server (Sent J) (Answer J)}
    {c : Session J} (h : c.loggedIn = false) : ensureLogin login serve c = login serve c := by
  unfold ensureLogin
  rw [Program.state_bind, h]
  rfl

/-- The cookies the first request carries. -/
def firstCookies (sent : List (Exchange J)) : Option J := sent.head?.map fun e => e.1.cookies

omit [CookieJar J] in
theorem firstCookies_of_prefix {s t : List (Exchange J)} {j : J} (h : s <+: t)
    (hs : firstCookies s = some j) : firstCookies t = some j := by
  obtain ⟨u, rfl⟩ := h
  cases s with
  | nil => cases hs
  | cons x s => exact hs

theorem firstCookies_xmlApiHandshake (cfg : SessionConfig) (serve : Server (Sent J) (Answer J))
    (c : Session J) : firstCookies (xmlApiHandshake cfg serve c).sent = some c.cookies :=
  firstCookies_of_prefix (Program.sent_prefix_bind _ _ serve c) rfl

theorem firstCookies_login {cfg : SessionConfig} (hscheme : cfg.spec.scheme = .xmlApi)
    (kind : ClientKind) (serve : Server (Sent J) (Answer J)) (c : Session J) :
    firstCookies (kind.login cfg serve c).sent =
      some (match kind with
        | .sync => dropStale c.cookies
        | .async => c.cookies) := by
  cases kind with
  | sync =>
    show firstCookies (HttpClient.login cfg serve c).sent = _
    unfold HttpClient.login
    rw [if_pos hscheme]
    exact firstCookies_xmlApiHandshake cfg serve { c with cookies := dropStale c.cookies }
  | async =>
    show firstCookies (AsyncHttpClient.login cfg serve c).sent = _
    unfold AsyncHttpClient.login
    rw [if_pos hscheme]
    exact firstCookies_xmlApiHandshake cfg serve c

/-! ## §3 The body of a call -/

/-- The request of a call that a page or a verdict answers. -/
def Call.attempt (cfg : SessionConfig) (c : Session J) : Call → SessionProgram J Response
  | .getPage path => readAttempt cfg path (tokenParams cfg.spec c.token)
  | .postForm path data => writeOnce cfg (formRequest cfg path data)
  | .postMultipart path data file => writeOnce cfg (multipartRequest cfg path data file)
  | .postXml path body => writeOnce cfg (xmlRequest cfg path body)

/-- What the synchronous client does about a lost session. -/
def Call.again (cfg : SessionConfig) (c : Session J) : Call → SessionProgram J Text
  | .getPage path => HttpClient.readAgain cfg path (tokenParams cfg.spec c.token)
  | _ => Program.raise .httpAuth

section Body

variable {cfg : SessionConfig} {serve : Server (Sent J) (Answer J)} {c : Session J} {call : Call}

theorem body_async : call.body cfg .async serve c =
    (call.attempt cfg c >>= fun r => pure r.text) serve c := by
  cases call <;> rfl

theorem body_sync_of_not (h : call.watched = false) :
    call.body cfg .sync serve c = call.body cfg .async serve c := by
  cases call with
  | getPage _ => cases h
  | postForm _ _ => rfl
  | postMultipart _ _ _ => rfl
  | postXml _ _ => cases h

theorem body_sync (h : call.watched = true) : call.body cfg .sync serve c =
    (call.attempt cfg c >>= fun r =>
      Program.ofExcept (xmlApiSessionLost cfg.spec r.text) >>= fun lost =>
        if lost then call.again cfg c else pure r.text) serve c := by
  cases call with
  | getPage _ => rfl
  | postForm _ _ => cases h
  | postMultipart _ _ _ => cases h
  | postXml _ _ => rfl

end Body

section Answers

omit [CookieJar J]

/-- Every request reads or writes, and the result is the response among the answers, where there
is one. -/
structure Answered (result : Except LibError Response) (sent : List (Exchange J)) : Prop where
  data : ∀ e ∈ sent, isRead e ∨ isWrite e
  result_iff : ∀ r, result = .ok r ↔ ∃ e ∈ sent, e.2.outcome = .response r

theorem orHttpError_eq_ok {o : Outcome} {r : Response} :
    o.orHttpError = .ok r ↔ o = .response r := by
  cases o <;> simp [Outcome.orHttpError]

theorem answered_singleton {cfg : SessionConfig} {purpose : Purpose} {request : Request}
    {c : Session J} {answer : Answer J} (h : purpose = .read ∨ purpose = .write) :
    Answered answer.outcome.orHttpError [(outgoing cfg purpose request c, answer)] := by
  refine ⟨fun e he => ?_, fun r => ?_⟩
  · rw [List.mem_singleton.mp he]
    exact h.imp decide_eq_true decide_eq_true
  · rw [orHttpError_eq_ok]
    simp only [List.mem_singleton, exists_eq_left]

theorem answered_retry (cfg : SessionConfig) (request : Request) (tries : ℕ) :
    (retryOnDroppedConnection (send cfg .read request) tries :
      SessionProgram J Response).Always Answered := by
  induction tries with
  | zero =>
    refine fun serve c => ⟨fun e he => absurd he List.not_mem_nil, fun r => ?_⟩
    refine iff_of_false (fun h => nomatch h) ?_
    rintro ⟨e, he, _⟩
    exact absurd he List.not_mem_nil
  | succ tries ih =>
    intro serve c
    have hsend : (send cfg .read request serve c).result =
        .ok (serve [outgoing cfg .read request c]).outcome := rfl
    have hone : Answered (serve [outgoing cfg .read request c]).outcome.orHttpError
        [(outgoing cfg .read request c, serve [outgoing cfg .read request c])] :=
      answered_singleton (Or.inl rfl)
    unfold retryOnDroppedConnection
    rw [Program.bind_of_ok hsend]
    cases ha : (serve [outgoing cfg .read request c]).outcome with
    | dropped =>
      have hrest := ih (serve.after (send cfg .read request serve c).sent)
        (send cfg .read request serve c).client
      refine ⟨fun e he => ?_, fun r => ?_⟩
      · rcases List.mem_cons.mp he with rfl | he
        · exact Or.inl rfl
        · exact hrest.data e he
      · refine (hrest.result_iff r).trans ⟨?_, ?_⟩
        · rintro ⟨e, he, hr⟩
          exact ⟨e, List.mem_cons_of_mem _ he, hr⟩
        · rintro ⟨e, he, hr⟩
          rcases List.mem_cons.mp he with rfl | he
          · cases ha.symm.trans hr
          · exact ⟨e, he, hr⟩
    | response r =>
      rw [ha] at hone
      exact hone
    | transportError =>
      rw [ha] at hone
      exact hone
    | invalidUrl =>
      rw [ha] at hone
      exact hone

/-- What an attempt comes to: the response, if there is one and it is valid. -/
def Attempted (read : Bool) (result : Except LibError Response) (sent : List (Exchange J)) : Prop :=
  (∀ e ∈ sent, isRead e ∨ isWrite e) ∧ ∀ r, result = .ok r ↔
    validateResponse read r = .ok () ∧ ∃ e ∈ sent, e.2.outcome = .response r

theorem attempted_of_answered {p : SessionProgram J Response} (read : Bool)
    (hp : p.Always Answered) :
    (p >>= fun r => Program.ofExcept (validateResponse read r) >>= fun _ =>
      pure r).Always (Attempted read) := by
  intro serve c
  obtain ⟨hdata, hresult⟩ := hp serve c
  cases h : (p serve c).result with
  | error e =>
    rw [Program.bind_of_error h]
    refine ⟨hdata, fun r => iff_of_false (fun h => nomatch h) fun hr => ?_⟩
    rw [(hresult r).mpr hr.2] at h
    cases h
  | ok r =>
    rw [Program.bind_of_ok h]
    have hsent := (hresult r).mp h
    cases hvalid : validateResponse read r with
    | error e =>
      show Attempted read (.error e) ((p serve c).sent ++ [])
      rw [List.append_nil]
      refine ⟨hdata, fun r' => iff_of_false (fun h => nomatch h) fun hr => ?_⟩
      have hr' := (hresult r').mpr hr.2
      rw [h] at hr'
      cases hr'
      rw [hvalid] at hr
      cases hr.1
    | ok u =>
      show Attempted read (.ok r) ((p serve c).sent ++ [])
      rw [List.append_nil]
      refine ⟨hdata, fun r' => ⟨fun hr => ?_, fun hr => ?_⟩⟩
      · obtain rfl : r = r' := Except.ok.inj hr
        exact ⟨hvalid, hsent⟩
      · rw [← h]
        exact (hresult r').mpr hr.2

theorem attempted_attempt (cfg : SessionConfig) (c : Session J) (call : Call) :
    (call.attempt cfg c).Always (Attempted call.isRead) := by
  have hwrite : ∀ request : Session J → Request,
      (writeOnce cfg request).Always (Attempted false) := by
    intro request serve c
    exact attempted_of_answered false (fun _ _ => answered_singleton (Or.inr rfl)) serve c
  cases call with
  | getPage path =>
    intro serve c
    exact attempted_of_answered true (answered_retry cfg _ _) serve c
  | postForm _ _ => exact hwrite _
  | postMultipart _ _ _ => exact hwrite _
  | postXml _ _ => exact hwrite _

end Answers

/-! ## §4 One call -/

/-- A session that is kept has nothing to say on either client. -/
theorem body_eq {cfg : SessionConfig} {serve : Server (Sent J) (Answer J)} {c : Session J}
    {call : Call} (h : ∀ e ∈ (call.body cfg .async serve c).sent, ¬ LostAnswer cfg call e) :
    call.body cfg .sync serve c = call.body cfg .async serve c := by
  cases hwatched : call.watched with
  | false => exact body_sync_of_not hwatched
  | true =>
    rw [body_sync hwatched]
    rw [body_async] at h ⊢
    refine Program.bind_congr rfl fun r hr => ?_
    obtain ⟨hdata, hresult⟩ := attempted_attempt cfg c call serve c
    obtain ⟨hvalid, e, he, houtcome⟩ := (hresult r).mp hr
    have hkept : xmlApiSessionLost cfg.spec r.text = .ok false := by
      by_contra hlost
      refine h e ((Program.sent_prefix_bind _ _ serve c).subset he) ?_
      exact ⟨hwatched, hdata e he, r, houtcome, hvalid, hlost⟩
    rw [hkept]
    rfl

theorem scheme_of_lost {spec : HttpModelSpec} {text : Text}
    (h : xmlApiSessionLost spec text ≠ .ok false) : spec.scheme = .xmlApi := by
  by_contra hscheme
  exact h (if_pos hscheme)

theorem sent_readAgain_ne_nil {cfg : SessionConfig} (hscheme : cfg.spec.scheme = .xmlApi)
    (path : Text) (params : Option (PyDict Text Text)) (serve : Server (Sent J) (Answer J))
    (c : Session J) : (HttpClient.readAgain cfg path params serve c).sent ≠ [] := by
  have hfirst : firstCookies (HttpClient.readAgain cfg path params serve c).sent =
      some (dropStale c.cookies) :=
    firstCookies_of_prefix
      (Program.sent_prefix_bind (HttpClient.login (J := J) cfg) _ serve { c with loggedIn := false })
      (firstCookies_login hscheme .sync serve { c with loggedIn := false })
  intro hnil
  rw [hnil] at hfirst
  cases hfirst

/-- The tries that end a call on a lost session are followed by a login or an exception, which
the asynchronous client has neither of. -/
theorem observe_ne_of_lost {cfg : SessionConfig} {serve : Server (Sent J) (Answer J)}
    {c : Session J} {call : Call} {r : Response} (hwatched : call.watched = true)
    (hr : (call.attempt cfg c serve c).result = .ok r)
    (hlost : xmlApiSessionLost cfg.spec r.text ≠ .ok false) :
    observe (call.body cfg .sync serve c) ≠ observe (call.body cfg .async serve c) := by
  intro h
  rw [body_sync hwatched, body_async, Program.bind_of_ok hr, Program.bind_of_ok hr] at h
  obtain ⟨hsent, hresult⟩ := Prod.mk.inj h
  cases hverdict : xmlApiSessionLost cfg.spec r.text with
  | error e =>
    rw [hverdict] at hresult
    cases hresult
  | ok lost =>
    cases lost with
    | false => exact hlost hverdict
    | true =>
      rw [hverdict] at hsent hresult
      cases call with
      | getPage path =>
        have hlength := congrArg List.length hsent
        rw [List.length_map, List.length_map, List.length_append, List.length_append] at hlength
        exact sent_readAgain_ne_nil (J := J) (scheme_of_lost hlost) path
          (tokenParams cfg.spec c.token) _ _
          (List.length_eq_zero_iff.mp (Nat.add_left_cancel hlength))
      | postForm _ _ => cases hwatched
      | postMultipart _ _ _ => cases hwatched
      | postXml _ _ => cases hresult

/-- A call that shows the same on both clients has had no answer of a lost session. -/
theorem kept_of_observe_body {cfg : SessionConfig} {serve : Server (Sent J) (Answer J)}
    {c : Session J} {call : Call}
    (h : observe (call.body cfg .sync serve c) = observe (call.body cfg .async serve c)) :
    ∀ e ∈ (call.body cfg .async serve c).sent, ¬ LostAnswer cfg call e := by
  rintro e he ⟨hwatched, _, r, houtcome, hvalid, hlost⟩
  have hsent : (call.body cfg .async serve c).sent = (call.attempt cfg c serve c).sent := by
    rw [body_async]
    cases hresult : (call.attempt cfg c serve c).result with
    | error e => rw [Program.bind_of_error hresult]
    | ok r =>
      rw [Program.bind_of_ok hresult]
      exact List.append_nil _
  rw [hsent] at he
  obtain ⟨_, hresult⟩ := attempted_attempt cfg c call serve c
  exact observe_ne_of_lost hwatched ((hresult r).mpr ⟨hvalid, e, he, houtcome⟩) hlost h

theorem program_eq_of_sameSession {cfg : SessionConfig} {serve : Server (Sent J) (Answer J)}
    {c : Session J} {call : Call} (h : SameSession cfg serve c call) :
    call.program cfg .sync serve c = call.program cfg .async serve c := by
  have hkept := h.kept
  rw [Call.program_eq] at hkept
  rw [Call.program_eq, Call.program_eq]
  refine Program.bind_congr (login_eq h.fresh) fun _ hok => ?_
  rw [login_eq h.fresh] at hok ⊢
  refine body_eq fun e he => hkept e ?_
  rw [Program.bind_of_ok hok]
  exact List.mem_append_right _ he

/-- A call shows the same on both clients exactly if its session is. -/
theorem observe_eq_iff {cfg : SessionConfig} {serve : Server (Sent J) (Answer J)}
    {c : Session J} {call : Call} :
    observe (call.program cfg .sync serve c) = observe (call.program cfg .async serve c) ↔
      SameSession cfg serve c call := by
  refine ⟨fun h => ?_, fun h => congrArg observe (program_eq_of_sameSession h)⟩
  have hfresh : cfg.spec.scheme = .xmlApi → c.loggedIn = false →
      dropStale c.cookies = c.cookies := by
    intro hscheme hlogged
    have hfirst : ∀ kind : ClientKind, firstCookies (call.program cfg kind serve c).sent =
        firstCookies (kind.login cfg serve c).sent := by
      intro kind
      have hlogin := firstCookies_login hscheme kind serve c
      rw [Call.program_eq, hlogin]
      refine firstCookies_of_prefix (Program.sent_prefix_bind _ _ serve c) ?_
      rw [ensureLogin_of_not hlogged, hlogin]
    have hsame : firstCookies (call.program cfg .sync serve c).sent =
        firstCookies (call.program cfg .async serve c).sent := by
      have hhead := congrArg (fun l => (List.head? l).map Prod.snd) (Prod.mk.inj h).1
      simpa only [firstCookies, List.head?_map, Option.map_map, Function.comp_def] using hhead
    rw [hfirst, hfirst, firstCookies_login hscheme, firstCookies_login hscheme] at hsame
    exact Option.some.inj hsame
  refine ⟨hfresh, fun e he hlost => ?_⟩
  rw [Call.program_eq, Call.program_eq] at h
  rw [Call.program_eq] at he
  have hlogin := within_ensureLogin (within_login (J := J) cfg .async) serve c
  have hnone : ∀ e ∈ (ensureLogin (ClientKind.login cfg .async) serve c).sent,
      ¬ LostAnswer cfg call e := by
    rintro e he ⟨_, hdata, _⟩
    have hreads := List.countP_eq_zero.mp (Nat.le_zero.mp hlogin.reads) e he
    have hwrites := List.countP_eq_zero.mp (Nat.le_zero.mp hlogin.writes) e he
    exact hdata.elim hreads hwrites
  cases hok : (ensureLogin (ClientKind.login cfg .async) serve c).result with
  | error x =>
    rw [Program.bind_of_error hok] at he
    exact hnone e he hlost
  | ok u =>
    rw [Program.bind_of_ok hok] at he
    rcases List.mem_append.mp he with he | he
    · exact hnone e he hlost
    · refine kept_of_observe_body ?_ e he hlost
      rw [Program.bind_of_ok (login_eq hfresh ▸ hok), Program.bind_of_ok hok,
        login_eq hfresh] at h
      obtain ⟨hsent, hresult⟩ := Prod.mk.inj h
      rw [List.map_append, List.map_append] at hsent
      exact Prod.ext (List.append_cancel_left hsent) hresult

/-! ## §5 Every run -/

/-- Every call of the run finds a session that is the same on both clients. -/
def RunSameSession (cfg : SessionConfig) (serve : Server (Sent J) (Answer J)) (c : Session J) :
    List Call → Prop
  | [] => True
  | call :: calls =>
    SameSession cfg serve c call ∧
    RunSameSession cfg (serve.after (call.program cfg .async serve c).sent)
      (call.program cfg .async serve c).client calls

/-- **Twin clients.**  From any session and against any server, the two clients send the same
requests with the same cookies and every call comes to the same text or exception, exactly in the
runs in which no login of the XML API starts over the cookies of a dead session and no answer to
a read or an XML write says that the session is lost. -/
theorem observe_turns_eq_iff (cfg : SessionConfig) (serve : Server (Sent J) (Answer J))
    (c : Session J) (calls : List Call) :
    (turns serve c (calls.map (Call.program cfg .sync))).map observe =
        (turns serve c (calls.map (Call.program cfg .async))).map observe ↔
      RunSameSession cfg serve c calls := by
  induction calls generalizing serve c with
  | nil => exact iff_of_true rfl trivial
  | cons call calls ih =>
    rw [List.map_cons, List.map_cons, turns, turns, List.map_cons, List.map_cons,
      List.cons_eq_cons]
    constructor
    · rintro ⟨hcall, hrest⟩
      have hsame := observe_eq_iff.mp hcall
      rw [program_eq_of_sameSession hsame] at hrest
      exact ⟨hsame, (ih _ _).mp hrest⟩
    · rintro ⟨hsame, hrest⟩
      rw [program_eq_of_sameSession hsame]
      exact ⟨rfl, (ih _ _).mpr hrest⟩

/-- A session on a GS728TPP. -/
def gs728tppConfig : SessionConfig where
  host := "10.0.0.1".toList
  password := "pw".toList
  spec := (httpSpec .gs728tpp).get isSome_httpSpec_gs728tpp

/-- What the switch answers once a session has expired. -/
def unauthenticated : Text :=
  "<ResponseData><ActionStatus><statusCode>4</statusCode></ActionStatus></ResponseData>".toList

def ports : Text := "<DeviceConfiguration/>".toList

/-- A switch that forgets its first session before the first read. -/
def forgetfulServer : Server (Sent (PyDict Text Text)) (Answer (PyDict Text Text)) := fun requests =>
  let cookies := (requests.getLast?.map Sent.cookies).getD ∅
  let answer (text location sessionId : Text) : Answer (PyDict Text Text) :=
    ⟨.response { status := 200, text := text, location := location, sessionId := sessionId },
      cookies⟩
  match requests.getLast?.map Sent.purpose with
  | some .loginPage => answer [] "/cs5f/".toList []
  | some .loginSubmit => answer "<statusCode>0</statusCode>".toList [] "s1".toList
  | _ =>
    if (requests.countP fun q => q.purpose = .read) = 1 then answer unauthenticated [] []
    else answer ports [] []

/-- The synchronous client logs in again and returns the page; the asynchronous one returns the
answer that says its session is gone. -/
theorem expiredSession_observed :
    ((Call.getPage "wcd".toList).program gs728tppConfig .sync forgetfulServer Session.new).result =
      .ok ports ∧
    ((Call.getPage "wcd".toList).program gs728tppConfig .async forgetfulServer Session.new).result =
      .ok unauthenticated ∧
    (turns forgetfulServer Session.new
        ([.getPage "wcd".toList].map (Call.program gs728tppConfig .sync))).map observe ≠
      (turns forgetfulServer Session.new
        ([.getPage "wcd".toList].map (Call.program gs728tppConfig .async))).map observe := by
  decide

end NetgearSwitch.Http
